import Mathlib.Data.List.Perm.Basic
import Mathlib.Data.List.Dedup
import TableGateway.Clauses
import TableGateway.Backend.Call

/-!
# What a select yields

The clauses of a select are read in the usual way: the rows of its table are joined with others,
those that meet its condition are kept and grouped, the groups that meet the condition on groups
are kept, ordered and shown in the columns, equal ones are dropped if distinct ones are asked for,
and a page is cut out. An aggregate that is not grouped makes one group of all rows.

## Conventions

A `Sense` says what the texts in the clauses mean on one content of the database and with the bound
values in place. It is arbitrary, but the number of rows is what it is. The rows of a select may
come in any order that its ordering allows, so what it yields is a relation.

## Main results

* `Sense.Yields.length_eq`: how many rows a select yields does not depend on their order.
* `Sense.Yields.exists_group`: every row that a select yields shows a group of its rows.
* `Sense.Yields.eq_number`: a select of the number of rows yields how many were kept.
* `Sense.size_eq_kept_iff`, `Sense.separate_of_plain`: when a select yields as many rows as were
  kept.
-/

namespace TableGateway

/-- What the texts of a statement mean, on some content of the database. -/
structure Sense (ρ : Type) where
  /-- The rows of a table, in scope under a name. -/
  content : String → String → List ρ
  /-- A row of which nothing is known. -/
  unknown : ρ
  /-- Two rows side by side. -/
  beside : ρ → ρ → ρ
  /-- An expression on a group of rows. -/
  value : String → List ρ → Value
  /-- All columns of a group of rows. -/
  whole : List ρ → Record
  /-- Whether a condition is met by a group of rows. -/
  holds : String → List ρ → Bool
  equal : Value → Value → Bool
  less : Value → Value → Bool
  /-- Values that have one face are not told apart by grouping and where distinct rows are asked
  for. -/
  face : Value → Value
  /-- An expression that makes one group of all rows. -/
  aggregates : String → Bool
  /-- An expression in front of a select list that asks for distinct rows. -/
  distinct : String → Bool
  aggregates_count : aggregates "COUNT(*)" = true
  distinct_count : distinct "COUNT(*)" = false
  value_count : ∀ group, value "COUNT(*)" group = .integer (Int64.ofNat group.length)

namespace Sense

variable {ρ : Type} (sense : Sense ρ)

/-! ### Reading clauses -/

/-- Rows joined with those of one more table. -/
def join (lefts : List ρ) (j : JoinEntry) : List ρ :=
  let rights := sense.content j.table j.name
  let fits (l r : ρ) : Bool := j.pairs.all fun (a, b) =>
    sense.equal (sense.value a [sense.beside l r]) (sense.value b [sense.beside l r])
  let both := lefts.flatMap fun l => (rights.filter (fits l)).map (sense.beside l)
  let onlyLeft := (lefts.filter fun l => !rights.any (fits l)).map (sense.beside · sense.unknown)
  let onlyRight := (rights.filter fun r => !lefts.any (fits · r)).map (sense.beside sense.unknown)
  match j.kind with
  | .inner | .cross => both
  | .left => both ++ onlyLeft
  | .right => both ++ onlyRight
  | .full => both ++ onlyLeft ++ onlyRight

/-- The joined rows that meet the condition. -/
def kept (c : Clauses) : List ρ :=
  (c.joins.foldl sense.join (sense.content c.table c.table)).filter fun r =>
    c.filter.all (sense.holds · [r])

/-- Whether a select that is not grouped makes one group of all rows. -/
def isAggregated (c : Clauses) : Bool :=
  c.having.isSome || c.columns.any fun e => sense.aggregates e.expr

/-- The kept rows in groups: those that agree in the grouping columns, all in one, or each alone. -/
def groups (c : Clauses) : List (List ρ) :=
  if c.groupBy.isEmpty then
    if sense.isAggregated c then [sense.kept c] else (sense.kept c).map fun r => [r]
  else
    let key (r : ρ) : Record := c.groupBy.map fun e => sense.face (sense.value e [r])
    ((sense.kept c).map key).dedup.map fun k => (sense.kept c).filter fun r => decide (key r = k)

/-- The groups that meet the condition on groups. -/
def keptGroups (c : Clauses) : List (List ρ) :=
  (sense.groups c).filter fun group => c.having.all (sense.holds · group)

/-- A group in the columns of a select. -/
def shown (c : Clauses) (group : List ρ) : Record :=
  if c.columns.isEmpty then sense.whole group
  else c.columns.map fun e => sense.value e.expr group

/-- What of a shown group matters where distinct ones are asked for. -/
def faces (c : Clauses) (group : List ρ) : Record := (sense.shown c group).map sense.face

/-- Whether distinct rows are asked for. -/
def isDistinct (c : Clauses) : Bool := c.columns.head?.any fun e => sense.distinct e.expr

/-- The groups without those that would be shown as another one is. -/
def unlike (c : Clauses) (groups : List (List ρ)) : List (List ρ) :=
  if sense.isDistinct c then groups.pwFilter fun g h => sense.faces c g ≠ sense.faces c h
  else groups

/-- Whether a group may stand before another one. -/
def mayPrecede : List (String × Direction) → List ρ → List ρ → Bool
  | [], _, _ => true
  | (e, direction) :: rest, g, h =>
    let (a, b) := match direction with
      | .asc => (sense.value e g, sense.value e h)
      | .desc => (sense.value e h, sense.value e g)
    sense.less a b || !sense.less b a && mayPrecede rest g h

/-- The page of some rows. -/
def page {α : Type} (c : Clauses) (rows : List α) : List α :=
  let rest := rows.drop c.offset.toNat
  match c.limit with
  | some n => rest.take n.toNat
  | none => rest

/-- What a select may yield. -/
def Yields (c : Clauses) (rows : List Record) : Prop :=
  ∃ ordered : List (List ρ), ordered.Perm (sense.keptGroups c) ∧
    ordered.Pairwise (fun g h => sense.mayPrecede c.orderBy g h = true) ∧
    rows = page c ((sense.unlike c ordered).map (sense.shown c))

/-! ### How many rows there are -/

variable {sense} {c : Clauses}

/-- How many groups are shown before a page is cut out. -/
def size (sense : Sense ρ) (c : Clauses) : Nat :=
  if sense.isDistinct c then ((sense.keptGroups c).map (sense.faces c)).dedup.length
  else (sense.keptGroups c).length

/-- How many rows a page has of so many. -/
def pageSize (c : Clauses) (n : Nat) : Nat :=
  match c.limit with
  | some limit => min limit.toNat (n - c.offset.toNat)
  | none => n - c.offset.toNat

/-- A page. -/
theorem page_length {α : Type} (rows : List α) : (page c rows).length = pageSize c rows.length := by
  unfold page pageSize
  cases c.limit with
  | some n => rw [List.length_take, List.length_drop]
  | none => exact List.length_drop

/-- As many groups stay as there are faces. -/
theorem length_pwFilter (groups : List (List ρ)) :
    (groups.pwFilter fun g h => sense.faces c g ≠ sense.faces c h).length =
      (groups.map (sense.faces c)).dedup.length := by
  rw [List.dedup, List.pwFilter_map, List.length_map]

/-- The order does not matter for how many are unlike each other. -/
theorem length_unlike {ordered : List (List ρ)} (h : ordered.Perm (sense.keptGroups c)) :
    (sense.unlike c ordered).length = sense.size c := by
  unfold unlike size
  split_ifs
  · rw [length_pwFilter]
    exact (h.map _).dedup.length_eq
  · exact h.length_eq

/-- **How many rows a select yields.** -/
theorem Yields.length_eq {rows : List Record} (h : sense.Yields c rows) :
    rows.length = pageSize c (sense.size c) := by
  obtain ⟨ordered, hperm, -, rfl⟩ := h
  rw [page_length, List.length_map, length_unlike hperm]

/-- **Where the rows come from.** Every row that a select yields shows one of the groups that are
kept. -/
theorem Yields.exists_group {rows : List Record} (h : sense.Yields c rows) {raw : Record}
    (hraw : raw ∈ rows) : ∃ group ∈ sense.keptGroups c, raw = sense.shown c group := by
  obtain ⟨ordered, hperm, -, rfl⟩ := h
  have hpage : ∀ all : List Record, ∀ raw ∈ page c all, raw ∈ all := fun all raw hmem => by
    unfold page at hmem
    cases hlimit : c.limit with
    | none =>
        rw [hlimit] at hmem
        exact List.mem_of_mem_drop hmem
    | some n =>
        rw [hlimit] at hmem
        exact List.mem_of_mem_drop (List.mem_of_mem_take hmem)
  obtain ⟨group, hgroup, rfl⟩ := List.mem_map.mp (hpage _ raw hraw)
  have hmem : group ∈ ordered := by
    unfold unlike at hgroup
    split_ifs at hgroup
    · exact List.pwFilter_subset _ hgroup
    · exact hgroup
  exact ⟨group, hperm.subset hmem, rfl⟩

/-- A page that leaves nothing out. -/
theorem pageSize_all (hlimit : c.limit = none) (hoffset : c.offset = 0) (n : Nat) :
    pageSize c n = n := by
  rw [pageSize, hlimit, hoffset]
  exact Nat.sub_zero n

/-- Without a condition on groups all of them are kept. -/
theorem keptGroups_eq (hhaving : c.having = none) : sense.keptGroups c = sense.groups c := by
  rw [keptGroups, hhaving]
  exact List.filter_eq_self.mpr fun _ _ => rfl

/-- Without grouping, the kept rows are one group or each of them is one. -/
theorem keptGroups_ungrouped (hgroup : c.groupBy = []) (hhaving : c.having = none) :
    sense.keptGroups c =
      if sense.isAggregated c then [sense.kept c] else (sense.kept c).map fun r => [r] := by
  rw [keptGroups_eq hhaving, groups, if_pos (by simp [hgroup])]

/-- **A select of the number of rows.** -/
theorem Yields.eq_number {name : String} {rows : List Record}
    (hcolumns : c.columns = [⟨"COUNT(*)", name⟩]) (hgroup : c.groupBy = [])
    (hhaving : c.having = none) (hlimit : c.limit = none) (hoffset : c.offset = 0)
    (h : sense.Yields c rows) : rows = [[.integer (Int64.ofNat (sense.kept c).length)]] := by
  obtain ⟨ordered, hperm, -, rfl⟩ := h
  have haggregated : sense.isAggregated c = true := by
    simp [isAggregated, hcolumns, sense.aggregates_count]
  have hdistinct : sense.isDistinct c = false := by
    simp [isDistinct, hcolumns, sense.distinct_count]
  have hgroups : sense.keptGroups c = [sense.kept c] := by
    rw [keptGroups_ungrouped hgroup hhaving, if_pos haggregated]
  rw [hgroups, List.perm_singleton] at hperm
  have hshown : sense.shown c (sense.kept c) = [.integer (Int64.ofNat (sense.kept c).length)] := by
    rw [shown, if_neg (by simp [hcolumns]), hcolumns, List.map_singleton, sense.value_count]
  rw [hperm, unlike, if_neg (by simp [hdistinct]), List.map_singleton, hshown, page, hlimit,
    hoffset]
  rfl

/-- A select of which nothing is grouped or paged yields one row for every kept one: if all of them
are one group, there is exactly one, and otherwise, if distinct rows are asked for, no two are shown
alike. -/
def Separate (sense : Sense ρ) (c : Clauses) : Prop :=
  if sense.isAggregated c then (sense.kept c).length = 1
  else sense.isDistinct c = true → ((sense.kept c).map fun r => sense.faces c [r]).Nodup

/-- **When as many rows are shown as were kept.** -/
theorem size_eq_kept_iff (hgroup : c.groupBy = []) (hhaving : c.having = none) :
    sense.size c = (sense.kept c).length ↔ sense.Separate c := by
  unfold Separate size
  rw [keptGroups_ungrouped hgroup hhaving]
  split_ifs with hdistinct haggregated haggregated
  · rw [List.map_singleton, List.dedup_eq_self.mpr (List.nodup_singleton _)]
    exact eq_comm
  · rw [List.map_map]
    have hlength : (sense.kept c).length =
        ((sense.kept c).map (sense.faces c ∘ fun r => [r])).length := (List.length_map _).symm
    rw [hlength, (List.dedup_sublist _).length_eq, List.dedup_eq_self]
    exact ⟨fun h _ => h, fun h => h hdistinct⟩
  · exact eq_comm
  · rw [List.length_map]
    exact iff_of_true rfl fun h => absurd h hdistinct

/-- Plain columns show every kept row. -/
theorem separate_of_plain (hhaving : c.having = none)
    (h : ∀ e ∈ c.columns, sense.aggregates e.expr = false ∧ sense.distinct e.expr = false) :
    sense.Separate c := by
  have haggregated : sense.isAggregated c = false := by
    rw [isAggregated, hhaving, Option.isSome_none, Bool.false_or, List.any_eq_false]
    exact fun e he => by simp [(h e he).1]
  have hdistinct : sense.isDistinct c = false := by
    cases hcolumns : c.columns with
    | nil => rw [isDistinct, hcolumns]; rfl
    | cons e rest => simpa [isDistinct, hcolumns] using (h e (by simp [hcolumns])).2
  rw [Separate, if_neg (by simp [haggregated])]
  exact fun hyes => absurd hyes (by simp [hdistinct])

/-- No more rows are shown than were kept, but for the one of an aggregate. -/
theorem size_le (hgroup : c.groupBy = []) (hhaving : c.having = none) :
    sense.size c ≤ max 1 (sense.kept c).length := by
  have hgroups : (sense.keptGroups c).length ≤ max 1 (sense.kept c).length := by
    rw [keptGroups_ungrouped hgroup hhaving]
    split_ifs
    · exact Nat.le_max_left _ _
    · rw [List.length_map]
      exact Nat.le_max_right _ _
  unfold size
  split_ifs
  · have hshown := (List.dedup_sublist ((sense.keptGroups c).map (sense.faces c))).length_le
    rw [List.length_map] at hshown
    exact Nat.le_trans hshown hgroups
  · exact hgroups

end Sense

end TableGateway
