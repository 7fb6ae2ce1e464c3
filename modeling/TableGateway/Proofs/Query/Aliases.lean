import Mathlib.Data.List.Nodup
import TableGateway.Engine.Grammar
import TableGateway.Proofs.Query.Capture

/-!
# Aliases and the names of tables

The tables that a select joins get the aliases `j1`, `j2`, … of the whole statement, while its own
table is read under its own name. Nothing keeps a table from being called like an alias. This module
says exactly when an alias is the name of a table that the select itself, a request around it or a
select nested in it reads, and when both sides of every pair of joined columns name one source each.

## Name convention

How names are compared is left open: `key` is what counts of a name, and all that is asked of it is
that it keeps the aliases apart. So the statements hold of names letter by letter, where `key` is
the identity, and of names in either case, where it is `Engine.Reading.fold`.

## Main results

* `Query.readUnder_table`, `Query.readUnder_alias`: how many sources a name stands for.
* `Query.apart_exact`: when aliases are apart from the names of tables.
* `Query.namesake_ambiguous`: a table that is called like the alias of a table joined to it.
-/

namespace TableGateway

open TableGateway.Numbering

namespace Query

/-! ### Sources -/

/-- The joins of a request that is met with the counters `u`, as they are written: every pair
compares a column of the alias with a column that is qualified by the request's table, unless it is
qualified already. -/
def joined (r : Query) (u : Tally) : List JoinEntry :=
  namedJoins r.table.name u.aliases r.writtenJoins

/-- The names under which a request reads tables. -/
def sources (r : Query) (u : Tally) : List String :=
  r.table.name :: (r.joined u).map JoinEntry.name

/-- The requests `r` and `p` are written on the way to `q`, and they are the same or one of them is
nested in the other. -/
structure Beside (q r : Query) (u : Tally) (p : Query) (v : Tally) : Prop where
  left : Writes .start q r u
  right : Writes .start q p v
  nested : Writes u r p v ∨ Writes v p r u

section

variable (key : String → String)

/-- How many tables a request reads under a name. -/
def readUnder (r : Query) (u : Tally) (name : String) : Nat :=
  (r.sources u).countP fun source => key source = key name

/-- A name is an alias of the joins of a request. -/
def Takes (r : Query) (u : Tally) (name : String) : Prop :=
  ∃ n, u.aliases < n ∧ n ≤ u.aliases + r.writtenJoins.length ∧ key name = key (aliasName n)

/-- No alias is the name of a table that the same request, one around it or one nested in it
reads. -/
def Apart (q : Query) : Prop :=
  ∀ r u p v, q.Beside r u p v → ∀ e ∈ r.joined u, key e.name ≠ key p.table.name

/-- The alias of every joined table and the name of the table it is joined to stand for one source
each. -/
def Unambiguous (q : Query) : Prop :=
  ∀ r u, Writes .start q r u → ∀ e ∈ r.joined u,
    r.readUnder key u e.name = 1 ∧ r.readUnder key u r.table.name = 1

end

variable {key : String → String} {q r p : Query} {u v : Tally}

/-- The aliases of a request are those of the next numbers. -/
theorem joined_names (r : Query) (u : Tally) :
    (r.joined u).map JoinEntry.name =
      (List.range' (u.aliases + 1) r.writtenJoins.length).map aliasName :=
  namedJoins_names r.table.name u.aliases r.writtenJoins

/-- The aliases of a request, one by one. -/
theorem mem_joined_names {name : String} :
    name ∈ (r.joined u).map JoinEntry.name ↔
      ∃ n, u.aliases < n ∧ n ≤ u.aliases + r.writtenJoins.length ∧ aliasName n = name := by
  rw [joined_names, List.mem_map]
  refine exists_congr fun n => ?_
  rw [List.mem_range'_1, ← and_assoc]
  refine and_congr_left fun _ => ?_
  omega

/-- A name is an alias of a request exactly if a joined table has it. -/
theorem takes_iff {name : String} :
    r.Takes key u name ↔ ∃ e ∈ r.joined u, key e.name = key name := by
  constructor
  · rintro ⟨n, hlt, hle, hname⟩
    obtain ⟨e, he, hother⟩ := List.mem_map.mp (mem_joined_names.mpr ⟨n, hlt, hle, rfl⟩)
    exact ⟨e, he, by rw [hother, hname]⟩
  · rintro ⟨e, he, hname⟩
    obtain ⟨n, hlt, hle, hother⟩ := mem_joined_names.mp (List.mem_map_of_mem he)
    exact ⟨n, hlt, hle, by rw [hother, hname]⟩

/-- The sources under a name are the request's own table, if it has the name, and the joined tables
with an alias that is the name. -/
theorem readUnder_eq (r : Query) (u : Tally) (name : String) :
    r.readUnder key u name =
      ((r.joined u).map fun e => key e.name).count (key name) +
        if key r.table.name = key name then 1 else 0 := by
  have hcount : ((r.joined u).map JoinEntry.name).countP (fun source => key source = key name) =
      ((r.joined u).map fun e => key e.name).count (key name) := by
    rw [List.count, List.countP_map, List.countP_map]
    rfl
  rw [readUnder, sources, List.countP_cons, hcount]
  simp only [decide_eq_true_eq]

/-- The aliases of a request have numbers up to that of all joins. -/
theorem Writes.aliases_le (h : Writes .start q r u) :
    u.aliases + r.writtenJoins.length ≤ q.walk.countP Met.isJoin := by
  obtain ⟨before, after, hall, hbefore⟩ := aliases_segment h
  have hown : (r.writtenJoins.map Met.join).countP Met.isJoin = r.writtenJoins.length := by
    rw [List.countP_map, List.countP_eq_length]
    exact fun _ _ => rfl
  have hlength := congrArg List.length hall
  simp only [List.length_append, aliasesFrom_length, hown, hbefore] at hlength
  omega

section

variable (hkey : ∀ m n, key (aliasName m) = key (aliasName n) → m = n)

include hkey

/-- The aliases of a request are distinct. -/
theorem joined_keys_nodup (r : Query) (u : Tally) :
    ((r.joined u).map fun e => key e.name).Nodup := by
  have hnames : (r.joined u).map (fun e => key e.name) =
      (List.range' (u.aliases + 1) r.writtenJoins.length).map fun n => key (aliasName n) := by
    have h := congrArg (List.map key) (joined_names r u)
    rwa [List.map_map, List.map_map] at h
  rw [hnames]
  exact List.Nodup.map (fun m n h => hkey m n h) (List.nodup_range' ..)

/-- **The alias of a joined table** stands for that table, and for the request's own one if that is
called alike. -/
theorem readUnder_alias {e : JoinEntry} (he : e ∈ r.joined u) :
    r.readUnder key u e.name = 1 + if key r.table.name = key e.name then 1 else 0 := by
  have hmem : key e.name ∈ (r.joined u).map fun e => key e.name := List.mem_map_of_mem he
  rw [readUnder_eq, List.count_eq_one_of_mem (joined_keys_nodup hkey r u) hmem]

/-- **The name of the request's own table** stands for that table, and for a joined one if it is an
alias. -/
theorem readUnder_table (r : Query) (u : Tally) :
    r.Takes key u r.table.name ∧ r.readUnder key u r.table.name = 2 ∨
      ¬ r.Takes key u r.table.name ∧ r.readUnder key u r.table.name = 1 := by
  rw [readUnder_eq, if_pos rfl]
  by_cases h : r.Takes key u r.table.name
  · obtain ⟨e, he, hname⟩ := takes_iff.mp h
    have hmem : key r.table.name ∈ (r.joined u).map fun e => key e.name :=
      hname ▸ List.mem_map_of_mem he
    exact .inl ⟨h, by rw [List.count_eq_one_of_mem (joined_keys_nodup hkey r u) hmem]⟩
  · have hnone : key r.table.name ∉ (r.joined u).map fun e => key e.name := by
      intro hmem
      obtain ⟨e, he, hname⟩ := List.mem_map.mp hmem
      exact h (takes_iff.mpr ⟨e, he, hname⟩)
    exact .inr ⟨h, by rw [List.count_eq_zero_of_not_mem hnone]⟩

end

/-! ### Apart -/

/-- Aliases are apart from the names of tables exactly if no request takes a name that is read by
it, around it or in it. -/
theorem apart_iff : q.Apart key ↔ ∀ r u p v, q.Beside r u p v → ¬ r.Takes key u p.table.name := by
  refine forall_congr' fun r => forall_congr' fun u => forall_congr' fun p => forall_congr' fun v =>
    forall_congr' fun _ => ?_
  rw [takes_iff]
  simp only [not_exists, not_and, ne_eq]

/-- Both sides of every pair of joined columns name one source exactly if no request takes the name
of its own table. -/
theorem unambiguous_iff (hkey : ∀ m n, key (aliasName m) = key (aliasName n) → m = n) :
    q.Unambiguous key ↔ ∀ r u, Writes .start q r u → ¬ r.Takes key u r.table.name := by
  constructor
  · intro h r u hr htakes
    obtain ⟨e, he, -⟩ := takes_iff.mp htakes
    rcases readUnder_table hkey r u with ⟨-, htwo⟩ | ⟨hnot, -⟩
    · have hone := (h r u hr e he).2
      omega
    · exact hnot htakes
  · intro h r u hr e he
    have hnot := h r u hr
    have hother : key r.table.name ≠ key e.name := by
      intro heq
      exact hnot (takes_iff.mpr ⟨e, he, heq.symm⟩)
    refine ⟨by rw [readUnder_alias hkey he, if_neg hother], ?_⟩
    rcases readUnder_table hkey r u with ⟨htakes, -⟩ | ⟨-, hone⟩
    · exact absurd htakes hnot
    · exact hone

/-- **Aliases and tables.** However names are compared, as long as that keeps the aliases apart, and
for any request, with any joins and nested selects, over tables of any names:

* its aliases differ from the names of all tables that the same request, one around it or one nested
  in it reads, exactly if none of these is called `j<n>` for a number `n` that the request takes;
* both sides of every pair of joined columns name exactly one source, exactly if no select that
  joins tables reads a table that is called like one of its own aliases, and otherwise they name
  two;
* so the first gives the second, and both hold where no table of the statement is called `j<n>` for
  a number up to that of all its joins.

What is said of joins and tables is so in the clauses of every request, in every dialect. -/
theorem apart_exact (hkey : ∀ m n, key (aliasName m) = key (aliasName n) → m = n) (q : Query) :
    (q.Apart key ↔ ∀ r u p v, q.Beside r u p v → ¬ r.Takes key u p.table.name) ∧
    (q.Unambiguous key ↔ ∀ r u, Writes .start q r u → ¬ r.Takes key u r.table.name) ∧
    (∀ (r : Query) (u : Tally), r.Takes key u r.table.name →
      r.readUnder key u r.table.name = 2) ∧
    (q.Apart key → q.Unambiguous key) ∧
    ((∀ p v, Writes .start q p v → ∀ n, 0 < n → n ≤ q.walk.countP Met.isJoin →
      key p.table.name ≠ key (aliasName n)) → q.Apart key) ∧
    ∀ (d : Dialect) (r : Query) (u : Tally) (c : Clauses),
      r.clauses d (Query.text d) u = .ok c → c.table = r.table.name ∧ c.joins = r.joined u := by
  refine ⟨apart_iff, unambiguous_iff hkey, fun r u htakes => ?_, fun h => ?_, fun h => ?_,
    fun d r u c hc => ⟨(clauses_head hc).2, clauses_joins hc⟩⟩
  · rcases readUnder_table hkey r u with ⟨-, htwo⟩ | ⟨hnot, -⟩
    · exact htwo
    · exact absurd htakes hnot
  · rw [unambiguous_iff hkey]
    intro r u hr
    exact apart_iff.mp h r u r u ⟨hr, hr, .inl (.inl ⟨rfl, rfl⟩)⟩
  · rw [apart_iff]
    rintro r u p v hbeside ⟨n, hlt, hle, hname⟩
    have hall := hbeside.left.aliases_le
    exact h p v hbeside.right n (by omega) (by omega) hname

/-- A digit has no upper case. -/
theorem toLower_of_isDigit {c : Char} (h : c.isDigit) : c.toLower = c := by
  simp only [Char.isDigit, Bool.and_eq_true, decide_eq_true_eq] at h
  have hcapital : ¬ (c.val ≥ 'A'.val ∧ c.val ≤ 'Z'.val) := by
    rintro ⟨hA, -⟩
    have hlt : '9'.val < 'A'.val := by decide
    exact absurd (UInt32.le_trans hA h.2) (UInt32.not_le.mpr hlt)
  exact dif_neg hcapital

/-- An alias is in lower case. -/
theorem fold_aliasName (n : Nat) : Engine.Reading.fold (aliasName n) = aliasName n := by
  have hdigits : ∀ c ∈ Nat.toDigits 10 n, c.toLower = c := fun c hc =>
    toLower_of_isDigit (isDigit_of_mem_digits hc)
  have hfirst : 'j'.toLower = 'j' := by decide
  rw [Engine.Reading.fold, toList_aliasName, List.map_cons, List.map_congr_left hdigits,
    List.map_id', hfirst, ← toList_aliasName, String.ofList_toList]

/-- Two aliases are never the same in either case. -/
theorem fold_aliasName_inj (m n : Nat)
    (h : Engine.Reading.fold (aliasName m) = Engine.Reading.fold (aliasName n)) : m = n := by
  rw [fold_aliasName, fold_aliasName] at h
  exact aliasName_inj.mp h

/-- A select that joins a table and holds another one that does is unambiguous in either case: the
tables are called by other names. -/
theorem apart_exact_sampleOuter :
    (∀ m n, Engine.Reading.fold (aliasName m) = Engine.Reading.fold (aliasName n) → m = n) ∧
      sampleOuter.Apart Engine.Reading.fold ∧ sampleOuter.Unambiguous Engine.Reading.fold := by
  obtain ⟨-, -, -, hunambiguous, hapart, -⟩ := apart_exact fold_aliasName_inj sampleOuter
  have hfree : sampleOuter.Apart Engine.Reading.fold := by
    refine hapart fun p v hp n hpos hle => ?_
    have hn : n = 1 ∨ n = 2 := by
      have hjoins : sampleOuter.walk.countP Met.isJoin = 2 := rfl
      omega
    have hp : p = sampleOuter ∨ p = sampleInner := by
      rcases hp with ⟨rfl, -⟩ | hmeets
      · exact .inl rfl
      · have hmem := hmeets.mem
        rw [sampleOuter_walk] at hmem
        exact .inr (by simpa using hmem)
    rcases hp with rfl | rfl <;> rcases hn with rfl | rfl <;> decide +kernel
  exact ⟨fold_aliasName_inj, hfree, hunambiguous hfree⟩

/-! ### A table that is called like an alias -/

/-- A select from a table with the name of the first alias, joined to another table. -/
def sampleNamesake : Query :=
  { Query.new (sampleTable "j1" "x") .select with joins := [sampleJoin "b" "y" "x"] }

/-- Both tables are read under one name, in both sides of the pair of joined columns. -/
theorem namesake_ambiguous :
    (sampleNamesake.statementIn Sqlite.dialect).map Statement.sql =
        .ok "SELECT j1.id AS id, j1.x AS x FROM j1 INNER JOIN b AS j1 ON j1.id = j1.x" ∧
      sampleNamesake.readUnder id .start "j1" = 2 ∧
      ¬ sampleNamesake.Apart id ∧ ¬ sampleNamesake.Unambiguous id := by
  have hself : Writes .start sampleNamesake sampleNamesake .start := .inl ⟨rfl, rfl⟩
  have hentry : (sampleJoin "b" "y" "x").entry "j1" "j1" ∈ sampleNamesake.joined .start :=
    List.mem_cons_self
  refine ⟨by decide +kernel, by decide +kernel, fun h => ?_, fun h => ?_⟩
  · exact h sampleNamesake .start sampleNamesake .start ⟨hself, hself, .inl (.inl ⟨rfl, rfl⟩)⟩ _
      hentry rfl
  · exact absurd (h sampleNamesake .start hself _ hentry).2 (by decide +kernel)

end Query

end TableGateway
