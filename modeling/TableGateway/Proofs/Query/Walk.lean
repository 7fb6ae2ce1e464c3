import TableGateway.Proofs.Query.Names
import TableGateway.Query.Statement

/-!
# The walk through a request

Compiling a request names its parameters and joined tables with one pair of counters. What the
names should be can be said without counters: list everything that is met on a walk through the
request, in order, and number the list. This module defines the walk, the reference bag of a walk
and the reference aliases of its joins, and shows that the names of a walk are pairwise distinct.

## Walk convention

A select is walked through its joins, its condition on rows and its condition on groups, an insert
through its assignments, an update through its assignments and its condition on rows, and a delete
through its condition on rows. Conditions are walked from left to right, and a nested select is
announced by `Met.select` and then walked at its position. A value on its own and a list take one
number each, also the empty list; a test for null takes none. `Tally.after` says where the counters
of a compilation stand after a walk.

## Main results

* `bindingsFrom_append`, `aliasesFrom_append`: names of a walk in two parts.
* `bindingsFrom_names_nodup`, `aliasesFrom_names_nodup`: the names of a walk are pairwise distinct.
* `bag`: the bag of a walk, and `bag_merge`, `bag_bind`, `bindElements_eq_ok`: collecting the bag of
  a walk part by part never fails.
-/

namespace TableGateway

open TableGateway.Numbering

/-- What is met on a walk through a request. -/
inductive Met where
  /-- A joined table. -/
  | join (j : Join)
  /-- A value on its own. -/
  | value (v : Value)
  /-- The values of a list. -/
  | list (vs : List Value)
  /-- A nested select, which is walked next. -/
  | select (q : Query)

namespace Met

/-- Whether it takes a number of a parameter. -/
def isNumbered : Met → Bool
  | value _ | list _ => true
  | _ => false

/-- Whether it takes an alias. -/
def isJoin : Met → Bool
  | join _ => true
  | _ => false

end Met

/-! ### Walks -/

mutual

/-- What is met in the clauses of a request that its action uses. -/
def Query.walk : Query → List Met
  | ⟨_, .select, _, _, joins, filter, having, _, _, _, _⟩ =>
    joins.map .join ++ (walkFilter filter ++ walkFilter having)
  | ⟨_, .insert, _, assignments, _, _, _, _, _, _, _⟩ => walkAssignments assignments
  | ⟨_, .update, _, assignments, _, filter, _, _, _, _, _⟩ =>
    walkAssignments assignments ++ walkFilter filter
  | ⟨_, .delete, _, _, _, filter, _, _, _, _, _⟩ => walkFilter filter

/-- What is met in assignments. -/
def walkAssignments : List (String × Assigned) → List Met
  | [] => []
  | entry :: rest => walkAssignment entry ++ walkAssignments rest

/-- What is met in one assignment. -/
def walkAssignment : String × Assigned → List Met
  | (_, assigned) => assigned.walk

/-- What is met in an assigned value. -/
def Assigned.walk : Assigned → List Met
  | .value v => [.value v]
  | .subquery q => .select q :: q.walk

/-- What is met in a condition, if there is one. -/
def walkFilter : Option Condition → List Met
  | none => []
  | some c => c.walk

/-- What is met in a condition. -/
def Condition.walk : Condition → List Met
  | .leaf _ operand => operand.walk
  | .conj left right => left.walk ++ right.walk
  | .disj left right => left.walk ++ right.walk

/-- What is met in an operand. -/
def Operand.walk : Operand → List Met
  | .scalar v => [.value v]
  | .list vs => [.list vs]
  | .null => []
  | .subquery q => .select q :: q.walk

end

/-- Neither the select list nor the ordering is walked, so a request that is counted is walked as it
is. -/
theorem Query.walk_counted (q : Query) (projection : Option Projection) :
    walk { q with orderBy := [], projection := projection } = q.walk := by
  obtain ⟨table, action, _, assignments, joins, filter, having, groupBy, orderBy, limit,
    offset⟩ := q
  cases action <;> rfl

/-! ### Counters -/

/-- The counters after a walk that began with the counters `t`. -/
def Tally.after (t : Tally) (w : List Met) : Tally :=
  ⟨t.params + w.countP Met.isNumbered, t.aliases + w.countP Met.isJoin⟩

namespace Tally

/-- The number of the last parameter after a walk. -/
theorem after_params (t : Tally) (w : List Met) :
    (t.after w).params = t.params + w.countP Met.isNumbered := rfl

/-- The number of the last joined table after a walk. -/
theorem after_aliases (t : Tally) (w : List Met) :
    (t.after w).aliases = t.aliases + w.countP Met.isJoin := rfl

/-- A walk that meets nothing names nothing. -/
@[simp] theorem after_nil (t : Tally) : t.after [] = t := rfl

/-- A walk in two parts goes on with the counters of its first part. -/
@[simp] theorem after_append (t : Tally) (v w : List Met) :
    t.after (v ++ w) = (t.after v).after w := by
  simp only [after, List.countP_append, Nat.add_assoc]

/-- A value takes one number. -/
@[simp] theorem after_value (t : Tally) (v : Value) (w : List Met) :
    t.after (.value v :: w) = Tally.after ⟨t.params + 1, t.aliases⟩ w := by
  simp [after, List.countP_cons, Met.isNumbered, Met.isJoin, Nat.add_comm, Nat.add_left_comm]

/-- A list takes one number, whatever its length. -/
@[simp] theorem after_list (t : Tally) (vs : List Value) (w : List Met) :
    t.after (.list vs :: w) = Tally.after ⟨t.params + 1, t.aliases⟩ w := by
  simp [after, List.countP_cons, Met.isNumbered, Met.isJoin, Nat.add_comm, Nat.add_left_comm]

/-- A joined table takes one alias. -/
@[simp] theorem after_join (t : Tally) (j : Join) (w : List Met) :
    t.after (.join j :: w) = Tally.after ⟨t.params, t.aliases + 1⟩ w := by
  simp [after, List.countP_cons, Met.isNumbered, Met.isJoin, Nat.add_comm, Nat.add_left_comm]

/-- Announcing a nested select names nothing. -/
@[simp] theorem after_select (t : Tally) (q : Query) (w : List Met) :
    t.after (.select q :: w) = t.after w := by
  simp [after, Met.isNumbered, Met.isJoin]

end Tally

/-! ### Reference names -/

/-- The bindings of a walk whose first parameter has the number `k + 1`. -/
def bindingsFrom (k : Nat) : List Met → List (String × Value)
  | [] => []
  | .value v :: rest => (paramName (k + 1), v) :: bindingsFrom (k + 1) rest
  | .list vs :: rest =>
    (vs.zipIdx.map fun (v, i) => (elementName (k + 1) i, v)) ++ bindingsFrom (k + 1) rest
  | .join _ :: rest | .select _ :: rest => bindingsFrom k rest

/-- The joins of a walk whose first join has the number `m + 1`, each under its alias. -/
def aliasesFrom (m : Nat) : List Met → List (String × Join)
  | [] => []
  | .join j :: rest => (aliasName (m + 1), j) :: aliasesFrom (m + 1) rest
  | .value _ :: rest | .list _ :: rest | .select _ :: rest => aliasesFrom m rest

/-- The second part of a walk is numbered on from the first. -/
theorem bindingsFrom_append (k : Nat) (v w : List Met) :
    bindingsFrom k (v ++ w) =
      bindingsFrom k v ++ bindingsFrom (k + v.countP Met.isNumbered) w := by
  induction v generalizing k with
  | nil => simp [bindingsFrom]
  | cons m v ih =>
      cases m <;>
        simp [bindingsFrom, ih, List.countP_cons, Met.isNumbered, Nat.add_comm,
          Nat.add_left_comm]

/-- The joins of the second part of a walk are numbered on from the first. -/
theorem aliasesFrom_append (m : Nat) (v w : List Met) :
    aliasesFrom m (v ++ w) = aliasesFrom m v ++ aliasesFrom (m + v.countP Met.isJoin) w := by
  induction v generalizing m with
  | nil => simp [aliasesFrom]
  | cons x v ih =>
      cases x <;>
        simp [aliasesFrom, ih, List.countP_cons, Met.isJoin, Nat.add_comm, Nat.add_left_comm]

/-- Joins bind nothing. -/
theorem bindingsFrom_joins (k : Nat) (joins : List Join) :
    bindingsFrom k (joins.map .join) = [] := by
  induction joins with
  | nil => rfl
  | cons j joins ih => rw [List.map_cons, bindingsFrom, ih]

/-- Every name of a walk belongs to a number that the walk takes. -/
theorem exists_number_of_mem_bindingsFrom {k : Nat} {w : List Met} {name : String}
    (h : name ∈ (bindingsFrom k w).map Prod.fst) :
    ∃ n, k < n ∧ n ≤ k + w.countP Met.isNumbered ∧ IsNameOf n name := by
  induction w generalizing k with
  | nil => simp [bindingsFrom] at h
  | cons m w ih =>
      cases m with
      | join j | select q =>
          obtain ⟨n, hk, hn, hname⟩ := ih (by simpa only [bindingsFrom] using h)
          exact ⟨n, hk, by simpa [List.countP_cons, Met.isNumbered] using hn, hname⟩
      | value v =>
          simp only [bindingsFrom, List.map_cons, List.mem_cons] at h
          rcases h with rfl | h
          · exact ⟨k + 1, by omega, by simp [List.countP_cons, Met.isNumbered], .inl rfl⟩
          · obtain ⟨n, hk, hn, hname⟩ := ih h
            exact ⟨n, by omega, by simp [List.countP_cons, Met.isNumbered]; omega, hname⟩
      | list vs =>
          simp only [bindingsFrom, List.map_append, List.map_map, List.mem_append] at h
          rcases h with h | h
          · obtain ⟨⟨v, i⟩, -, rfl⟩ := List.mem_map.mp h
            exact ⟨k + 1, by omega, by simp [List.countP_cons, Met.isNumbered], .inr ⟨i, rfl⟩⟩
          · obtain ⟨n, hk, hn, hname⟩ := ih h
            exact ⟨n, by omega, by simp [List.countP_cons, Met.isNumbered]; omega, hname⟩

/-- The names of the elements of one list are pairwise distinct. -/
theorem elementNames_nodup (n i : Nat) (vs : List Value) :
    ((vs.zipIdx i).map fun (_, j) => elementName n j).Nodup := by
  induction vs generalizing i with
  | nil => simp
  | cons v vs ih =>
      rw [List.zipIdx_cons, List.map_cons, List.nodup_cons]
      refine ⟨fun hmem => ?_, ih (i + 1)⟩
      obtain ⟨⟨u, j⟩, hj, hname⟩ := List.mem_map.mp hmem
      have hle : i + 1 ≤ j := (List.le_snd_of_mem_zipIdx hj)
      have heq : j = i := (elementName_inj.mp hname).2
      omega

/-- The names of a walk are pairwise distinct: they belong to different numbers, and within one
list to different positions. -/
theorem bindingsFrom_names_nodup (k : Nat) (w : List Met) :
    ((bindingsFrom k w).map Prod.fst).Nodup := by
  induction w generalizing k with
  | nil => simp [bindingsFrom]
  | cons m w ih =>
      cases m with
      | join j | select q => simpa only [bindingsFrom] using ih k
      | value v =>
          simp only [bindingsFrom, List.map_cons, List.nodup_cons]
          refine ⟨fun hmem => ?_, ih (k + 1)⟩
          obtain ⟨n, hk, -, hname⟩ := exists_number_of_mem_bindingsFrom hmem
          have heq : n = k + 1 := hname.unique (.inl rfl)
          omega
      | list vs =>
          simp only [bindingsFrom, List.map_append, List.map_map]
          refine List.nodup_append.mpr ⟨elementNames_nodup (k + 1) 0 vs, ih (k + 1), ?_⟩
          rintro a ha b hb rfl
          obtain ⟨⟨v, i⟩, -, rfl⟩ := List.mem_map.mp ha
          obtain ⟨n, hk, -, hname⟩ := exists_number_of_mem_bindingsFrom hb
          have heq : n = k + 1 := hname.unique (.inr ⟨i, rfl⟩)
          omega

/-- Every alias of a walk has a number above the first counter. -/
theorem exists_alias_of_mem_aliasesFrom {m : Nat} {w : List Met} {name : String}
    (h : name ∈ (aliasesFrom m w).map Prod.fst) : ∃ n, m < n ∧ name = aliasName n := by
  induction w generalizing m with
  | nil => simp [aliasesFrom] at h
  | cons x w ih =>
      cases x with
      | value v | list vs | select q => exact ih (by simpa only [aliasesFrom] using h)
      | join j =>
          simp only [aliasesFrom, List.map_cons, List.mem_cons] at h
          rcases h with rfl | h
          · exact ⟨m + 1, by omega, rfl⟩
          · obtain ⟨n, hm, hname⟩ := ih h
            exact ⟨n, by omega, hname⟩

/-- The aliases of a walk are pairwise distinct. -/
theorem aliasesFrom_names_nodup (m : Nat) (w : List Met) :
    ((aliasesFrom m w).map Prod.fst).Nodup := by
  induction w generalizing m with
  | nil => simp [aliasesFrom]
  | cons x w ih =>
      cases x with
      | value v | list vs | select q => simpa only [aliasesFrom] using ih m
      | join j =>
          simp only [aliasesFrom, List.map_cons, List.nodup_cons]
          refine ⟨fun hmem => ?_, ih (m + 1)⟩
          obtain ⟨n, hm, hname⟩ := exists_alias_of_mem_aliasesFrom hmem
          have heq : m + 1 = n := aliasName_inj.mp hname
          omega

/-! ### Bags -/

namespace Params

/-- Bags with the same entries are the same. -/
theorem eq_of_entries {p q : Params} (h : p.entries = q.entries) : p = q := by
  obtain ⟨_, _⟩ := p
  obtain ⟨_, _⟩ := q
  congr

/-- Binding a value gives any bag that has one entry more: the names of that bag are distinct, so
the new name was free. -/
theorem bind_eq_ok {p r : Params} {name : String} {v : Value}
    (h : r.entries = p.entries ++ [(name, v)]) : p.bind name v = .ok r := by
  have hfree : name ∉ p.names := by
    have hd := r.distinct
    rw [h, List.map_append] at hd
    intro hmem
    exact (List.nodup_append.mp hd).2.2 name hmem name (by simp) rfl
  rw [bind, dif_neg hfree]
  exact congrArg Except.ok (eq_of_entries h.symm)

/-- Merging gives any bag that has the entries of both: its names are distinct, so none was
shared. -/
theorem merge_eq_ok {p q r : Params} (h : r.entries = p.entries ++ q.entries) :
    p.merge q = .ok r := by
  have hnone : p.shared? q = none := by
    have hd := r.distinct
    rw [h, List.map_append] at hd
    refine List.find?_eq_none.mpr fun name hq hp => ?_
    exact (List.nodup_append.mp hd).2.2 name (of_decide_eq_true hp) name hq rfl
  unfold merge
  split
  · next name hsome => rw [hnone] at hsome; exact absurd hsome (by simp)
  · exact congrArg Except.ok (eq_of_entries h.symm)

end Params

/-- The bag of a walk whose first parameter has the number `k + 1`. -/
def bag (k : Nat) (w : List Met) : Params := ⟨bindingsFrom k w, bindingsFrom_names_nodup k w⟩

/-- Joins bind nothing. -/
theorem bag_joins (k : Nat) (joins : List Join) : bag k (joins.map .join) = .empty :=
  Params.eq_of_entries (bindingsFrom_joins k joins)

/-- Merging the bags of two walks, of which one goes on where the other ends, never fails. -/
theorem bag_merge (t : Tally) (v w : List Met) :
    (bag t.params v).merge (bag (t.after v).params w) = .ok (bag t.params (v ++ w)) :=
  Params.merge_eq_ok (bindingsFrom_append t.params v w)

/-- A value that is met after a walk is bound under the next number. -/
theorem bag_bind (t : Tally) (w : List Met) (v : Value) :
    (bag t.params w).bind (paramName ((t.after w).params + 1)) v =
      .ok (bag t.params (w ++ [.value v])) :=
  Params.bind_eq_ok (bindingsFrom_append t.params w [.value v])

/-- The names that the elements of a list get under the number `n`, from position `i` on. -/
def elementNames (n i : Nat) (vs : List Value) : List String :=
  (vs.zipIdx i).map fun (_, j) => elementName n j

/-- Binding the elements of a list never fails where their names are free. -/
theorem bindElements_eq_ok {n i : Nat} {vs : List Value} {p r : Params}
    (h : r.entries = p.entries ++ (vs.zipIdx i).map fun (v, j) => (elementName n j, v)) :
    bindElements n i vs p = .ok (elementNames n i vs, r) := by
  induction vs generalizing i p with
  | nil =>
      have hpr : p = r := Params.eq_of_entries (by simpa using h.symm)
      rw [hpr]
      rfl
  | cons v vs ih =>
      have hsub : (p.entries ++ [(elementName n i, v)]) ++
          ((vs.zipIdx (i + 1)).map fun (v, j) => (elementName n j, v)) = r.entries := by
        simpa [List.zipIdx_cons] using h.symm
      have hd : ((p.entries ++ [(elementName n i, v)]).map Prod.fst).Nodup := by
        have hr := r.distinct
        rw [← hsub, List.map_append] at hr
        exact (List.nodup_append.mp hr).1
      have hbind : p.bind (elementName n i) v = .ok ⟨_, hd⟩ := Params.bind_eq_ok rfl
      simp only [bindElements, hbind, ih (p := ⟨_, hd⟩) hsub.symm, bind, Except.bind, pure,
        Except.pure]
      rfl

end TableGateway
