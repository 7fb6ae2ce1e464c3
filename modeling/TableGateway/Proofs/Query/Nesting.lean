import TableGateway.Proofs.Query.Walk

/-!
# Nested selects

A request can hold selects in its conditions and assigned values, and these can hold more. This
module gives the two inductions that follow that nesting, says with which counters a walk meets a
nested select, and shows that a walk goes through a nested select as soon as it has announced it.

## Main results

* `Query.nested_induction`: a property holds of all requests if it passes from the selects nested
  in a request to the request.
* `Condition.induction`: induction on a condition alone.
* `Query.complete`: behind the announcement of a nested select stands its walk.
* `Meets.trans`: what a nested select meets is met by the request around it.
-/

namespace TableGateway

/-! ### Nested selects -/

section

variable {P : Query → Prop}

mutual

/-- If a property passes from nested selects to requests, it holds of the selects that are nested in
a request. -/
theorem Query.forall_nested (step : ∀ q : Query, (∀ r, .select r ∈ q.walk → P r) → P q) :
    ∀ q : Query, ∀ r, .select r ∈ q.walk → P r
  | ⟨_, .select, _, _, joins, filter, having, _, _, _, _⟩, r, h => by
      simp only [Query.walk, List.mem_append, List.mem_map, reduceCtorEq, and_false,
        exists_false, false_or] at h
      exact h.elim (forall_nested_filter step filter r) (forall_nested_filter step having r)
  | ⟨_, .insert, _, assignments, _, _, _, _, _, _, _⟩, r, h =>
      forall_nested_assignments step assignments r h
  | ⟨_, .update, _, assignments, _, filter, _, _, _, _, _⟩, r, h =>
      (List.mem_append.mp h).elim (forall_nested_assignments step assignments r)
        (forall_nested_filter step filter r)
  | ⟨_, .delete, _, _, _, filter, _, _, _, _, _⟩, r, h => forall_nested_filter step filter r h

/-- `Query.forall_nested` for assignments. -/
theorem forall_nested_assignments (step : ∀ q : Query, (∀ r, .select r ∈ q.walk → P r) → P q) :
    ∀ as : List (String × Assigned), ∀ r, .select r ∈ walkAssignments as → P r
  | [], _, h => by simp [walkAssignments] at h
  | entry :: rest, r, h =>
      (List.mem_append.mp h).elim (forall_nested_assignment step entry r)
        (forall_nested_assignments step rest r)

/-- `Query.forall_nested` for one assignment. -/
theorem forall_nested_assignment (step : ∀ q : Query, (∀ r, .select r ∈ q.walk → P r) → P q) :
    ∀ a : String × Assigned, ∀ r, .select r ∈ walkAssignment a → P r
  | (_, assigned), r, h => Assigned.forall_nested step assigned r h

/-- `Query.forall_nested` for an assigned value. -/
theorem Assigned.forall_nested (step : ∀ q : Query, (∀ r, .select r ∈ q.walk → P r) → P q) :
    ∀ a : Assigned, ∀ r, .select r ∈ a.walk → P r
  | .value _, _, h => by simp [Assigned.walk] at h
  | .subquery q, r, h => by
      rcases List.mem_cons.mp h with heq | h
      · rw [Met.select.inj heq]
        exact step q (Query.forall_nested step q)
      · exact Query.forall_nested step q r h

/-- `Query.forall_nested` for a condition that may be missing. -/
theorem forall_nested_filter (step : ∀ q : Query, (∀ r, .select r ∈ q.walk → P r) → P q) :
    ∀ f : Option Condition, ∀ r, .select r ∈ walkFilter f → P r
  | none, _, h => by simp [walkFilter] at h
  | some c, r, h => Condition.forall_nested step c r h

/-- `Query.forall_nested` for a condition. -/
theorem Condition.forall_nested (step : ∀ q : Query, (∀ r, .select r ∈ q.walk → P r) → P q) :
    ∀ c : Condition, ∀ r, .select r ∈ c.walk → P r
  | .leaf _ operand, r, h => Operand.forall_nested step operand r h
  | .conj left right, r, h =>
      (List.mem_append.mp h).elim (Condition.forall_nested step left r)
        (Condition.forall_nested step right r)
  | .disj left right, r, h =>
      (List.mem_append.mp h).elim (Condition.forall_nested step left r)
        (Condition.forall_nested step right r)

/-- `Query.forall_nested` for an operand. -/
theorem Operand.forall_nested (step : ∀ q : Query, (∀ r, .select r ∈ q.walk → P r) → P q) :
    ∀ o : Operand, ∀ r, .select r ∈ o.walk → P r
  | .scalar _, _, h => by simp [Operand.walk] at h
  | .list _, _, h => by simp [Operand.walk] at h
  | .null, _, h => by simp [Operand.walk] at h
  | .subquery q, r, h => by
      rcases List.mem_cons.mp h with heq | h
      · rw [Met.select.inj heq]
        exact step q (Query.forall_nested step q)
      · exact Query.forall_nested step q r h

end

/-- **Induction over nesting.** A property holds of all requests if it passes from the selects that
are nested in a request, at any depth, to the request. -/
@[elab_as_elim]
theorem Query.nested_induction (step : ∀ q : Query, (∀ r, .select r ∈ q.walk → P r) → P q)
    (q : Query) : P q :=
  step q (Query.forall_nested step q)

end

/-- Induction on a condition, whatever its leaves are compared with. -/
@[elab_as_elim]
theorem Condition.induction {P : Condition → Prop}
    (leaf : ∀ column operand, P (.leaf column operand))
    (conj : ∀ left right, P left → P right → P (.conj left right))
    (disj : ∀ left right, P left → P right → P (.disj left right)) : ∀ c, P c
  | .leaf column operand => leaf column operand
  | .conj left right =>
      conj left right (Condition.induction leaf conj disj left)
        (Condition.induction leaf conj disj right)
  | .disj left right =>
      disj left right (Condition.induction leaf conj disj left)
        (Condition.induction leaf conj disj right)

/-! ### Meeting a nested select -/

/-- A walk that began with the counters `t` meets the select `r` with the counters `u`. -/
def Meets (t : Tally) (w : List Met) (r : Query) (u : Tally) : Prop :=
  ∃ pre post, w = pre ++ .select r :: post ∧ u = t.after pre

namespace Meets

variable {t u : Tally} {v w : List Met} {q r : Query}

/-- The first thing on a walk is met with the first counters. -/
theorem head (t : Tally) (r : Query) (w : List Met) : Meets t (.select r :: w) r t :=
  ⟨[], w, rfl, rfl⟩

/-- What the first part of a walk meets. -/
theorem append_left (h : Meets t v r u) (w : List Met) : Meets t (v ++ w) r u := by
  obtain ⟨pre, post, rfl, rfl⟩ := h
  exact ⟨pre, post ++ w, by simp, rfl⟩

/-- What the second part of a walk meets. -/
theorem append_right (v : List Met) (h : Meets (t.after v) w r u) : Meets t (v ++ w) r u := by
  obtain ⟨pre, post, rfl, rfl⟩ := h
  exact ⟨v ++ pre, post, by simp, by simp⟩

/-- What a nested select meets right behind its announcement. -/
theorem tail (h : Meets t w r u) : Meets t (.select q :: w) r u := by
  refine append_right [.select q] ?_
  rwa [Tally.after_select]

/-- What is met stands on the walk. -/
theorem mem (h : Meets t w r u) : .select r ∈ w := by
  obtain ⟨pre, post, rfl, rfl⟩ := h
  simp

/-- What a walk in two parts meets is met by one of them. -/
theorem append_cases (h : Meets t (v ++ w) r u) : Meets t v r u ∨ Meets (t.after v) w r u := by
  obtain ⟨pre, post, heq, rfl⟩ := h
  rcases List.append_eq_append_iff.mp heq with ⟨as, hpre, hw⟩ | ⟨bs, hv, hw⟩
  · exact .inr ⟨as, post, hw, by rw [hpre, Tally.after_append]⟩
  · cases bs with
    | nil => exact .inr ⟨[], post, hw.symm, by rw [hv, List.append_nil, Tally.after_nil]⟩
    | cons b bs =>
        obtain ⟨rfl, -⟩ := List.cons.inj hw
        exact .inl ⟨pre, bs, hv, rfl⟩

/-- What is met from the announcement of a nested select on is the select or met by it. -/
theorem select_cases (h : Meets t (.select q :: q.walk) r u) :
    r = q ∧ u = t ∨ Meets t q.walk r u := by
  obtain ⟨pre, post, heq, rfl⟩ := h
  cases pre with
  | nil => exact .inl ⟨(Met.select.inj (List.cons.inj heq).1).symm, rfl⟩
  | cons x pre =>
      obtain ⟨rfl, hq⟩ := List.cons.inj heq
      exact .inr ⟨pre, post, hq, Tally.after_select _ _ _⟩

/-- Joins nest nothing. -/
theorem not_joins {joins : List Join} : ¬ Meets t (joins.map .join) r u := fun h => by
  simpa using h.mem

end Meets

/-- A walk on which every nested select is walked right behind its announcement. -/
def Complete (w : List Met) : Prop :=
  ∀ pre r post, w = pre ++ .select r :: post → r.walk <+: post

namespace Complete

/-- A walk that meets no select. -/
theorem of_none {w : List Met} (h : ∀ r, .select r ∉ w) : Complete w := by
  rintro pre r post rfl
  exact absurd (by simp) (h r)

/-- A walk in two complete parts. -/
theorem append {v w : List Met} (hv : Complete v) (hw : Complete w) : Complete (v ++ w) := by
  intro pre r post h
  rcases List.append_eq_append_iff.mp h with ⟨as, -, hw'⟩ | ⟨bs, hv', hw'⟩
  · exact hw as r post hw'
  · cases bs with
    | nil => exact hw [] r post hw'.symm
    | cons b bs =>
        obtain ⟨rfl, rfl⟩ := List.cons.inj hw'
        exact (hv pre r bs hv').trans (List.prefix_append bs w)

/-- A nested select and its walk. -/
theorem select {q : Query} (h : Complete q.walk) : Complete (.select q :: q.walk) := by
  intro pre r post heq
  cases pre with
  | nil =>
      obtain ⟨hq, rfl⟩ := List.cons.inj heq
      exact Met.select.inj hq ▸ List.prefix_rfl
  | cons b pre => exact h pre r post (List.cons.inj heq).2

end Complete

/-- The walk of a condition is complete if those of its nested selects are. -/
theorem Condition.complete {c : Condition} (h : ∀ r, .select r ∈ c.walk → Complete r.walk) :
    Complete c.walk := by
  induction c using Condition.induction with
  | leaf column operand =>
      cases operand with
      | scalar v | list vs | null => exact .of_none (by simp [Condition.walk, Operand.walk])
      | subquery q => exact .select (h q (List.mem_cons_self ..))
  | conj left right ihl ihr | disj left right ihl ihr =>
      exact (ihl fun r hr => h r (List.mem_append_left _ hr)).append
        (ihr fun r hr => h r (List.mem_append_right _ hr))

/-- The same for a condition that may be missing. -/
theorem complete_walkFilter {f : Option Condition}
    (h : ∀ r, .select r ∈ walkFilter f → Complete r.walk) : Complete (walkFilter f) := by
  cases f with
  | none => exact .of_none (by simp [walkFilter])
  | some c => exact Condition.complete h

/-- The same for assignments. -/
theorem complete_walkAssignments {as : List (String × Assigned)}
    (h : ∀ r, .select r ∈ walkAssignments as → Complete r.walk) :
    Complete (walkAssignments as) := by
  induction as with
  | nil => exact .of_none (by simp [walkAssignments])
  | cons entry rest ih =>
      obtain ⟨column, assigned⟩ := entry
      refine Complete.append ?_ (ih fun r hr => h r (List.mem_append_right _ hr))
      cases assigned with
      | value v => exact .of_none (by simp [walkAssignment, Assigned.walk])
      | subquery q => exact .select (h q (List.mem_cons_self ..))

/-- Behind the announcement of a nested select stands its walk. -/
theorem Query.complete (q : Query) : Complete q.walk := by
  induction q using Query.nested_induction with
  | step q ih =>
      obtain ⟨table, action, projection, assignments, joins, filter, having, groupBy, orderBy,
        limit, offset⟩ := q
      cases action with
      | select =>
          have hjoins : Complete (joins.map .join) := .of_none (by simp)
          have hfilter := complete_walkFilter fun r hr =>
            ih r (List.mem_append_right _ (List.mem_append_left _ hr))
          have hhaving := complete_walkFilter fun r hr =>
            ih r (List.mem_append_right _ (List.mem_append_right _ hr))
          exact hjoins.append (hfilter.append hhaving)
      | insert => exact complete_walkAssignments ih
      | update =>
          exact (complete_walkAssignments fun r hr => ih r (List.mem_append_left _ hr)).append
            (complete_walkFilter fun r hr => ih r (List.mem_append_right _ hr))
      | delete => exact complete_walkFilter ih

/-- The walk of a nested select is part of the walk around it. -/
theorem Query.mem_walk_of_nested {q r : Query} (hr : .select r ∈ q.walk) {x : Met}
    (hx : x ∈ r.walk) : x ∈ q.walk := by
  obtain ⟨pre, post, hq⟩ := List.append_of_mem hr
  obtain ⟨rest, rfl⟩ := q.complete pre r post hq
  simp [hq, hx]

/-- What a nested select meets is met by the request around it. -/
theorem Meets.trans {s t u : Tally} {q r p : Query} (hr : Meets s q.walk r t)
    (hp : Meets t r.walk p u) : Meets s q.walk p u := by
  obtain ⟨pre, post, hq, rfl⟩ := hr
  obtain ⟨rest, rfl⟩ := q.complete pre r post hq
  rw [hq]
  exact .append_right pre (.tail (hp.append_left rest))

end TableGateway
