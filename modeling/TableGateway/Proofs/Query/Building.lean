import TableGateway.Proofs.Query.RoundTrip

/-!
# Requests built in another order

A caller may fill the clauses of a request in any order and may fill clauses that the action has no
use for. This module shows that neither shows: what becomes of a request depends, for every clause
that its action uses, on the steps that fill that clause, in their own order, and on nothing else.

## Clause convention

`Query.Slot` names the clauses that steps fill, and `Action.slots` those that an action uses. Of the
steps that fill a projection, a limit or an offset the last one counts, and several assignments at
once are the sequence of the single ones: `Query.counted` lists the steps that count for a clause.

What a nested select has no use for does not count either. `Query.prune` drops it, at every depth,
and `Step.prune` drops it from the selects in a step, so that step lists can be compared without it.

## Main results

* `Query.prune_lower`: a request is compiled like what its action uses of it.
* `Query.same_counted`: only the steps that count for a clause reach it.
* `Query.statementIn_built`: requests whose steps agree on the clauses that are used.
-/

namespace TableGateway

/-! ### Requests without what is not used -/

mutual

/-- What the action of a request uses of it, nested selects included. -/
def Query.prune : Query → Query
  | ⟨table, action, projection, assignments, joins, filter, having, groupBy, orderBy, limit,
      offset⟩ =>
    Query.trim ⟨table, action, projection, pruneAssignments assignments, joins, pruneFilter filter,
      pruneFilter having, groupBy, orderBy, limit, offset⟩

/-- Prunes the selects in assignments. -/
def pruneAssignments : List (String × Assigned) → List (String × Assigned)
  | [] => []
  | entry :: rest => pruneAssignment entry :: pruneAssignments rest

/-- Prunes the select in one assignment. -/
def pruneAssignment : String × Assigned → String × Assigned
  | (column, assigned) => (column, assigned.prune)

/-- Prunes the select that is assigned. -/
def Assigned.prune : Assigned → Assigned
  | .value v => .value v
  | .subquery q => .subquery q.prune

/-- Prunes the selects in a condition, if there is one. -/
def pruneFilter : Option Condition → Option Condition
  | none => none
  | some c => some c.prune

/-- Prunes the selects in a condition. -/
def Condition.prune : Condition → Condition
  | .leaf column operand => .leaf column operand.prune
  | .conj left right => .conj left.prune right.prune
  | .disj left right => .disj left.prune right.prune

/-- Prunes the select in an operand. -/
def Operand.prune : Operand → Operand
  | .scalar v => .scalar v
  | .list vs => .list vs
  | .null => .null
  | .subquery q => .subquery q.prune

end

/-- Assignments are pruned one by one. -/
theorem pruneAssignments_eq_map (as : List (String × Assigned)) :
    pruneAssignments as = as.map pruneAssignment := by
  induction as with
  | nil => rfl
  | cons entry rest ih => rw [pruneAssignments, ih, List.map_cons]

/-- The rest of a request does not reach its statement. -/
theorem Query.trim_lower (d : Dialect) (q : Query) : q.trim.lower d = q.lower d := by
  obtain ⟨table, action, projection, assignments, joins, filter, having, groupBy, orderBy, limit,
    offset⟩ := q
  cases action <;> simp only [Query.trim, Query.lower]

section

variable (d : Dialect)

mutual

/-- **Unused clauses.** A request is compiled like what its action uses of it, from any counters and
to the same counters. -/
theorem Query.prune_lower : ∀ q : Query, q.prune.lower d = q.lower d
  | ⟨table, action, projection, assignments, joins, filter, having, groupBy, orderBy, limit,
      offset⟩ => by
      have hset := pruneAssignments_lower assignments
      have hrows := pruneFilter_lower filter
      have hgroups := pruneFilter_lower having
      rw [Query.prune, Query.trim_lower]
      cases action <;> simp only [Query.lower, hset, hrows, hgroups]

/-- The same for assignments. -/
theorem pruneAssignments_lower : ∀ (as : List (String × Assigned)) (params : Params),
    lowerAssignments d (pruneAssignments as) params = lowerAssignments d as params
  | [], _ => rfl
  | entry :: rest, params => by
      have hone := pruneAssignment_lower entry
      have hrest := pruneAssignments_lower rest
      simp only [pruneAssignments, lowerAssignments, hone, hrest]

/-- The same for one assignment. -/
theorem pruneAssignment_lower : ∀ (entry : String × Assigned) (params : Params),
    lowerAssignment d (pruneAssignment entry) params = lowerAssignment d entry params
  | (_, assigned), params => by
      rw [pruneAssignment, lowerAssignment, lowerAssignment, Assigned.prune_lower assigned]

/-- The same for an assigned value. -/
theorem Assigned.prune_lower : ∀ (a : Assigned) (params : Params),
    a.prune.lower d params = a.lower d params
  | .value _, _ => rfl
  | .subquery q, _ => by
      rw [Assigned.prune, Assigned.lower, Assigned.lower, Query.prune_lower q]

/-- The same for a condition that may be missing. -/
theorem pruneFilter_lower : ∀ f : Option Condition,
    lowerFilter d (pruneFilter f) = lowerFilter d f
  | none => rfl
  | some c => by rw [pruneFilter, lowerFilter, lowerFilter, Condition.prune_lower c]

/-- The same for a condition. -/
theorem Condition.prune_lower : ∀ c : Condition, c.prune.lower d = c.lower d
  | .leaf column operand => by
      rw [Condition.prune, Condition.lower, Condition.lower, Operand.prune_lower operand]
  | .conj left right | .disj left right => by
      rw [Condition.prune, Condition.lower, Condition.lower, Condition.prune_lower left,
        Condition.prune_lower right]

/-- The same for an operand. -/
theorem Operand.prune_lower : ∀ (o : Operand) (column : String),
    o.prune.lower d column = o.lower d column
  | .scalar _, _ | .list _, _ | .null, _ => rfl
  | .subquery q, _ => by
      rw [Operand.prune, Operand.lower, Operand.lower, Query.prune_lower q]

end

end

/-! ### Steps and the clauses they fill -/

/-- A clause that steps fill. -/
inductive Query.Slot where
  | projection
  | assignments
  | joins
  | filter
  | having
  | groupBy
  | orderBy
  | limit
  | offset
  deriving DecidableEq, Repr

/-- The clauses that an action uses. -/
def Action.slots : Action → List Query.Slot
  | .select => [.projection, .joins, .filter, .groupBy, .having, .orderBy, .limit, .offset]
  | .insert => [.assignments]
  | .update => [.assignments, .filter]
  | .delete => [.filter]

namespace Query

/-- The clause that a step fills. -/
def Step.slot : Step → Slot
  | .columns _ => .projection
  | .set _ _ | .setAll _ => .assignments
  | .filter _ _ => .filter
  | .having _ _ => .having
  | .groupBy _ => .groupBy
  | .orderBy _ => .orderBy
  | .limit _ => .limit
  | .offset _ => .offset
  | .join _ _ _ => .joins

/-- The single steps of a step. -/
def Step.single : Step → List Step
  | .setAll entries => entries.map fun entry => .set entry.1 entry.2
  | s => [s]

/-- Whether only the last step counts. -/
def Slot.lastOnly : Slot → Bool
  | .projection | .limit | .offset => true
  | _ => false

/-- The steps that fill a clause. -/
def filling (c : Slot) (steps : List Step) : List Step :=
  (steps.flatMap Step.single).filter fun s => s.slot = c

/-- The steps that count for a clause. -/
def counted (c : Slot) (steps : List Step) : List Step :=
  if c.lastOnly then (filling c steps).getLast?.toList else filling c steps

/-- The request that some steps build. -/
def built (table : Table) (action : Action) (steps : List Step) : Query :=
  (new table action).applyAll steps

/-- Two requests are the same in a clause. -/
def Same (q q' : Query) : Slot → Prop
  | .projection => q.projection = q'.projection
  | .assignments => q.assignments = q'.assignments
  | .joins => q.joins = q'.joins
  | .filter => q.filter = q'.filter
  | .having => q.having = q'.having
  | .groupBy => q.groupBy = q'.groupBy
  | .orderBy => q.orderBy = q'.orderBy
  | .limit => q.limit = q'.limit
  | .offset => q.offset = q'.offset

variable {q q' q'' : Query} {c : Slot} {s : Step} {steps steps' : List Step}

namespace Same

/-- A request is the same as itself. -/
theorem refl (q : Query) (c : Slot) : q.Same q c := by
  cases c <;> rfl

/-- It does not matter which request comes first. -/
theorem symm (h : q.Same q' c) : q'.Same q c := by
  cases c <;> exact Eq.symm h

/-- Two requests that are the same as a third one. -/
theorem trans (h : q.Same q' c) (h' : q'.Same q'' c) : q.Same q'' c := by
  cases c <;> exact Eq.trans h h'

/-- A step leaves the other clauses alone. -/
theorem apply_left (h : q.Same q' c) (hs : s.slot ≠ c) : (q.apply s).Same q' c := by
  cases s <;> cases c <;> first | exact h | exact absurd rfl hs

/-- A step makes the same of the same clause. -/
theorem apply (h : q.Same q' c) (s : Step) : (q.apply s).Same (q'.apply s) c := by
  by_cases hs : s.slot = c
  · subst hs
    cases s <;> simp only [Same, Step.slot, Query.apply] at h ⊢ <;> rw [h]
  · -- A step of another clause leaves this one alone in both requests.
    exact ((h.apply_left hs).symm.apply_left hs).symm

end Same

/-- Where only the last step counts, a step wipes out what was there. -/
theorem same_apply_of_lastOnly (q q' : Query) (hs : s.slot.lastOnly = true) :
    (q.apply s).Same (q'.apply s) s.slot := by
  cases s with
  | columns p | limit n | offset n => rfl
  | set | setAll | filter | having | groupBy | orderBy | join => exact nomatch hs

/-- A step does what its single steps do. -/
theorem applyAll_single (q : Query) (s : Step) : q.applyAll s.single = q.apply s := by
  cases s with
  | setAll entries =>
      induction entries generalizing q with
      | nil =>
          rw [Query.apply, List.append_nil]
          cases q
          rfl
      | cons entry entries ih =>
          have hrest := ih (q.apply (.set entry.1 entry.2))
          simp only [Step.single, applyAll, List.map_cons, List.foldl_cons] at hrest ⊢
          rw [hrest]
          simp [Query.apply]
  | _ => rfl

/-- Steps do what their single steps do. -/
theorem applyAll_flatMap_single (q : Query) (steps : List Step) :
    q.applyAll (steps.flatMap Step.single) = q.applyAll steps := by
  induction steps generalizing q with
  | nil => rfl
  | cons s steps ih =>
      have hsplit : q.applyAll ((s :: steps).flatMap Step.single) =
          (q.applyAll s.single).applyAll (steps.flatMap Step.single) := by
        rw [List.flatMap_cons, applyAll, List.foldl_append]
        rfl
      rw [hsplit, applyAll_single, ih]
      rfl

/-- Steps that do not fill a clause can be left out. By induction over the steps. -/
theorem Same.filter (h : q.Same q' c) (steps : List Step) :
    (q.applyAll steps).Same (q'.applyAll (steps.filter fun s => s.slot = c)) c := by
  induction steps generalizing q q' with
  | nil => exact h
  | cons s steps ih =>
      by_cases hs : s.slot = c
      · rw [List.filter_cons_of_pos (by simpa using hs)]
        exact ih (h.apply s)
      · rw [List.filter_cons_of_neg (by simpa using hs)]
        exact ih (h.apply_left hs)

/-- Where only the last step counts, the steps before it can be left out. -/
theorem same_getLast (q : Query) (hc : c.lastOnly = true) (hsteps : ∀ s ∈ steps, s.slot = c) :
    (q.applyAll steps).Same (q.applyAll steps.getLast?.toList) c := by
  rcases List.eq_nil_or_concat steps with rfl | ⟨before, s, rfl⟩
  · exact .refl q c
  · have hs : s.slot = c := hsteps s (by simp)
    subst hs
    rw [List.concat_eq_append, List.getLast?_concat, applyAll, List.foldl_append]
    exact same_apply_of_lastOnly _ q hc

/-- **Only the steps that count for a clause** reach it. -/
theorem same_counted (q : Query) (c : Slot) (steps : List Step) :
    (q.applyAll steps).Same (q.applyAll (counted c steps)) c := by
  have hfilling : (q.applyAll steps).Same (q.applyAll (filling c steps)) c := by
    rw [← applyAll_flatMap_single]
    exact (Same.refl q c).filter _
  unfold counted
  split
  · next hc =>
      refine hfilling.trans (same_getLast q hc ?_)
      intro s hs
      simpa using (List.mem_filter.mp hs).2
  · exact hfilling

end Query

/-! ### Steps without what nested selects do not use -/

/-- Prunes the selects in a term of a condition. -/
def Filter.Term.prune : Filter.Term → Filter.Term
  | .pair column operand => .pair column operand.prune
  | .pairs entries => .pairs (entries.map fun entry => (entry.1, entry.2.prune))
  | .tree f => .tree (pruneFilter f)

/-- One leaf more. -/
theorem pruneFilter_push (f : Filter) (op : Connective) (column : String) (operand : Operand) :
    pruneFilter (f.push op column operand) =
      Filter.push (pruneFilter f) op column operand.prune := by
  cases f with
  | none => rfl
  | some root => cases op <;> rfl

/-- One term more. -/
theorem pruneFilter_add (f : Filter) (op : Connective) (term : Filter.Term) :
    pruneFilter (f.add op term) = Filter.add (pruneFilter f) op term.prune := by
  cases term with
  | pair column operand => exact pruneFilter_push f op column operand
  | pairs entries =>
      induction entries generalizing f with
      | nil => rfl
      | cons entry entries ih =>
          have hrest := ih (f.push op entry.1 entry.2)
          rw [pruneFilter_push] at hrest
          exact hrest
  | tree other =>
      cases f with
      | none => cases other <;> rfl
      | some root => cases other <;> cases op <;> rfl

namespace Query

/-- Prunes the selects in a step. -/
def Step.prune : Step → Step
  | .set column value => .set column value.prune
  | .setAll entries => .setAll (pruneAssignments entries)
  | .filter op term => .filter op term.prune
  | .having op term => .having op term.prune
  | s => s

/-- Prunes the selects that are nested in a request, but not the request. -/
def tidy (q : Query) : Query :=
  { q with
    assignments := pruneAssignments q.assignments
    filter := pruneFilter q.filter
    having := pruneFilter q.having }

variable {q q' : Query} {c : Slot} {steps steps' : List Step}

/-- A request is pruned from the inside. -/
theorem prune_eq (q : Query) : q.prune = q.tidy.trim := by
  obtain ⟨table, action, projection, assignments, joins, filter, having, groupBy, orderBy, limit,
    offset⟩ := q
  rw [prune, tidy]

/-- One step more. -/
theorem tidy_apply (q : Query) (s : Step) : (q.apply s).tidy = q.tidy.apply s.prune := by
  cases s with
  | set column value =>
      simp only [apply, tidy, Step.prune, pruneAssignments_eq_map, List.map_append]
      rfl
  | setAll entries =>
      simp only [apply, tidy, Step.prune, pruneAssignments_eq_map, List.map_append]
  | filter op term | having op term =>
      simp only [apply, tidy, Step.prune, pruneFilter_add]
  | _ => rfl

/-- The selects nested in a request are those nested in the steps that build it. -/
theorem tidy_built (table : Table) (action : Action) (steps : List Step) :
    (built table action steps).tidy = built table action (steps.map Step.prune) := by
  have hrun : ∀ q : Query, (q.applyAll steps).tidy = q.tidy.applyAll (steps.map Step.prune) := by
    induction steps with
    | nil => exact fun _ => rfl
    | cons s steps ih =>
        intro q
        rw [List.map_cons, applyAll, applyAll, List.foldl_cons, List.foldl_cons, ← tidy_apply]
        exact ih (q.apply s)
  exact hrun (new table action)

/-- Pruning keeps the clause of a step. -/
theorem Step.slot_prune (s : Step) : s.prune.slot = s.slot := by
  cases s <;> rfl

/-- Pruning and taking single steps can be swapped. -/
theorem Step.single_prune (s : Step) : s.prune.single = s.single.map Step.prune := by
  cases s with
  | setAll entries =>
      simp only [Step.prune, Step.single, pruneAssignments_eq_map, List.map_map]
      exact List.map_congr_left fun (_, _) _ => rfl
  | _ => rfl

/-- Pruning does not change which steps count. -/
theorem counted_prune (c : Slot) (steps : List Step) :
    counted c (steps.map Step.prune) = (counted c steps).map Step.prune := by
  have hfilling : filling c (steps.map Step.prune) = (filling c steps).map Step.prune := by
    simp only [filling, List.flatMap_map, Step.single_prune, ← List.map_flatMap, List.filter_map,
      Function.comp_def, Step.slot_prune]
  unfold counted
  split
  · rw [hfilling, List.getLast?_map, Option.toList_map]
  · exact hfilling

/-! ### Steps that agree -/

/-- For every clause that the action uses, the same steps count in both lists, in the same order,
but for what the selects nested in them do not use. -/
def Agree (action : Action) (steps steps' : List Step) : Prop :=
  ∀ c ∈ action.slots,
    (counted c steps).map Step.prune = (counted c steps').map Step.prune

/-- Requests with the same clauses, as far as the action uses them. -/
theorem trim_eq_of_same (htable : q.table = q'.table) (haction : q.action = q'.action)
    (h : ∀ c ∈ q.action.slots, q.Same q' c) : q.trim = q'.trim := by
  obtain ⟨table, action, projection, assignments, joins, filter, having, groupBy, orderBy, limit,
    offset⟩ := q
  obtain ⟨table', action', projection', assignments', joins', filter', having', groupBy', orderBy',
    limit', offset'⟩ := q'
  obtain rfl : table = table' := htable
  obtain rfl : action = action' := haction
  cases action <;>
    simp only [Action.slots, List.forall_mem_cons, List.not_mem_nil, false_implies, implies_true,
      and_true, Same] at h <;>
    simp only [trim, h]

/-- No step changes the table. -/
theorem applyAll_table (q : Query) (steps : List Step) : (q.applyAll steps).table = q.table := by
  induction steps generalizing q with
  | nil => rfl
  | cons s steps ih =>
      have hone : (q.apply s).table = q.table := by cases s <;> rfl
      exact (ih (q.apply s)).trans hone

/-- No step changes the action. -/
theorem applyAll_action (q : Query) (steps : List Step) :
    (q.applyAll steps).action = q.action := by
  induction steps generalizing q with
  | nil => rfl
  | cons s steps ih =>
      have hone : (q.apply s).action = q.action := by cases s <;> rfl
      exact (ih (q.apply s)).trans hone

/-- Steps that agree build the same request, as far as its action uses it. -/
theorem Agree.prune_eq {action : Action} (h : Agree action steps steps') (table : Table) :
    (built table action steps).prune = (built table action steps').prune := by
  rw [Query.prune_eq, Query.prune_eq, tidy_built, tidy_built]
  have htable : ∀ steps, (built table action steps).table = table := applyAll_table _
  have haction : ∀ steps, (built table action steps).action = action := applyAll_action _
  refine trim_eq_of_same ((htable _).trans (htable _).symm) ((haction _).trans (haction _).symm) ?_
  intro c hc
  rw [haction] at hc
  have hsteps := same_counted (new table action) c (steps.map Step.prune)
  have hsteps' := same_counted (new table action) c (steps'.map Step.prune)
  rw [counted_prune, h c hc, ← counted_prune] at hsteps
  exact hsteps.trans hsteps'.symm

/-- Steps that are the same but for what nested selects do not use. -/
theorem agree_of_map_prune (h : steps.map Step.prune = steps'.map Step.prune) (action : Action) :
    Agree action steps steps' := by
  intro c _
  rw [← counted_prune, h, counted_prune]

/-- The single steps of a step fill its clause. -/
theorem Step.slot_of_mem_single {s s' : Step} (h : s' ∈ s.single) : s'.slot = s.slot := by
  cases s with
  | setAll entries =>
      obtain ⟨entry, -, rfl⟩ := List.mem_map.mp h
      rfl
  | _ =>
      obtain rfl := List.mem_singleton.mp h
      rfl

/-- Steps for other clauses can be left out. By induction over the steps. -/
theorem filling_filter {p : Step → Bool} (hp : ∀ s, s.slot = c → p s = true) (steps : List Step) :
    filling c (steps.filter p) = filling c steps := by
  induction steps with
  | nil => rfl
  | cons s steps ih =>
      simp only [filling, List.flatMap_cons, List.filter_append] at ih ⊢
      by_cases hs : p s = true
      · rw [List.filter_cons_of_pos hs, List.flatMap_cons, List.filter_append, ih]
      · -- What is left out fills another clause, and so do all its single steps.
        have hnone : s.single.filter (fun s => s.slot = c) = [] := by
          rw [List.filter_eq_nil_iff]
          intro s' hs' heq
          exact hs (hp s ((Step.slot_of_mem_single hs').symm.trans (of_decide_eq_true heq)))
        rw [List.filter_cons_of_neg hs, hnone, ih, List.nil_append]

/-- The steps for clauses that an action uses. -/
def used (action : Action) (steps : List Step) : List Step :=
  steps.filter fun s => s.slot ∈ action.slots

/-- Steps agree with those of them that are used. -/
theorem agree_used (action : Action) (steps : List Step) :
    Agree action (used action steps) steps := by
  intro c hc
  have hfilling : filling c (used action steps) = filling c steps :=
    filling_filter (fun s hs => decide_eq_true (hs ▸ hc)) steps
  rw [counted, counted, hfilling]

/-! ### Around a select -/

/-- A condition with a leaf for a select that is still missing. -/
inductive Spot where
  | leaf (column : String)
  | before (op : Connective) (spot : Spot) (other : Condition)
  | behind (op : Connective) (other : Condition) (spot : Spot)

namespace Spot

/-- The condition with the select in it. -/
def fill (q : Query) : Spot → Condition
  | leaf column => .leaf column (.subquery q)
  | before op spot other => .combine op (spot.fill q) other
  | behind op other spot => .combine op other (spot.fill q)

/-- The term that adds the condition. -/
def term (q : Query) : Spot → Filter.Term
  | leaf column => .pair column (.subquery q)
  | spot => .tree (some (spot.fill q))

end Spot

/-- A step that is still missing a select. -/
inductive Place where
  | set (column : String)
  | filter (op : Connective) (spot : Spot)
  | having (op : Connective) (spot : Spot)

/-- The step with the select in it. -/
def Place.step (q : Query) : Place → Step
  | set column => .set column (.subquery q)
  | filter op spot => .filter op (spot.term q)
  | having op spot => .having op (spot.term q)

/-- A request around a select. -/
structure Layer where
  table : Table
  action : Action
  before : List Step
  place : Place
  after : List Step

/-- The request with the select in it. -/
def Layer.around (q : Query) (l : Layer) : Query :=
  built l.table l.action (l.before ++ l.place.step q :: l.after)

/-- A select inside a request, inside another one, and so on. -/
def within (layers : List Layer) (q : Query) : Query := layers.foldl Layer.around q

/-- A condition around a select, pruned. -/
theorem Spot.prune_fill (h : q.prune = q'.prune) (spot : Spot) :
    (spot.fill q).prune = (spot.fill q').prune := by
  induction spot with
  | leaf column => simp only [fill, Condition.prune, Operand.prune, h]
  | before op spot other ih | behind op other spot ih =>
      cases op <;> simp only [fill, Condition.combine, Condition.prune, ih]

/-- The same for a term. -/
theorem Spot.prune_term (h : q.prune = q'.prune) (spot : Spot) :
    (spot.term q).prune = (spot.term q').prune := by
  have hfill := spot.prune_fill h
  cases spot with
  | leaf column => simp only [term, Filter.Term.prune, Operand.prune, h]
  | before op spot other | behind op other spot =>
      simp only [term, Filter.Term.prune, pruneFilter, hfill]

/-- The same for a step. -/
theorem Place.prune_step (h : q.prune = q'.prune) (place : Place) :
    (place.step q).prune = (place.step q').prune := by
  cases place with
  | set column => simp only [step, Step.prune, Assigned.prune, h]
  | filter op spot | having op spot => simp only [step, Step.prune, spot.prune_term h]

/-- The same for a request around a select. -/
theorem Layer.prune_around (h : q.prune = q'.prune) (l : Layer) :
    (l.around q).prune = (l.around q').prune := by
  refine (agree_of_map_prune ?_ l.action).prune_eq l.table
  simp only [List.map_append, List.map_cons, l.place.prune_step h]

/-- The same at any depth. By induction over the requests around the select. -/
theorem prune_within (h : q.prune = q'.prune) (layers : List Layer) :
    (within layers q).prune = (within layers q').prune := by
  induction layers generalizing q q' with
  | nil => exact h
  | cons l layers ih => exact ih (l.prune_around h)

/-- Requests that are pruned alike are compiled alike. -/
theorem lower_eq_of_prune (h : q.prune = q'.prune) (d : Dialect) : q.lower d = q'.lower d := by
  rw [← q.prune_lower, h, q'.prune_lower]

/-- **Building.** For any table and action, two lists of steps in which the same steps count for
every clause that the action uses, in their own order, whatever stands between them and whatever
nested selects have no use for. The two requests are compiled alike in every dialect: to the same
text with the same values under the same names, or with the same error, from all counters and to the
same counters, and also inside any other requests, at any depth. Steps for clauses that the action
does not use can be left out. -/
theorem statementIn_built (d : Dialect) (table : Table) {action : Action} {steps steps' : List Step}
    (h : Agree action steps steps') :
    (built table action steps).statementIn d = (built table action steps').statementIn d ∧
    (built table action steps).lower d = (built table action steps').lower d ∧
    (∀ layers, (within layers (built table action steps)).statementIn d =
      (within layers (built table action steps')).statementIn d) ∧
    (built table action steps).lower d = (built table action (used action steps)).lower d := by
  have hprune := h.prune_eq table
  -- Pruned alike is what goes through every layer; the texts alone would not.
  have hlayers : ∀ layers, (within layers (built table action steps)).statementIn d =
      (within layers (built table action steps')).statementIn d := by
    intro layers
    have hlower := lower_eq_of_prune (prune_within hprune layers) d
    rw [statementIn, statementIn, hlower]
  have hused := (agree_used action steps).prune_eq table
  exact ⟨hlayers [], lower_eq_of_prune hprune d, hlayers, lower_eq_of_prune hused.symm d⟩

/-- A rename, in an order in which only half of the steps are of use. -/
def sampleSteps : List Step :=
  [.having .conj (.pair "n" (.subquery (built people .select [.join people .left [("id", "id")]]))),
    .filter .conj (.pair "name" (.scalar (.text "a"))),
    .join people .inner [("leader", "id")],
    .set "name" (.value (.text "b")),
    .limit 3,
    .filter .disj (.pair "id" (.subquery (built people .select
      [.set "name" (.value .null), .columns (.plain ["id"])])))]

/-- The same rename in another order, its nested select with another first projection. -/
def sampleStepsAgain : List Step :=
  [.setAll [("name", .value (.text "b"))],
    .filter .conj (.pair "name" (.scalar (.text "a"))),
    .filter .disj (.pair "id" (.subquery (built people .select
      [.columns (.plain ["name"]), .columns (.plain ["id"])])))]

/-- The two are one statement, with the numbers that the useful steps take alone. -/
theorem statementIn_built_sampleSteps :
    Agree .update sampleSteps sampleStepsAgain ∧
      (built people .update sampleSteps).statementIn Sqlite.dialect =
        (built people .update sampleStepsAgain).statementIn Sqlite.dialect ∧
      ((built people .update sampleSteps).statementIn Sqlite.dialect).map
        (fun s => (s.sql, s.params.entries)) =
        .ok ("UPDATE people SET name = :p1 WHERE (name = :p2) OR (id IN (SELECT id FROM people))",
          [("p1", .text "b"), ("p2", .text "a")]) := by
  have hagree : Agree .update sampleSteps sampleStepsAgain := by
    intro c hc
    simp only [Action.slots, List.mem_cons, List.not_mem_nil, or_false] at hc
    rcases hc with rfl | rfl <;> rfl
  exact ⟨hagree, (statementIn_built Sqlite.dialect people hagree).1, by decide +kernel⟩

end Query

end TableGateway
