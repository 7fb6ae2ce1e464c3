import TableGateway.Proofs.Query.Numbering

/-!
# Requests of the same shape

Two requests have the same shape if they differ in the values that stand in them and in nothing
else, at any depth. This module shows that a value goes into the bag of a statement and nowhere
else: requests of the same shape have the same text, in every dialect, and bind the same names in
the same order, or meet the same error.

## Shape convention

`Query.blank` puts null in the place of every value that is assigned, compared with or an element
of a list, and leaves everything else alone. So the length of a list belongs to the shape, and so
does the difference between a value to compare with and a test for null.

## Main results

* `Query.walk_blank`: the walk through a blank request is the walk through the request with its
  values blanked.
* `Query.text_blank`: a blank request has the text of the request.
* `Query.statementIn_sameShape`: two requests of the same shape.
-/

namespace TableGateway

open TableGateway.Numbering

/-! ### Blanking values -/

mutual

/-- The request with null in the place of every value. -/
def Query.blank : Query → Query
  | ⟨table, action, projection, assignments, joins, filter, having, groupBy, orderBy, limit,
      offset⟩ =>
    ⟨table, action, projection, blankAssignments assignments, joins, blankFilter filter,
      blankFilter having, groupBy, orderBy, limit, offset⟩

/-- The same for assignments. -/
def blankAssignments : List (String × Assigned) → List (String × Assigned)
  | [] => []
  | entry :: rest => blankAssignment entry :: blankAssignments rest

/-- The same for one assignment. -/
def blankAssignment : String × Assigned → String × Assigned
  | (column, assigned) => (column, assigned.blank)

/-- The same for an assigned value. -/
def Assigned.blank : Assigned → Assigned
  | .value _ => .value .null
  | .subquery q => .subquery q.blank

/-- The same for a condition, if there is one. -/
def blankFilter : Option Condition → Option Condition
  | none => none
  | some c => some c.blank

/-- The same for a condition. -/
def Condition.blank : Condition → Condition
  | .leaf column operand => .leaf column operand.blank
  | .conj left right => .conj left.blank right.blank
  | .disj left right => .disj left.blank right.blank

/-- The same for an operand. -/
def Operand.blank : Operand → Operand
  | .scalar _ => .scalar .null
  | .list vs => .list (vs.map fun _ => .null)
  | .null => .null
  | .subquery q => .subquery q.blank

end

/-- What is met, with its values blanked. -/
def Met.blank : Met → Met
  | .join j => .join j
  | .value _ => .value .null
  | .list vs => .list (vs.map fun _ => .null)
  | .select q => .select q.blank

/-- The values that are met. -/
def Met.literals : Met → List Value
  | .value v => [v]
  | .list vs => vs
  | .join _ | .select _ => []

/-- The values in a request, in the order of its walk. -/
def Query.literals (q : Query) : List Value := q.walk.flatMap Met.literals

/-- Two requests that differ in their values only. -/
def Query.SameShape (q q' : Query) : Prop := q.blank = q'.blank

/-! ### Walks of the same shape -/

/-- The walk through a blank condition, when nested selects are known to be walked alike. -/
theorem Condition.walk_blank {c : Condition}
    (h : ∀ r, .select r ∈ c.walk → r.blank.walk = r.walk.map Met.blank) :
    c.blank.walk = c.walk.map Met.blank := by
  induction c using Condition.induction with
  | leaf column operand =>
      cases operand with
      | scalar v | list vs | null => rfl
      | subquery q => exact congrArg (.select q.blank :: ·) (h q (List.mem_cons_self ..))
  | conj left right ihl ihr | disj left right ihl ihr =>
      have hl := ihl fun r hr => h r (List.mem_append_left _ hr)
      have hr := ihr fun r hr => h r (List.mem_append_right _ hr)
      rw [Condition.blank, Condition.walk, Condition.walk, hl, hr, List.map_append]

/-- The same for a condition that may be missing. -/
theorem walkFilter_blank {f : Option Condition}
    (h : ∀ r, .select r ∈ walkFilter f → r.blank.walk = r.walk.map Met.blank) :
    walkFilter (blankFilter f) = (walkFilter f).map Met.blank := by
  cases f with
  | none => rfl
  | some c => exact Condition.walk_blank h

/-- The same for assignments. -/
theorem walkAssignments_blank {as : List (String × Assigned)}
    (h : ∀ r, .select r ∈ walkAssignments as → r.blank.walk = r.walk.map Met.blank) :
    walkAssignments (blankAssignments as) = (walkAssignments as).map Met.blank := by
  induction as with
  | nil => rfl
  | cons entry rest ih =>
      obtain ⟨column, assigned⟩ := entry
      have hone : assigned.blank.walk = assigned.walk.map Met.blank := by
        cases assigned with
        | value v => rfl
        | subquery q => exact congrArg (.select q.blank :: ·) (h q (List.mem_cons_self ..))
      have hrest := ih fun r hr => h r (List.mem_append_right _ hr)
      rw [blankAssignments, blankAssignment, walkAssignments, walkAssignments, walkAssignment,
        walkAssignment, hone, hrest, List.map_append]

/-- **Walks.** The walk through a blank request is the walk through the request with its values
blanked. By induction over nesting. -/
theorem Query.walk_blank (q : Query) : q.blank.walk = q.walk.map Met.blank := by
  induction q using Query.nested_induction with
  | step q ih =>
      obtain ⟨table, action, projection, assignments, joins, filter, having, groupBy, orderBy,
        limit, offset⟩ := q
      cases action with
      | select =>
          have hf := walkFilter_blank fun r hr =>
            ih r (List.mem_append_right _ (List.mem_append_left _ hr))
          have hh := walkFilter_blank fun r hr =>
            ih r (List.mem_append_right _ (List.mem_append_right _ hr))
          have hjoins : (joins.map .join).map Met.blank = joins.map .join := by
            rw [List.map_map]
            rfl
          rw [Query.blank, Query.walk, Query.walk, hf, hh, List.map_append, List.map_append, hjoins]
      | insert => exact walkAssignments_blank ih
      | update =>
          have ha := walkAssignments_blank fun r hr => ih r (List.mem_append_left _ hr)
          have hf := walkFilter_blank fun r hr => ih r (List.mem_append_right _ hr)
          rw [Query.blank, Query.walk, Query.walk, ha, hf, List.map_append]
      | delete => exact walkFilter_blank ih

/-- Blanking values does not change the counters after a walk. -/
theorem Tally.after_blank (t : Tally) (w : List Met) : t.after (w.map Met.blank) = t.after w := by
  have hnumbered : Met.isNumbered ∘ Met.blank = Met.isNumbered := by
    funext m
    cases m <;> rfl
  have hjoin : Met.isJoin ∘ Met.blank = Met.isJoin := by
    funext m
    cases m <;> rfl
  rw [Tally.after, List.countP_map, List.countP_map, hnumbered, hjoin, Tally.after]

/-- Blanking values does not change the names of a list's elements. -/
theorem elementNames_blank (n i : Nat) (vs : List Value) :
    elementNames n i (vs.map fun _ => .null) = elementNames n i vs := by
  induction vs generalizing i with
  | nil => rfl
  | cons v vs ih => exact congrArg (elementName n i :: ·) (ih (i + 1))

/-- Blanking values does not change the names that a walk binds. -/
theorem bindingsFrom_names_blank (k : Nat) (w : List Met) :
    (bindingsFrom k (w.map Met.blank)).map Prod.fst = (bindingsFrom k w).map Prod.fst := by
  induction w generalizing k with
  | nil => rfl
  | cons m w ih =>
      cases m with
      | join j | select q => exact ih k
      | value v => exact congrArg (paramName (k + 1) :: ·) (ih (k + 1))
      | list vs =>
          have hnames := elementNames_blank (k + 1) 0 vs
          simp only [List.map_cons, Met.blank, bindingsFrom, List.map_append, List.map_map, ih]
          exact congrArg (· ++ (bindingsFrom (k + 1) w).map Prod.fst) hnames

/-- A walk binds the values that it meets, in order. -/
theorem bindingsFrom_values (k : Nat) (w : List Met) :
    (bindingsFrom k w).map Prod.snd = w.flatMap Met.literals := by
  induction w generalizing k with
  | nil => rfl
  | cons m w ih =>
      cases m with
      | join j | select q => exact ih k
      | value v => exact congrArg (v :: ·) (ih (k + 1))
      | list vs =>
          rw [bindingsFrom, List.map_append, List.map_map, ih, List.flatMap_cons]
          exact congrArg (· ++ w.flatMap Met.literals) (List.zipIdx_map_fst 0 vs)

/-! ### Texts of the same shape -/

section

variable {d : Dialect} {t : Tally}

/-- A blank condition, when nested selects are known to have the same texts. -/
theorem Condition.write_blank {c : Condition}
    (h : ∀ r, .select r ∈ c.walk → ∀ t, r.blank.text d t = r.text d t) :
    c.blank.write d (Query.text d) t = c.write d (Query.text d) t := by
  induction c using Condition.induction generalizing t with
  | leaf column operand =>
      cases operand with
      | scalar v | null => rfl
      | list vs =>
          simp only [Condition.blank, Operand.blank, Condition.write, Operand.write,
            elementNames_blank]
      | subquery q =>
          have hq := h q (List.mem_cons_self ..) t
          simp only [Condition.blank, Operand.blank, Condition.write, Operand.write, hq]
  | conj left right ihl ihr | disj left right ihl ihr =>
      have hl : left.blank.write d (Query.text d) t = left.write d (Query.text d) t :=
        ihl fun r hr => h r (List.mem_append_left _ hr)
      have hr : ∀ t, right.blank.write d (Query.text d) t = right.write d (Query.text d) t :=
        fun t => ihr fun r hr => h r (List.mem_append_right _ hr)
      have hwalk : left.blank.walk = left.walk.map Met.blank :=
        Condition.walk_blank fun r _ => r.walk_blank
      simp only [Condition.blank, Condition.write, hl, hr, hwalk, Tally.after_blank]

/-- The same for a condition that may be missing. -/
theorem writeFilter_blank {f : Option Condition}
    (h : ∀ r, .select r ∈ walkFilter f → ∀ t, r.blank.text d t = r.text d t) :
    writeFilter d (Query.text d) t (blankFilter f) = writeFilter d (Query.text d) t f := by
  cases f with
  | none => rfl
  | some c => rw [blankFilter, writeFilter, writeFilter, Condition.write_blank h]

/-- The same for assignments. -/
theorem writeAssignments_blank {as : List (String × Assigned)}
    (h : ∀ r, .select r ∈ walkAssignments as → ∀ t, r.blank.text d t = r.text d t) :
    writeAssignments d (Query.text d) t (blankAssignments as) =
      writeAssignments d (Query.text d) t as := by
  induction as generalizing t with
  | nil => rfl
  | cons entry rest ih =>
      obtain ⟨column, assigned⟩ := entry
      have hone : assigned.blank.write d (Query.text d) t = assigned.write d (Query.text d) t := by
        cases assigned with
        | value v => rfl
        | subquery q =>
            have hq := h q (List.mem_cons_self ..) t
            simp only [Assigned.blank, Assigned.write, hq]
      have hafter : t.after assigned.blank.walk = t.after assigned.walk := by
        cases assigned with
        | value v => rfl
        | subquery q =>
            rw [Assigned.blank, Assigned.walk, Assigned.walk, Query.walk_blank,
              Tally.after_select, Tally.after_select, Tally.after_blank]
      rw [blankAssignments, blankAssignment, writeAssignments, writeAssignments, hone, hafter]
      refine bind_congr fun text => ?_
      rw [ih fun r hr => h r (List.mem_append_right _ hr)]

/-- One level of a request. -/
theorem Query.clauses_blank {q : Query}
    (h : ∀ r, .select r ∈ q.walk → ∀ t, r.blank.text d t = r.text d t) (t : Tally) :
    q.blank.clauses d (Query.text d) t = q.clauses d (Query.text d) t := by
  obtain ⟨table, action, projection, assignments, joins, filter, having, groupBy, orderBy, limit,
    offset⟩ := q
  have hwalk : ∀ f t, Tally.after t (walkFilter (blankFilter f)) = t.after (walkFilter f) :=
    fun f t => by rw [walkFilter_blank fun r _ => r.walk_blank, Tally.after_blank]
  cases action with
  | select =>
      have hf : ∀ t, writeFilter d (Query.text d) t (blankFilter filter) =
          writeFilter d (Query.text d) t filter := fun t =>
        writeFilter_blank fun r hr => h r (List.mem_append_right _ (List.mem_append_left _ hr))
      have hh : ∀ t, writeFilter d (Query.text d) t (blankFilter having) =
          writeFilter d (Query.text d) t having := fun t =>
        writeFilter_blank fun r hr => h r (List.mem_append_right _ (List.mem_append_right _ hr))
      simp only [Query.blank, Query.clauses, hf, hh, hwalk]
  | insert => simp only [Query.blank, Query.clauses, writeAssignments_blank h]
  | update =>
      have ha : writeAssignments d (Query.text d) t (blankAssignments assignments) =
          writeAssignments d (Query.text d) t assignments :=
        writeAssignments_blank fun r hr => h r (List.mem_append_left _ hr)
      have hf : ∀ t, writeFilter d (Query.text d) t (blankFilter filter) =
          writeFilter d (Query.text d) t filter := fun t =>
        writeFilter_blank fun r hr => h r (List.mem_append_right _ hr)
      have hset : t.after (walkAssignments (blankAssignments assignments)) =
          t.after (walkAssignments assignments) := by
        rw [walkAssignments_blank fun r _ => r.walk_blank, Tally.after_blank]
      simp only [Query.blank, Query.clauses, ha, hf, hset]
  | delete => simp only [Query.blank, Query.clauses, writeFilter_blank h]

end

/-- **Texts.** A blank request has the text of the request, from any counters. By induction over
nesting. -/
theorem Query.text_blank (d : Dialect) (q : Query) (t : Tally) : q.blank.text d t = q.text d t := by
  induction q using Query.nested_induction generalizing t with
  | step q ih => rw [Query.text_eq, Query.text_eq, Query.clauses_blank ih]

/-! ### Two requests of the same shape -/

namespace Query.SameShape

variable {q q' : Query}

/-- They have the same text. -/
theorem text_eq (h : q.SameShape q') (d : Dialect) (t : Tally) : q.text d t = q'.text d t := by
  rw [← text_blank d q, ← text_blank d q', h]

/-- They bind the same names in the same order. -/
theorem names_eq (h : q.SameShape q') (k : Nat) :
    (bindingsFrom k q.walk).map Prod.fst = (bindingsFrom k q'.walk).map Prod.fst := by
  rw [← bindingsFrom_names_blank, ← walk_blank, h, walk_blank, bindingsFrom_names_blank]

end Query.SameShape

/-- **No value reaches the text.** In every dialect, two requests of the same shape fail to compile
with the same error, or both compile: to the same text, with the same names in the same order, and
with the values of the one request under the names of the one, and those of the other under the
names of the other. -/
theorem Query.statementIn_sameShape (d : Dialect) {q q' : Query} (h : q.SameShape q') :
    (∃ e, q.statementIn d = .error e ∧ q'.statementIn d = .error e) ∨
      ∃ s s', q.statementIn d = .ok s ∧ q'.statementIn d = .ok s' ∧ s.sql = s'.sql ∧
        s.params.names = s'.params.names ∧ s.params.values = q.literals ∧
        s'.params.values = q'.literals := by
  rw [Query.statementIn_eq, Query.statementIn_eq, h.text_eq]
  cases htext : q'.text d .start with
  | error e => exact .inl ⟨e, rfl, rfl⟩
  | ok sql =>
      exact .inr ⟨_, _, rfl, rfl, rfl, h.names_eq 0, bindingsFrom_values 0 q.walk,
        bindingsFrom_values 0 q'.walk⟩

namespace Query

/-- A table with a key and a name. -/
def people : Table where
  name := "people"
  columns := ["id", "name"]
  primaryKey := "id"
  readPool := defaultPool
  writePool := defaultPool
  key_mem := List.mem_cons_self

/-- A rename of the people whose key is among the keys of those with one of three names. -/
def sampleRename (new a b c : Value) : Query :=
  { Query.new people .update with
    assignments := [("name", .value new)]
    filter := some (.leaf "id" (.subquery
      { Query.new people .select with
        projection := some (.plain ["id"])
        filter := some (.leaf "name" (.list [a, b, c])) })) }

/-- A text that would end the statement and a null are bound like any other value. -/
theorem sampleRename_sameShape :
    (sampleRename (.text "ada") (.text "x") .null (.integer 1)).SameShape
        (sampleRename (.text "'; DROP TABLE people") (.text "y") (.bool true) .null) ∧
      ∃ s s', (sampleRename (.text "ada") (.text "x") .null (.integer 1)).statementIn
            Sqlite.dialect = .ok s ∧
        (sampleRename (.text "'; DROP TABLE people") (.text "y") (.bool true) .null).statementIn
            Sqlite.dialect = .ok s' ∧
        s.sql = s'.sql ∧ s.params.names = s'.params.names ∧
        s'.params.values = [.text "'; DROP TABLE people", .text "y", .bool true, .null] := by
  have hshape : (sampleRename (.text "ada") (.text "x") .null (.integer 1)).SameShape
      (sampleRename (.text "'; DROP TABLE people") (.text "y") (.bool true) .null) := rfl
  refine ⟨hshape, ?_⟩
  rcases statementIn_sameShape Sqlite.dialect hshape with
    ⟨e, he, -⟩ | ⟨s, s', hs, hs', hsql, hnames, -, hvalues⟩
  · have hok : ((sampleRename (.text "ada") (.text "x") .null (.integer 1)).statementIn
        Sqlite.dialect).toBool = true := by decide +kernel
    rw [he] at hok
    exact absurd hok Bool.false_ne_true
  · exact ⟨s, s', hs, hs', hsql, hnames, hvalues⟩

end Query

end TableGateway
