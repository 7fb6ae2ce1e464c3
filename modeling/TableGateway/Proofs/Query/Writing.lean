import TableGateway.Proofs.Query.Nesting

/-!
# Writing requests without counters

Compiling a request threads counters and bags through the whole tree. This module says what comes
out of it in one pass that threads nothing: `Query.clauses` gives the clauses that are handed to the
dialect, where every number is read off the walk before it, and nested selects are written by a
function that is passed in. The two agree: the text of a request is what the dialect makes of its
clauses, with each nested select written as the same compilation would write it from the counters
where it is met.

## Main results

* `Query.lowers`: compiling a request can fail only as its text does, binds the bag of its walk, and
  leaves the counters behind the walk.
* `Query.text_eq`: the text of a request is what the dialect makes of its clauses.
-/

namespace TableGateway

open TableGateway.Numbering

/-! ### Running a numbering -/

namespace Numbering

variable {α β γ : Type}

/-- A computation that succeeds hands its result and its counters on. -/
theorem bind_ok {x : Numbering α} {t t' : Tally} {a : α} (h : x t = .ok (a, t'))
    (f : α → Numbering β) : (x >>= f) t = f a t' := by
  change (x t >>= fun p => f p.1 p.2) = _
  rw [h]
  rfl

/-- A computation that only can fail as `r` does hands on what `r` gives. -/
theorem bind_of_eq {x : Numbering α} {t : Tally} {r : Except Error γ} {g : γ → α × Tally}
    (h : x t = r >>= fun c => pure (g c)) (f : α → Numbering β) :
    (x >>= f) t = r >>= fun c => f (g c).1 (g c).2 := by
  change (x t >>= fun p => f p.1 p.2) = _
  rw [h, bind_assoc]
  rfl

/-- What cannot fail leaves the counters alone. -/
theorem bind_lift {x : Except Error α} {a : α} (h : x = .ok a) (f : α → Numbering β)
    (t : Tally) : ((liftM x : Numbering α) >>= f) t = f a t := by
  rw [h]
  rfl

/-- What may fail leaves the counters alone. -/
theorem bind_liftM (x : Except Error α) (f : α → Numbering β) (t : Tally) :
    ((liftM x : Numbering α) >>= f) t = x >>= fun a => f a t := by
  cases x <;> rfl

/-- A value that is met after a walk gets the next number. -/
theorem bindValue_bag (t : Tally) (w : List Met) (v : Value) :
    bindValue v (bag t.params w) (t.after w) =
      .ok ((paramName ((t.after w).params + 1), bag t.params (w ++ [.value v])),
        t.after (w ++ [.value v])) := by
  have hnext : nextParam (t.after w) =
      .ok ((t.after w).params + 1, t.after (w ++ [.value v])) := by
    rw [Tally.after_append, Tally.after_value]
    rfl
  rw [bindValue, bind_ok hnext, bind_lift (bag_bind t w v)]
  rfl

/-- A list gets the next number, and its elements are named by their positions. -/
theorem bindAll_bag (t : Tally) (vs : List Value) :
    bindAll vs .empty t =
      .ok ((elementNames (t.params + 1) 0 vs, bag t.params [.list vs]), t.after [.list vs]) := by
  have hnext : nextParam t = .ok (t.params + 1, t.after [.list vs]) := by
    rw [Tally.after_list]
    rfl
  have hbind : bindElements (t.params + 1) 0 vs .empty =
      .ok (elementNames (t.params + 1) 0 vs, bag t.params [.list vs]) :=
    bindElements_eq_ok (by simp [bag, bindingsFrom, Params.empty])
  rw [bindAll, bind_ok hnext, hbind]
  rfl

end Numbering

/-! ### Writing clauses -/

/-- How the text of a nested select is found, from the counters where it is met. -/
abbrev Inliner := Tally → Query → Except Error String

/-- The text of a leaf. -/
def Operand.write (d : Dialect) (inline : Inliner) (t : Tally) (column : String) :
    Operand → Except Error String
  | .scalar _ => return d.leaf column (.equality (paramName (t.params + 1)))
  | .list vs => return d.leaf column (.membership (elementNames (t.params + 1) 0 vs))
  | .null => return d.leaf column .isNull
  | .subquery q => do
    let sql ← inline t q
    return d.leaf column (.subquery sql)

/-- The text of a condition. -/
def Condition.write (d : Dialect) (inline : Inliner) (t : Tally) :
    Condition → Except Error String
  | .leaf column operand => operand.write d inline t column
  | .conj left right => do
    let leftText ← left.write d inline t
    let rightText ← right.write d inline (t.after left.walk)
    return d.conj leftText rightText
  | .disj left right => do
    let leftText ← left.write d inline t
    let rightText ← right.write d inline (t.after left.walk)
    return d.disj leftText rightText

/-- The text of a condition, if there is one. -/
def writeFilter (d : Dialect) (inline : Inliner) (t : Tally) :
    Option Condition → Except Error (Option String)
  | none => return none
  | some c => do
    let text ← c.write d inline t
    return some text

/-- The text of an assigned value. -/
def Assigned.write (d : Dialect) (inline : Inliner) (t : Tally) :
    Assigned → Except Error String
  | .value _ => return d.placeholder (paramName (t.params + 1))
  | .subquery q => do
    let sql ← inline t q
    return "(" ++ sql ++ ")"

/-- The assigned columns with the texts of their values. -/
def writeAssignments (d : Dialect) (inline : Inliner) (t : Tally) :
    List (String × Assigned) → Except Error (List (String × String))
  | [] => return []
  | (column, assigned) :: rest => do
    let text ← assigned.write d inline t
    let others ← writeAssignments d inline (t.after assigned.walk) rest
    return (column, text) :: others

/-- The clauses of joins whose first one has the number `m + 1`. -/
def namedJoins (source : String) (m : Nat) (joins : List Join) : List JoinEntry :=
  (aliasesFrom m (joins.map .join)).map fun (name, j) => j.entry source name

/-- The clauses of a request that is met with the counters `t`, nested selects written by
`inline`. -/
def Query.clauses (d : Dialect) (inline : Inliner) (t : Tally) : Query → Except Error Clauses
  | ⟨table, .select, projection, _, joins, filter, having, groupBy, orderBy, limit, offset⟩ => do
    let within := t.after (joins.map .join)
    let filterText ← writeFilter d inline within filter
    let havingText ← writeFilter d inline (within.after (walkFilter filter)) having
    return {
      action := .select, table := table.name
      columns := (Projection.selected table projection joins).columns
      joins := namedJoins table.name t.aliases joins, filter := filterText, groupBy := groupBy
      having := havingText, orderBy := orderBy, limit := limit, offset := offset }
  | ⟨table, .insert, _, assignments, _, _, _, _, _, _, _⟩ => do
    let entries ← writeAssignments d inline t assignments
    return { action := .insert, table := table.name, assignments := entries }
  | ⟨table, .update, _, assignments, _, filter, _, _, _, _, _⟩ => do
    let entries ← writeAssignments d inline t assignments
    let filterText ← writeFilter d inline (t.after (walkAssignments assignments)) filter
    return {
      action := .update, table := table.name, assignments := entries, filter := filterText }
  | ⟨table, .delete, _, _, _, filter, _, _, _, _, _⟩ => do
    let filterText ← writeFilter d inline t filter
    return { action := .delete, table := table.name, filter := filterText }

/-- The text of a request that is met with the counters `t`. -/
def Query.text (d : Dialect) : Inliner := fun t q => (q.lower d t).map fun (s, _) => s.sql

/-- Compiling `q` can fail only as its text does, binds the bag of its walk, and leaves the
counters behind the walk. -/
def Query.Lowers (d : Dialect) (q : Query) : Prop :=
  ∀ t, q.lower d t = q.text d t >>= fun sql =>
    pure (⟨sql, bag t.params q.walk⟩, t.after q.walk)

/-! ### Compiling is writing -/

section

variable {d : Dialect}

/-- A leaf. -/
theorem Operand.lower_eq {o : Operand} (h : ∀ q, .select q ∈ o.walk → q.Lowers d)
    (column : String) (t : Tally) :
    o.lower d column t = o.write d (Query.text d) t column >>= fun sql =>
      pure ((sql, bag t.params o.walk), t.after o.walk) := by
  cases o with
  | scalar v =>
      have hv : bindValue v .empty t = .ok ((paramName (t.params + 1), bag t.params [.value v]),
          t.after [.value v]) := bindValue_bag t [] v
      rw [Operand.lower, bind_ok hv]
      rfl
  | list vs =>
      rw [Operand.lower, bind_ok (bindAll_bag t vs)]
      rfl
  | null => rfl
  | subquery q =>
      have hmerge : Params.empty.merge (bag t.params q.walk) = .ok (bag t.params q.walk) :=
        bag_merge t [] q.walk
      rw [Operand.lower, bind_of_eq (h q (by simp [Operand.walk]) t), Operand.write, bind_assoc]
      refine bind_congr fun sql => ?_
      rw [bind_lift hmerge]
      simp only [Operand.walk, Tally.after_select]
      rfl

/-- Two conditions side by side: the right one goes on where the left one ends, and their bags are
those of the two parts of the walk. -/
theorem bind_sides {left right : Condition} {join : String → String → String}
    (hl : ∀ t, left.lower d t = left.write d (Query.text d) t >>= fun sql =>
      pure ((sql, bag t.params left.walk), t.after left.walk))
    (hr : ∀ t, right.lower d t = right.write d (Query.text d) t >>= fun sql =>
      pure ((sql, bag t.params right.walk), t.after right.walk)) (t : Tally) :
    (left.lower d >>= fun l => right.lower d >>= fun r =>
        liftM (l.2.merge r.2) >>= fun params => pure (join l.1 r.1, params) : Numbering _) t =
      (left.write d (Query.text d) t >>= fun l =>
        right.write d (Query.text d) (t.after left.walk) >>= fun r => pure (join l r)) >>=
      fun sql => pure ((sql, bag t.params (left.walk ++ right.walk)),
        t.after (left.walk ++ right.walk)) := by
  rw [bind_of_eq (hl t), bind_assoc]
  refine bind_congr fun l => ?_
  rw [bind_of_eq (hr (t.after left.walk)), bind_assoc]
  refine bind_congr fun r => ?_
  rw [bind_lift (bag_merge t left.walk right.walk), Tally.after_append]
  rfl

/-- A condition. -/
theorem Condition.lower_eq {c : Condition} (h : ∀ q, .select q ∈ c.walk → q.Lowers d)
    (t : Tally) :
    c.lower d t = c.write d (Query.text d) t >>= fun sql =>
      pure ((sql, bag t.params c.walk), t.after c.walk) := by
  induction c using Condition.induction generalizing t with
  | leaf column operand => exact Operand.lower_eq h column t
  | conj left right ihl ihr | disj left right ihl ihr =>
      exact bind_sides (ihl fun q hq => h q (List.mem_append_left _ hq))
        (ihr fun q hq => h q (List.mem_append_right _ hq)) t

/-- A condition that may be missing, behind a walk whose bag takes its parameters. -/
theorem bind_filter {α : Type} {f : Option Condition}
    (h : ∀ q, .select q ∈ walkFilter f → q.Lowers d)
    (t : Tally) (w : List Met) (k : Option String × Params → Numbering α) :
    (lowerFilter d f >>= fun rendered => liftM (mergeCondition (bag t.params w) rendered) >>= k)
        (t.after w) =
      writeFilter d (Query.text d) (t.after w) f >>= fun text =>
        k (text, bag t.params (w ++ walkFilter f)) (t.after (w ++ walkFilter f)) := by
  cases f with
  | none =>
      simp only [walkFilter, List.append_nil]
      rfl
  | some c =>
      have hc : ∀ sql, mergeCondition (bag t.params w) (some (sql, bag (t.after w).params c.walk)) =
          .ok (some sql, bag t.params (w ++ c.walk)) := by
        intro sql
        rw [mergeCondition, bag_merge]
        rfl
      have hf : lowerFilter d (some c) (t.after w) = c.write d (Query.text d) (t.after w) >>=
          fun sql => pure (some (sql, bag (t.after w).params c.walk), t.after (w ++ c.walk)) := by
        rw [lowerFilter, bind_of_eq (Condition.lower_eq h (t.after w)), Tally.after_append]
        rfl
      rw [bind_of_eq hf, writeFilter, bind_assoc]
      refine bind_congr fun sql => ?_
      rw [bind_lift (hc sql)]
      rfl

/-- An assigned value, behind a walk whose bag takes its parameters. -/
theorem Assigned.lower_eq {a : Assigned} (h : ∀ q, .select q ∈ a.walk → q.Lowers d)
    (t : Tally) (w : List Met) :
    a.lower d (bag t.params w) (t.after w) =
      a.write d (Query.text d) (t.after w) >>= fun text =>
        pure ((text, bag t.params (w ++ a.walk)), t.after (w ++ a.walk)) := by
  cases a with
  | value v =>
      rw [Assigned.lower, bind_ok (bindValue_bag t w v)]
      rfl
  | subquery q =>
      have hmerge : (bag t.params w).merge (bag (t.after w).params q.walk) =
          .ok (bag t.params (w ++ .select q :: q.walk)) :=
        (bag_merge t w (.select q :: q.walk))
      rw [Assigned.lower, bind_of_eq (h q (by simp [Assigned.walk]) (t.after w)), Assigned.write,
        bind_assoc]
      refine bind_congr fun sql => ?_
      rw [bind_lift hmerge]
      simp only [Assigned.walk, Tally.after_append, Tally.after_select]
      rfl

/-- Assignments, behind a walk whose bag takes their parameters. -/
theorem lowerAssignments_eq {as : List (String × Assigned)}
    (h : ∀ q, .select q ∈ walkAssignments as → q.Lowers d) (t : Tally) (w : List Met) :
    lowerAssignments d as (bag t.params w) (t.after w) =
      writeAssignments d (Query.text d) (t.after w) as >>= fun entries =>
        pure ((entries, bag t.params (w ++ walkAssignments as)),
          t.after (w ++ walkAssignments as)) := by
  induction as generalizing w with
  | nil =>
      simp only [walkAssignments, List.append_nil]
      rfl
  | cons entry rest ih =>
      obtain ⟨column, assigned⟩ := entry
      have hone : lowerAssignment d (column, assigned) (bag t.params w) (t.after w) =
          assigned.write d (Query.text d) (t.after w) >>= fun text =>
            pure (((column, text), bag t.params (w ++ assigned.walk)),
              t.after (w ++ assigned.walk)) := by
        rw [lowerAssignment, bind_of_eq
          (Assigned.lower_eq (fun q hq => h q (List.mem_append_left _ hq)) t w)]
        rfl
      rw [lowerAssignments, bind_of_eq hone, writeAssignments, bind_assoc]
      refine bind_congr fun text => ?_
      dsimp only
      rw [bind_of_eq (ih (fun q hq => h q (List.mem_append_right _ hq)) (w ++ assigned.walk)),
        bind_assoc, Tally.after_append]
      simp only [walkAssignments, walkAssignment, List.append_assoc]
      rfl

/-- The assignments of a request that begins with them. -/
theorem lowerAssignments_start {as : List (String × Assigned)}
    (h : ∀ r, .select r ∈ walkAssignments as → r.Lowers d) (t : Tally) :
    lowerAssignments d as .empty t =
      writeAssignments d (Query.text d) t as >>= fun entries =>
        pure ((entries, bag t.params (walkAssignments as)), t.after (walkAssignments as)) :=
  lowerAssignments_eq h t []

/-- Joins take the next aliases. -/
theorem joinEntries_eq (source : String) (joins : List Join) (t : Tally) :
    joinEntries source joins t =
      .ok (namedJoins source t.aliases joins, t.after (joins.map .join)) := by
  induction joins generalizing t with
  | nil => rfl
  | cons j joins ih =>
      have hname : nextAlias t =
          .ok (aliasName (t.aliases + 1), ⟨t.params, t.aliases + 1⟩) := rfl
      rw [joinEntries, bind_ok hname, bind_ok (ih ⟨t.params, t.aliases + 1⟩), List.map_cons,
        Tally.after_join]
      rfl

/-- One level of a request, when the nested selects are known to bind the bags of their walks. -/
theorem Query.lower_eq_clauses {q : Query} (h : ∀ r, .select r ∈ q.walk → r.Lowers d)
    (t : Tally) :
    q.lower d t = (q.clauses d (Query.text d) t >>= d.statement) >>= fun sql =>
      pure (⟨sql, bag t.params q.walk⟩, t.after q.walk) := by
  obtain ⟨table, action, projection, assignments, joins, filter, having, groupBy, orderBy, limit,
    offset⟩ := q
  cases action with
  | select =>
      have hnone : bag t.params (joins.map .join) = .empty := bag_joins t.params joins
      have hfilter : ∀ r, .select r ∈ walkFilter filter → r.Lowers d := fun r hr =>
        h r (List.mem_append_right _ (List.mem_append_left _ hr))
      have hhaving : ∀ r, .select r ∈ walkFilter having → r.Lowers d := fun r hr =>
        h r (List.mem_append_right _ (List.mem_append_right _ hr))
      rw [Query.lower, bind_ok (joinEntries_eq table.name joins t), ← hnone, Query.clauses]
      simp only [bind_assoc]
      refine (bind_filter hfilter t (joins.map .join) _).trans (bind_congr fun filterText => ?_)
      dsimp only
      rw [← Tally.after_append]
      refine (bind_filter hhaving t (joins.map .join ++ walkFilter filter) _).trans
        (bind_congr fun havingText => ?_)
      dsimp only
      rw [bind_liftM, List.append_assoc]
      rfl
  | insert =>
      rw [Query.lower, bind_of_eq (lowerAssignments_start h t), Query.clauses, bind_assoc,
        bind_assoc]
      refine bind_congr fun entries => ?_
      dsimp only
      rw [bind_liftM]
      rfl
  | update =>
      have hset : ∀ r, .select r ∈ walkAssignments assignments → r.Lowers d := fun r hr =>
        h r (List.mem_append_left _ hr)
      rw [Query.lower, bind_of_eq (lowerAssignments_start hset t), Query.clauses]
      simp only [bind_assoc]
      refine bind_congr fun entries => ?_
      refine (bind_filter (fun r hr => h r (List.mem_append_right _ hr)) t
        (walkAssignments assignments) _).trans (bind_congr fun filterText => ?_)
      dsimp only
      rw [bind_liftM]
      rfl
  | delete =>
      rw [Query.lower, Query.clauses]
      simp only [bind_assoc]
      refine (bind_filter h t [] _).trans (bind_congr fun filterText => ?_)
      dsimp only
      rw [bind_liftM]
      rfl

/-- What a compilation does beyond writing its text does not show in the text. -/
theorem map_sql_bind {x : Except Error String} (f : String → Statement × Tally)
    (hf : ∀ sql, (f sql).1.sql = sql) : (x >>= fun sql => pure (f sql)).map (·.1.sql) = x := by
  cases x with
  | error e => rfl
  | ok sql => exact congrArg Except.ok (hf sql)

/-- **Compiling.** A request can fail to compile only as its text does, it binds the bag of its
walk, and it leaves the counters behind its walk. -/
theorem Query.lowers (d : Dialect) (q : Query) : q.Lowers d := by
  induction q using Query.nested_induction with
  | step q ih =>
      intro t
      have hlower := Query.lower_eq_clauses ih t
      rw [hlower, Query.text, hlower, map_sql_bind _ fun _ => rfl]

/-- **Text.** The text of a request is what the dialect makes of its clauses, nested selects
written as the same compilation writes them from the counters where it meets them. -/
theorem Query.text_eq (d : Dialect) (q : Query) (t : Tally) :
    q.text d t = q.clauses d (Query.text d) t >>= d.statement := by
  rw [Query.text, Query.lower_eq_clauses (fun r _ => Query.lowers d r) t]
  exact map_sql_bind _ fun _ => rfl

end

end TableGateway
