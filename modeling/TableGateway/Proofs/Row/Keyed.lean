import TableGateway.Proofs.Query.Numbering
import TableGateway.Proofs.Registry
import TableGateway.Row

/-!
# Requests on one stored row

A row is saved by an update and removed by a delete, both with the condition that the key column
has the key of the row. This module says how such a request is written in the SQLite dialect: the
values that are set take the parameters from the first one on, the key takes the next one, and a key
that is null takes none, because it is asked for with a test for null.

## Main results

* `Row.statementIn_update`, `Row.statementIn_delete`: the statements, which always compile.
-/

namespace TableGateway

open TableGateway.Numbering

/-- Values under the names of parameters, from the number `k + 1` on. -/
def numbered (k : Nat) (vs : List Value) : List (String × Value) :=
  (vs.zipIdx (k + 1)).map fun (v, i) => (paramName i, v)

/-- What setting columns to values binds. By induction over the values. -/
theorem bindingsFrom_values_only (k : Nat) (vs : List Value) :
    bindingsFrom k (vs.map .value) = numbered k vs := by
  induction vs generalizing k with
  | nil => rfl
  | cons v vs ih =>
      rw [List.map_cons, bindingsFrom, ih]
      rfl

namespace Row

/-- Columns that are set to values. -/
def assigned (es : List (String × Value)) : List (String × Assigned) :=
  es.map fun (c, v) => (c, .value v)

/-- What is bound for a key: nothing if it is null. -/
def keyValues : Value → List Value
  | .null => []
  | v => [v]

/-- The condition on a key, with the parameter of number `n` unless the key is null. -/
def keyText (column : String) (n : Nat) : Value → String
  | .null => column ++ " IS NULL"
  | _ => column ++ " = " ++ Sqlite.placeholder (paramName n)

section

variable {d : Dialect} {inline : Inliner}

/-- The walk through columns that are set to values. -/
theorem walk_assigned (es : List (String × Value)) :
    walkAssignments (assigned es) = (es.map Prod.snd).map .value := by
  induction es with
  | nil => rfl
  | cons e es ih => exact congrArg (.value e.2 :: ·) ih

/-- Columns that are set to values get one placeholder after the other. By induction over the
columns. -/
theorem write_assigned (t : Tally) (es : List (String × Value)) :
    writeAssignments d inline t (assigned es) =
      .ok ((es.zipIdx (t.params + 1)).map fun (e, i) => (e.1, d.placeholder (paramName i))) := by
  induction es generalizing t with
  | nil => rfl
  | cons e es ih =>
      change (writeAssignments d inline (t.after [.value e.2]) (assigned es) >>= fun others =>
        pure ((e.1, d.placeholder (paramName (t.params + 1))) :: others)) = _
      rw [ih, Tally.after_value, Tally.after_nil]
      rfl

/-- The walk through the condition on a key. -/
theorem walk_key (column : String) (key : Value) :
    walkFilter (some (.leaf column (.ofValue key))) = (keyValues key).map .value := by
  cases key <;> rfl

/-- The text of the condition on a key. -/
theorem write_key (t : Tally) (column : String) (key : Value) :
    writeFilter Sqlite.dialect inline t (some (.leaf column (.ofValue key))) =
      .ok (some (keyText column (t.params + 1) key)) := by
  cases key <;> rfl

end

/-- A statement that the dialect makes of clauses, where the walk meets nothing but values. -/
theorem exists_statement {q : Query} {c : Clauses} {sql : String} {vs : List Value}
    (hclauses : q.clauses Sqlite.dialect (Query.text Sqlite.dialect) .start = .ok c)
    (hsql : Sqlite.statement c = .ok sql) (hwalk : q.walk = vs.map .value) :
    ∃ s, q.statementIn Sqlite.dialect = .ok s ∧ s.sql = sql ∧ s.params.entries = numbered 0 vs := by
  refine ⟨⟨sql, bag 0 q.walk⟩, ?_, rfl, ?_⟩
  · have htext : q.text Sqlite.dialect .start = .ok sql := by
      rw [Query.text_eq, hclauses]
      exact hsql
    rw [Query.statementIn_eq, htext]
    rfl
  · rw [hwalk]
    exact bindingsFrom_values_only 0 vs

/-- **Updating a stored row.** -/
theorem statementIn_update (t : Table) {es : List (String × Value)} (hes : es ≠ []) (key : Value) :
    ∃ s, (keyed t .update (assigned es) key).statementIn Sqlite.dialect = .ok s ∧
      s.sql = "UPDATE " ++ t.name ++ " SET " ++
        joinWith ", " ((es.zipIdx 1).map fun (e, i) =>
          e.1 ++ " = " ++ Sqlite.placeholder (paramName i)) ++
        (" WHERE " ++ keyText t.primaryKey (es.length + 1) key) ∧
      s.params.entries = numbered 0 (es.map Prod.snd ++ keyValues key) := by
  have hwalk : (keyed t .update (assigned es) key).walk =
      (es.map Prod.snd ++ keyValues key).map .value := by
    rw [List.map_append, ← walk_assigned, ← walk_key t.primaryKey]
    rfl
  have hparams : (Tally.start.after (walkAssignments (assigned es))).params = es.length := by
    rw [walk_assigned, Tally.after_params]
    simp [Tally.start, Met.isNumbered]
  have hclauses : (keyed t .update (assigned es) key).clauses Sqlite.dialect
      (Query.text Sqlite.dialect) .start = .ok
        { action := .update, table := t.name
          assignments := (es.zipIdx 1).map fun (e, i) => (e.1, Sqlite.placeholder (paramName i))
          filter := some (keyText t.primaryKey (es.length + 1) key) } := by
    change (writeAssignments Sqlite.dialect _ .start (assigned es) >>= fun entries =>
      writeFilter Sqlite.dialect _ (Tally.start.after (walkAssignments (assigned es)))
        (some (.leaf t.primaryKey (.ofValue key))) >>= fun text => pure _) = _
    rw [write_assigned, write_key, hparams]
    rfl
  refine exists_statement hclauses ?_ hwalk
  obtain ⟨e, es, rfl⟩ := List.exists_cons_of_ne_nil hes
  have hset : (((e :: es).zipIdx 1).map fun (e, i) => (e.1, Sqlite.placeholder (paramName i))).map
      (fun e => e.1 ++ " = " ++ e.2) =
        ((e :: es).zipIdx 1).map fun (e, i) =>
          e.1 ++ " = " ++ Sqlite.placeholder (paramName i) := by
    rw [List.map_map]
    rfl
  rw [← hset]
  rfl

/-- **Deleting a stored row.** -/
theorem statementIn_delete (t : Table) (key : Value) :
    ∃ s, (keyed t .delete [] key).statementIn Sqlite.dialect = .ok s ∧
      s.sql = "DELETE FROM " ++ t.name ++ (" WHERE " ++ keyText t.primaryKey 1 key) ∧
      s.params.entries = numbered 0 (keyValues key) := by
  have hclauses : (keyed t .delete [] key).clauses Sqlite.dialect (Query.text Sqlite.dialect)
      .start = .ok { action := .delete, table := t.name
                     filter := some (keyText t.primaryKey 1 key) } := by
    change (writeFilter Sqlite.dialect _ .start (some (.leaf t.primaryKey (.ofValue key))) >>=
      fun text => pure _) = _
    rw [write_key]
    rfl
  exact exists_statement hclauses rfl (walk_key t.primaryKey key)

end Row

end TableGateway
