import TableGateway.Dialect.Sqlite
import TableGateway.Params
import TableGateway.Query.Basic

/-!
# Statements of requests

Compiling a request writes its statement in a dialect and collects the values it binds. The
request is walked once, and one pair of counters names every parameter and every joined table of
the whole statement: first the joins, then the assignments, then the condition on rows, then the
condition on groups, each depth first and from left to right, nested selects at their position.
Clauses that the action does not use are not walked at all.
-/

namespace TableGateway

/-- SQL text and the values it binds. -/
structure Statement where
  sql : String
  params : Params
  deriving DecidableEq, Repr

/-- The clause of one join. A column of the request that has no qualifier gets its table's name. -/
def Join.entry (j : Join) (source name : String) : JoinEntry where
  kind := j.kind
  table := j.table.name
  name := name
  pairs := j.pairs.map fun (target, column) =>
    (name ++ "." ++ target,
      if column.toList.contains '.' then column else source ++ "." ++ column)

/-- The clauses of all joins, each under the next alias. -/
def joinEntries (source : String) : List Join → Numbering (List JoinEntry)
  | [] => pure []
  | j :: rest => do
    let name ← Numbering.nextAlias
    let clauses ← joinEntries source rest
    return j.entry source name :: clauses

/-- Adds the parameters of a rendered condition to a bag. -/
def mergeCondition (params : Params) :
    Option (String × Params) → Except Error (Option String × Params)
  | none => .ok (none, params)
  | some (sql, own) => do
    let params ← params.merge own
    return (some sql, params)

mutual

/-- The statement of a request inside a larger one. -/
def Query.lower (d : Dialect) : Query → Numbering Statement
  | ⟨table, .select, projection, _, joins, filter, having, groupBy, orderBy, limit, offset⟩ => do
    let clauses ← joinEntries table.name joins
    let filterText ← lowerFilter d filter
    let (filterText, params) ← mergeCondition .empty filterText
    let havingText ← lowerFilter d having
    let (havingText, params) ← mergeCondition params havingText
    let sql ← d.statement
      { action := .select, table := table.name
        columns := (Projection.selected table projection joins).columns
        joins := clauses, filter := filterText, groupBy := groupBy, having := havingText
        orderBy := orderBy, limit := limit, offset := offset }
    return ⟨sql, params⟩
  | ⟨table, .insert, _, assignments, _, _, _, _, _, _, _⟩ => do
    let (entries, params) ← lowerAssignments d assignments .empty
    let sql ← d.statement { action := .insert, table := table.name, assignments := entries }
    return ⟨sql, params⟩
  | ⟨table, .update, _, assignments, _, filter, _, _, _, _, _⟩ => do
    let (entries, params) ← lowerAssignments d assignments .empty
    let filterText ← lowerFilter d filter
    let (filterText, params) ← mergeCondition params filterText
    let sql ← d.statement
      { action := .update, table := table.name, assignments := entries, filter := filterText }
    return ⟨sql, params⟩
  | ⟨table, .delete, _, _, _, filter, _, _, _, _, _⟩ => do
    let filterText ← lowerFilter d filter
    let (filterText, params) ← mergeCondition .empty filterText
    let sql ← d.statement { action := .delete, table := table.name, filter := filterText }
    return ⟨sql, params⟩

/-- The assigned columns with their rendered values. -/
def lowerAssignments (d : Dialect) :
    List (String × Assigned) → Params → Numbering (List (String × String) × Params)
  | [], params => pure ([], params)
  | entry :: rest, params => do
    let (rendered, params) ← lowerAssignment d entry params
    let (others, params) ← lowerAssignments d rest params
    return (rendered :: others, params)

/-- One assigned column with its rendered value. -/
def lowerAssignment (d : Dialect) :
    String × Assigned → Params → Numbering ((String × String) × Params)
  | (column, assigned), params => do
    let (text, params) ← assigned.lower d params
    return ((column, text), params)

/-- An assigned value: a placeholder, or a nested select in parentheses. -/
def Assigned.lower (d : Dialect) : Assigned → Params → Numbering (String × Params)
  | .value v, params => do
    let (name, params) ← Numbering.bindValue v params
    return (d.placeholder name, params)
  | .subquery q, params => do
    let nested ← q.lower d
    let params ← params.merge nested.params
    return ("(" ++ nested.sql ++ ")", params)

/-- The text of a condition, if there is one, and the values it binds. -/
def lowerFilter (d : Dialect) : Option Condition → Numbering (Option (String × Params))
  | none => pure none
  | some c => do
    let rendered ← c.lower d
    return some rendered

/-- The text of a condition and the values it binds. -/
def Condition.lower (d : Dialect) : Condition → Numbering (String × Params)
  | .leaf column operand => operand.lower d column
  | .conj left right => do
    let (leftText, params) ← left.lower d
    let (rightText, own) ← right.lower d
    let params ← params.merge own
    return (d.conj leftText rightText, params)
  | .disj left right => do
    let (leftText, params) ← left.lower d
    let (rightText, own) ← right.lower d
    let params ← params.merge own
    return (d.disj leftText rightText, params)

/-- The text of a leaf and the values it binds. -/
def Operand.lower (d : Dialect) (column : String) : Operand → Numbering (String × Params)
  | .scalar v => do
    let (name, params) ← Numbering.bindValue v .empty
    return (d.leaf column (.equality name), params)
  | .list vs => do
    let (names, params) ← Numbering.bindAll vs .empty
    return (d.leaf column (.membership names), params)
  | .null => pure (d.leaf column .isNull, .empty)
  | .subquery q => do
    let nested ← q.lower d
    let params ← Params.empty.merge nested.params
    return (d.leaf column (.subquery nested.sql), params)

end

/-- The statement of a request of its own. -/
def Query.statementIn (d : Dialect) (q : Query) : Except Error Statement :=
  (q.lower d).run' Tally.start

/-- The text of a condition of its own and the values it binds. -/
def Filter.render (d : Dialect) (f : Filter) : Except Error (Option (String × Params)) :=
  (lowerFilter d f).run' Tally.start

/-- A condition as shown to a person: in the SQLite dialect, or the error it meets. -/
def Filter.display (f : Filter) : String :=
  match f.render Sqlite.dialect with
  | .ok (some (sql, _)) => sql
  | .ok none => ""
  | .error e => "<" ++ e.message ++ ">"

namespace Query

/-- The dialects of the registered pools, by name. -/
abbrev Dialects := String → Except Error Dialect

/-- The statement of a request in the dialect of the pool it will run on. -/
def statement (dialects : Dialects) (q : Query) : Except Error Statement := do
  let d ← dialects (q.table.poolOf q.mode)
  q.statementIn d

/-- Whether grouping, a condition on groups or paging decides how many rows come back. -/
def reshapes (q : Query) : Bool :=
  !q.groupBy.isEmpty || q.having.isSome || q.limit.isSome || decide (0 < q.offset)

/-- The only column of a counting select. -/
def rowCount : Projection := .renamed [("count", "COUNT(*)")]

/-- The statement that counts the rows of a select. When nothing shapes the result the projection
becomes the count itself; otherwise the whole select is counted from outside. Ordering is left
out. -/
def countStatement (dialects : Dialects) (q : Query) : Except Error Statement := do
  let d ← dialects (q.table.poolOf .read)
  let counted := { q with orderBy := [] }
  if q.reshapes then
    let inner ← counted.statementIn d
    return ⟨d.count inner.sql, inner.params⟩
  else
    Query.statementIn d { counted with projection := some rowCount }

end Query

end TableGateway
