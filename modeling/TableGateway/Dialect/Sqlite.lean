import TableGateway.Dialect.Basic

/-!
# The SQLite dialect

Parameters are written `:name`. A select without columns selects `*`, a column whose name is its
own expression is written once, and an offset without a limit needs the unbounded limit `-1`. An
empty list is a valid `IN ()` and matches nothing.
-/

namespace TableGateway.Sqlite

/-- A named parameter. -/
def placeholder (name : String) : String := ":" ++ name

/-- One leaf of a condition. -/
def leaf (column : String) : Leaf → String
  | .equality param => column ++ " = " ++ placeholder param
  | .membership params => column ++ " IN (" ++ joinWith ", " (params.map placeholder) ++ ")"
  | .subquery sql => column ++ " IN (" ++ sql ++ ")"
  | .isNull => column ++ " IS NULL"

/-- One selected column. -/
def selectColumn (c : NamedExpr) : String :=
  if c.expr = c.name then c.expr else c.expr ++ " AS " ++ c.name

/-- The select list. -/
def selectList (columns : List NamedExpr) : String :=
  if columns.isEmpty then "*" else joinWith ", " (columns.map selectColumn)

/-- One joined table, with a leading blank. -/
def joinClause (j : JoinEntry) : String :=
  " " ++ j.kind.keyword ++ " JOIN " ++ j.table ++ " AS " ++ j.name ++
    if j.pairs.isEmpty then ""
    else " ON " ++ joinWith " AND " (j.pairs.map fun (l, r) => l ++ " = " ++ r)

/-- A select up to its joins. -/
def selectHead (c : Clauses) : String :=
  "SELECT " ++ selectList c.columns ++ " FROM " ++ c.table ++ joinWith "" (c.joins.map joinClause)

/-- An insert of one row. -/
def insertHead (c : Clauses) : String :=
  if c.assignments.isEmpty then "INSERT INTO " ++ c.table ++ " DEFAULT VALUES"
  else
    "INSERT INTO " ++ c.table ++ " (" ++ joinWith ", " (c.assignments.map Prod.fst)
      ++ ") VALUES (" ++ joinWith ", " (c.assignments.map Prod.snd) ++ ")"

/-- An update up to its assignments; it must have some. -/
def updateHead (c : Clauses) : Except Error String :=
  if c.assignments.isEmpty then
    .error (.invalidStatement ("UPDATE on `" ++ c.table ++ "` has no columns to set"))
  else
    .ok ("UPDATE " ++ c.table ++ " SET "
      ++ joinWith ", " (c.assignments.map fun (column, value) => column ++ " = " ++ value))

/-- The clause of an optional condition, with a leading blank. -/
def conditionClause (word : String) : Option String → String
  | none => ""
  | some text => " " ++ word ++ " " ++ text

/-- A clause that lists entries, absent when there are none, with a leading blank. -/
def listClause (words : String) (items : List String) : String :=
  if items.isEmpty then "" else " " ++ words ++ " " ++ joinWith ", " items

/-- How many rows to return and how many to skip first, with a leading blank. -/
def paging (limit : Option UInt64) (offset : UInt64) : String :=
  match limit with
  | some n =>
    if offset = 0 then " LIMIT " ++ toString n.toNat
    else " LIMIT " ++ toString n.toNat ++ " OFFSET " ++ toString offset.toNat
  | none => if offset = 0 then "" else " LIMIT -1 OFFSET " ++ toString offset.toNat

/-- What follows the condition of a select. -/
def selectTail (c : Clauses) : String :=
  listClause "GROUP BY" c.groupBy ++ conditionClause "HAVING" c.having
    ++ listClause "ORDER BY" (c.orderBy.map fun (column, d) => column ++ " " ++ d.keyword)
    ++ paging c.limit c.offset

/-- A whole statement. A condition is written for every action; grouping, ordering and paging only
for a select. -/
def statement (c : Clauses) : Except Error String := do
  let head ← match c.action with
    | .select => pure (selectHead c)
    | .insert => pure (insertHead c)
    | .update => updateHead c
    | .delete => pure ("DELETE FROM " ++ c.table)
  let filtered := head ++ conditionClause "WHERE" c.filter
  if c.action = .select then return filtered ++ selectTail c else return filtered

/-- The dialect of the SQLite engine. -/
def dialect : Dialect where
  name := "sqlite"
  placeholder := placeholder
  leaf := leaf
  statement := statement

end TableGateway.Sqlite
