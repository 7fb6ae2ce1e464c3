import TableGateway.Dialect.Basic

/-!
# The tagged dialect

A dialect that spells out the clauses of a statement one by one between tags, for rehearsing
requests without an engine. It refuses every statement on the table named `refuse`.
-/

namespace TableGateway.Tagged

/-- One leaf of a condition; the parameters of a list are written by their bare names. -/
def leaf (column : String) : Leaf → String
  | .equality param => "[" ++ column ++ " eq @" ++ param ++ "]"
  | .membership params => "[" ++ column ++ " in " ++ joinWith "|" params ++ "]"
  | .subquery sql => "[" ++ column ++ " sub " ++ sql ++ "]"
  | .isNull => "[" ++ column ++ " null]"

/-- One joined table. -/
def joinClause (j : JoinEntry) : String :=
  j.kind.keyword ++ " " ++ j.table ++ " " ++ j.name ++ " "
    ++ joinWith "&" (j.pairs.map fun (l, r) => l ++ "~" ++ r)

/-- Two texts with a colon between them. -/
def colon (left right : String) : String := left ++ ":" ++ right

/-- Every clause under its tag, in a fixed order. -/
def statement (c : Clauses) : Except Error String :=
  if c.table = "refuse" then .error (.invalidStatement "tagged dialect refuses")
  else .ok (
    "<" ++ c.action.keyword ++ " " ++ c.table
      ++ ";cols=" ++ joinWith "," (c.columns.map fun s => colon s.expr s.name)
      ++ ";joins=" ++ joinWith "," (c.joins.map joinClause)
      ++ ";set=" ++ joinWith "," (c.assignments.map fun (column, v) => colon column v)
      ++ ";where=" ++ c.filter.getD "-"
      ++ ";group=" ++ joinWith "," c.groupBy
      ++ ";having=" ++ c.having.getD "-"
      ++ ";order=" ++ joinWith "," (c.orderBy.map fun (column, d) => colon column d.keyword)
      ++ ";limit=" ++ (match c.limit with
        | some n => toString n.toNat
        | none => "-")
      ++ ";offset=" ++ toString c.offset.toNat ++ ">")

/-- The tagged dialect. -/
def dialect : Dialect where
  name := "tagged"
  placeholder := fun name => "@" ++ name
  leaf := leaf
  statement := statement

end TableGateway.Tagged
