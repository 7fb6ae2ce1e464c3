import TableGateway.Clauses
import TableGateway.Text.Joined

/-!
# Dialects

A dialect is how one engine writes SQL: placeholders, the leaves of a condition, conjunction and
disjunction, whole statements, and the statement that counts the rows of another. A dialect never
sees a value. What most dialects share is given as a default.
-/

namespace TableGateway

/-- The shape of one leaf of a condition, its parameters already named. -/
inductive Leaf where
  /-- The column equals a parameter. -/
  | equality (param : String)
  /-- The column is one of several parameters. -/
  | membership (params : List String)
  /-- The column is one of the rows of a sub-select. -/
  | subquery (sql : String)
  /-- The column is null. -/
  | isNull
  deriving DecidableEq, Repr

/-- How one engine writes SQL. -/
structure Dialect where
  name : String
  placeholder : String → String
  leaf : String → Leaf → String
  /-- Both of two conditions. -/
  conj : String → String → String := fun l r => "(" ++ l ++ ") AND (" ++ r ++ ")"
  /-- At least one of two conditions. -/
  disj : String → String → String := fun l r => "(" ++ l ++ ") OR (" ++ r ++ ")"
  statement : Clauses → Except Error String
  /-- The statement whose only row tells how many rows another statement yields. -/
  count : String → String := fun sql => "SELECT COUNT(*) FROM (" ++ sql ++ ") AS counted"

end TableGateway
