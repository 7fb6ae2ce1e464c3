import TableGateway.Error

/-!
# Clauses of a statement

The shape of one statement that no dialect has written down yet: every condition is already
rendered and every value is already a placeholder, so a dialect only has to put the clauses
together.
-/

namespace TableGateway

/-- What a request does. -/
inductive Action where
  | select
  | insert
  | update
  | delete
  deriving DecidableEq, Repr

namespace Action

/-- The keyword of an action. -/
def keyword : Action → String
  | select => "SELECT"
  | insert => "INSERT"
  | update => "UPDATE"
  | delete => "DELETE"

/-- The ASCII upper case of a character; every other character is left alone. -/
def upperChar (c : Char) : Char :=
  if 'a' ≤ c && c ≤ 'z' then Char.ofNat (c.toNat - 32) else c

/-- The action a text names, in letters of either case. -/
def parse (text : String) : Except Error Action :=
  let upper := String.ofList (text.toList.map upperChar)
  if upper = "SELECT" then .ok select
  else if upper = "INSERT" then .ok insert
  else if upper = "UPDATE" then .ok update
  else if upper = "DELETE" then .ok delete
  else .error (.unsupportedAction text)

end Action

/-- How a table is joined. -/
inductive JoinKind where
  | inner
  | left
  | right
  | full
  | cross
  deriving DecidableEq, Repr

namespace JoinKind

/-- The keyword of a kind of join. -/
def keyword : JoinKind → String
  | inner => "INNER"
  | left => "LEFT"
  | right => "RIGHT"
  | full => "FULL"
  | cross => "CROSS"

instance : Inhabited JoinKind := ⟨left⟩

end JoinKind

/-- The direction of one ordering entry. -/
inductive Direction where
  | asc
  | desc
  deriving DecidableEq, Repr

namespace Direction

/-- The keyword of a direction. -/
def keyword : Direction → String
  | asc => "ASC"
  | desc => "DESC"

instance : Inhabited Direction := ⟨asc⟩

end Direction

/-- One selected expression and the name it is given. -/
structure NamedExpr where
  expr : String
  name : String
  deriving DecidableEq, Repr

/-- One joined table; `pairs` are qualified columns that must be equal. -/
structure JoinEntry where
  kind : JoinKind
  table : String
  name : String
  pairs : List (String × String)
  deriving DecidableEq, Repr

/-- Everything a dialect needs to write one statement. -/
structure Clauses where
  action : Action
  table : String
  columns : List NamedExpr := []
  joins : List JoinEntry := []
  /-- Columns and the rendered values they are given. -/
  assignments : List (String × String) := []
  filter : Option String := none
  groupBy : List String := []
  having : Option String := none
  orderBy : List (String × Direction) := []
  limit : Option UInt64 := none
  offset : UInt64 := 0
  deriving DecidableEq, Repr

end TableGateway
