import TableGateway.Clauses
import TableGateway.Table
import TableGateway.Value

/-!
# Requests

A request reads or writes one table. Its conditions are trees of leaves joined by conjunction and
disjunction; an operand of a leaf and a value that is assigned can be a nested select, to any
depth, so the four kinds of tree are defined together.

A request is built step by step: `Query.Step` lists what a caller may add and `Query.apply` adds
it. Conditions grow to the left: a new leaf or tree is joined to everything before it.
-/

namespace TableGateway

/-- The expressions a select returns and their names. -/
structure Projection where
  columns : List NamedExpr
  deriving DecidableEq, Repr

namespace Projection

/-- Columns under their own names. -/
def plain (columns : List String) : Projection := ⟨columns.map fun c => ⟨c, c⟩⟩

/-- Expressions under chosen names, the name first. -/
def renamed (pairs : List (String × String)) : Projection :=
  ⟨pairs.map fun (name, expr) => ⟨expr, name⟩⟩

/-- The names of the returned columns. -/
def names (p : Projection) : List String := p.columns.map NamedExpr.name

end Projection

/-- A joined table, with pairs of a column of it and a column of the request. -/
structure Join where
  table : Table
  kind : JoinKind
  pairs : List (String × String)
  deriving DecidableEq, Repr

/-- What a select returns. Without a projection these are the table's columns, qualified when
another table is joined so that shared names stay unambiguous. -/
def Projection.selected (table : Table) (projection : Option Projection) (joins : List Join) :
    Projection :=
  match projection with
  | some p => p
  | none =>
    if joins.isEmpty then .plain table.columns
    else .renamed (table.columns.map fun c => (c, table.name ++ "." ++ c))

mutual

/-- A request on one table. -/
structure Query where
  table : Table
  action : Action
  projection : Option Projection
  assignments : List (String × Assigned)
  joins : List Join
  filter : Option Condition
  having : Option Condition
  groupBy : List String
  orderBy : List (String × Direction)
  limit : Option UInt64
  offset : UInt64

/-- What a column is set to. -/
inductive Assigned where
  | value (v : Value)
  | subquery (q : Query)

/-- A condition on rows or groups. -/
inductive Condition where
  | leaf (column : String) (operand : Operand)
  | conj (left right : Condition)
  | disj (left right : Condition)

/-- What a column is compared with. -/
inductive Operand where
  | scalar (v : Value)
  | list (vs : List Value)
  | null
  | subquery (q : Query)

end

/-- How a condition is joined to what is there already. -/
inductive Connective where
  | conj
  | disj
  deriving DecidableEq, Repr

/-- A condition, or none at all. -/
abbrev Filter := Option Condition

namespace Operand

/-- A value to compare with; null asks for null columns. -/
def ofValue : Value → Operand
  | .null => null
  | v => scalar v

/-- A nested select to compare with. -/
def ofQuery (q : Query) : Except Error Operand :=
  if q.action = .select then .ok (subquery q) else .error (.subqueryAction q.action.keyword)

end Operand

namespace Assigned

/-- A nested select whose value is assigned. -/
def ofQuery (q : Query) : Except Error Assigned :=
  if q.action = .select then .ok (subquery q) else .error (.subqueryAction q.action.keyword)

end Assigned

namespace Condition

/-- Two conditions joined. -/
def combine (op : Connective) (left right : Condition) : Condition :=
  match op with
  | .conj => conj left right
  | .disj => disj left right

/-- The number of leaves. -/
def size : Condition → Nat
  | leaf _ _ => 1
  | conj l r => l.size + r.size
  | disj l r => l.size + r.size

end Condition

/-! ### Building conditions -/

namespace Filter

/-- No condition. -/
def empty : Filter := none

/-- Joins one leaf to the condition so far. -/
def push (f : Filter) (op : Connective) (column : String) (operand : Operand) : Filter :=
  match f with
  | none => some (.leaf column operand)
  | some root => some (.combine op root (.leaf column operand))

/-- Joins a whole condition to the condition so far; an empty one changes nothing. -/
def append (f : Filter) (op : Connective) (other : Filter) : Filter :=
  match f, other with
  | f, none => f
  | none, some c => some c
  | some root, some c => some (.combine op root c)

/-- The number of leaves. -/
def size (f : Filter) : Nat := f.elim 0 Condition.size

/-- What one step of building a condition adds. -/
inductive Term where
  /-- One leaf. -/
  | pair (column : String) (operand : Operand)
  /-- Several leaves, joined one at a time. -/
  | pairs (entries : List (String × Operand))
  /-- A condition built elsewhere, joined as one unit. -/
  | tree (f : Filter)

/-- Joins a term to the condition so far. -/
def add (f : Filter) (op : Connective) : Term → Filter
  | .pair column operand => f.push op column operand
  | .pairs entries => entries.foldl (fun f (column, operand) => f.push op column operand) f
  | .tree other => f.append op other

/-- Joins terms one after the other. -/
def addAll (f : Filter) (terms : List (Connective × Term)) : Filter :=
  terms.foldl (fun f (op, term) => f.add op term) f

end Filter

/-! ### Building requests -/

namespace Query

/-- A request without any clause. -/
def new (table : Table) (action : Action) : Query where
  table := table
  action := action
  projection := none
  assignments := []
  joins := []
  filter := none
  having := none
  groupBy := []
  orderBy := []
  limit := none
  offset := 0

/-- An ordering entry: a leading minus sign asks for descending order, a leading plus sign is
dropped. -/
def orderEntry (text : String) : String × Direction :=
  match text.toList with
  | '-' :: rest => (String.ofList rest, .desc)
  | '+' :: rest => (String.ofList rest, .asc)
  | _ => (text, .asc)

/-- What one step of building a request adds. -/
inductive Step where
  | columns (p : Projection)
  | set (column : String) (value : Assigned)
  | setAll (entries : List (String × Assigned))
  | filter (op : Connective) (term : Filter.Term)
  | having (op : Connective) (term : Filter.Term)
  | groupBy (columns : List String)
  | orderBy (entries : List String)
  | limit (n : UInt64)
  | offset (n : UInt64)
  | join (table : Table) (kind : JoinKind) (pairs : List (String × String))

/-- Adds one step. The last projection, limit and offset count; everything else accumulates. -/
def apply (q : Query) : Step → Query
  | .columns p => { q with projection := some p }
  | .set column value => { q with assignments := q.assignments ++ [(column, value)] }
  | .setAll entries => { q with assignments := q.assignments ++ entries }
  | .filter op term => { q with filter := Filter.add q.filter op term }
  | .having op term => { q with having := Filter.add q.having op term }
  | .groupBy columns => { q with groupBy := q.groupBy ++ columns }
  | .orderBy entries => { q with orderBy := q.orderBy ++ entries.map orderEntry }
  | .limit n => { q with limit := some n }
  | .offset n => { q with offset := n }
  | .join table kind pairs => { q with joins := q.joins ++ [⟨table, kind, pairs⟩] }

/-- Adds several steps in order. -/
def applyAll (q : Query) (steps : List Step) : Query := steps.foldl apply q

/-- A select is a read and everything else is a write. -/
def mode (q : Query) : Mode := if q.action = .select then .read else .write

/-- What a request returns if it is a select. -/
def selection (q : Query) : Projection := .selected q.table q.projection q.joins

/-- A request that returns no rows where rows are wanted. -/
def expectRows (q : Query) : Except Error Unit :=
  if q.action = .select then .ok ()
  else .error (.invalidStatement ("only SELECT requests return rows, got " ++ q.action.keyword))

end Query

end TableGateway
