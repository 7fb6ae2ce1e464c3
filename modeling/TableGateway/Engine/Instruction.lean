import TableGateway.Clauses
import TableGateway.Engine.Arithmetic

/-!
# Instructions

The tree of one instruction. Expressions are generic in how they refer to columns: as read they do
it by `ColumnName`, later by position.
-/

namespace TableGateway.Engine

/-- How two sides are compared. -/
inductive Comparison where
  | eq
  | ne
  | lt
  | le
  | gt
  | ge
  deriving DecidableEq, Repr

/-- What a group is summed up to. -/
inductive Summary where
  /-- The number of data that are not nothing. -/
  | count
  /-- The sum, which is nothing if there are no data. -/
  | sum
  /-- The sum as a real. -/
  | total
  | average
  | largest
  | smallest
  deriving DecidableEq, Repr

/-- How a name is written. -/
inductive Spelling where
  | plain
  /-- In double quotes: where there is no such column, it is the text itself. -/
  | doubled
  /-- In other quotes. -/
  | quoted
  deriving DecidableEq, Repr

/-- A column as it is named: perhaps with the table it belongs to. -/
structure ColumnName where
  table : Option String
  name : String
  spelling : Spelling := .plain
  deriving DecidableEq, Repr

mutual

/-- An expression over columns that are referred to by `γ`. -/
inductive Expr (γ : Type) where
  | constant (d : Datum)
  /-- A truth value that is written as such. -/
  | truth (b : Bool)
  | param (name : String)
  | column (c : γ)
  | signed (op : Sign) (e : Expr γ)
  | operation (op : Operation) (l r : Expr γ)
  | comparison (op : Comparison) (l r : Expr γ)
  /-- Equal, where nothing equals nothing. -/
  | same (l r : Expr γ)
  /-- Not equal, where nothing equals nothing. -/
  | different (l r : Expr γ)
  /-- At least one side and at most the other. -/
  | between (e low high : Expr γ)
  | both (l r : Expr γ)
  | either (l r : Expr γ)
  | negation (e : Expr γ)
  /-- A condition that is known to hold, or not to hold, whatever the row is. -/
  | settled (e : Expr γ) (holds : Bool)
  /-- Equal to one of several items. -/
  | among (e : Expr γ) (items : List (Expr γ))
  /-- Equal to the first column of a row of a select. -/
  | amongRows (e : Expr γ) (q : Select γ)
  /-- A select has a row. -/
  | present (q : Select γ)
  /-- The first column of the first row of a select. -/
  | firstOf (q : Select γ)
  | cast (a : Affinity) (e : Expr γ)
  /-- The number of rows of a group. -/
  | size
  /-- The data of an expression over a group, summed up; equal ones once if `distinct`. -/
  | summary (s : Summary) (distinct : Bool) (e : Expr γ)

/-- A selected item. -/
inductive Item (γ : Type) where
  | all
  | allOf (table : String)
  | expr (e : Expr γ) (name : Option String)

/-- Where rows come from. -/
inductive Source (γ : Type) where
  | table (name label : String)
  | nested (q : Select γ) (label : String)

/-- A source joined to those before it. -/
inductive Joined (γ : Type) where
  | mk (kind : JoinKind) (source : Source γ) (condition : Option (Expr γ))

/-- One ordering entry. -/
inductive Ordered (γ : Type) where
  | mk (e : Expr γ) (direction : Direction)

/-- A select without ordering and paging. -/
inductive Core (γ : Type) where
  | mk (distinct : Bool) (items : List (Item γ)) (sources : List (Joined γ))
      (filter : Option (Expr γ)) (groupBy : List (Expr γ)) (having : Option (Expr γ))

/-- One or more selects whose rows follow each other. -/
inductive Select (γ : Type) where
  | mk (cores : List (Core γ)) (orderBy : List (Ordered γ)) (limit offset : Option (Expr γ))

end

/-- A column of a table to be created. -/
structure ColumnDef where
  name : String
  affinity : Affinity := .blob
  /-- It is declared as `INTEGER`, which makes a key column the key of the stored rows. -/
  isInteger : Bool := false
  isKey : Bool := false
  notNull : Bool := false
  unique : Bool := false
  /-- How large its data are supposed to be, where an integer counts as one. -/
  size : Nat := 1
  deriving DecidableEq, Repr

/-- What a broken constraint undoes. -/
inductive Undo where
  /-- The instruction that broke it. -/
  | instruction
  /-- The whole transaction. -/
  | transaction
  deriving DecidableEq, Repr

/-- What a transaction takes of its file when it begins. -/
inductive Demand where
  | nothing
  /-- The right to change it. -/
  | write
  /-- The whole of it. -/
  | exclusive
  deriving DecidableEq, Repr

/-- One instruction to the engine. -/
inductive Instruction (γ : Type) where
  | select (q : Select γ)
  | insert (undo : Undo) (table : String) (columns : Option (List String))
      (rows : List (List (Expr γ)))
  | update (undo : Undo) (table : String) (assignments : List (String × Expr γ))
      (filter : Option (Expr γ))
  | delete (table : String) (filter : Option (Expr γ))
  | create (table : String) (unlessPresent : Bool) (columns : List ColumnDef)
  | begin (demand : Demand)
  | commit
  | rollback

/-! ### Tables that are named -/

mutual

/-- The names of the tables that an expression reads from. -/
def Expr.tables {γ : Type} : Expr γ → List String
  | .constant _ | .truth _ | .param _ | .column _ | .size => []
  | .signed _ e | .negation e | .settled e _ | .cast _ e | .summary _ _ e => e.tables
  | .operation _ l r | .comparison _ l r | .same l r | .different l r | .both l r | .either l r =>
    l.tables ++ r.tables
  | .between e low high => e.tables ++ low.tables ++ high.tables
  | .among e items => e.tables ++ tablesOfAll items
  | .amongRows e q => e.tables ++ q.tables
  | .present q | .firstOf q => q.tables

/-- The names of the tables that several expressions read from. -/
def tablesOfAll {γ : Type} : List (Expr γ) → List String
  | [] => []
  | e :: rest => e.tables ++ tablesOfAll rest

/-- The names of the tables that an expression reads from, if there is one. -/
def tablesOfOption {γ : Type} : Option (Expr γ) → List String
  | none => []
  | some e => e.tables

/-- The names of the tables that selected items read from. -/
def tablesOfItems {γ : Type} : List (Item γ) → List String
  | [] => []
  | .expr e _ :: rest => e.tables ++ tablesOfItems rest
  | _ :: rest => tablesOfItems rest

/-- The names of the tables among joined sources and in their conditions. -/
def tablesOfSources {γ : Type} : List (Joined γ) → List String
  | [] => []
  | .mk _ (.table name _) condition :: rest =>
    name :: tablesOfOption condition ++ tablesOfSources rest
  | .mk _ (.nested q _) condition :: rest =>
    q.tables ++ tablesOfOption condition ++ tablesOfSources rest

/-- The names of the tables that ordering entries read from. -/
def tablesOfOrder {γ : Type} : List (Ordered γ) → List String
  | [] => []
  | .mk e _ :: rest => e.tables ++ tablesOfOrder rest

/-- The names of the tables that several selects read from. -/
def tablesOfCores {γ : Type} : List (Core γ) → List String
  | [] => []
  | .mk _ items sources filter groupBy having :: rest =>
    tablesOfItems items ++ tablesOfSources sources ++ tablesOfOption filter
      ++ tablesOfAll groupBy ++ tablesOfOption having ++ tablesOfCores rest

/-- The names of the tables that a select reads from. -/
def Select.tables {γ : Type} : Select γ → List String
  | .mk cores orderBy limit offset =>
    tablesOfCores cores ++ tablesOfOrder orderBy ++ tablesOfOption limit ++ tablesOfOption offset

end

/-- The name of the table that an instruction changes the rows of. -/
def Instruction.target? {γ : Type} : Instruction γ → Option String
  | .insert _ table _ _ | .update _ table _ _ | .delete table _ => some table
  | _ => none

/-- The names of the tables that an instruction only reads from. -/
def Instruction.tables {γ : Type} : Instruction γ → List String
  | .select q => q.tables
  | .insert _ _ _ rows => rows.flatMap tablesOfAll
  | .update _ _ assignments filter =>
    tablesOfAll (assignments.map Prod.snd) ++ tablesOfOption filter
  | .delete _ filter => tablesOfOption filter
  | _ => []

end TableGateway.Engine
