import TableGateway.Error
import TableGateway.Text.Quoted

/-!
# Tables

A table has a name, columns, one of which is its key, and the names of the pools its reads and
writes go to. A `Table.Draft` collects these; `Table.Draft.build` checks the key.
-/

namespace TableGateway

/-- What a connection is wanted for. -/
inductive Mode where
  | read
  | write
  deriving DecidableEq, Repr

namespace Mode

/-- The word for a mode. -/
def word : Mode → String
  | read => "read"
  | write => "write"

/-- The mode a text names, exactly. -/
def parse (text : String) : Except Error Mode :=
  if text = "read" then .ok read
  else if text = "write" then .ok write
  else .error (.unsupportedMode text)

end Mode

/-- The pool of a table that names none. -/
def defaultPool : String := "default"

/-- A table whose key is one of its columns. -/
structure Table where
  name : String
  columns : List String
  primaryKey : String
  readPool : String
  writePool : String
  key_mem : primaryKey ∈ columns
  deriving DecidableEq, Repr

/-- A table that is still being described. -/
structure Table.Draft where
  name : String
  columns : List String := []
  primaryKey : String := "id"
  readPool : Option String := none
  writePool : Option String := none
  deriving DecidableEq, Repr

namespace Table

namespace Draft

/-- Adds one column. -/
def column (d : Draft) (name : String) : Draft := { d with columns := d.columns ++ [name] }

/-- Adds several columns. -/
def addColumns (d : Draft) (names : List String) : Draft :=
  { d with columns := d.columns ++ names }

/-- Chooses the key. -/
def key (d : Draft) (column : String) : Draft := { d with primaryKey := column }

/-- Chooses the pool of one mode. -/
def pool (d : Draft) (mode : Mode) (name : String) : Draft :=
  match mode with
  | .read => { d with readPool := some name }
  | .write => { d with writePool := some name }

/-- The finished table, if its key is one of its columns. -/
def build (d : Draft) : Except Error Table :=
  if h : d.primaryKey ∈ d.columns then
    .ok ⟨d.name, d.columns, d.primaryKey, d.readPool.getD defaultPool,
      d.writePool.getD defaultPool, h⟩
  else .error (.primaryKeyUndefined d.name d.primaryKey)

end Draft

/-- The name of the pool a mode goes to. -/
def poolOf (t : Table) : Mode → String
  | .read => t.readPool
  | .write => t.writePool

/-- Whether the table has a column of this name. -/
def declares (t : Table) (column : String) : Bool := decide (column ∈ t.columns)

/-- The table as shown to a person. -/
def display (t : Table) : String :=
  "Table \x7b name: " ++ Text.quote t.name ++ ", columns: " ++ Text.quoteList t.columns
    ++ ", primary_key: " ++ Text.quote t.primaryKey ++ ", read: " ++ Text.quote t.readPool
    ++ ", write: " ++ Text.quote t.writePool ++ " \x7d"

end Table

end TableGateway
