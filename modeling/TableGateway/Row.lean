import TableGateway.Backend.Call
import TableGateway.Json.Writer
import TableGateway.Query.Basic
import TableGateway.Registry

/-!
# Rows

A fetched row holds values under column names and can be changed, saved and deleted. Which stored
row it stands for is fixed by the key value it was fetched with, whatever is done to its columns;
a successful save moves that key along.
-/

namespace TableGateway

/-- A row of a table. -/
structure Row where
  table : Table
  data : Registry String Value
  /-- The key the row was fetched or last saved with, if its key column was fetched. -/
  key : Option Value

namespace Row

/-- A fetched row. Names and values are paired up to the shorter list; of a name that comes twice
the first place and the last value count. -/
def fetched (table : Table) (columns : List String) (raw : Record) : Row :=
  let data := Registry.ofList (columns.zip raw)
  ⟨table, data, data.get? table.primaryKey⟩

/-- The value of a column. -/
def get? (r : Row) (column : String) : Option Value := r.data.get? column

/-- Sets a column. -/
def set (r : Row) (column : String) (value : Value) : Row :=
  { r with data := r.data.insert column value }

/-- The names of the held columns, in order. -/
def columns (r : Row) : List String := r.data.keys

/-- The key, if the row has one. -/
def requireKey (r : Row) : Except Error Value :=
  match r.key with
  | some key => .ok key
  | none => .error (.primaryKeyMissing r.table.name r.table.primaryKey)

/-- The held columns that belong to the table, with their values. -/
def assignments (r : Row) : List (String × Assigned) :=
  (r.data.entries.filter fun e => r.table.declares e.1).map fun (c, v) => (c, .value v)

/-- A request on the stored row with the given key. -/
def keyed (table : Table) (action : Action) (entries : List (String × Assigned)) (key : Value) :
    Query :=
  ((Query.new table action).apply (.setAll entries)).apply
    (.filter .conj (.pair table.primaryKey (.ofValue key)))

/-- The request that writes the held columns back. -/
def saveRequest (r : Row) : Except Error Query := do
  let key ← r.requireKey
  return keyed r.table .update r.assignments key

/-- The request that deletes the stored row. -/
def deleteRequest (r : Row) : Except Error Query := do
  let key ← r.requireKey
  return keyed r.table .delete [] key

/-- The row after a successful save: it stands for the stored row with the key it holds now. -/
def saved (r : Row) : Row :=
  match r.get? r.table.primaryKey with
  | some key => { r with key := some key }
  | none => r

/-- The row as JSON text with its columns in their order. -/
def toJson (r : Row) : String := Json.writeObject r.data.entries

/-- The row as JSON text with its columns sorted. -/
def toSortedJson (r : Row) : String :=
  Json.writeObject (r.data.entries.mergeSort fun a b => decide (a.1 ≤ b.1))

end Row

end TableGateway
