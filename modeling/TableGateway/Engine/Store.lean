import TableGateway.Engine.Select

/-!
# Stored tables

A stored table keeps its rows sorted by an integer key. If a column is declared as
`INTEGER PRIMARY KEY` it holds that key; otherwise the key is hidden. A change that breaks a
constraint fails as a whole and leaves the database as it was: `insert`, `update` and `delete`
either return the changed table or the reason why there is none.
-/

namespace TableGateway.Engine

/-- A stored table. -/
structure Stored where
  name : String
  columns : List ColumnDef
  /-- The rows with their keys, in the order of the keys. -/
  rows : List (Int64 × Cells)

/-- A database is its tables. -/
structure Database where
  tables : List Stored

/-- A broken constraint. -/
def violation : EngineError := .failure EngineError.constraintCode "constraint failed"

namespace Stored

/-- The position of the column that holds the key of the rows. -/
def keyIndex? (t : Stored) : Option Nat := t.columns.findIdx? ColumnDef.isRowKey

/-- The position of a column; the column that holds the key also goes by the names of keys. -/
def index? (t : Stored) (name : String) : Option Nat :=
  match t.columns.findIdx? fun c => sameName c.name name with
  | some i => some i
  | none => if isKeyName name then t.keyIndex? else none

/-- The columns as they can be named. -/
def visible (t : Stored) : List Visible :=
  visibleColumns t.name t.columns

/-- A row as selects read it: its key stands behind its cells. -/
def readRow (row : Int64 × Cells) : Cells := row.2 ++ [.integer row.1]

/-- The key of the next row: the one after the greatest, or, where there is none, the greatest that
is free. -/
def nextKey (t : Stored) : Int64 :=
  match t.rows.getLast? with
  | none => 1
  | some (k, _) =>
    if k.toInt < greatestInteger then k + 1
    else t.rows.foldr (fun (k, _) free => if k == free then free - 1 else free) k

/-- Puts a row where its key belongs. -/
def place (key : Int64) (cells : Cells) : List (Int64 × Cells) → List (Int64 × Cells)
  | [] => [(key, cells)]
  | (k, other) :: rest =>
    if key < k then (key, cells) :: (k, other) :: rest else (k, other) :: place key cells rest

/-- The cells as their columns prefer them. -/
def prefer (t : Stored) (cells : Cells) : Cells :=
  t.columns.zipWith (fun c d => d.convert c.affinity) cells

/-- Whether a column may not be empty and is. -/
def breaksNotNull (t : Stored) (cells : Cells) : Bool :=
  (t.columns.zip cells).any fun (c, d) => c.notNull && d == .null

/-- Whether a column may hold each datum only once and another row holds it already. -/
def breaksUnique (t : Stored) (key : Int64) (cells : Cells) : Bool :=
  (t.columns.zip cells).zipIdx.any fun ((c, d), i) =>
    (c.unique || c.isKey) && d != .null &&
      t.rows.any fun (k, other) => k != key && ((other[i]?).map (·.order d)) == some .eq

/-- Adds a row under a key, if that breaks no constraint. -/
def add (t : Stored) (key : Int64) (cells : Cells) : Evaluated Stored :=
  let cells := match t.keyIndex? with
    | some i => cells.set i (.integer key)
    | none => cells
  if t.breaksNotNull cells then .error violation
  else if t.rows.any fun (k, _) => k == key then .error violation
  else if t.breaksUnique key cells then .error violation
  else .ok { t with rows := place key cells t.rows }

/-- Inserts a row. The key column may be empty and gets the next key then; otherwise it must be an
integer. -/
def insert (t : Stored) (cells : Cells) : Evaluated Stored := do
  let cells := t.prefer cells
  let given := (t.keyIndex?.bind (cells[·]?)).getD .null
  let key ← match given, given.key? with
    | .null, _ => pure t.nextKey
    | _, some k => pure k
    | _, none => throw mismatch
  t.add key cells

/-- Replaces the row of a key. -/
def replace (t : Stored) (key : Int64) (cells : Cells) : Evaluated Stored := do
  let cells := t.prefer cells
  let newKey ← match t.keyIndex?.bind (cells[·]?) with
    | none => pure key
    | some d =>
      match d.key? with
      | some k => pure k
      | none => throw mismatch
  ({ t with rows := t.rows.filter fun (k, _) => k != key } : Stored).add newKey cells

/-- The table without the rows of some keys. -/
def without (t : Stored) (keys : List Int64) : Stored :=
  { t with rows := t.rows.filter fun (k, _) => !keys.contains k }

end Stored

namespace Database

/-- A database without tables. -/
def empty : Database := ⟨[]⟩

/-- The table of a name. -/
def find? (db : Database) (name : String) : Option Stored :=
  db.tables.find? fun t => sameName t.name name

/-- Puts a changed table in its place. -/
def replace (db : Database) (t : Stored) : Database :=
  ⟨db.tables.map fun u => if sameName u.name t.name then t else u⟩

/-- The columns of the tables. -/
def columns (db : Database) : Columns := fun name =>
  (db.find? name).map Stored.columns

/-- The rows of a table as selects read them. -/
def rows (db : Database) (name : String) : List Cells :=
  ((db.find? name).map fun t => t.rows.map Stored.readRow).getD []

/-- What selects read from while a database is being changed. -/
def context (db before : Database) (params : String → Datum) : Context where
  columns := db.columns
  rows := db.rows
  firstRows := before.rows
  params := params

end Database

/-! ### Plans of instructions -/

/-- The plans of the values of several rows. -/
def planRows (db : Database) : List (List (Expr ColumnName)) → Option (List (List (Expr Slot)))
  | [] => some []
  | row :: rest => do
    let row ← planAll db.columns [] row
    if anyGrouping row then failure
    return row :: (← planRows db rest)

/-- How the names of tables start that only the engine itself makes. -/
def ownStart : String := "sqlite_"

/-- Whether a table of some columns can be made: its name is free for use, the names of its columns
differ, and at most one of them is the key. -/
def canCreate (table : String) (columns : List ColumnDef) : Bool :=
  let names := columns.map fun c => Reading.fold c.name
  !ownStart.toList.isPrefixOf (Reading.fold table).toList && decide names.Nodup
    && decide (columns.length ≤ Extent.maxTerms)
    && decide ((columns.filter fun c => c.isKey).length ≤ 1)

/-- The plan of an instruction over a database that is not too large. -/
def Instruction.planModest (db : Database) : Instruction ColumnName → Option (Instruction Slot)
  | .select q => do return .select (← q.plan db.columns []).1
  | .insert undo table columns rows => do
    let t ← db.find? table
    let names := columns.getD (t.columns.map ColumnDef.name)
    if names.any fun n => (t.index? n).isNone then failure
    if rows.any fun row => row.length != names.length then failure
    return .insert undo table (some names) (← planRows db rows)
  | .update undo table assignments filter => do
    let t ← db.find? table
    let levels : List Level := [{ columns := t.visible }]
    if Extent.maxTerms < assignments.length then failure
    let assignments ← assignments.mapM fun (c, e) => do
      if (t.index? c).isNone then failure
      return (c, ← ungrouped false (← e.plan db.columns levels))
    return .update undo table assignments (← planOption db.columns levels false filter)
  | .delete table filter => do
    let t ← db.find? table
    return .delete table (← planOption db.columns [{ columns := t.visible }] false filter)
  | .create table unlessPresent columns =>
    if (db.find? table).isSome then
      if unlessPresent then some (.create table true []) else none
    else if canCreate table columns then some (.create table unlessPresent columns)
    else none
  | .begin demand => some (.begin demand)
  | .commit => some .commit
  | .rollback => some .rollback

/-- The plan of an instruction over a database; `none` if it is refused. -/
def Instruction.plan (db : Database) (i : Instruction ColumnName) : Option (Instruction Slot) :=
  if i.isModest then i.planModest db else none

/-! ### Running instructions -/

/-- What a failure of an instruction undoes: more than the instruction itself only if that was
asked for and a constraint was broken. -/
def Instruction.undone : Instruction Slot → EngineError → Undo
  | .insert undo _ _ _, e => if e = violation then undo else .instruction
  | .update undo _ _ _, e => if e = violation then undo else .instruction
  | _, _ => .instruction

/-- What an instruction that changes a database did. -/
structure Effect where
  database : Database
  /-- How many rows it changed, if it is one that counts them. -/
  changed : Option Nat

/-- The cells of a new row: of a column named twice the first value counts, but of the key the last,
and a column that is not named stays empty. -/
def newCells (t : Stored) (names : List String) (values : Cells) : Cells :=
  (List.range t.columns.length).map fun i =>
    let given := (names.zip values).filter fun (n, _) => t.index? n == some i
    let counted := if t.keyIndex? = some i then given.getLast? else given.head?
    (counted.map Prod.snd).getD .null

/-- The cells of a changed row: of a column assigned twice the last value counts. -/
def changedCells (t : Stored) (old : Cells) (assigned : List (String × Datum)) : Cells :=
  assigned.foldl (fun cells (name, d) =>
    match t.index? name with
    | some i => cells.set i d
    | none => cells) old

/-- The rows of a table for which a condition holds, in the order of their keys. -/
def chosen (c : Context) (t : Stored) (filter : Option (Expr Slot)) :
    Evaluated (List (Int64 × Cells)) :=
  let ready := filter.map (Expr.ready (c.means (depthOfOption filter)))
  t.rows.filterM fun row => Ready.hold ready.toList ⟨[Stored.readRow row], []⟩

/-- The position of the column of whose data there is the list along which the rows of a table are
changed. If this changes keys or the data of the list itself, or if the condition asks for selects,
they are changed in the order of their keys. -/
def listedBy? (db : Database) (t : Stored) (assignments : List (String × Expr Slot))
    (filter : Option (Expr Slot)) : Option Nat := do
  let assigned := assignments.filterMap fun (name, _) => t.index? name
  if t.keyIndex?.any assigned.contains || filter.any Expr.hasSelect then failure
  let core : Core Slot := .mk false [] [.mk .inner (.table t.name t.name) none] filter [] none
  let t ← core.seating? db.columns
  let q : Quest := { core.quest t [] with isForChange := true }
  let way ← (q.route {} 0).ways.head?
  match way.lookup with
  | .listing l => if assigned.contains l.column then none else some l.column
  | _ => none

/-- Rows of a table in the order in which they are changed. -/
def arranged (db : Database) (t : Stored) (assignments : List (String × Expr Slot))
    (filter : Option (Expr Slot)) (rows : List (Int64 × Cells)) : List (Int64 × Cells) :=
  match listedBy? db t assignments filter with
  | none => rows
  | some i =>
    (sortByKeys [.asc] (rows.map fun row => ([(row.2[i]?).getD .null], row))).map Prod.snd

/-- Runs a planned change of a database. An expression sees the rows that have been changed
before. -/
def Instruction.change (db : Database) (params : String → Datum) :
    Instruction Slot → Evaluated Effect
  | .insert _ table names rows => do
    let c := db.context db params
    match db.find? table with
    | none => return ⟨db, none⟩
    | some t =>
      let names := names.getD []
      let t ← rows.foldlM (fun t row => do
        let values ← Ready.values (readyAll (c.means (depthOfAll row)) row) ⟨[], []⟩
        t.insert (newCells t names values)) t
      return ⟨db.replace t, some rows.length⟩
  | .update _ table assignments filter => do
    match db.find? table with
    | none => return ⟨db, none⟩
    | some t =>
      let rows ← chosen (db.context db params) t filter
      let t ← (arranged db t assignments filter rows).foldlM (fun t (key, row) => do
        let c := (db.replace t).context db params
        let assigned ← assignments.mapM fun (name, e) => do
          let ready := e.ready (c.means e.depth)
          return (name, ← ready.value ⟨[Stored.readRow (key, row)], []⟩)
        t.replace key (changedCells t row assigned)) t
      return ⟨db.replace t, some rows.length⟩
  | .delete table filter => do
    match db.find? table with
    | none => return ⟨db, none⟩
    | some t =>
      let rows ← chosen (db.context db params) t filter
      return ⟨db.replace (t.without (rows.map Prod.fst)), some rows.length⟩
  | .create table _ columns =>
    if columns.isEmpty then return ⟨db, none⟩
    else return ⟨⟨db.tables ++ [⟨table, columns, []⟩]⟩, none⟩
  | _ => return ⟨db, none⟩

end TableGateway.Engine
