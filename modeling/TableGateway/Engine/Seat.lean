import TableGateway.Engine.Scope

/-!
# Seats

The sources of a select as they are seen before any row is read: where the cells of each are in a
joined row, which rows a join to it fills up, and which lists of data there are. A column that may
hold each datum only once comes with such a list, sorted by the data and then by the keys of the
rows.
-/

namespace TableGateway.Engine

/-- The expression of an ordering entry. -/
def Ordered.expr {γ : Type} : Ordered γ → Expr γ
  | .mk e _ => e

/-- The direction of an ordering entry. -/
def Ordered.direction {γ : Type} : Ordered γ → Direction
  | .mk _ d => d

/-- The expression of a selected item. -/
def Item.expr? {γ : Type} : Item γ → Option (Expr γ)
  | .expr e _ => some e
  | _ => none

/-! ### Sets of sources -/

/-- A set of sources, as the bits of a number. -/
abbrev SourceSet := Nat

namespace SourceSet

/-- One source. -/
def single (i : Nat) : SourceSet := 1 <<< i

/-- The sources of either set. -/
def union (a b : SourceSet) : SourceSet := a ||| b

/-- Whether all sources of a set are in another. -/
def within (a b : SourceSet) : Bool := a &&& b == a

/-- Whether two sets have a source in common. -/
def meets (a b : SourceSet) : Bool := a &&& b != 0

/-- The sources of a set that are not in another. -/
def without (a b : SourceSet) : SourceSet := a - (a &&& b)

/-- The sources before one. -/
def before (i : Nat) : SourceSet := single i - 1

/-- The sources after one. -/
def after (i : Nat) (s : SourceSet) : SourceSet := s.without (before (i + 1))

/-- All sources of several sets. -/
def all (sets : List SourceSet) : SourceSet := sets.foldl union 0

end SourceSet

/-! ### Columns that are named -/

mutual

/-- The columns that an expression names, in its selects as well, as they are seen from `depth`
selects further out. A condition that is settled asks for none, though it names some, which count
only if the `whole` expression is asked about. -/
def Expr.outward (whole : Bool) (depth : Nat) : Expr Slot → List Slot
  | .constant _ | .truth _ | .param _ | .size => []
  | .settled e _ => if whole then e.outward whole depth else []
  | .column s => if depth ≤ s.level then [{ s with level := s.level - depth }] else []
  | .signed _ e | .negation e | .cast _ e | .summary _ _ e => e.outward whole depth
  | .operation _ l r | .comparison _ l r | .same l r | .different l r | .both l r | .either l r =>
    l.outward whole depth ++ r.outward whole depth
  | .between e low high =>
    e.outward whole depth ++ low.outward whole depth ++ high.outward whole depth
  | .among e items => e.outward whole depth ++ allOutward whole depth items
  | .amongRows e q => e.outward whole depth ++ q.outward whole (depth + 1)
  | .present q | .firstOf q => q.outward whole (depth + 1)

/-- The columns that several expressions name. -/
def allOutward (whole : Bool) (depth : Nat) : List (Expr Slot) → List Slot
  | [] => []
  | e :: rest => e.outward whole depth ++ allOutward whole depth rest

/-- The columns that an expression names that may be absent. -/
def optionOutward (whole : Bool) (depth : Nat) : Option (Expr Slot) → List Slot
  | none => []
  | some e => e.outward whole depth

/-- The columns that selected items name. -/
def itemsOutward (whole : Bool) (depth : Nat) : List (Item Slot) → List Slot
  | [] => []
  | .expr e _ :: rest => e.outward whole depth ++ itemsOutward whole depth rest
  | _ :: rest => itemsOutward whole depth rest

/-- The columns that joined sources name. -/
def sourcesOutward (whole : Bool) (depth : Nat) : List (Joined Slot) → List Slot
  | [] => []
  | .mk _ (.table _ _) condition :: rest =>
    optionOutward whole depth condition ++ sourcesOutward whole depth rest
  | .mk _ (.nested q _) condition :: rest =>
    q.outward whole depth ++ optionOutward whole depth condition ++ sourcesOutward whole depth rest

/-- The columns that ordering entries name. -/
def orderOutward (whole : Bool) (depth : Nat) : List (Ordered Slot) → List Slot
  | [] => []
  | .mk e _ :: rest => e.outward whole depth ++ orderOutward whole depth rest

/-- The columns that selects name. -/
def coresOutward (whole : Bool) (depth : Nat) : List (Core Slot) → List Slot
  | [] => []
  | .mk _ items sources filter groupBy having :: rest =>
    itemsOutward whole depth items ++ sourcesOutward whole depth sources
      ++ optionOutward whole depth filter ++ allOutward whole depth groupBy
      ++ optionOutward whole depth having ++ coresOutward whole depth rest

/-- The columns that a select names. The depth counts the select itself. -/
def Select.outward (whole : Bool) (depth : Nat) : Select Slot → List Slot
  | .mk cores orderBy _ _ => coresOutward whole depth cores ++ orderOutward whole depth orderBy

end

/-- Whether a select depends on no row around it. -/
def Select.isClosed (q : Select Slot) : Bool := (q.outward false 1).isEmpty

/-- The positions of the own rows that an expression names. -/
def Expr.own (e : Expr Slot) : List Nat :=
  ((e.outward true 0).filter fun s => s.level == 0).map Slot.index

/-! ### Seats -/

/-- A list of the data of a column that may hold each datum only once. -/
structure Listing where
  /-- The position of the column. -/
  column : Nat
  /-- No datum in it is nothing. -/
  full : Bool
  /-- The column is the key of the table, though not that of its rows. -/
  isPrimary : Bool
  /-- How large the data are supposed to be. -/
  size : Nat
  deriving DecidableEq, Repr

/-- A source of a select. -/
structure Seat where
  /-- Its place among the sources. -/
  number : Nat
  /-- Where its cells begin in a joined row. -/
  start : Nat
  /-- How many cells it has. -/
  width : Nat
  /-- The columns of a stored table. -/
  columns : List ColumnDef := []
  /-- Rows before it that have no partner are kept, with nothing in its place. -/
  fills : Bool := false
  /-- Its own rows that have no partner are kept, with nothing in place of those before. -/
  filled : Bool := false
  /-- It stays behind those before it. -/
  stays : Bool := false
  /-- A source further to the right keeps its rows that have no partner. -/
  precedes : Bool := false
  /-- There may be nothing in its place. -/
  blank : Bool := false
  /-- There may be nothing in its place as its join is written. -/
  blankAsWritten : Bool := false
  deriving Repr

/-- Whether a column holds the key of the stored rows. -/
def ColumnDef.isRowKey (c : ColumnDef) : Bool := c.isKey && c.isInteger

/-- Whether there is a list of the data of a column. -/
def ColumnDef.isListed (c : ColumnDef) : Bool := c.unique || (c.isKey && !c.isRowKey)

namespace Seat

/-- The source alone, as a set. -/
def self (s : Seat) : SourceSet := .single s.number

/-- Whether a position belongs to the source. -/
def has (s : Seat) (i : Nat) : Bool := decide (s.start ≤ i) && decide (i < s.start + s.width)

/-- The column at a position, which is none where the key is. -/
def column? (s : Seat) (i : Nat) : Option ColumnDef :=
  if s.has i then s.columns[i - s.start]? else none

/-- The position of the key of the rows. -/
def key (s : Seat) : Nat := s.start + s.columns.length

/-- Whether it is a stored table, whose rows have keys. -/
def isStored (s : Seat) : Bool := !s.columns.isEmpty

/-- Whether a position is that of the key of the rows. -/
def isKey (s : Seat) (i : Nat) : Bool := s.isStored && i == s.key

/-- The position of a cell, which is that of the key also for the column that holds it. -/
def place (s : Seat) (i : Nat) : Nat :=
  if (s.column? i).any ColumnDef.isRowKey then s.key else i

/-- Whether there may be nothing at a position. -/
def canBeNull (s : Seat) (i : Nat) : Bool :=
  s.blank || !(s.isKey (s.place i) || (s.column? i).any ColumnDef.notNull)

/-- Whether there may be nothing at a position as the joins are written. -/
def canBeNullAsWritten (s : Seat) (i : Nat) : Bool :=
  ({ s with blank := s.blankAsWritten } : Seat).canBeNull i

/-- The lists of data, the latest first. -/
def listings (s : Seat) : List Listing :=
  (s.columns.zipIdx.filter fun (c, _) => c.isListed).reverse.map fun (c, i) =>
    { column := s.place (s.start + i)
      full := c.notNull
      isPrimary := c.isKey && !c.isRowKey
      size := c.size }

/-- How large its rows are supposed to be; a key that is no column counts as one. -/
def size (s : Seat) : Nat :=
  s.columns.foldl (fun n c => n + c.size) (if s.columns.any ColumnDef.isRowKey then 0 else 1)

end Seat

/-- The number of columns of a select. -/
def Select.width {γ : Type} : Select γ → Nat
  | .mk (.mk _ items _ _ _ _ :: _) _ _ _ => items.length
  | _ => 0

/-- Whether rows that have no partner are kept on the left of a join. -/
def keepsLeft : JoinKind → Bool
  | .left | .full => true
  | _ => false

/-- Whether rows that have no partner are kept on the right of a join. -/
def keepsRight : JoinKind → Bool
  | .right | .full => true
  | _ => false

/-- The seats of joined sources, as they are written. -/
def seatsFrom (tables : Columns) : Nat → Nat → List (Joined Slot) → List Seat
  | _, _, [] => []
  | number, start, .mk kind source _ :: rest =>
    let columns := match source with
      | .table name _ => (tables name).getD []
      | .nested _ _ => []
    let width := match source with
      | .table _ _ => columns.length + 1
      | .nested q _ => q.width
    let precedes := rest.any fun (.mk later _ _) => keepsRight later
    let seat : Seat := {
      number, start, width, columns, precedes
      fills := keepsLeft kind
      filled := keepsRight kind
      stays := kind == .cross
      blank := keepsLeft kind || precedes
      blankAsWritten := keepsLeft kind || precedes }
    seat :: seatsFrom tables (number + 1) (start + width) rest

end TableGateway.Engine
