import TableGateway.Engine.Grammar

/-!
# Scopes

What a column name can stand for. Names are looked for in the innermost select first; there, a name
that is no column may be the key of stored rows or a name that is given to a selected item. A name
that is found nowhere may still be a truth value, or, in double quotes, a text.

Once names are found, an expression refers to columns by slots: how many selects further out, and
at which position of that select's rows. What can be told from such an expression alone is here as
well: whether it is about a group, which preference it has, and whether another is written alike.
-/

namespace TableGateway.Engine

/-- Where a column is found. -/
structure Slot where
  /-- How many selects further out. -/
  level : Nat
  index : Nat
  affinity : Affinity
  deriving DecidableEq, Repr

/-- A column that can be named. -/
structure Visible where
  table : String
  name : String
  affinity : Affinity
  /-- It is the key of the stored rows, which is selected only by a name of its own. -/
  hidden : Bool := false
  /-- It is never nothing. -/
  full : Bool := false
  deriving DecidableEq, Repr

/-- A column of a result. -/
structure ResultColumn where
  name : String
  /-- The name was given to it, or it is one of all columns that were asked for. -/
  named : Bool := false
  expr : Expr Slot

/-- What can be named in one select. -/
structure Level where
  columns : List Visible
  items : List ResultColumn := []
  /-- A condition on rows is being looked at. -/
  isCondition : Bool := false

/-- The columns of the stored tables. -/
abbrev Columns := String → Option (List ColumnDef)

/-- The columns of a stored table as they can be named; behind them stands the key of its rows. -/
def visibleColumns (label : String) (columns : List ColumnDef) : List Visible :=
  columns.map (fun c => {
    table := label, name := c.name, affinity := c.affinity
    full := c.notNull || (c.isKey && c.isInteger) })
    ++ [{ table := label, name := "", affinity := .integer, hidden := true, full := true }]

/-- Whether two names are the same. -/
def sameName (a b : String) : Bool := Reading.fold a == Reading.fold b

/-- The names of the key of stored rows. -/
def keyNames : List String := ["rowid", "oid", "_rowid_"]

/-- Whether a name is one of the key of stored rows. -/
def isKeyName (name : String) : Bool := keyNames.any (sameName name)

/-! ### Grouping -/

mutual

/-- Whether an expression asks for something about a whole group. -/
def Expr.isGrouping {γ : Type} : Expr γ → Bool
  | .constant _ | .truth _ | .param _ | .column _ | .present _ | .firstOf _ => false
  | .size | .summary _ _ _ => true
  | .signed _ e | .negation e | .settled e _ | .cast _ e | .amongRows e _ => e.isGrouping
  | .operation _ l r | .comparison _ l r | .same l r | .different l r | .both l r | .either l r =>
    l.isGrouping || r.isGrouping
  | .between e low high => e.isGrouping || low.isGrouping || high.isGrouping
  | .among e items => e.isGrouping || anyGrouping items

/-- Whether one of several expressions asks for something about a whole group. -/
def anyGrouping {γ : Type} : List (Expr γ) → Bool
  | [] => false
  | e :: rest => e.isGrouping || anyGrouping rest

end

/-- Whether a selected item asks for something about a whole group. -/
def Item.isGrouping {γ : Type} : Item γ → Bool
  | .expr e _ => e.isGrouping
  | _ => false

/-- Whether the rows of a select are groups. -/
def Core.isGrouped {γ : Type} : Core γ → Bool
  | .mk _ items _ _ groupBy _ => !groupBy.isEmpty || items.any Item.isGrouping

/-- Keeps an expression unless it asks for something about a group where there is none. -/
def ungrouped (allowed : Bool) (e : Expr Slot) : Option (Expr Slot) :=
  if e.isGrouping && !allowed then none else some e

mutual

/-- The columns that an expression names outside its selects. -/
def Expr.slots : Expr Slot → List Slot
  | .column s => [s]
  | .signed _ e | .negation e | .settled e _ | .cast _ e | .amongRows e _ | .summary _ _ e =>
    e.slots
  | .operation _ l r | .comparison _ l r | .same l r | .different l r | .both l r | .either l r =>
    l.slots ++ r.slots
  | .between e low high => e.slots ++ low.slots ++ high.slots
  | .among e items => e.slots ++ allSlots items
  | .constant _ | .truth _ | .param _ | .present _ | .firstOf _ | .size => []

/-- The columns that several expressions name outside their selects. -/
def allSlots : List (Expr Slot) → List Slot
  | [] => []
  | e :: rest => e.slots ++ allSlots rest

end

/-- Keeps what is to be summed up. It must not be about a group itself, and not only about rows of
selects further out, whose groups are of no concern here. -/
def summed (e : Expr Slot) : Option (Expr Slot) :=
  if !e.slots.isEmpty && e.slots.all fun s => s.level != 0 then none else ungrouped false e

/-! ### Preferences -/

mutual

/-- The preference of the column that an expression is. -/
def Expr.affinity : Expr Slot → Affinity
  | .column s => s.affinity
  | .cast a _ => a
  | .firstOf q => q.affinity
  | _ => .none

/-- The preference of the first of several items. -/
def itemsAffinity : List (Item Slot) → Affinity
  | .expr e _ :: _ => e.affinity
  | _ => .none

/-- The preference of the first column of the last of several selects. -/
def coresAffinity : List (Core Slot) → Affinity
  | [] => .none
  | [.mk _ items _ _ _ _] => itemsAffinity items
  | _ :: rest => coresAffinity rest

/-- The preference of the first column of a select. -/
def Select.affinity : Select Slot → Affinity
  | .mk cores _ _ _ => coresAffinity cores

end

/-! ### Expressions that are written alike -/

mutual

/-- Whether two expressions without selects are the same. -/
def Expr.alike : Expr Slot → Expr Slot → Bool
  | .constant a, .constant b => a == b
  | .truth a, .truth b => a == b
  | .param a, .param b => a == b
  | .column a, .column b => a == b
  | .signed op a, .signed op' b => op == op' && a.alike b
  | .operation op a b, .operation op' a' b' => op == op' && a.alike a' && b.alike b'
  | .comparison op a b, .comparison op' a' b' => op == op' && a.alike a' && b.alike b'
  | .same a b, .same a' b' => a.alike a' && b.alike b'
  | .different a b, .different a' b' => a.alike a' && b.alike b'
  | .between a b d, .between a' b' d' => a.alike a' && b.alike b' && d.alike d'
  | .both a b, .both a' b' => a.alike a' && b.alike b'
  | .either a b, .either a' b' => a.alike a' && b.alike b'
  | .negation a, .negation b => a.alike b
  | .settled _ a, .settled _ b => a == b
  | .among e items, .among e' items' => e.alike e' && allAlike items items'
  | .cast a e, .cast a' e' => a == a' && e.alike e'
  | .size, .size => true
  | .summary s d e, .summary s' d' e' => s == s' && d == d' && e.alike e'
  | _, _ => false

/-- Whether two lists of expressions are the same. -/
def allAlike : List (Expr Slot) → List (Expr Slot) → Bool
  | [], [] => true
  | a :: as, b :: bs => a.alike b && allAlike as bs
  | _, _ => false

end

/-! ### Looking up names -/

/-- The place of a column among those of one select; more than one is a fault. -/
def Level.find? (l : Level) (c : ColumnName) : Option (Option (Nat × Affinity)) :=
  let fitting := l.columns.zipIdx.filter fun (v, _) => (c.table.map (sameName v.table)).getD true
  let columns := fitting.filter fun (v, _) => !v.hidden && sameName v.name c.name
  let keys := fitting.filter fun (v, _) => v.hidden && isKeyName c.name
  match if columns.isEmpty then keys else columns with
  | [] => some none
  | [(v, i)] => some (some (i, v.affinity))
  | _ => none

/-- The item to which a name is given. -/
def itemNamed? (items : List ResultColumn) (name : String) : Option (Expr Slot) :=
  (items.find? fun i => i.named && sameName i.name name).map ResultColumn.expr

/-- An expression as it is seen from selects within; only what has no parts is seen there. -/
def Expr.seenFrom? (depth : Nat) : Expr Slot → Option (Expr Slot)
  | .column s => some (.column { s with level := s.level + depth })
  | .constant d => some (.constant d)
  | .truth b => some (.truth b)
  | .param p => some (.param p)
  | e => if depth = 0 then some e else none

/-- What a name stands for that is no column. -/
def ColumnName.meaning? (c : ColumnName) : Option (Expr Slot) :=
  match c.table, c.spelling with
  | none, .doubled => some (.constant (.text (Text.encode c.name)))
  | none, .plain =>
    if sameName c.name "true" then some (.truth true)
    else if sameName c.name "false" then some (.truth false)
    else none
  | _, _ => none

/-- The expression that a column name stands for, from the given depth outwards. -/
def findColumn (c : ColumnName) : Nat → List Level → Option (Expr Slot)
  | _, [] => c.meaning?
  | depth, l :: outer => do
    match ← l.find? c with
    | some (i, a) => return .column ⟨depth, i, a⟩
    | none =>
      match if c.table.isNone then itemNamed? l.items c.name else none with
      | some e => e.seenFrom? depth
      | none => findColumn c (depth + 1) outer

/-- Whether an expression may be nothing, as far as it is a column, which may have a sign. -/
def Expr.canBeNull (levels : List Level) : Expr Slot → Bool
  | .constant d => d == .null
  | .signed .complement _ => true
  | .signed _ e => e.canBeNull levels
  | .column s =>
    !(((levels[s.level]?).bind fun l => l.columns[s.index]?).map Visible.full).getD false
  | _ => true

/-- Whether an expression is nothing, or is not (`negated`). In conditions on rows that is settled
for a column that is never nothing. -/
def presence (levels : List Level) (negated : Bool) (e : Expr Slot) : Expr Slot :=
  if (levels.all fun l => l.isCondition) && !e.canBeNull levels then
    .settled e negated
  else if negated then .different e (.constant .null)
  else .same e (.constant .null)

/-! ### Items and their places -/

/-- The name of a column in the result that no name is given to. -/
def ownName (e : Expr ColumnName) (planned : Expr Slot) : String :=
  match e, planned with
  | .column c, .column _ => c.name
  | _, _ => ""

/-- All columns, as selected items under their names. -/
def allItems (columns : List Visible) (p : Visible → Bool) : List ResultColumn :=
  (columns.zipIdx.filter fun (v, _) => !v.hidden && p v).map fun (v, i) =>
    { name := v.name, named := true, expr := .column ⟨0, i, v.affinity⟩ }

/-- The place of an item that is told by an integer of 32 bits. -/
def position? : Expr ColumnName → Option Int
  | .constant (.integer n) => if n.toInt.natAbs < twoTo 31 then some n.toInt else none
  | .signed .plus e => position? e
  | .signed .minus e => (position? e).map fun n => -n
  | _ => none

/-- The item at a position that counts from one. -/
def itemAt? (items : List ResultColumn) (n : Int) : Option (Expr Slot) :=
  if 1 ≤ n then (items[n.toNat - 1]?).map ResultColumn.expr else none

/-- The name that an expression is. -/
def Expr.name? : Expr ColumnName → Option String
  | .column ⟨none, name, _⟩ => some name
  | _ => none

/-- What a planned select returns: the names and preferences of its columns. -/
abbrev Heading := List (String × Affinity)

/-- The columns of a nested select. Of columns of one name only the first can be named. -/
def Heading.visible (h : Heading) (label : String) : List Visible :=
  h.zipIdx.map fun ((name, a), i) =>
    let taken := (h.take i).any fun (other, _) => sameName other name
    { table := label, name := if taken then "" else name, affinity := a }

/-- Whether an expression may be a number, as far as can be told from how it is written. -/
def Expr.mayBeNumber : Expr Slot → Bool
  | .constant d => d.rank == 1
  | .operation .concat _ _ => false
  | .signed .plus e => e.mayBeNumber
  | e => e.affinity != .text

/-- Whether an expression may be a text, as far as can be told from how it is written. -/
def Expr.mayBeText : Expr Slot → Bool
  | .constant d => d.rank == 2
  | .param _ | .size | .summary _ _ _ | .operation .concat _ _ => true
  | .signed .plus e => e.mayBeText
  | .column s => !s.affinity.isNumeric
  | .cast a _ => !a.isNumeric
  | .firstOf q => !q.affinity.isNumeric
  | _ => false

/-- The preference of a column to which several expressions contribute: the first that there is,
unless another one may be of the other kind. A conversion that comes first tells only that numbers
are preferred. -/
def commonAffinity (es : List (Expr Slot)) : Affinity :=
  let prefersNothing (e : Expr Slot) : Bool := e.affinity == .none
  match es.dropWhile prefersNothing with
  | [] => .none
  | e :: rest =>
    let others := es.takeWhile prefersNothing ++ rest
    if e.affinity == .text && others.any Expr.mayBeNumber then .blob
    else if e.affinity.isNumeric then
      if others.any Expr.mayBeText then .blob
      else match es with
        | .cast _ _ :: _ => .numeric
        | _ => e.affinity
    else e.affinity

/-- What selects that follow each other return: the names of the first, and what their columns
prefer in common. -/
def headingOf (results : List (List ResultColumn)) : Heading :=
  match results with
  | [] => []
  | first :: _ => first.zipIdx.map fun (r, i) =>
    (r.name, commonAffinity (results.filterMap fun items => (items[i]?).map ResultColumn.expr))

end TableGateway.Engine
