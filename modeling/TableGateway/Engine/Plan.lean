import TableGateway.Engine.Extent
import TableGateway.Engine.Seating

/-!
# Plans

Before an instruction runs, every column name in it is replaced by the place where the column is
found. An instruction that names a table or a column that is not there, names one ambiguously,
groups where it must not, joins sources that cannot be joined or is too large has no plan, and so
is refused whatever the stored rows are.
-/

namespace TableGateway.Engine

/-- The columns of joined sources, of which those of a source may be nothing if rows are filled up
in its place. -/
def markFilled {γ : Type} : List (Joined γ) → List (List Visible) → List (List Visible)
  | .mk kind _ _ :: rest, columns :: others =>
    let isFilled := keepsLeft kind || rest.any fun (.mk later _ _) => keepsRight later
    (if isFilled then columns.map fun v => { v with full := false } else columns)
      :: markFilled rest others
  | _, columns => columns

/-! ### Plans of expressions and selects -/

mutual

/-- The plan of an expression. -/
def Expr.plan (tables : Columns) (levels : List Level) : Expr ColumnName → Option (Expr Slot)
  | .constant d => some (.constant d)
  | .truth b => some (.truth b)
  | .param p => some (.param p)
  | .column c => findColumn c 0 levels
  | .signed op e => do return .signed op (← e.plan tables levels)
  | .operation op l r => do
    return .operation op (← l.plan tables levels) (← r.plan tables levels)
  | .comparison op l r => do
    return .comparison op (← l.plan tables levels) (← r.plan tables levels)
  | .same l (.constant .null) => do return presence levels false (← l.plan tables levels)
  | .different l (.constant .null) => do return presence levels true (← l.plan tables levels)
  | .same l r => do return .same (← l.plan tables levels) (← r.plan tables levels)
  | .different l r => do return .different (← l.plan tables levels) (← r.plan tables levels)
  | .between e low high => do
    return .between (← e.plan tables levels) (← low.plan tables levels) (← high.plan tables levels)
  | .both l r => do return .both (← l.plan tables levels) (← r.plan tables levels)
  | .either l r => do return .either (← l.plan tables levels) (← r.plan tables levels)
  | .negation e => do return .negation (← e.plan tables levels)
  | .settled e holds => do return .settled (← e.plan tables levels) holds
  | .among e items => do return .among (← e.plan tables levels) (← planAll tables levels items)
  | .amongRows e q => do
    let e ← e.plan tables levels
    let (q, heading) ← q.plan tables levels
    if heading.length = 1 then return .amongRows e q else failure
  | .present q => do return .present (← q.plan tables levels).1
  | .firstOf q => do
    let (q, heading) ← q.plan tables levels
    if heading.length = 1 then return .firstOf q else failure
  | .cast a e => do return .cast a (← e.plan tables levels)
  | .size => some .size
  | .summary s distinct e => do
    return .summary s distinct (← summed (← e.plan tables levels))

/-- The plans of several expressions. -/
def planAll (tables : Columns) (levels : List Level) :
    List (Expr ColumnName) → Option (List (Expr Slot))
  | [] => some []
  | e :: rest => do return (← e.plan tables levels) :: (← planAll tables levels rest)

/-- The plan of an expression that may be absent. -/
def planOption (tables : Columns) (levels : List Level) (grouped : Bool) :
    Option (Expr ColumnName) → Option (Option (Expr Slot))
  | none => some none
  | some e => do return some (← ungrouped grouped (← e.plan tables levels))

/-- The plan of a selected item, with the names of its columns. -/
def Item.plan (tables : Columns) (columns : List Visible) (levels : List Level) :
    Item ColumnName → Option (List ResultColumn)
  | .all => if columns.isEmpty then none else some (allItems columns fun _ => true)
  | .allOf table =>
    let items := allItems columns fun v => sameName v.table table
    if items.isEmpty then none else some items
  | .expr e name => do
    let planned ← e.plan tables levels
    return [⟨name.getD (ownName e planned), name.isSome, planned⟩]

/-- The plans of selected items. -/
def planItems (tables : Columns) (columns : List Visible) (levels : List Level) :
    List (Item ColumnName) → Option (List ResultColumn)
  | [] => some []
  | i :: rest => do
    return (← i.plan tables columns levels) ++ (← planItems tables columns levels rest)

/-- The plan of a source, and its columns. Behind the columns of a stored table stands the key of
its rows. -/
def Source.plan (tables : Columns) (outer : List Level) :
    Source ColumnName → Option (Source Slot × List Visible)
  | .table name label => do
    let columns ← tables name
    return (.table name label, visibleColumns label columns)
  | .nested q label => do
    let (q, heading) ← q.plan tables outer
    return (.nested q label, heading.visible label)

/-- The plans of joined sources without their conditions, each with its columns. -/
def planSources (tables : Columns) (outer : List Level) :
    List (Joined ColumnName) → Option (List (Source Slot × List Visible))
  | [] => some []
  | .mk _ source _ :: rest => do
    return (← source.plan tables outer) :: (← planSources tables outer rest)

/-- The plans of the joins of planned sources. The names in their conditions are looked for in all
sources. -/
def planJoins (tables : Columns) (levels : List Level) (sources : List (Source Slot)) :
    List (Joined ColumnName) → Option (List (Joined Slot))
  | [] => some []
  | .mk kind _ condition :: rest => do
    let source ← sources.head?
    let condition ← planOption tables levels false condition
    return .mk kind source condition :: (← planJoins tables levels sources.tail rest)

/-- The plan of an ordering entry of a single select: a name that is given to an item, the
position of one, or an expression. -/
def Ordered.plan (tables : Columns) (level : Level) (grouped : Bool) :
    Ordered ColumnName → Option (Ordered Slot)
  | .mk e direction => do
    match e.name?.bind (itemNamed? level.items), position? e with
    | some e, _ => return .mk e direction
    | none, some n => return .mk (← itemAt? level.items n) direction
    | none, none => return .mk (← ungrouped grouped (← e.plan tables [level])) direction

/-- The plans of ordering entries of a single select. -/
def planOrder (tables : Columns) (level : Level) (grouped : Bool) :
    List (Ordered ColumnName) → Option (List (Ordered Slot))
  | [] => some []
  | o :: rest => do
    return (← o.plan tables level grouped) :: (← planOrder tables level grouped rest)

/-- The plan of an ordering entry behind several selects, which must be a column of the result: by
its position, or because it is named or written like an item of one of the selects. -/
def Ordered.planBehind (tables : Columns) (width : Nat) (levels : List Level) :
    Ordered ColumnName → Option (Ordered Slot)
  | .mk e direction => do
    let index ←
      match position? e with
      | some n => if 1 ≤ n ∧ n ≤ width then some (n.toNat - 1) else none
      | none =>
        levels.findSome? fun l =>
          let named := e.name?.bind fun name =>
            l.items.findIdx? fun i => i.named && sameName i.name name
          match named, e.plan tables [l] with
          | some i, _ => some i
          | none, some planned => l.items.findIdx? fun i => i.expr.alike planned
          | none, none => none
    return .mk (.column ⟨0, index, .none⟩) direction

/-- The plans of ordering entries behind several selects. -/
def planOrderBehind (tables : Columns) (width : Nat) (levels : List Level) :
    List (Ordered ColumnName) → Option (List (Ordered Slot))
  | [] => some []
  | o :: rest => do
    return (← o.planBehind tables width levels) :: (← planOrderBehind tables width levels rest)

/-- The plan of what is grouped by: the positions of items, or expressions. -/
def planGroups (tables : Columns) (level : Level) :
    List (Expr ColumnName) → Option (List (Expr Slot))
  | [] => some []
  | e :: rest => do
    let planned ←
      match position? e with
      | some n => itemAt? level.items n
      | none => e.plan tables [level]
    return (← ungrouped false planned) :: (← planGroups tables level rest)

/-- The plan of a select without ordering and paging, and what can be named in it. -/
def Core.plan (tables : Columns) (outer : List Level) :
    Core ColumnName → Option (Core Slot × Level)
  | .mk distinct items sources filter groupBy having => do
    let planned ← planSources tables outer sources
    let columns := (markFilled sources (planned.map Prod.snd)).flatten
    let items ← planItems tables columns ({ columns := columns } :: outer) items
    let level : Level := { columns := columns, items := items }
    let condition : List Level := { level with isCondition := true } :: outer
    let sources ← planJoins tables condition (planned.map Prod.fst) sources
    let filter ← planOption tables condition false filter
    let groupBy ← planGroups tables level groupBy
    let grouped := !groupBy.isEmpty || items.any fun i => i.expr.isGrouping
    let having ← planOption tables (level :: outer) true having
    if having.isSome && !grouped then failure
    if Extent.maxTerms < items.length || Extent.maxTerms < groupBy.length then failure
    let core : Core Slot :=
      .mk distinct (items.map fun i => .expr i.expr (some i.name)) sources filter groupBy having
    if (core.seating? tables).isSome then return (core, level) else failure

/-- The plans of selects that follow each other, which must return equally many columns, and what
can be named in each. -/
def planCores (tables : Columns) (outer : List Level) :
    List (Core ColumnName) → Option (List (Core Slot) × List Level)
  | [] => some ([], [])
  | c :: rest => do
    let (c, level) ← c.plan tables outer
    let (rest, levels) ← planCores tables outer rest
    if levels.all fun l => l.items.length == level.items.length then
      return (c :: rest, level :: levels)
    else failure

/-- The plan of a select and what it returns. The ordering of a single select sees its rows; the
ordering of several sees the rows of the result. -/
def Select.plan (tables : Columns) (outer : List Level) :
    Select ColumnName → Option (Select Slot × Heading)
  | .mk cores orderBy limit offset => do
    if Extent.maxSelects < cores.length || Extent.maxTerms < orderBy.length then failure
    let (cores, levels) ← planCores tables outer cores
    let heading := headingOf (levels.map Level.items)
    let orderBy ←
      match levels with
      | [level] => planOrder tables level (cores.any Core.isGrouped) orderBy
      | _ => planOrderBehind tables heading.length levels orderBy
    let limit ← planOption tables [] false limit
    let offset ← planOption tables [] false offset
    return (.mk cores orderBy limit offset, heading)

end

end TableGateway.Engine
