import TableGateway.Engine.Scope
import TableGateway.Engine.Total
import TableGateway.Error

/-!
# Values of expressions

What an expression is worth over one row, or over a group of rows. Conditions have three outcomes,
of which only a true one keeps a row: a comparison with nothing decides nothing.

An expression is made ready first (`Expr.ready`). That settles once what does not depend on rows;
above all, a select in it that depends on no row around it is run at most once, and only if it is
needed. How selects are run is a parameter here (`Selection`).

A sum of integers must be one of 64 bits; otherwise, an expression fails only if a select in it
does.
-/

namespace TableGateway.Engine

/-- The data of one row, by position. -/
abbrev Cells := List Datum

/-- The result of an evaluation. -/
abbrev Evaluated := Except EngineError

/-- The failure of a datum that is not of the kind that is needed. -/
def mismatch : EngineError := .failure EngineError.mismatchCode "datatype mismatch"

/-- The failure of a sum that does not fit 64 bits. -/
def overflow : EngineError := .failure EngineError.genericCode "integer overflow"

/-! ### Conditions -/

/-- Both of two conditions. -/
def bothTruth : Option Bool → Option Bool → Option Bool
  | some false, _ => some false
  | _, some false => some false
  | some true, some true => some true
  | _, _ => none

/-- At least one of two conditions. -/
def eitherTruth : Option Bool → Option Bool → Option Bool
  | some true, _ => some true
  | _, some true => some true
  | some false, some false => some false
  | _, _ => none

/-- Whether an order fits a comparison. -/
def Comparison.fits : Comparison → Ordering → Bool
  | eq, o => o == .eq
  | ne, o => o != .eq
  | lt, o => o == .lt
  | le, o => o != .gt
  | gt, o => o == .gt
  | ge, o => o != .lt

/-- The outcome of a comparison. -/
def Comparison.outcome (op : Comparison) (l r : Affinity) (a b : Datum) : Option Bool :=
  if a = .null ∨ b = .null then none
  else
    let (a, b) := Datum.reconcile l r a b
    some (op.fits (a.order b))

/-- Whether two data are the same, where nothing is the same as nothing. -/
def sameDatum (l r : Affinity) (a b : Datum) : Bool :=
  if a = .null ∨ b = .null then a == b
  else
    let (a, b) := Datum.reconcile l r a b
    a.order b == .eq

/-- Whether a datum is one of several. -/
def amongTruth (l r : Affinity) (a : Datum) (items : List Datum) : Option Bool :=
  items.foldl (fun found b => eitherTruth found (Comparison.eq.outcome l r a b)) (some false)

/-! ### Extremes -/

/-- The greatest, or the least, of several data; the first of equal ones, and nothing of none. -/
def extreme (wanted : Ordering) (ds : List Datum) : Datum :=
  ds.foldl (fun best d =>
    if d = .null then best else if best = .null ∨ d.order best = wanted then d else best) .null

/-- The row where something is greatest, or least; the last row if there it is nothing. -/
def extremeRow (wanted : Ordering) (keyed : List (Datum × Cells)) : Option Cells :=
  match extreme wanted (keyed.map Prod.fst) with
  | .null => keyed.getLast?.map Prod.snd
  | best => (keyed.find? fun k => k.1 == best).map Prod.snd

/-! ### Summaries -/

/-- A real, or nothing if there is none. -/
def realOrNull (x : Option Binary64) : Datum := (x.map Datum.real).getD .null

/-- Data summed up; nothing does not count. -/
def Summary.of (s : Summary) (data : List Datum) : Evaluated Datum := do
  let ds := data.filter fun d => d != .null
  let total := Total.of ds
  match s with
  | .count => return .integer (Int64.ofNat ds.length)
  | .largest => return extreme .gt ds
  | .smallest => return extreme .lt ds
  | .total => return realOrNull total.toReal?
  | .average =>
    return realOrNull (total.toReal?.bind fun x => Datum.divReals x (.ofInt ds.length))
  | .sum =>
    if ds.isEmpty then return .null
    else match total with
      | .exact n => return .integer n
      | .rounded _ true => throw overflow
      | .rounded t false => return realOrNull t.value

/-- The first of equal data. -/
def distinctData (ds : List Datum) : List Datum :=
  ds.foldl (fun kept d => if kept.any fun k => k.order d == .eq then kept else kept ++ [d]) []

/-! ### Rows and groups -/

/-- What expressions of one row are evaluated over. -/
structure Frame where
  /-- The row, and the rows of the selects around it, the innermost first. -/
  rows : List Cells
  /-- The rows of the group, if the row stands for one. -/
  group : List Cells

/-- The frame of one row of the group. -/
def Frame.single (f : Frame) (row : Cells) : Frame := ⟨row :: f.rows.drop 1, []⟩

/-- The cell at a place. -/
def Frame.cell (f : Frame) (s : Slot) : Datum :=
  ((f.rows[s.level]?).bind (·[s.index]?)).getD .null

/-- A select that is ready to run. -/
structure Selection where
  /-- It depends on no row around it. -/
  isClosed : Bool
  /-- Its rows, by the rows around it. -/
  rows : List Cells → Evaluated (List Cells)

/-- The rows of a select by the rows around it; those of one that depends on none of these rows are
found only once. -/
def Selection.shared (s : Selection) : Selection :=
  let once := Thunk.mk fun _ => s.rows []
  { s with rows := fun outer => if s.isClosed then once.get else s.rows outer }

/-- An extreme that is asked for, and the row of the group in which it is. -/
abbrev Extreme := Expr Slot × Option Cells

/-- An expression that is ready to be evaluated. -/
structure Ready where
  value : Frame → Evaluated Datum
  /-- The extremes of a group that it asks for. -/
  extremes : Frame → Evaluated (List Extreme) := fun _ => return []

/-- The row that stands for a group: the one with the last of the extremes that are asked for,
where an extreme counts where it is asked for first; or the first row. -/
def groupRow (group : List Cells) (extremes : List Extreme) : Cells :=
  let different := extremes.foldl (fun kept x =>
    if kept.any fun k => k.1.alike x.1 then kept else kept ++ [x]) []
  match different.getLast? with
  | some (_, row) => row.getD []
  | none => group.head?.getD []

namespace Ready

/-- Whether it is true. -/
def holds (r : Ready) (f : Frame) : Evaluated Bool := do
  return (← r.value f).truth? == some true

/-- The values of several expressions. -/
def values (rs : List Ready) (f : Frame) : Evaluated Cells := rs.mapM fun r => r.value f

/-- The extremes that several expressions ask for. -/
def allExtremes (rs : List Ready) (f : Frame) : Evaluated (List Extreme) := do
  return (← rs.mapM fun r => r.extremes f).flatten

/-- Whether all of several conditions are true. -/
def hold (rs : List Ready) (f : Frame) : Evaluated Bool := rs.allM fun r => r.holds f

/-- A value that is the same for all rows. -/
def always (d : Datum) : Ready := { value := fun _ => return d }

/-- A value that is made of another one. -/
def map (g : Datum → Datum) (r : Ready) : Ready where
  value f := do return g (← r.value f)
  extremes := r.extremes

/-- A value that is made of two others. -/
def map₂ (g : Datum → Datum → Datum) (l r : Ready) : Ready where
  value f := do return g (← l.value f) (← r.value f)
  extremes f := do return (← l.extremes f) ++ (← r.extremes f)

/-- A truth value that is made of two others; the second one is not needed where the first one is
`settled`. -/
def connect (settled : Bool) (g : Option Bool → Option Bool → Option Bool) (l r : Ready) :
    Ready where
  value f := do
    let a := (← l.value f).truth?
    if a = some settled then return .ofTruth a
    else return .ofTruth (g a (← r.value f).truth?)
  extremes f := do return (← l.extremes f) ++ (← r.extremes f)

/-- Whether a value is at least one other and at most a third one. -/
def between (a low high : Affinity) (e l r : Ready) : Ready where
  value f := do
    let d ← e.value f
    let above := Comparison.ge.outcome a low d (← l.value f)
    return .ofTruth (bothTruth above (Comparison.le.outcome a high d (← r.value f)))
  extremes f := do return (← e.extremes f) ++ (← l.extremes f) ++ (← r.extremes f)

/-- Whether a value is one of several. -/
def among (a : Affinity) (e : Ready) (items : List Ready) : Ready where
  value f := do return .ofTruth (amongTruth a .none (← e.value f) (← values items f))
  extremes f := do return (← e.extremes f) ++ (← allExtremes items f)

/-- Whether a value is the first one of a row of a select. -/
def amongRows (a b : Affinity) (e : Ready) (s : Selection) : Ready where
  value f := do
    let d ← e.value f
    return .ofTruth (amongTruth a b d ((← s.rows f.rows).map fun row => row.head?.getD .null))
  extremes := e.extremes

/-- What the rows of a select are taken for. -/
def ofRows (g : List Cells → Datum) (s : Selection) : Ready where
  value f := do return g (← s.rows f.rows)

/-- The data of an expression over a group, summed up. -/
def summary (s : Summary) (distinct : Bool) (written : Expr Slot) (e : Ready) : Ready where
  value f := do
    let ds ← f.group.mapM fun row => e.value (f.single row)
    s.of (if distinct then distinctData ds else ds)
  extremes f := do
    let best (wanted : Ordering) : Evaluated (List Extreme) := do
      let keyed ← f.group.mapM fun row => do return (← e.value (f.single row), row)
      return [(written, extremeRow wanted keyed)]
    match s with
    | .largest => best .gt
    | .smallest => best .lt
    | _ => return []

end Ready

/-- The outcome of a condition that is always decided. -/
def sameOutcome (b : Bool) : Datum := .ofTruth (some b)

/-! ### Expressions -/

/-- At most one row of a select. -/
def Select.first : Select Slot → Select Slot
  | .mk cores orderBy none offset => .mk cores orderBy (some (.constant (.integer 1))) offset
  | .mk cores orderBy (some limit) offset =>
    .mk cores orderBy (some (.comparison .ne limit (.constant (.integer 0)))) offset

/-- What expressions are evaluated with. -/
structure Means where
  params : String → Datum
  /-- Runs a select. -/
  run : Select Slot → Selection
  /-- Runs a select in what is summed up. -/
  runWithin : Select Slot → Selection

/-- What the expressions are evaluated with that are summed up. -/
def Means.within (m : Means) : Means := { m with run := m.runWithin }

mutual

/-- An expression made ready. -/
def Expr.ready (m : Means) : Expr Slot → Ready
  | .constant d => .always d
  | .truth b => .always (sameOutcome b)
  | .param p => .always (m.params p)
  | .column s => { value := fun f => return f.cell s }
  | .signed op e => (e.ready m).map (Datum.apply op)
  | .operation op l r => .map₂ (Datum.operate op) (l.ready m) (r.ready m)
  | .comparison op l r =>
    .map₂ (fun a b => .ofTruth (op.outcome l.affinity r.affinity a b)) (l.ready m) (r.ready m)
  | .same l (.truth b) => (l.ready m).map fun d => sameOutcome (d.truth? == some b)
  | .same l r =>
    .map₂ (fun a b => sameOutcome (sameDatum l.affinity r.affinity a b)) (l.ready m) (r.ready m)
  | .different l (.truth b) => (l.ready m).map fun d => sameOutcome (d.truth? != some b)
  | .different l r =>
    .map₂ (fun a b => sameOutcome (!sameDatum l.affinity r.affinity a b)) (l.ready m) (r.ready m)
  | .between e low high =>
    .between e.affinity low.affinity high.affinity (e.ready m) (low.ready m) (high.ready m)
  | .both l r => .connect false bothTruth (l.ready m) (r.ready m)
  | .either l r => .connect true eitherTruth (l.ready m) (r.ready m)
  | .negation e => (e.ready m).map fun d => .ofTruth (d.truth?.map not)
  | .settled _ holds => .always (sameOutcome holds)
  | .among e items => .among e.affinity (e.ready m) (readyAll m items)
  | .amongRows e q => .amongRows e.affinity q.affinity (e.ready m) (m.run q).shared
  | .present q => .ofRows (fun rows => sameOutcome !rows.isEmpty) (m.run q.first).shared
  | .firstOf q =>
    .ofRows (fun rows => (rows.head?.bind List.head?).getD .null) (m.run q.first).shared
  | .cast a e => (e.ready m).map (Datum.cast a)
  | .size => { value := fun f => return .integer (Int64.ofNat f.group.length) }
  | .summary s distinct e => .summary s distinct (.summary s distinct e) (e.ready m.within)

/-- Several expressions made ready. -/
def readyAll (m : Means) : List (Expr Slot) → List Ready
  | [] => []
  | e :: rest => e.ready m :: readyAll m rest

end

end TableGateway.Engine
