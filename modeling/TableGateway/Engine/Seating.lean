import TableGateway.Engine.Seat

/-!
# Seatings

The sources of a select together with what must hold for their rows: the condition on all rows and
those of the joins, each taken apart into conditions that must all hold.

A join that fills up rows is often written where the other conditions throw these rows away again.
It is then taken for one that fills up none (`simplified`). Where one condition tells the value of
a column, the others need not read it (`Condition.known`). A condition may ask for sources further
to the right only where no rows are filled up.
-/

namespace TableGateway.Engine

/-- A column: how many selects further out it is, and its position. -/
abbrev Spot := Nat × Nat

/-- Where a condition comes from. -/
inductive Origin where
  /-- It holds for all rows. -/
  | filter
  /-- It belongs to a join that fills up no rows. -/
  | inner (source : Nat)
  /-- It decides which rows a source is joined to. -/
  | outer (source : Nat)
  deriving DecidableEq, Repr

/-- Whether it decides which rows a source is joined to. -/
def Origin.isOuter : Origin → Bool
  | outer _ => true
  | _ => false

/-- A condition that must hold. -/
structure Condition where
  expr : Expr Slot
  origin : Origin
  /-- The columns whose values other conditions tell. -/
  known : List Spot := []

/-- The conditions that must all hold. -/
def Expr.conjuncts : Expr Slot → List (Expr Slot)
  | .both l r => l.conjuncts ++ r.conjuncts
  | e => [e]

/-- The conditions of which one must hold. -/
def Expr.disjuncts : Expr Slot → List (Expr Slot)
  | .either l r => l.disjuncts ++ r.disjuncts
  | e => [e]

/-- Takes a condition apart into those that must all hold. -/
def Condition.parts (c : Condition) : List Condition :=
  c.expr.conjuncts.map fun e => { c with expr := e }

/-- The sources of a select and what must hold for their rows. -/
structure Seating where
  seats : List Seat
  conditions : List Condition

/-! ### What a condition shows -/

/-- What a condition shows about some columns if it is true: that not all of them are nothing. -/
structure Shown where
  /-- What it shows as a part of another one. -/
  within : Bool
  /-- What it shows behind another one that must hold as well. -/
  behind : Bool
  /-- What it shows alone. -/
  alone : Bool

/-- What is shown wherever it stands. -/
def Shown.everywhere (b : Bool) : Shown := ⟨b, b, b⟩

/-- What a condition shows about the columns for which `p` holds. -/
def Expr.shows (p : Slot → Bool) : Expr Slot → Shown
  | .column s => .everywhere (p s)
  | .both l r =>
    let a := l.shows p
    let b := r.shows p
    ⟨a.within && b.within, a.alone || b.behind, a.alone || b.behind⟩
  | .either l r => .everywhere ((l.shows p).within && (r.shows p).within)
  | .different e (.constant .null) => ⟨false, false, (e.shows p).within⟩
  | .among e items => .everywhere (!items.isEmpty && (e.shows p).within)
  | .between e low high =>
    .everywhere ((e.shows p).within || ((low.shows p).within && (high.shows p).within))
  | .comparison _ l r | .operation _ l r =>
    .everywhere ((l.shows p).within || (r.shows p).within)
  | .negation e | .signed _ e | .cast _ e => .everywhere (e.shows p).within
  | _ => .everywhere false

/-- Whether conditions that must all hold show something, as far as they count. -/
def showTogether (p : Slot → Bool) (counts : Origin → Bool) : List Condition → Bool
  | [] => false
  | first :: rest =>
    (counts first.origin && (first.expr.shows p).alone)
      || rest.any fun c => counts c.origin && (c.expr.shows p).behind

/-! ### Joins that are simpler than they are written -/

namespace Seating

/-- The seat to which a position belongs. -/
def seatOf? (t : Seating) (i : Nat) : Option Seat := t.seats.find? fun s => s.has i

/-- Whether rows on the left of some join are filled up. -/
def fillsLeft (t : Seating) : Bool := (t.seats.head?.map Seat.precedes).getD false

/-- Changes a seat. -/
def mapSeat (t : Seating) (i : Nat) (f : Seat → Seat) : Seating :=
  { t with seats := t.seats.map fun s => if s.number = i then f s else s }

/-- The conditions of a join that now fills up no rows. -/
def madeInner (t : Seating) (i : Nat) : Seating :=
  { t with
    conditions := t.conditions.map fun c =>
      if c.origin = .outer i then { c with origin := .inner i } else c }

/-- Keeps no more rows of a source that have no partner. -/
def dropFilled (t : Seating) (s : Seat) : Seating :=
  if !s.filled then t
  else
    let t := t.mapSeat s.number fun s => { s with filled := false }
    if s.fills then t else t.madeInner s.number

/-- Tells again which sources stand before one whose rows are all kept. -/
def recount (t : Seating) : Seating :=
  let last := (t.seats.filter Seat.filled).getLast?.map Seat.number
  { t with
    seats := t.seats.map fun s =>
      { s with precedes := s.precedes && last.any fun n => decide (s.number < n) } }

/-- The seating when it has been shown that there is always a row of a source. -/
def shownPresent (t : Seating) (s : Seat) : Seating :=
  let t :=
    if !s.fills then t
    else
      let t := t.mapSeat s.number fun s =>
        if s.filled then { s with fills := false } else { s with fills := false, blank := false }
      if s.filled then t else t.madeInner s.number
  if s.precedes then
    ((t.seats.filter fun r => decide (s.number < r.number)).foldl dropFilled t).recount
  else t

/-- Takes one join for a simpler one where conditions show that this changes nothing. -/
def simplifyAt (t : Seating) (i : Nat) : Seating :=
  match t.seats[i]? with
  | none => t
  | some s =>
    let counts : Origin → Bool
      | .filter => true
      | .inner _ => !s.precedes
      | .outer _ => false
    if (s.fills || s.precedes)
        && showTogether (fun c => c.level == 0 && s.has c.index) counts t.conditions then
      t.shownPresent s
    else t

/-- Takes joins for simpler ones, from left to right. -/
def simplified (t : Seating) : Seating := (List.range t.seats.length).foldl simplifyAt t

/-! ### Columns whose values are known -/

/-- The column that a slot is. -/
def spot (t : Seating) (s : Slot) : Spot :=
  if s.level = 0 then (0, ((t.seatOf? s.index).map fun seat => seat.place s.index).getD s.index)
  else (s.level, s.index)

/-- Whether an expression has one value, and no preference. -/
def isValue : Expr Slot → Bool
  | .constant _ | .truth _ | .param _ | .settled _ _ => true
  | .signed _ e | .negation e => isValue e
  | .operation _ l r | .comparison _ l r | .same l r | .different l r | .both l r | .either l r =>
    isValue l && isValue r
  | .between e low high => isValue e && isValue low && isValue high
  | _ => false

/-- The column whose value a condition tells. -/
def told? (t : Seating) (c : Condition) : Option Spot :=
  let counts := match c.origin with
    | .filter => true
    | .inner _ => !t.fillsLeft
    | .outer _ => false
  match counts, c.expr with
  | true, .comparison .eq (.column l) r => if isValue r then some (t.spot l) else none
  | true, .comparison .eq l (.column r) => if isValue l then some (t.spot r) else none
  | _, _ => none

/-- What is known of columns where each condition is evaluated: what the others tell. Of several
that tell the same, the last one counts. -/
def withKnown (t : Seating) : Seating :=
  let told := t.conditions.map t.told?
  if told.length < 2 then t
  else
    let spots := (told.filterMap id).eraseDups
    let definers := spots.map fun p => (p, (told.zipIdx.filter fun (q, _) => q == some p).getLast?)
    let excluded : Origin → Bool
      | .filter => false
      | .inner _ => t.fillsLeft
      | .outer _ => true
    { t with
      conditions := t.conditions.zipIdx.map fun (c, i) =>
        if excluded c.origin then c
        else { c with
          known := (definers.filter fun (_, d) => d.any fun (_, j) => j != i).map Prod.fst } }

/-! ### Sources that are asked for -/

/-- The sources of columns. -/
def sourcesOfSlots (t : Seating) (slots : List Slot) : SourceSet :=
  .all ((slots.filter fun s => s.level == 0).map fun s =>
    ((t.seatOf? s.index).map Seat.self).getD 0)

/-- The sources whose rows an expression asks for, except for columns that are known. As a part of
an expression, a column without preference must be read nevertheless. -/
def sourcesOf (t : Seating) (known : List Spot) (e : Expr Slot) : SourceSet :=
  t.sourcesOfSlots ((e.outward false 0).filter fun s =>
    s.affinity == .blob || s.affinity == .none || !known.contains (t.spot s))

/-- The sources of one side of a comparison. A column that is known need not be read. -/
def sourcesOfSide (t : Seating) (known : List Spot) : Expr Slot → SourceSet
  | .column s => if known.contains (t.spot s) then 0 else t.sourcesOfSlots [s]
  | e => t.sourcesOf known e

/-- The sources whose rows a condition asks for. -/
def sourcesOfCondition (t : Seating) (known : List Spot) : Expr Slot → SourceSet
  | .comparison _ l r | .same l r => .union (t.sourcesOfSide known l) (t.sourcesOfSide known r)
  | e => t.sourcesOf known e

/-- Checks that a condition asks for no source further to the right where it must not. -/
def settleOrigin (t : Seating) (c : Condition) : Option Condition :=
  let asked := t.sourcesOfCondition c.known c.expr
  match c.origin with
  | .filter => some c
  | .inner i =>
    if SourceSet.after i asked == 0 then some c
    else if t.fillsLeft then none
    else some { c with origin := .filter }
  | .outer i => if SourceSet.after i asked == 0 then some c else none

end Seating

/-! ### Selects -/

/-- The whole conditions of joins. -/
def joinConditions : Nat → List (Joined Slot) → List Condition
  | _, [] => []
  | i, .mk kind _ condition :: rest =>
    let origin := if keepsLeft kind || keepsRight kind then Origin.outer i else .inner i
    (condition.toList.map fun e => ⟨e, origin, []⟩) ++ joinConditions (i + 1) rest

/-- Whether an expression has the same value for all rows of a group. -/
def Expr.isSettledBy (groupBy : List (Expr Slot)) (e : Expr Slot) : Bool :=
  groupBy.any e.alike ||
    match e with
    | .constant _ | .truth _ | .param _ | .settled _ _ => true
    | .signed _ a | .negation a | .cast _ a => a.isSettledBy groupBy
    | .operation _ l r | .comparison _ l r | .same l r | .different l r | .both l r
    | .either l r => l.isSettledBy groupBy && r.isSettledBy groupBy
    | .between a low high =>
      a.isSettledBy groupBy && low.isSettledBy groupBy && high.isSettledBy groupBy
    | .among a items => a.isSettledBy groupBy && allSettledBy groupBy items
    | _ => false
where
  /-- Whether several expressions have the same values for all rows of a group. -/
  allSettledBy (groupBy : List (Expr Slot)) : List (Expr Slot) → Bool
    | [] => true
    | e :: rest => e.isSettledBy groupBy && allSettledBy groupBy rest

/-- The conditions on groups that may as well be asked of each row. -/
def groupConditions (groupBy : List (Expr Slot)) (having : Option (Expr Slot)) : List Condition :=
  if groupBy.isEmpty then []
  else
    ((having.elim [] Expr.conjuncts).filter fun e => e.isSettledBy groupBy).map fun e =>
      ⟨e, .filter, []⟩

/-- The greatest number of sources. -/
def maxSources : Nat := 64

/-- The seating of a select; `none` if it has too many sources, or if the condition of a join asks
for a source further to the right where it must not. -/
def Core.seating? (tables : Columns) : Core Slot → Option Seating
  | .mk _ _ sources filter groupBy having =>
    if maxSources < sources.length then none
    else do
      let whole := (filter.toList.map fun e => ⟨e, .filter, []⟩) ++ joinConditions 0 sources
      let t := Seating.simplified ⟨seatsFrom tables 0 0 sources, whole⟩
      let t := Seating.withKnown { t with conditions := t.conditions.flatMap Condition.parts }
      let conditions ← t.conditions.mapM t.settleOrigin
      return { t with conditions := conditions ++ groupConditions groupBy having }

end TableGateway.Engine
