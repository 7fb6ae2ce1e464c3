import TableGateway.Engine.Aim

/-!
# Itineraries

How the rows of a select are gone through: one source within the other, in the order of the route,
each source in one or more passes. A pass goes through the rows for which some conditions hold, in
the order of some of their columns; a row that an earlier pass has been to is left out. Conditions
of a pass that ask for sources that come later do not count yet. A condition is asked as soon as all
sources that it names have been read.

Where rows of a source are kept that have no partner, they come after all others, in passes of their
own. The conditions on all rows are not asked before that.
-/

namespace TableGateway.Engine

/-- One pass through the rows of a source. -/
structure Pass where
  /-- Only rows for which all of these hold are gone through. -/
  conditions : List (Expr Slot) := []
  /-- The positions of the columns by which the rows are sorted. -/
  columns : List Nat := []
  isReversed : Bool := false
  /-- Rows without a datum come last. -/
  isNullLast : Bool := false

/-- A source that is gone through. -/
structure Stop where
  seat : Seat
  passes : List Pass
  /-- What decides which rows have a partner here. -/
  matching : List (Expr Slot) := []
  /-- What must hold from here on. -/
  checks : List (Expr Slot) := []
  /-- The passes through rows that have no partner, if these are kept. -/
  lonely : List Pass := []

/-- How the rows of a select are gone through. -/
structure Itinerary where
  /-- What must hold before any source is read. -/
  checks : List (Expr Slot)
  stops : List Stop
  /-- The rows come in the order that is wanted. -/
  isOrdered : Bool
  /-- The first row decides. -/
  isShort : Bool
  /-- How many rows there are supposed to be. -/
  rows : Estimate

/-! ### Passes -/

mutual

/-- Whether there is a select in an expression. -/
def Expr.hasSelect : Expr Slot → Bool
  | .constant _ | .truth _ | .param _ | .column _ | .size | .settled _ _ => false
  | .amongRows _ _ | .present _ | .firstOf _ => true
  | .signed _ e | .negation e | .cast _ e | .summary _ _ e => e.hasSelect
  | .operation _ l r | .comparison _ l r | .same l r | .different l r | .both l r | .either l r =>
    l.hasSelect || r.hasSelect
  | .between e low high => e.hasSelect || low.hasSelect || high.hasSelect
  | .among e items => e.hasSelect || anyHasSelect items

/-- Whether there is a select in one of several expressions. -/
def anyHasSelect : List (Expr Slot) → Bool
  | [] => false
  | e :: rest => e.hasSelect || anyHasSelect rest

end

namespace Quest

/-- The quest for rows under other conditions, with other sources. -/
def under (q : Quest) (seats : List Seat) (conditions : List Condition) : Quest :=
  let t : Seating := ⟨seats, conditions⟩
  { seating := t, terms := t.terms conditions, asked := q.asked }

/-- The best way to read one source, where no list is made for the purpose. -/
def bestWay (q : Quest) (seat : Seat) : Way :=
  ((q.bestRoute {} none 0 1 (q.waysTo seat 0 [])).ways.head?).getD
    { source := seat.number, lookup := .key }

/-- The condition that a term is. -/
def conditionOf (t : Term) : Condition := ⟨t.facts.expr, t.facts.origin, t.facts.known⟩

/-- The conditions that are asked together with each alternative of a term: those of other terms
that have not been asked yet and may be of use. -/
def besides (q : Quest) (ready : SourceSet) (f : Facts) : List Condition :=
  (q.terms.filter fun t =>
    let g := t.facts
    !g.isDerived && g.id != f.id && !g.asked.within ready && !g.expr.hasSelect
      && (g.test.isSome || g.isLink || g.shape != .plain)).map conditionOf

/-- The columns by which a list is sorted that is made for the purpose. -/
def columnsAnew (q : Quest) (seat : Seat) : List Nat :=
  let asked := (q.asked.filter seat.has).map seat.place
  ((List.range seat.width).map fun i => seat.start + i).filter fun i =>
    asked.contains i || seat.isKey i

/-- The passes of a way. `further` are the sources that have not been read yet, and `ready` those
that have been. -/
def passes (further : List Seat) : Nat → Quest → SourceSet → Seat → Way → List Pass
  | 0, _, _, _, _ => [{}]
  | fuel + 1, q, ready, seat, way =>
    match way.lookup with
    | .key => [{ columns := if seat.isStored then [seat.key] else [] }]
    | .listing l => [{ columns := [l.column, seat.key] }]
    | .anew => [{ columns := q.columnsAnew seat }]
    | .alternatives =>
      let term := q.terms.find? fun t => way.terms.any fun f => f.id == t.facts.id
      match term with
      | none => [{}]
      | some t =>
        let others := q.besides ready t.facts
        let chosen := t.parts.filter fun p =>
          p.facts.shape == .both || p.facts.column.any fun (level, i) => level == 0 && seat.has i
        chosen.flatMap fun p =>
          let own : List Condition := p.facts.expr.conjuncts.map fun e =>
            ⟨e, p.facts.origin, p.facts.known⟩
          let sub := q.under (seat :: further) (own ++ others)
          let told := p.facts.expr.conjuncts.filter fun e =>
            (sub.seating.sourcesOfSlots (e.outward false 0)).within seat.self
          (passes further fuel sub 0 seat (sub.bestWay seat)).map fun pass =>
            { pass with conditions := told ++ pass.conditions }

/-- How deeply conditions stand within each other. -/
def nesting (q : Quest) : Nat :=
  (q.seating.conditions.map fun c => c.expr.nesting).foldl max 0

/-- The passes through the rows of a source that have no partner. -/
def lonelyPasses (q : Quest) (ready : SourceSet) (seat : Seat) : List Pass :=
  if !seat.filled then []
  else
    let alone : Seat := { seat with fills := false, filled := false, precedes := false }
    let conditions := if seat.precedes then []
      else (q.terms.filter fun t =>
        !t.facts.isDerived && t.facts.origin == .filter
          && t.facts.asked.within (.union ready seat.self)).map conditionOf
    let sub := q.under [alone] conditions
    let way := (sub.shortcut? alone).getD (sub.bestWay alone)
    passes [] (sub.nesting + 1) sub 0 alone way

end Quest

/-! ### Conditions -/

namespace Seating

/-- Whether rows of some source are kept that have no partner. -/
def keepsRight (t : Seating) : Bool := t.seats.any Seat.filled

/-- The last source whose rows are kept that have no partner. -/
def lastKept (t : Seating) : Nat := ((t.seats.filter Seat.filled).getLast?.map Seat.number).getD 0

/-- Whether a condition that decides no partner can be asked once some sources have been read. -/
def isAskable (t : Seating) (ready : SourceSet) (c : Condition) : Bool :=
  (t.sourcesOfSlots (c.expr.outward false 0)).within ready &&
    match c.origin with
    | .filter => !t.keepsRight || (SourceSet.single t.lastKept).within ready
    | .inner i => !t.keepsRight || (SourceSet.single i).within ready
    | .outer _ => false

/-- The conditions that can be asked once some sources have been read, and could not before. -/
def checksAt (t : Seating) (before : Option SourceSet) (ready : SourceSet) : List (Expr Slot) :=
  (t.conditions.filter fun c =>
    t.isAskable ready c && !before.any fun b => t.isAskable b c).map Condition.expr

/-- The conditions that decide which rows have a partner in a source. -/
def matchingAt (t : Seating) (i : Nat) : List (Expr Slot) :=
  (t.conditions.filter fun c => c.origin == .outer i).map Condition.expr

end Seating

/-! ### Stops -/

namespace Quest

/-- The stops of a route after some sources have been read. -/
def stops (q : Quest) (r : Route) : SourceSet → List Way → List Stop
  | _, [] => []
  | before, way :: rest =>
    match q.seating.seats.find? fun s => s.number == way.source with
    | none => q.stops r before rest
    | some seat =>
      let ready := SourceSet.union before seat.self
      let further := q.seating.seats.filter fun s => !s.self.within ready
      let passes := (Quest.passes further (q.nesting + 1) q before seat way).map fun pass =>
        { pass with
          isReversed := seat.self.within r.reversed
          isNullLast := seat.self.within r.nullLast }
      { seat, passes
        matching := q.seating.matchingAt seat.number
        checks := q.seating.checksAt (some before) ready
        lonely := q.lonelyPasses before seat } :: q.stops r ready rest

/-- The route, with the direction in which each source is read once it is known how far the rows
come in order. -/
def directed (q : Quest) (w : Wish) (r : Route) : Route :=
  let all := w.terms.length
  let r := { r with sorted := some (r.sorted.getD 0) }
  if w.purpose == .distinct && !w.isGroupOrder then { r with reversed := 0, nullLast := 0 }
  else
    let r := if w.purpose == .distinct then { r with reversed := 0, nullLast := 0 } else r
    match r.ways.getLast? with
    | none => r
    | some last =>
      if all != 0 && r.sorted == some 0 && w.purpose != .distinct then
        if last.isSingle || (last.lookup == .key && last.hasAmong) then r
        else
          match w.met q true r.ways with
          | (some n, p) =>
            if n = all then { r with reversed := p.reversed, nullLast := p.nullLast } else r
          | _ => r
      else if w.isGroupOrder && r.sorted == some all then
        match ({ w with purpose := .order } : Wish).met q false r.ways with
        | (some n, p) =>
          if n = all then { r with reversed := p.reversed, nullLast := p.nullLast } else r
        | _ => r
      else r

end Quest

/-- How the rows of a select are gone through, if its sources can be joined. `often` is how often
that is done. -/
def Core.itinerary? (tables : Columns) (ordering : List (Ordered Slot)) (limit : Option Estimate)
    (often : Estimate) (core : Core Slot) : Option Itinerary := do
  let t ← core.seating? tables
  let q := core.quest t ordering
  let w := core.wish q ordering limit
  let q := { q with sortColumns := w.terms.filterMap SortTerm.column }
  let r := q.directed w (q.route w often)
  return {
    checks := t.checksAt none 0
    stops := q.stops r 0 r.ways
    isOrdered := !w.terms.isEmpty && r.sorted == some w.terms.length
      && (w.purpose == .order || w.purpose == .group) && !t.keepsRight
    isShort := w.purpose == .extreme && r.sorted == some 1 && !r.ways.any Way.hasAmong
      && !t.keepsRight
    rows := r.rows }

end TableGateway.Engine
