import TableGateway.Engine.Search

/-!
# Routes

Joined sources are read one within the other. A route says in which order they are read and each of
them in which way. Routes are made longer source by source, and at each length only the best few are
followed further (`Shortlist`). What a route costs includes sorting its rows, unless they come in
the order that is wanted; how far they do is told by `Wish.met`.
-/

namespace TableGateway.Engine

/-! ### The order that is wanted -/

/-- One entry of an ordering. -/
structure SortTerm where
  /-- The column that it is. -/
  column : Option Spot
  /-- The sources that it asks for. -/
  asked : SourceSet
  isConstant : Bool
  isDown : Bool
  /-- Rows without a datum come last. -/
  isNullLast : Bool := false

/-- What an ordering is wanted for. -/
inductive Purpose where
  | order
  /-- Equal rows must come together. -/
  | group
  /-- Equal rows must come together, and all but the first are left out. -/
  | distinct
  /-- The first row is the one with the least, or the greatest, datum. -/
  | extreme
  deriving DecidableEq, Repr

/-- An ordering that is wanted. -/
structure Wish where
  terms : List SortTerm := []
  purpose : Purpose := .order
  /-- The number of columns of the result. -/
  width : Nat := 1
  /-- How many rows are wanted, if that is few. -/
  limit : Option Estimate := none
  /-- Equal rows of the result are left out. -/
  isDistinct : Bool := false
  /-- The rows are grouped by the same as they are ordered by. -/
  isGroupOrder : Bool := false

/-- How far the rows of a route come in an order. -/
structure Progress where
  /-- The entries that are met, as the bits of a number. -/
  met : Nat := 0
  /-- No two rows so far have the same data in the entries. -/
  isDistinct : Bool := true
  /-- The sources of which that is so. -/
  distinct : SourceSet := 0
  /-- The sources that have been gone through. -/
  ready : SourceSet := 0
  /-- The sources that are to be read backwards. -/
  reversed : SourceSet := 0
  /-- The sources of which rows without a datum are to be read last. -/
  nullLast : SourceSet := 0
  /-- Some source comes in no order. -/
  hasFailed : Bool := false

/-- The state while the columns of one way are gone through. -/
structure Passage where
  progress : Progress
  /-- Whether it goes backwards, once that is settled. -/
  direction : Option Bool := none
  /-- The key of the rows is an entry. -/
  hasKey : Bool := false
  isDone : Bool := false

namespace Wish

/-- All entries. -/
def all (w : Wish) : Nat := (1 <<< w.terms.length) - 1

/-- Whether an entry is met. -/
def isMet (p : Progress) (i : Nat) : Bool := p.met.testBit i

/-- The progress when one more entry is met. -/
def meet (p : Progress) (i : Nat) : Progress := { p with met := p.met ||| (1 <<< i) }

/-- The term that tells the value of a column from sources that have been gone through: one that
needs no source at all, or else the first. -/
def toldBy? (q : Quest) (ready : SourceSet) (target : Spot) (counts : Test → Bool) :
    Option Facts :=
  let found := (findTerms q.seating (q.terms.map Term.facts) ⟨target, none, counts⟩).filter
    fun f => f.needs.within ready
  match found.find? fun f => f.needs == 0 && f.test.any Test.isSame with
  | some f => some f
  | none => found.head?

/-- Whether a test leaves only one datum of a column; one of several counts where `few` says so. -/
def pins (few : Bool) (t : Test) : Bool :=
  t.isSame || t == .isNull || (few && t.isAmong)

/-- Meets the entries that are columns of a source whose values are told. -/
def meetTold (w : Wish) (q : Quest) (few : Bool) (way : Way) (seat : Seat) (p : Progress) :
    Progress :=
  w.terms.zipIdx.foldl (fun p (t, i) =>
    match t.column with
    | some (0, c) =>
      if isMet p i || !seat.has c then p
      else
        match toldBy? q p.ready (0, c) (pins few) with
        | none => p
        | some f =>
          if f.test.any Test.isAmong && !way.terms.any fun x => x.id == f.id then p else meet p i
    | _ => p) p

/-- The entry that a column is, among those that are not met: where order matters, only the first
one can be. -/
def entryOf? (w : Wish) (isFirstOnly : Bool) (p : Progress) (column : Nat) :
    Option (SortTerm × Nat) :=
  let left := w.terms.zipIdx.filter fun (_, i) => !isMet p i
  (if isFirstOnly then left.take 1 else left).find? fun (t, _) => t.column == some (0, column)

/-- Goes through one column of a way, the `j`-th. -/
def passColumn (w : Wish) (isLast few : Bool) (way : Way) (seat : Seat) (isNullable : Nat → Bool)
    (s : Passage) (column : Nat) (j : Nat) : Passage :=
  if s.isDone then s
  else
    let test := if j < way.equals then (way.terms[j]?).bind Facts.test else none
    if test.any (pins few) then
      if test.any fun t => t == .isNull || t == .same then
        { s with progress := { s.progress with isDistinct := false } }
      else s
    else
      let p := s.progress
      let p := if !seat.isKey column && way.equals ≤ j && isNullable column then
        { p with isDistinct := false } else p
      let isGroup := !isLast && w.purpose == .group
      let isFirstOnly := isLast || !(w.purpose == .group || w.purpose == .distinct)
      let missed (p : Progress) : Passage :=
        { s with
          progress := if j = 0 then { p with isDistinct := false } else p
          isDone := true }
      match w.entryOf? isFirstOnly p column with
      | none => missed p
      | some (t, i) =>
        let fits := isGroup || s.direction.all fun d => d == t.isDown
        let p := if !isGroup && s.direction.isNone && t.isDown then
          { p with reversed := .union p.reversed seat.self } else p
        let direction := if isGroup then s.direction else some (s.direction.getD t.isDown)
        let s := { s with direction }
        if !fits || (t.isNullLast && j != way.equals) then { missed p with direction }
        else
          let p := if t.isNullLast then { p with nullLast := .union p.nullLast seat.self } else p
          { s with
            progress := meet p i
            hasKey := s.hasKey || seat.isKey column }

/-- Meets the entries that only ask for sources of which no two rows so far are the same. -/
def meetRest (w : Wish) (p : Progress) : Progress :=
  w.terms.zipIdx.foldl (fun p (t, i) =>
    if isMet p i || (t.asked == 0 && !t.isConstant) then p
    else if t.asked.within p.distinct then meet p i
    else p) p

/-- Goes through one way. -/
def pass (w : Wish) (q : Quest) (isLast : Bool) (way : Way) (seat : Seat) (p : Progress) :
    Progress :=
  let few := isLast || w.purpose == .extreme
  let p := w.meetTold q few way seat p
  let finish (p : Progress) : Progress :=
    if p.isDistinct then w.meetRest { p with distinct := .union p.distinct seat.self } else p
  let through (columns : List Nat) (isNullable : Nat → Bool) (p : Progress) : Progress :=
    let s := columns.zipIdx.foldl (fun s (column, j) =>
      w.passColumn isLast few way seat isNullable s column j) ⟨p, none, false, false⟩
    finish (if s.hasKey then { s.progress with isDistinct := true } else s.progress)
  if way.isSingle then finish p
  else
    match way.lookup with
    | .key =>
      if seat.isStored then through [seat.key] (fun _ => false) p
      else { p with isDistinct := false }
    | .listing l =>
      through [l.column, seat.key] (fun _ => !l.full) { p with isDistinct := true }
    | _ => { p with hasFailed := true }

/-- Goes through ways from the outermost on, as long as that can make a difference. If `isLast`,
only the last way counts. -/
def march (w : Wish) (q : Quest) (isLast : Bool) : List Way → Progress → Progress
  | [], p => p
  | way :: rest, p =>
    if p.hasFailed || !p.isDistinct || p.met == w.all then p
    else
      match q.seating.seats.find? fun s => s.number == way.source with
      | none => p
      | some seat =>
        let p := if isLast && !rest.isEmpty then p else w.pass q isLast way seat p
        if p.hasFailed then p
        else w.march q isLast rest { p with ready := .union p.ready seat.self }

/-- The greatest number of entries for which an order is looked for. -/
def maxTerms : Nat := 63

/-- How many entries from the first on are met. -/
def leading (w : Wish) (p : Progress) : Nat :=
  ((List.range w.terms.length).takeWhile (isMet p)).length

/-- How many entries the rows of some ways come in the order of; `none` if that depends on further
ways. -/
def met (w : Wish) (q : Quest) (isLast : Bool) (ways : List Way) : Option Nat × Progress :=
  if maxTerms < w.terms.length then (some 0, {})
  else
    let p := w.march q isLast ways {}
    if p.hasFailed then (some 0, p)
    else if p.met == w.all then (some w.terms.length, p)
    else if p.isDistinct then (none, p)
    else (some (min (w.leading p) (w.terms.length - 1)), p)

/-- What it costs to sort so many rows of which so many entries are in order. -/
def sortCost (w : Wish) (rows : Estimate) (sorted : Nat) : Estimate :=
  let n := w.terms.length
  let partly : Estimate := if 0 < sorted then .ofNat ((n - sorted) * 100 / n) - 66 else 0
  let all : Estimate := rows + .ofNat ((w.width + 59) / 30) + partly
  match w.limit with
  | some limit =>
    all + 10 + (if sorted = 0 then 0 else 6) + Estimate.steps (min limit rows)
  | none =>
    all + Estimate.steps (if w.isDistinct && decide (10 < rows) then rows - 10 else rows)

end Wish

/-! ### Routes -/

/-- A route through some of the sources. -/
structure Route where
  /-- The ways, the outermost first. -/
  ways : List Way := []
  /-- The sources that it goes through. -/
  sources : SourceSet := 0
  reversed : SourceSet := 0
  nullLast : SourceSet := 0
  /-- How many rows it finds. -/
  rows : Estimate := 0
  cost : Estimate := 0
  /-- What it costs without sorting. -/
  unsorted : Estimate := 0
  /-- How many entries of the order its rows come in; `none` if that is open. -/
  sorted : Option Nat := some 0

namespace Route

/-- The number of rows from which on the number of times that something is done no longer counts. -/
def manyRows : Estimate := 48

/-- The number of rows from which on a list may be made for the purpose. -/
def worthwhile : Estimate := 3

/-- The route with one more way; `total` is how many rows there are to be sorted, if an order is
wanted. -/
def extended (q : Quest) (w : Wish) (total : Option Estimate) (r : Route) (way : Way) :
    Option Route :=
  let self := SourceSet.single way.source
  if !way.needs.within r.sources || self.meets r.sources
      || (way.isAnew && decide (r.rows < worthwhile)) then none
  else
    let once := way.run + r.rows
    let once := if way.setup = 0 then once else Estimate.sum way.setup once
    let unsorted := Estimate.sum once r.unsorted
    let ways := r.ways ++ [way]
    let (sorted, reversed, nullLast) := match r.sorted with
      | some n => (some n, r.reversed, r.nullLast)
      | none =>
        let (sorted, p) := w.met q false ways
        (sorted, p.reversed, p.nullLast)
    let sorting : Option Estimate := do
      let rows ← total
      let n ← sorted
      if n < w.terms.length then return w.sortCost rows n else failure
    let (cost, unsorted) := match sorting with
      | some c => (Estimate.sum unsorted c + 3, unsorted)
      | none => (unsorted, unsorted - 2)
    some {
      ways, reversed, nullLast, cost, unsorted, sorted
      sources := .union r.sources self
      rows := r.rows + way.rows }

/-- Whether two routes go through the same sources, and are both open as to their order or not. -/
def isRival (a b : Route) : Bool :=
  a.sources == b.sources && a.sorted.isNone == b.sorted.isNone

/-- Whether a route is better than another one. -/
def isBetter (a b : Route) : Bool :=
  decide (a.cost < b.cost) || (a.cost == b.cost &&
    (decide (a.rows < b.rows) || (a.rows == b.rows && decide (a.unsorted < b.unsorted))))

end Route

/-- The best few routes of one length, and the worst of them. -/
structure Shortlist where
  routes : Array Route := #[]
  worst : Nat := 0
  worstCost : Estimate := 0
  worstUnsorted : Estimate := 0

namespace Shortlist

/-- Finds the worst of the routes. -/
def ranked (routes : Array Route) : Shortlist :=
  let first : Shortlist :=
    { routes
      worstCost := ((routes[0]?).map Route.cost).getD 0
      worstUnsorted := ((routes[0]?).map Route.rows).getD 0 }
  (routes.toList.zipIdx.drop 1).foldl (fun s (r, i) =>
    if s.worstCost < r.cost ∨ (s.worstCost = r.cost ∧ s.worstUnsorted < r.unsorted) then
      { s with worst := i, worstCost := r.cost, worstUnsorted := r.unsorted }
    else s) first

/-- The list with a route in a place. -/
def withRoute (size : Nat) (s : Shortlist) (routes : Array Route) : Shortlist :=
  if routes.size < size then { s with routes } else ranked routes

/-- Adds a route, as far as it is among the best few. -/
def add (size : Nat) (s : Shortlist) (r : Route) : Shortlist :=
  match s.routes.findIdx? fun p => p.isRival r with
  | some i =>
    match s.routes[i]? with
    | some p => if r.isBetter p then s.withRoute size (s.routes.setIfInBounds i r) else s
    | none => s
  | none =>
    if s.routes.size < size then s.withRoute size (s.routes.push r)
    else if s.worstCost < r.cost ∨ (s.worstCost = r.cost ∧ s.worstUnsorted ≤ r.unsorted) then s
    else s.withRoute size (s.routes.setIfInBounds s.worst r)

/-- How many routes are followed through so many sources. -/
def sizeFor (sources : Nat) : Nat := if sources ≤ 1 then 1 else if sources = 2 then 5 else 10

end Shortlist

namespace Quest

/-- The routes that are one source longer. -/
def longer (q : Quest) (w : Wish) (total : Option Estimate) (size : Nat) (ways : List Way)
    (routes : Array Route) : Array Route :=
  (routes.foldl (fun s r =>
    ways.foldl (fun s way =>
      match r.extended q w total way with
      | some longer => s.add size longer
      | none => s) s) ({} : Shortlist)).routes

/-- The best route through so many sources, where each way starts so often. -/
def bestRoute (q : Quest) (w : Wish) (total : Option Estimate) (often : Estimate) (count : Nat)
    (ways : List Way) : Route :=
  let start : Route :=
    { rows := min often Route.manyRows
      sorted := if total.isSome && count != 0 then none else some w.terms.length }
  let routes := (List.range count).foldl (fun routes _ =>
    q.longer w total (Shortlist.sizeFor count) ways routes) #[start]
  match routes.toList with
  | [] => start
  | r :: rest => rest.foldl (fun best r => if r.cost < best.cost then r else best) r

/-- The ways that are left once it is known which ones come first without regard to order: where
these look rows up by equality, a source is not read as a whole instead. -/
def withoutWhole (first : List Way) (ways : List Way) : List Way :=
  let fixed := (first.takeWhile fun w => w.hasEqual || w.hasNull || w.hasAmong).map Way.source
  ways.filter fun w => !fixed.contains w.source || w.isLimited || w.isAnew

/-- The way to the one row of a single source that a term tells, if one does. -/
def shortcut? (q : Quest) (seat : Seat) : Option Way :=
  let facts := q.terms.map Term.facts
  let first (target : Target) : Option Facts :=
    (findTerms q.seating facts target).find? fun f => f.needs == 0
  let way (lookup : Lookup) (f : Facts) (covers : Bool) : Way :=
    { source := seat.number, lookup, covers, terms := [f], equals := 1, hasEqual := true
      isSingle := true, rows := 1 }
  match if seat.isStored then first ⟨(0, seat.key), none, Test.isSame⟩ else none with
  | some f => some (way .key f false)
  | none =>
    seat.listings.findSome? fun l =>
      let fits (t : Test) : Bool := if l.full then t.isSame else t.isEqual
      let stored := if seat.isKey l.column then none
        else (seat.column? l.column).map ColumnDef.affinity
      (first ⟨(0, l.column), stored, fits⟩).map fun f => way (.listing l) f false

/-- The best route through all sources. If an order is wanted, a first search without regard to it
tells how many rows there are. -/
def route (q : Quest) (w : Wish) (often : Estimate) : Route :=
  let count := q.seating.seats.length
  let n := w.terms.length
  let shortcut := match q.seating.seats with
    | [seat] => q.shortcut? seat
    | _ => none
  match shortcut with
  | some way => { ways := [way], sources := .single way.source, rows := 1, sorted := some n }
  | none =>
    let ways := q.allWays
    let first := q.bestRoute w none often count ways
    if w.terms.isEmpty then first
    else
      let total := if first.rows < 0 then 1 else first.rows + 1
      q.bestRoute w (some total) often count (withoutWhole first.ways ways)

end Quest

end TableGateway.Engine
