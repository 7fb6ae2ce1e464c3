import TableGateway.Engine.Way

/-!
# The ways to read each source

All ways that come into question are gone through, source by source: the terms about a column, or
about one that can be taken for it, are found (`findTerms`), each is tried alone and together with
others (`Lookups.extensions`), and for alternatives the costs of their best ways are added up
(`Term.waysByAlternatives`).
-/

namespace TableGateway.Engine

/-! ### Terms about a column -/

/-- The state of a search for terms about a column: the columns that can be taken for it, and the
terms that have been found. -/
structure Hunt where
  spots : List Spot
  found : List Facts

/-- What is searched for: terms about a column, with its preference if they are to be looked up in
a list of its data. -/
structure Target where
  spot : Spot
  preference : Option Affinity
  fits : Test → Bool

/-- The greatest number of columns that can be taken for each other. -/
def maxEquivalents : Nat := 11

/-- The column on the right of a comparison. -/
def Facts.partner? (t : Seating) (f : Facts) : Option Spot :=
  (f.expr.right?.bind Expr.slot?).map t.spot

/-- Whether a term is one that is searched for. -/
def Target.isMet (t : Seating) (target : Target) (f : Facts) : Bool :=
  f.test.any fun test =>
    target.fits test
      && (test == .isNull || target.preference.all (searchable f.expr.preference))
      && !(test.isSame && f.partner? t == some target.spot)

/-- Looks at one term; `spot` is the column of the target, which is `first`, or one that can be
taken for it. -/
def Hunt.look (t : Seating) (target : Target) (spot : Spot) (first : Bool) (h : Hunt) (f : Facts) :
    Hunt :=
  if f.column != some spot || (!first && f.origin.isOuter) then h
  else
    let partner := (f.partner? t).filter fun p =>
      f.isLink && !f.known.contains p && !h.spots.contains p
        && decide (h.spots.length < maxEquivalents)
    { spots := h.spots ++ partner.toList
      found := if target.isMet t f then h.found ++ [f] else h.found }

/-- Looks through all terms for each column that can be taken for the one of the target. -/
def Hunt.run (t : Seating) (target : Target) (facts : List Facts) : Nat → Nat → Hunt → Hunt
  | 0, _, h => h
  | fuel + 1, i, h =>
    match h.spots[i]? with
    | none => h
    | some spot =>
      Hunt.run t target facts fuel (i + 1) (facts.foldl (Hunt.look t target spot (i == 0)) h)

/-- The terms that are searched for, those about the column itself first. -/
def findTerms (t : Seating) (facts : List Facts) (target : Target) : List Facts :=
  (Hunt.run t target facts maxEquivalents 0 ⟨[target.spot], []⟩).found

/-! ### Ways that use a clause -/

/-- What ways to read one source are searched for with. -/
structure Lookups where
  seating : Seating
  seat : Seat
  /-- The positions of the columns that are asked for. -/
  asked : List Nat
  /-- The columns of the ordering that is wanted. -/
  sortColumns : List Spot
  /-- The terms of the whole select. -/
  all : List Facts
  /-- The sources that must be read before in any case. -/
  prior : SourceSet
  /-- The ways that have been found so far. -/
  ways : List Way
  /-- The rows are to be changed. -/
  isForChange : Bool := false

namespace Lookups

/-- Whether a term may limit what is read of the source: where rows are filled up, only the
condition of the join itself may. -/
def allows (c : Lookups) (f : Facts) : Bool :=
  if c.seat.fills || c.seat.filled || c.seat.precedes then
    match f.origin with
    | .filter => false
    | .inner i => i == c.seat.number && !(c.seat.fills || c.seat.filled)
    | .outer i => i == c.seat.number
  else true

/-- Whether a term only needs sources other than this one. -/
def isApart (c : Lookups) (f : Facts) : Bool := !SourceSet.meets f.needs c.seat.self

/-- The integer that an expression is, with signs before it. -/
def integer? : Expr Slot → Option Int
  | .constant (.integer n) => some n.toInt
  | .signed .plus e => integer? e
  | .signed .minus e => (integer? e).map fun n => -n
  | _ => none

/-- How many rows an equality leaves out at least: more, unless it is one with a very small
integer, which may be frequent. -/
def culledBy (f : Facts) : Estimate :=
  if f.test.any Test.isSame then
    if (f.expr.right?.bind integer?).any fun k => decide (-1 ≤ k ∧ k ≤ 1) then 10 else 20
  else 0

/-- The way with fewer rows, because terms of its clause that are not used by it leave some out. -/
def trimmed (c : Lookups) (clause : List Facts) (w : Way) : Way :=
  let unused := clause.filter fun f =>
    !f.isDerived && f.asked.within (.union w.needs c.seat.self) && f.asked.meets c.seat.self
      && !w.terms.any fun x => x.id == f.id || x.parent == some f.id
  let rows := w.rows - unused.length
  { w with rows := min rows (tableRows - (unused.map culledBy).foldl max 0) }

/-- The columns by which rows are found. -/
def columns (c : Lookups) : Lookup → List Nat
  | .key => if c.seat.isStored then [c.seat.key] else []
  | .listing l => [l.column, c.seat.key]
  | _ => []

/-- Whether a column of the lookup is never nothing. -/
def isFull (c : Lookups) (lookup : Lookup) (column : Nat) : Bool :=
  c.seat.isKey column ||
    match lookup with
    | .listing l => l.full
    | _ => false

/-- How many rows are left by bounds. -/
def boundedRows (rows : Estimate) (lower upper : Option Facts) : Estimate :=
  let cut (f : Option Facts) : Estimate := if f.any fun f => !f.isPresence then 20 else 0
  let both : Estimate := if lower.isSome && upper.isSome then 20 else 0
  let left := max 10 (rows - cut lower - cut upper - both)
  min left (rows - (if lower.isSome then 1 else 0) - (if upper.isSome then 1 else 0))

/-- A way with one more term for the next column, before what is multiplied by it: with the flags
and the number of rows that follow from the term. -/
def withTerm (c : Lookups) (multiplier : Estimate) (w : Way) (column : Nat) (f : Facts)
    (test : Test) : Way :=
  let w' : Way := { w with
    terms := w.terms ++ [f]
    needs := (SourceSet.union w.needs f.needs).without c.seat.self }
  let fewer : Estimate := if w.equals = 0 then w.rows - tableRows else w.rows
  match test with
  | .among _ => { w' with hasAmong := true, equals := w.equals + 1, rows := fewer }
  | .isNull => { w' with hasNull := true, equals := w.equals + 1, rows := fewer + 10 }
  | .same | .compare .eq =>
    let isUnique : Bool :=
      match w.lookup with
      | .listing l =>
        w.equals == 0 && multiplier == 0 && (l.full || test.isEqual)
      | _ => false
    { w' with
      hasEqual := true, equals := w.equals + 1, rows := fewer
      isSingle := w.isSingle || c.seat.isKey column || isUnique }
  | .compare _ =>
    let lower := if w.hasLower then w.terms.getLast? else none
    if test.isLower then { w' with hasLower := true, rows := boundedRows w.rows (some f) none }
    else { w' with hasUpper := true, rows := boundedRows w.rows lower (some f) }

/-- The cost of a way that finds its rows by terms. -/
def runCost (c : Lookups) (w : Way) : Estimate :=
  match w.lookup with
  | .listing l =>
    let found := Estimate.sum searchCost (w.rows + c.seat.entryCost l)
    if w.covers then found else .sum found (w.rows + lookupCost)
  | _ => .sum searchCost (w.rows + lookupCost)

/-- How many items a term goes through. -/
def itemsOf : Test → Estimate
  | .among n => n
  | _ => 0

/-- The ways with terms for further columns. An equality makes way for the next column, and a lower
bound for an upper one. `multiplier` is how often rows are looked up because of terms so far. -/
def extensions (c : Lookups) (clause outer : List Facts) : Nat → Estimate → Way → List Way
  | 0, _, _ => []
  | fuel + 1, multiplier, w =>
    let columns := c.columns w.lookup
    match columns[w.equals]? with
    | none => []
    | some column =>
      let stored := if c.seat.isKey column then none
        else (c.seat.column? column).map ColumnDef.affinity
      let fits (t : Test) : Bool := if w.hasLower then t.isUpper else true
      (findTerms c.seating (clause ++ outer) ⟨(0, column), stored, fits⟩).flatMap fun f =>
        match f.test with
        | none => []
        | some test =>
          if ((test == .isNull || f.isPresence) && c.isFull w.lookup column)
              || !c.isApart f || !c.allows f then []
          else
            let next := c.withTerm multiplier w column f test
            let multiplier := multiplier + itemsOf test
            let found := c.trimmed clause { next with
              run := c.runCost next + multiplier, rows := next.rows + multiplier }
            let isRange := next.equals = w.equals
            let goesOn := !next.hasUpper &&
              match w.lookup with
              | .listing l => decide (next.equals < 1) || !l.isPrimary
              | _ => true
            let further := if isRange then { next with rows := w.rows } else next
            found :: if goesOn then c.extensions clause outer fuel multiplier further else []

/-- The ways through a list that is made for the purpose. -/
def waysAnew (c : Lookups) (clause : List Facts) (rank : Nat) : List Way :=
  if c.seat.filled then []
  else
    clause.filterMap fun f =>
      match f.column with
      | some (0, i) =>
        let isSuitable := c.isApart f && c.seat.has i && f.test.any Test.isSame && c.allows f
          && !c.seat.isKey i
          && ((c.seat.column? i).map ColumnDef.affinity).all (searchable f.expr.preference)
        if isSuitable then
          some {
            source := c.seat.number
            lookup := .anew
            terms := [f]
            equals := 1
            sortRank := rank
            needs := .union c.prior f.needs
            setup := costAnew
            run := .sum searchCost rowsAnew
            rows := rowsAnew }
        else none
      | _ => none

/-- Whether reading through a lookup may help to bring the rows in order. -/
def helpsSorting (c : Lookups) (lookup : Lookup) : Bool :=
  c.sortColumns.any fun (level, i) =>
    level == 0 && c.seat.has i && (c.seat.isKey i || ((c.columns lookup).head? == some i))

/-- Whether everything that is asked for is in a list. -/
def isCovered (c : Lookups) (l : Listing) (asked : List Nat) : Bool :=
  (asked.filter c.seat.has).all fun i => c.seat.isKey (c.seat.place i) || i == l.column

/-- What it costs to look up the rows of a whole list in the table: less where terms that come first
can be told from the list alone. -/
def lookupsFrom (c : Lookups) (l : Listing) : Estimate :=
  let told := c.all.takeWhile fun f =>
    c.isCovered l ((f.expr.slots.filter fun s => s.level == 0).map Slot.index)
  told.foldl (fun n f => n - (if f.test.any Test.isSame then 20 else 1)) (tableRows + lookupCost)

/-- The ways through one lookup: as a whole, and by terms. -/
def waysThrough (c : Lookups) (clause outer : List Facts) (lookup : Lookup) (rank : Nat) :
    List Way :=
  let sortRank := if c.helpsSorting lookup then rank else 0
  let covers := match lookup with
    | .listing l => c.isCovered l c.asked
    | _ => false
  let start : Way :=
    { source := c.seat.number, lookup, covers, sortRank, needs := c.prior, rows := tableRows }
  let run := match lookup with
    | .listing l =>
      let read := tableRows + c.seat.entryCost l
      if covers then read else .sum read (c.lookupsFrom l)
    | _ => tableRows + lookupCost
  let isUseful := match lookup with
    | .listing l =>
      sortRank != 0 || (covers && !c.isForChange && decide (Seat.entrySize l < c.seat.rowSize))
    | _ => true
  let whole := c.trimmed clause { start with run }
  (if isUseful then [whole] else []) ++ c.extensions clause outer 4 0 start

/-- The ways that use the terms of a clause. -/
def waysByTerms (c : Lookups) (clause outer : List Facts) : List Way :=
  let lookups := Lookup.key :: c.seat.listings.map Lookup.listing
  lookups.zipIdx.flatMap fun (lookup, i) => c.waysThrough clause outer lookup (i + 1)

end Lookups

/-! ### Alternatives -/

/-- What it costs to search for each alternative of a term. -/
structure Toll where
  needs : SourceSet
  run : Estimate
  rows : Estimate

namespace Toll

/-- The greatest number of tolls that are compared. -/
def maxTolls : Nat := 3

/-- The place of the lowest toll; the first of equal ones. -/
def lowest (tolls : List Toll) : Nat :=
  (tolls.zipIdx.foldl (fun best (t, i) =>
    if t.run < best.2 then (i, t.run) else best) (0, ((tolls.head?.map Toll.run).getD 0))).1

/-- Puts a toll among others; one that is not better than another one is left out. If there are too
many, only one that is lower than all others takes a place, that of the lowest so far. -/
def insert (tolls : List Toll) (t : Toll) : List Toll :=
  let merged (p : Toll) : Toll := ⟨t.needs, t.run, min p.rows t.rows⟩
  let beats (p : Toll) : Bool := decide (t.run ≤ p.run) && SourceSet.within t.needs p.needs
  let beaten (p : Toll) : Bool := decide (p.run ≤ t.run) && SourceSet.within p.needs t.needs
  match tolls.findIdx? fun p => beats p || beaten p with
  | some i =>
    match tolls[i]? with
    | some p => if beats p then tolls.set i (merged p) else tolls
    | none => tolls
  | none =>
    if tolls.length < maxTolls then tolls ++ [t]
    else
      let i := lowest tolls
      match tolls[i]? with
      | some p => if p.run ≤ t.run then tolls else tolls.set i (merged p)
      | none => tolls

/-- The tolls for alternatives of both kinds. -/
def combine (before after : List Toll) : List Toll :=
  before.foldl (fun all a => after.foldl (fun all b =>
    insert all ⟨.union a.needs b.needs, .sum a.run b.run, .sum a.rows b.rows⟩) all) []

/-- The tolls of ways, as far as these use terms. -/
def ofWays (known : List Way) (ways : List Way) : List Toll :=
  ways.foldl (fun tolls w =>
    let w := w.adjusted known
    if w.terms.isEmpty then tolls else insert tolls ⟨w.needs, w.run, w.rows⟩) []

end Toll

mutual

/-- The ways that go through the alternatives of a term. `outer` are the terms of its clause and of
those around. -/
def Term.waysByAlternatives (c : Lookups) (outer : List Facts) : Term → List Way
  | .mk f parts =>
    match f.shape with
    | .either found =>
      if SourceSet.meets found c.seat.self && !c.seat.filled then
        (tollsOfAlternatives c outer none parts).map fun toll =>
          { source := c.seat.number
            lookup := .alternatives
            terms := [f]
            needs := toll.needs
            run := toll.run + 1
            rows := toll.rows }
      else []
    | _ => []

/-- The tolls of several alternatives together; there are none if one of them cannot be searched
for. -/
def tollsOfAlternatives (c : Lookups) (outer : List Facts) (before : Option (List Toll)) :
    List Term → List Toll
  | [] => before.getD []
  | .mk f parts :: rest =>
    let isHere := f.column.any fun (level, i) => level == 0 && c.seat.has i
    if f.shape == .both || isHere then
      let ways :=
        if f.shape == .both then
          let clause := parts.map Term.facts
          c.waysByTerms clause outer ++ waysOfParts c (clause ++ outer) parts
        else c.waysByTerms [f] outer
      let tolls := Toll.ofWays c.ways ways
      if tolls.isEmpty then []
      else tollsOfAlternatives c outer (some (before.elim tolls fun b => Toll.combine b tolls)) rest
    else tollsOfAlternatives c outer before rest

/-- The ways that go through the alternatives of several terms. -/
def waysOfParts (c : Lookups) (outer : List Facts) : List Term → List Way
  | [] => []
  | t :: rest => t.waysByAlternatives c outer ++ waysOfParts c outer rest

end

/-! ### All ways -/

/-- What is asked of the sources of a select. -/
structure Quest where
  seating : Seating
  terms : List Term
  /-- The positions of the columns that are asked for. -/
  asked : List Nat
  /-- The columns of the ordering that is wanted. -/
  sortColumns : List Spot := []
  /-- The rows are to be changed, so it is not enough to read them from a list. -/
  isForChange : Bool := false

namespace Quest

/-- What ways to read one source are searched for with. -/
def lookups (q : Quest) (seat : Seat) (prior : SourceSet) (ways : List Way) : Lookups :=
  { seating := q.seating, seat, asked := q.asked, sortColumns := q.sortColumns
    all := q.terms.map Term.facts, prior, ways, isForChange := q.isForChange }

/-- The ways to read one source without a list that is made for the purpose, added to others. -/
def waysTo (q : Quest) (seat : Seat) (prior : SourceSet) (ways : List Way) : List Way :=
  let all := q.terms.map Term.facts
  let ways := ((q.lookups seat prior ways).waysByTerms all []).foldl Way.insert ways
  q.terms.foldl (fun ways t =>
    (t.waysByAlternatives (q.lookups seat prior ways) all).foldl Way.insert ways) ways

/-- The rank of the last lookup of a source, unless it was followed by alternatives. The next
source takes it for the lists that are made for the purpose. -/
def lastRank (q : Quest) (seat : Seat) : Nat :=
  let isChosenFrom (t : Term) : Bool :=
    match t.facts.shape with
    | .either found => found.meets seat.self && !seat.filled
    | _ => false
  let lookup := (seat.listings.getLast?.map Lookup.listing).getD .key
  if !q.terms.any isChosenFrom && (q.lookups seat 0 []).helpsSorting lookup then
    seat.listings.length + 1
  else 0

/-- Which sources must be read before the next one. -/
structure Priority where
  /-- The sources so far. -/
  before : SourceSet := 0
  /-- Those that must be read before the next one. -/
  needed : SourceSet := 0
  /-- The last source was one whose rows are all kept. -/
  isBehind : Bool := false
  /-- Some source stands before one whose rows are all kept. -/
  isHeld : Bool := false

/-- The sources that must be read before a source. -/
def Priority.next (p : Priority) (s : Seat) : Priority :=
  if p.isBehind || s.fills || s.filled || s.stays || s.precedes then
    { p with
      needed := .union p.needed p.before
      isBehind := s.filled
      isHeld := p.isHeld || s.precedes }
  else if p.isHeld then p
  else { p with needed := 0 }

/-- The state of the search through all sources. -/
structure Round where
  priority : Priority := {}
  rank : Nat := 0
  ways : List Way := []

/-- Adds the ways to read one more source. -/
def Round.next (q : Quest) (r : Round) (s : Seat) : Round :=
  let p := r.priority.next s
  let anew := (q.lookups s p.needed r.ways).waysAnew (q.terms.map Term.facts) r.rank
  { priority := { p with before := .union p.before s.self }
    rank := q.lastRank s
    ways := q.waysTo s p.needed (anew.foldl Way.insert r.ways) }

/-- The ways to read all sources. -/
def allWays (q : Quest) : List Way := (q.seating.seats.foldl (Round.next q) {}).ways

end Quest

end TableGateway.Engine
