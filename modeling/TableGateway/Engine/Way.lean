import TableGateway.Engine.Term

/-!
# Ways to read a source

A source can be read as a whole, by the keys of its rows, through a list of data, through lists for
each of several alternatives, or through a list that is made for the purpose. For each way it is
estimated what that costs and how many rows it finds, and it is known which other sources must be
read before. Of two ways of which one is never better, the other one is kept (`Way.insert`).
-/

namespace TableGateway.Engine

/-- Where rows are looked up. -/
inductive Lookup where
  /-- In the table itself, by their keys. -/
  | key
  /-- In a list of data. -/
  | listing (l : Listing)
  /-- In a list that is made for the purpose. -/
  | anew
  /-- For each alternative of a term, wherever that is best. -/
  | alternatives
  deriving DecidableEq

/-- A way to read a source. -/
structure Way where
  source : Nat
  lookup : Lookup
  /-- The terms by which rows are looked up, column by column. -/
  terms : List Facts := []
  /-- How many columns are compared for equality. -/
  equals : Nat := 0
  /-- One column is equal to something that is known. -/
  hasEqual : Bool := false
  /-- One column is one of several items. -/
  hasAmong : Bool := false
  /-- One column is nothing. -/
  hasNull : Bool := false
  hasLower : Bool := false
  hasUpper : Bool := false
  /-- At most one row is found. -/
  isSingle : Bool := false
  /-- Everything that is asked for is in the list. -/
  covers : Bool := false
  /-- Where it may help to bring the rows in order, the place among such ways; otherwise zero. -/
  sortRank : Nat := 0
  /-- The sources that must be read before. -/
  needs : SourceSet := 0
  setup : Estimate := 0
  run : Estimate := 0
  rows : Estimate := 0

namespace Way

/-- Whether rows are looked up in a list of data. -/
def isListed (w : Way) : Bool :=
  match w.lookup with
  | .listing _ => true
  | _ => false

/-- Whether the list is made for the purpose. -/
def isAnew (w : Way) : Bool := w.lookup == .anew

/-- Whether terms limit what is read, other than by alternatives. -/
def isLimited (w : Way) : Bool :=
  w.hasEqual || w.hasAmong || w.hasNull || w.hasLower || w.hasUpper

/-! ### Comparing ways -/

/-- Whether a way uses some, but not all, of the terms of another one and still costs less. -/
def isCheaperPart (a b : Way) : Bool :=
  decide (a.terms.length < b.terms.length)
    && !(decide (b.run < a.run) && decide (b.rows < a.rows))
    && a.terms.all (fun x => b.terms.any fun y => x.id == y.id)
    && !(a.covers && !b.covers)

/-- The way with costs that agree with those of another one whose terms are a part of its own. -/
def adjustedTo (w p : Way) : Way :=
  if p.source != w.source || !p.isListed then w
  else if p.isCheaperPart w then
    { w with run := min p.run w.run, rows := min (p.rows - 1) w.rows }
  else if w.isCheaperPart p then
    { w with run := max p.run w.run, rows := max (p.rows + 1) w.rows }
  else w

/-- The way with costs that agree with those of others. -/
def adjusted (ways : List Way) (w : Way) : Way :=
  if w.isListed then ways.foldl adjustedTo w else w

/-- What two ways are to each other. -/
inductive Rivalry where
  | apart
  /-- The one that is there is as good. -/
  | kept
  /-- The new one is as good. -/
  | replaced

/-- What a way that is there and a new one are to each other. -/
def rivalry (there new : Way) : Rivalry :=
  if there.source != new.source || there.sortRank != new.sortRank then .apart
  else if there.isAnew && new.isListed && new.hasEqual && new.needs.within there.needs then
    .replaced
  else if there.needs.within new.needs && there.setup ≤ new.setup && there.run ≤ new.run
      && there.rows ≤ new.rows then .kept
  else if new.needs.within there.needs && new.run ≤ there.run && new.rows ≤ there.rows then
    .replaced
  else .apart

/-- The ways without those that a new one replaces. -/
def pruned (new : Way) : List Way → List Way
  | [] => []
  | w :: rest =>
    match rivalry w new with
    | .apart => w :: pruned new rest
    | .replaced => pruned new rest
    | .kept => w :: rest

/-- Puts a way among others, unless one of them is as good. -/
def put (new : Way) : List Way → List Way
  | [] => [new]
  | w :: rest =>
    match rivalry w new with
    | .apart => w :: put new rest
    | .replaced => new :: pruned new rest
    | .kept => w :: rest

/-- Puts a way among others, with costs that agree with theirs. -/
def insert (ways : List Way) (w : Way) : List Way := put (w.adjusted ways) ways

end Way

/-! ### The estimates behind the costs -/

/-- How many rows a table is supposed to have. -/
def tableRows : Estimate := 200

/-- How many rows are supposed to belong to a datum in a list that is made for the purpose. -/
def rowsAnew : Estimate := 43

/-- What it costs to find one of so many rows. -/
def searchCost : Estimate := Estimate.steps tableRows

/-- What making such a list costs. -/
def costAnew : Estimate := searchCost + tableRows + 28

/-- How much a row that is looked up in the table costs more than one of a list. -/
def lookupCost : Estimate := 16

namespace Seat

/-- How large its rows are supposed to be, as an estimate. -/
def rowSize (s : Seat) : Estimate := .ofNat (4 * s.size)

/-- How large an entry of a list is supposed to be: the datum and a key. -/
def entrySize (l : Listing) : Estimate := .ofNat (4 * (l.size + 1))

/-- How much an entry of a list costs. -/
def entryCost (s : Seat) (l : Listing) : Estimate := 1 + 15 * entrySize l / s.rowSize

end Seat

end TableGateway.Engine
