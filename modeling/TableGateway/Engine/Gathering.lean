import TableGateway.Engine.Evaluation
import TableGateway.Engine.Itinerary

/-!
# Gathering rows

The rows of joined sources, found one by one along an itinerary (`gather`): for each row of a source
the sources after it are gone through. A row without a partner goes on with nothing in place of the
source where that is asked for. At the end come the rows of sources that have had no partner. As
soon as there are enough rows, no more are looked for.
-/

namespace TableGateway.Engine

/-! ### Orders of rows -/

/-- The order of rows by the data they are sorted by. -/
def compareKeys : List Direction → Cells → Cells → Ordering
  | d :: ds, a :: as, b :: bs =>
    match a.order b, d with
    | .eq, _ => compareKeys ds as bs
    | o, .asc => o
    | o, .desc => o.swap
  | _, _, _ => .eq

/-- Sorts by keys; what has equal keys keeps its order. -/
def sortByKeys {α : Type} (ds : List Direction) (keyed : List (Cells × α)) : List (Cells × α) :=
  keyed.mergeSort fun x y => compareKeys ds x.1 y.1 != .gt

/-- Whether two rows hold equal data. -/
def sameCells (a b : Cells) : Bool :=
  a.length == b.length && (a.zip b).all fun (x, y) => x.order y == .eq

/-- The rows of a source in the order of a pass. -/
def Pass.arrange (p : Pass) (start : Nat) (rows : List Cells) : List Cells :=
  let keyed := rows.map fun row => (p.columns.map fun i => (row[i - start]?).getD .null, row)
  let sorted := (sortByKeys (p.columns.map fun _ => .asc) keyed)
  let directed := if p.isReversed then sorted.reverse else sorted
  let isBlank (k : Cells × Cells) : Bool := k.1.head? == some .null
  let arranged := if p.isNullLast then
    directed.filter (fun k => !isBlank k) ++ directed.filter isBlank
  else directed
  arranged.map Prod.snd

/-! ### Stops that are ready -/

/-- The rows of a pass, in their order, and the conditions under which they are gone through. -/
structure ReadyPass where
  conditions : List Ready
  rows : List Cells

/-- A stop with the rows of its source. -/
structure ReadyStop where
  seat : Seat
  passes : List ReadyPass
  matching : List Ready
  checks : List Ready
  lonely : List ReadyPass

/-- A row with the cells of a source put in their place. -/
def placeCells (start : Nat) (cells row : Cells) : Cells :=
  row.take start ++ cells ++ row.drop (start + cells.length)

/-- The rows that passes lead to from a row that has been joined so far. A row that an earlier pass
has been to is left out. -/
def reachedFrom (start : Nat) (outer : List Cells) (row : Cells) :
    List (List Ready) → List ReadyPass → Evaluated (List (Cells × Cells))
  | _, [] => return []
  | before, p :: rest => do
    let there := p.rows.map fun cells => (cells, placeCells start cells row)
    let here ← there.filterM fun (_, r) => do
      if ← Ready.hold p.conditions ⟨r :: outer, []⟩ then
        return !(← before.anyM fun conditions => Ready.hold conditions ⟨r :: outer, []⟩)
      else return false
    return here ++ (← reachedFrom start outer row (before ++ [p.conditions]) rest)

/-! ### Finding rows -/

/-- What has been found so far. -/
structure Found (α : Type) where
  /-- What has been kept, the latest first. -/
  kept : List α := []
  /-- How much has been kept. -/
  count : Nat := 0
  /-- The sources, by their numbers, and rows of them that have had a partner. -/
  partners : List (Nat × Cells) := []

namespace Found

variable {α : Type}

/-- Whether as much has been found as is wanted. -/
def isEnough (wanted : Option Nat) (f : Found α) : Bool := wanted.any fun n => decide (n ≤ f.count)

/-- Keeps one more. -/
def keep (f : Found α) (a : α) : Found α := { f with kept := a :: f.kept, count := f.count + 1 }

/-- Notes which rows of a source have had a partner. -/
def note (f : Found α) (seat : Seat) (rows : List Cells) : Found α :=
  if seat.filled then
    { f with
      partners := rows.foldl (fun ps cells =>
        if ps.contains (seat.number, cells) then ps else (seat.number, cells) :: ps) f.partners }
  else f

end Found

/-- How rows are gathered. -/
structure Gathering (α : Type) where
  /-- The rows of the selects around. -/
  outer : List Cells
  /-- How many are wanted, if not all. -/
  wanted : Option Nat
  /-- Takes a row that all sources have been joined to. -/
  take : Cells → Found α → Evaluated (Found α)

namespace Gathering

variable {α : Type}

/-- Goes on with each of several rows for which conditions hold, as long as there are not enough. -/
def goOn (g : Gathering α) (checks : List Ready) (next : Cells → Found α → Evaluated (Found α)) :
    List Cells → Found α → Evaluated (Found α)
  | [], found => return found
  | row :: rest, found => do
    if found.isEnough g.wanted then return found
    else if ← Ready.hold checks ⟨row :: g.outer, []⟩ then
      goOn g checks next rest (← next row found)
    else goOn g checks next rest found

/-- Goes through the sources of stops from a row that has been joined so far. -/
def visit (g : Gathering α) : List ReadyStop → Cells → Found α → Evaluated (Found α)
  | [], row, found => g.take row found
  | stop :: rest, row, found => do
    let reached ← reachedFrom stop.seat.start g.outer row [] stop.passes
    let matched ← reached.filterM fun (_, r) => Ready.hold stop.matching ⟨r :: g.outer, []⟩
    let found := found.note stop.seat (matched.map Prod.fst)
    let rows := if matched.isEmpty && stop.seat.fills then [row] else matched.map Prod.snd
    g.goOn stop.checks (g.visit rest) rows found

/-- Goes on with the rows of sources that have had no partner, in the order of the stops. -/
def visitLonely (g : Gathering α) (blank : Cells) :
    List ReadyStop → Found α → Evaluated (Found α)
  | [], found => return found
  | stop :: rest, found => do
    let reached ← reachedFrom stop.seat.start g.outer blank [] stop.lonely
    let lonely := reached.filter fun (cells, _) =>
      !found.partners.contains (stop.seat.number, cells)
    g.visitLonely blank rest
      (← g.goOn stop.checks (g.visit rest) (lonely.map Prod.snd) found)

/-- What is found along stops for which some conditions hold, where the rows of all sources together
have so many cells. -/
def gather (g : Gathering α) (checks : List Ready) (width : Nat) (stops : List ReadyStop) :
    Evaluated (List α) := do
  let blank : Cells := List.replicate width .null
  let found ← g.goOn checks (g.visit stops) [blank] {}
  let found ← g.visitLonely blank stops found
  return found.kept.reverse

end Gathering

end TableGateway.Engine
