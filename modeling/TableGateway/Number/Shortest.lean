import TableGateway.Number.Binary64

/-!
# Shortest decimal digits

The decimal text of a floating-point number uses the fewest significant digits that read back as
the same number, and among those the digits nearest to it. The search works on exact integers:
the reals that round to `significand * 2 ^ unit` form an interval (with its ends exactly when the
significand is even), and for one digit, two digits, and so on, the two neighbours of the number
on that decimal grid are tried. When both neighbours are equally near, `Tie` decides.
-/

namespace TableGateway

/-- Which of two equally near digit strings is written. -/
inductive Tie where
  /-- The one with the larger absolute value. -/
  | away
  /-- The one whose last digit is even. -/
  | even
  deriving DecidableEq, Repr

/-- A positive decimal number `digits * 10 ^ exponent`. -/
structure Decimal where
  digits : Nat
  exponent : Int
  deriving DecidableEq, Repr

namespace Decimal

/-- Moves factors of ten from the digits to the exponent; `fuel` bounds their number. -/
def trimZeros : Nat → Decimal → Decimal
  | 0, d => d
  | fuel + 1, d =>
    if d.digits % 10 = 0 then trimZeros fuel ⟨d.digits / 10, d.exponent + 1⟩ else d

end Decimal

namespace Binary64

/-- The reals that round to a number, as numerators over a common denominator. -/
structure Interval where
  low : Nat
  value : Nat
  high : Nat
  denominator : Nat
  closed : Bool

/-- The interval of a positive finite number. The gap below a power of two is half the gap above
it. -/
def interval (x : Binary64) : Interval :=
  let m := x.significand
  let scale := twoTo x.unit
  let below := if m = hiddenBit && x.unit != 0 then 1 else 2
  { low := (4 * m - below) * scale
    value := 4 * m * scale
    high := (4 * m + 2) * scale
    denominator := 4 * twoTo 1074
    closed := m % 2 == 0 }

/-- Whether `num / den` lies in the interval. -/
def Interval.contains (i : Interval) (num den : Nat) : Bool :=
  let n := num * i.denominator
  if i.closed then decide (i.low * den ≤ n) && decide (n ≤ i.high * den)
  else decide (i.low * den < n) && decide (n < i.high * den)

/-- The power of ten just above a number of the interval: `10 ^ (decade - 1) ≤ value < 10 ^ decade`.
It is found from an estimate by at most two steps. -/
def Interval.decade (i : Interval) : Int :=
  let bits : Int := (Nat.log2 i.value : Int) - (Nat.log2 i.denominator : Int)
  let guess : Int := bits * 30103 / 100000 - 1
  let reaches (e : Int) : Bool :=
    if 0 ≤ e then decide (i.denominator * tenTo e.toNat ≤ i.value)
    else decide (i.denominator ≤ i.value * tenTo (-e).toNat)
  if reaches (guess + 2) then guess + 3
  else if reaches (guess + 1) then guess + 2
  else if reaches guess then guess + 1
  else guess

/-- The nearest of the grid points `10 ^ e * k` that lie in the interval, if the value has a
neighbour there. -/
def Interval.nearestOn (i : Interval) (tie : Tie) (e : Int) : Option Nat :=
  let up : Nat := tenTo e.toNat
  let down : Nat := tenTo (-e).toNat
  let num := i.value * down
  let den := i.denominator * up
  let below := num / den
  let above := below + 1
  let belowIn := below != 0 && i.contains (below * up) down
  let aboveIn := i.contains (above * up) down
  if belowIn && aboveIn then
    let r := 2 * (num % den)
    if r < den then some below
    else if den < r then some above
    else match tie with
      | .away => some above
      | .even => if below % 2 = 0 then some below else some above
  else if belowIn then some below
  else if aboveIn then some above
  else none

/-- Tries grids with one more digit each time; seventeen digits always suffice. -/
def Interval.search (i : Interval) (tie : Tie) (decade : Int) : Nat → Nat → Decimal
  | 0, _ => ⟨i.value / i.denominator, 0⟩
  | fuel + 1, count =>
    let e := decade - (count : Int)
    match i.nearestOn tie e with
    | some k => ⟨k, e⟩
    | none => i.search tie decade fuel (count + 1)

/-- The shortest digits of a finite number that is not zero, without trailing zeros; the sign is
left out. -/
def shortest (tie : Tie) (x : Binary64) : Decimal :=
  let i := x.interval
  (i.search tie i.decade 17 1).trimZeros 20

end Binary64

end TableGateway
