import TableGateway.Engine.Arithmetic

/-!
# Running totals

Integers are summed up exactly, as long as the sum is one of 64 bits. From the first number on with
which that fails, a total is kept as a real together with the error that rounding it has made so
far, so that the total comes out as if it had hardly been rounded. A total without a value, such as
that of opposite infinities, is nothing.
-/

namespace TableGateway.Engine

/-- A total of reals and the error in it; `none` is not a number. -/
structure Compensated where
  sum : Option Binary64
  error : Option Binary64
  deriving DecidableEq, Repr

/-- The sum of what may not be numbers. -/
def plus? (x y : Option Binary64) : Option Binary64 :=
  match x, y with
  | some x, some y => Datum.addReals x y
  | _, _ => none

/-- The difference of what may not be numbers. -/
def minus? (x y : Option Binary64) : Option Binary64 := plus? x (y.map Binary64.neg)

/-- Whether the first number is the greater one, without their signs. -/
def outweighs (x y : Option Binary64) : Bool :=
  match x, y with
  | some x, some y => decide (y.magnitude < x.magnitude)
  | _, _ => false

namespace Compensated

/-- Adds a real. What is lost of the lesser number is the error. -/
def add (t : Compensated) (x : Binary64) : Compensated :=
  let next := plus? t.sum (some x)
  let lost :=
    if outweighs t.sum (some x) then plus? (minus? t.sum next) (some x)
    else plus? (minus? (some x) next) t.sum
  ⟨next, plus? t.error lost⟩

/-- From here on an integer is taken apart, so that no part is rounded. -/
def largeInteger : Nat := twoTo 52

/-- The two parts of a large integer. -/
def parts (n : Int64) : Binary64 × Binary64 :=
  let low := Int.tmod n.toInt 16384
  (.ofInt (n.toInt - low), .ofInt low)

/-- Adds an integer. -/
def addInteger (t : Compensated) (n : Int64) : Compensated :=
  if largeInteger ≤ n.toInt.natAbs then
    let (high, low) := parts n
    (t.add high).add low
  else t.add (.ofInt n.toInt)

/-- The total that is an integer. -/
def ofInteger (n : Int64) : Compensated :=
  if largeInteger ≤ n.toInt.natAbs then
    let (high, low) := parts n
    ⟨some high, some low⟩
  else ⟨some (.ofInt n.toInt), some (.zero false)⟩

/-- The total with its error put right, where that is a number. -/
def value (t : Compensated) : Option Binary64 :=
  match t.error with
  | some e => if e.isInfinite then t.sum else plus? t.sum (some e)
  | none => t.sum

end Compensated

/-- A total of numbers. -/
inductive Total where
  | exact (n : Int64)
  /-- A real total; `overflowed` if only integers have been added since they became too large. -/
  | rounded (t : Compensated) (overflowed : Bool)
  deriving DecidableEq, Repr

namespace Total

/-- What a datum adds to a total: a text counts as the integer that it is, and otherwise as a
real. -/
def addend (d : Datum) : Datum :=
  match d with
  | .text bs =>
    match Datum.ofNumberText? bs with
    | some (.integer n) => .integer n
    | _ => .real d.realOf
  | .blob _ => .real d.realOf
  | _ => d

/-- Adds a datum. -/
def add (t : Total) (d : Datum) : Total :=
  match t, addend d with
  | exact n, .integer m =>
    match int64? (n.toInt + m.toInt) with
    | some s => exact s
    | none => rounded ((Compensated.ofInteger n).addInteger m) true
  | rounded t overflowed, .integer m => rounded (t.addInteger m) overflowed
  | exact n, d => rounded ((Compensated.ofInteger n).add d.realOf) false
  | rounded t _, d => rounded (t.add d.realOf) false

/-- The total of several data. -/
def of (ds : List Datum) : Total := ds.foldl add (exact 0)

/-- The total as a real. -/
def toReal? : Total → Option Binary64
  | exact n => some (.ofInt n.toInt)
  | rounded t _ => t.value

end Total

end TableGateway.Engine
