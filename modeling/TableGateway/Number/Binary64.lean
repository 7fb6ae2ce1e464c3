/-!
# Binary64 numbers

A 64-bit floating-point number is kept as its word, so that two numbers are the same value of
the type exactly when they have the same bits. Everything about them is computed in exact
natural-number arithmetic: a finite number is `significand * 2 ^ unit`, counted in steps of
`2 ^ -1074`, and `ofRatio` rounds any exact quotient to the nearest word, ties to even.

`same` is the comparison of the numbers themselves: a NaN equals nothing, and the two zeros are
equal.
-/

namespace TableGateway

/-- A floating-point number, given by its 64-bit word: sign, eleven exponent bits, fraction. -/
structure Binary64 where
  bits : UInt64
  deriving DecidableEq, Repr

/-- The `n`-th power of two. -/
def twoTo (n : Nat) : Nat := 1 <<< n

/-- The `n`-th power of ten. -/
def tenTo (n : Nat) : Nat := Nat.pow 10 n

namespace Binary64

/-! ### The fields of a word -/

/-- The sign bit alone. -/
def signBit : Nat := 0x8000000000000000

/-- The step from one exponent to the next, which is also the hidden bit of a significand. -/
def hiddenBit : Nat := 0x10000000000000

/-- The exponent field of infinities and NaNs. -/
def topExponent : Nat := 2047

/-- The word as a natural number. -/
def word (x : Binary64) : Nat := x.bits.toNat

/-- The sign bit. -/
def isNegative (x : Binary64) : Bool := decide (signBit ≤ x.word)

/-- The biased exponent, `0` for zeros and subnormals, `2047` for infinities and NaNs. -/
def exponentField (x : Binary64) : Nat := x.word / hiddenBit % 2048

/-- The 52 explicit bits of the significand. -/
def fraction (x : Binary64) : Nat := x.word % hiddenBit

/-- A NaN has the largest exponent and a nonzero fraction. -/
def isNaN (x : Binary64) : Bool := x.exponentField == topExponent && x.fraction != 0

/-- An infinity has the largest exponent and a zero fraction. -/
def isInfinite (x : Binary64) : Bool := x.exponentField == topExponent && x.fraction == 0

/-- A finite number has any smaller exponent. -/
def isFinite (x : Binary64) : Bool := x.exponentField != topExponent

/-- The two zeros. -/
def isZero (x : Binary64) : Bool := x.exponentField == 0 && x.fraction == 0

/-- The significand with its hidden bit. -/
def significand (x : Binary64) : Nat :=
  if x.exponentField = 0 then x.fraction else hiddenBit + x.fraction

/-- The exponent of the last place, counted from `-1074`. -/
def unit (x : Binary64) : Nat := x.exponentField - 1

/-- The absolute value in steps of `2 ^ -1074`. Infinities lie above every finite number. -/
def magnitude (x : Binary64) : Nat := x.significand * twoTo x.unit

/-- The value in steps of `2 ^ -1074`; the order of two numbers that are no NaN is the order of
these integers. -/
def scaled (x : Binary64) : Int :=
  if x.isNegative then -(x.magnitude : Int) else (x.magnitude : Int)

/-- Numeric equality: a NaN equals nothing and the zeros equal each other. -/
def same (x y : Binary64) : Bool :=
  !x.isNaN && !y.isNaN && (x == y || (x.isZero && y.isZero))

/-! ### Rounding -/

/-- The quotient `n / d` rounded to the nearest integer, a half to the even neighbour. -/
def roundEven (n d : Nat) : Nat :=
  let q := n / d
  let r := 2 * (n % d)
  if r < d then q else if d < r then q + 1 else if q % 2 = 0 then q else q + 1

/-- The word with a sign bit in front of the other 63 bits. -/
def ofFields (negative : Bool) (rest : Nat) : Binary64 :=
  ⟨UInt64.ofNat (if negative then signBit + rest else rest)⟩

/-- Positive or negative infinity. -/
def infinity (negative : Bool) : Binary64 := ofFields negative (topExponent * hiddenBit)

/-- Positive or negative zero. -/
def zero (negative : Bool) : Binary64 := ofFields negative 0

/-- The number nearest to `num / den`, ties to the even significand, infinity from half a step
above the largest finite number.

The exponent `p` is the one at which the quotient has 53 bits (or the smallest one), and adding
the rounded significand to `p * 2 ^ 52` gives the fields, also when rounding carries into the
next power of two. -/
def ofRatio (negative : Bool) (num den : Nat) : Binary64 :=
  let n := num * twoTo 1074
  let p := Nat.log2 (n / den) - 52
  let m := roundEven n (den * twoTo p)
  ofFields negative (min (p * hiddenBit + m) (topExponent * hiddenBit))

/-- The number nearest to a natural number. -/
def ofNat (n : Nat) : Binary64 := ofRatio false n 1

/-- The number nearest to an integer; zero is positive. -/
def ofInt (i : Int) : Binary64 := ofRatio (decide (i < 0)) i.natAbs 1

/-- The same number with the other sign. -/
def neg (x : Binary64) : Binary64 := ofFields (!x.isNegative) (x.word % signBit)

/-- The rounded product of two finite numbers. -/
def mul (x y : Binary64) : Binary64 :=
  ofRatio (x.isNegative != y.isNegative) (x.magnitude * y.magnitude) (twoTo 2148)

/-- The rounded quotient of two finite numbers, the second not zero. -/
def div (x y : Binary64) : Binary64 :=
  ofRatio (x.isNegative != y.isNegative) x.magnitude y.magnitude

/-- The number held by a 32-bit word of eight exponent and 23 fraction bits. Every such number is
a binary64 number, so nothing is rounded; a NaN stays a NaN. -/
def ofBinary32 (bits : UInt32) : Binary64 :=
  let w := bits.toNat
  let negative := decide (0x80000000 ≤ w)
  let e := w / 0x800000 % 256
  let f := w % 0x800000
  if e = 255 then
    ofFields negative (topExponent * hiddenBit + f * twoTo 29)
  else if e = 0 then ofRatio negative f (twoTo 149)
  else ofRatio negative ((0x800000 + f) * twoTo (e - 1)) (twoTo 149)

/-- The integer a finite number is, if it is one. -/
def toInt? (x : Binary64) : Option Int :=
  if x.isFinite && x.magnitude % twoTo 1074 == 0 then
    let n : Int := Int.ofNat (x.magnitude / twoTo 1074)
    some (if x.isNegative then -n else n)
  else none

end Binary64

end TableGateway
