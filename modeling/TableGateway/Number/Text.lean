import TableGateway.Number.Shortest

/-!
# Decimal text of numbers

Two written forms of a floating-point number, both of shortest digits.

* `positional` never uses an exponent and leaves a whole number without a point: `1`, `-0`,
  `0.00001`, `inf`, `NaN`.
* `exponential` is the form of interchange text: positional with at least one place after the
  point from `0.00001` up to below `10 ^ 16`, otherwise one digit before the point and a signed
  exponent: `1.0`, `1e-6`, `1e+16`.
-/

namespace TableGateway

/-- The decimal digits of a natural number. -/
def digitText (n : Nat) : String := toString n

/-- `n` zeros. -/
def zeros (n : Nat) : String := String.ofList (List.replicate n '0')

namespace Decimal

/-- The number of digits before the point: `0.5` has none and `0.05` has minus one. -/
def point (d : Decimal) : Int := ((digitText d.digits).length : Int) + d.exponent

/-- The digits with the point in place; `whole` is written after the digits of a whole number. -/
def positional (whole : String) (d : Decimal) : String :=
  let s := digitText d.digits
  let p := d.point
  if 0 ≤ d.exponent then s ++ zeros d.exponent.toNat ++ whole
  else if 0 < p then
    String.ofList (s.toList.take p.toNat) ++ "." ++ String.ofList (s.toList.drop p.toNat)
  else "0." ++ zeros (-p).toNat ++ s

/-- One digit, the point and the other digits if there are any, and the signed exponent. -/
def scientific (d : Decimal) : String :=
  let s := (digitText d.digits).toList
  let e := d.point - 1
  let tail := if s.length ≤ 1 then "" else "." ++ String.ofList (s.drop 1)
  let sign := if e < 0 then "-" else "+"
  String.ofList (s.take 1) ++ tail ++ "e" ++ sign ++ digitText e.natAbs

end Decimal

namespace Binary64

/-- The minus sign of a number whose sign bit is set. -/
def signText (x : Binary64) : String := if x.isNegative then "-" else ""

/-- The number without an exponent, equally near digits rounded away from zero. -/
def positional (x : Binary64) : String :=
  if x.isNaN then "NaN"
  else if x.isInfinite then x.signText ++ "inf"
  else if x.isZero then x.signText ++ "0"
  else x.signText ++ (x.shortest .away).positional ""

/-- The number as interchange text, equally near digits rounded to even; `none` if the number is
not finite and has no such text. -/
def exponential? (x : Binary64) : Option String :=
  if !x.isFinite then none
  else if x.isZero then some (x.signText ++ "0.0")
  else
    let d := x.shortest .even
    let e := d.point - 1
    if -5 ≤ e && e < 16 then some (x.signText ++ d.positional ".0")
    else some (x.signText ++ d.scientific)

end Binary64

end TableGateway
