import TableGateway.Number.Extended
import TableGateway.Number.Text

/-!
# Numerals

Numbers as they are written in a statement or found in a text: digits, perhaps a point, perhaps an
exponent. A whole number that fits 64 bits is an integer, everything else is a real. A real is
written with at most fifteen significant digits and always with a point.

Between decimal digits and a real lie multiplications by powers of ten, in numbers of 64 significant
bits. So what is read is not always the nearest real, and what is written is not always the nearest
decimal number.
-/

namespace TableGateway.Engine

/-- The number `digits * 10 ^ exponent`; it is whole if it has neither a point nor an exponent. -/
structure Numeral where
  digits : Nat
  exponent : Int
  isWhole : Bool
  deriving DecidableEq, Repr

/-- The least integer of 64 bits. -/
def leastInteger : Int := -0x8000000000000000

/-- The greatest integer of 64 bits. -/
def greatestInteger : Int := 0x7fffffffffffffff

/-- The integer of 64 bits that an integer is, if it is in range. -/
def int64? (n : Int) : Option Int64 :=
  if leastInteger ≤ n ∧ n ≤ greatestInteger then some (Int64.ofInt n) else none

namespace Numeral

/-- Whether a character is a decimal digit. -/
def isDigit (c : Char) : Bool := decide ('0' ≤ c) && decide (c ≤ '9')

/-- A number with more decimal digits. -/
def extend (n : Nat) (ds : List Char) : Nat := ds.foldl (fun n c => n * 10 + (c.toNat - 48)) n

/-- The exponent that digits stand for; a very large one is cut off. -/
def exponentOf (ds : List Char) : Nat :=
  ds.foldl (fun e c => if e < 10000 then e * 10 + (c.toNat - 48) else 10000) 0

/-- Reads an exponent if there is one; a letter without digits after it is none. -/
def scanExponent (cs : List Char) : Option Int × List Char :=
  match cs with
  | c :: rest =>
    if c = 'e' ∨ c = 'E' then
      let (down, tail) := match rest with
        | '+' :: tail => (false, tail)
        | '-' :: tail => (true, tail)
        | _ => (false, rest)
      let ds := tail.takeWhile isDigit
      if ds.isEmpty then (none, cs)
      else
        let n : Int := Int.ofNat (exponentOf ds)
        (some (if down then -n else n), tail.dropWhile isDigit)
    else (none, cs)
  | [] => (none, cs)

/-- Reads a number without a sign from the front of a text. -/
def scan? (cs : List Char) : Option (Numeral × List Char) :=
  let whole := cs.takeWhile isDigit
  let rest := cs.dropWhile isDigit
  let (point, places, rest) := match rest with
    | '.' :: tail => (true, tail.takeWhile isDigit, tail.dropWhile isDigit)
    | _ => (false, [], rest)
  if whole.isEmpty && places.isEmpty then none
  else
    let (e, rest) := scanExponent rest
    some (⟨extend 0 (whole ++ places), e.getD 0 - places.length, !point && e.isNone⟩, rest)

/-- Drops digits at the end, of at most so many places, until no more are left than are needed to
come near the greatest number of 64 bits. -/
def dropSurplus : Nat → Nat → Int → Nat × Int
  | 0, n, e => (n, e)
  | places + 1, n, e =>
    if 1844674407370955160 ≤ n / 10 then dropSurplus places (n / 10) (e + 1) else (n, e)

/-- The digits that count, and by how many places the others shift them. A number has no more places
than bits. -/
def significant (n : Nat) (e : Int) : Nat × Int := dropSurplus (Nat.log2 n) n e

/-- Moves a positive exponent into the digits, as long as these remain a number of 64 bits. -/
def absorb : Nat → Nat → Nat × Nat
  | n, 0 => (n, 0)
  | n, e + 1 => if n < 1844674407370954956 then absorb (n * 10) e else (n, e + 1)

/-- Drops zeros at the end of the digits against a negative exponent. -/
def dropZeros : Nat → Nat → Nat × Nat
  | n, 0 => (n, 0)
  | n, e + 1 => if n % 10 = 0 then dropZeros (n / 10) e else (n, e + 1)

/-- A number times a power of ten, by hundreds, tens and ones of the exponent. -/
def shifted (x : Extended) (e : Nat) (up : Bool) : Extended :=
  let power (n : Nat) : Extended := .tenPower (if up then n else -n)
  ((x.mulPower (power 100) (e / 100)).mulPower (power 10) (e / 10 % 10)).mulPower
    (power 1) (e % 10)

/-- The real that a numeral stands for. -/
def toReal (n : Numeral) (negative : Bool) : Binary64 :=
  if n.digits = 0 then .zero negative
  else
    let (digits, e) := significant n.digits n.exponent
    if 0 ≤ e then
      let (digits, e) := absorb digits e.toNat
      if e = 0 then .ofRatio negative digits 1
      else (shifted (.ofNat digits) e true).toBinary64 negative
    else
      let (digits, e) := dropZeros digits e.natAbs
      if e = 0 then .ofRatio negative digits 1
      else (shifted (.ofNat digits) e false).toBinary64 negative

end Numeral

/-! ### Writing reals -/

/-- Digits rounded to fifteen of them, a half upwards. -/
def fifteenDigits (d : Decimal) : Decimal :=
  let surplus := (toString d.digits).length - 15
  let unit := tenTo surplus
  (⟨(2 * d.digits + unit) / (2 * unit), d.exponent + surplus⟩ : Decimal).trimZeros 20

/-- The digits of a positive finite number, as far as they are told by scaling it. -/
def decimalOf (x : Binary64) : Decimal :=
  let (digits, e) := (Extended.ofBinary64 x).scaled
  ⟨digits.floor, e⟩

/-- A real as text. -/
def realText (x : Binary64) : String :=
  if x.isInfinite then x.signText ++ "Inf"
  else if x.isZero then "0.0"
  else
    let d := fifteenDigits (decimalOf x)
    let e := d.point - 1
    if -4 ≤ e ∧ e < 15 then x.signText ++ d.positional ".0"
    else
      let ds := (toString d.digits).toList
      let places := if ds.length ≤ 1 then ['0'] else ds.drop 1
      let power := toString e.natAbs
      x.signText ++ String.ofList (ds.take 1) ++ "." ++ String.ofList places
        ++ (if e < 0 then "e-" else "e+") ++ (if power.length < 2 then "0" ++ power else power)

end TableGateway.Engine
