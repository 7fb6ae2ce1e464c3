import TableGateway.Engine.Datum

/-!
# Arithmetic on stored data

Arithmetic takes a text or a blob for the number at its front, and for zero if there is none.
Nothing makes nothing of everything. Integers stay integers as long as the result fits 64 bits and
become reals otherwise; what has no value, such as a quotient by zero, is nothing.
-/

namespace TableGateway.Engine

/-- An operation on one datum. -/
inductive Sign where
  | plus
  | minus
  | complement
  deriving DecidableEq, Repr

/-- An operation on two data. -/
inductive Operation where
  | add
  | sub
  | mul
  | div
  | rem
  | concat
  | conj
  | disj
  | shiftLeft
  | shiftRight
  deriving DecidableEq, Repr

namespace Datum

/-- The number at the front of a text, or zero. -/
def leadingNumber (bs : List UInt8) : Datum :=
  let (negative, cs) := afterSign bs
  match Numeral.scan? cs with
  | some (n, _) => ofNumeral negative n
  | Option.none => integer 0

/-- The real at the front of a text, or zero; it keeps the sign of a zero. -/
def leadingReal (bs : List UInt8) : Binary64 :=
  let (negative, cs) := afterSign bs
  match Numeral.scan? cs with
  | some (n, _) => n.toReal negative
  | Option.none => Binary64.zero negative

/-- The number that arithmetic takes a datum for. -/
def number : Datum → Datum
  | text bs => leadingNumber bs
  | blob bs => leadingNumber bs
  | d => d

/-- The nearest integer of 64 bits. -/
def clamp (n : Int) : Int64 := Int64.ofInt (max leastInteger (min greatestInteger n))

/-- The integer that a datum is cut down to. -/
def whole : Datum → Int64
  | null => 0
  | integer n => n
  | real x =>
    let n : Int := Int.ofNat (x.magnitude / twoTo 1074)
    clamp (if x.isNegative then -n else n)
  | d =>
    let (negative, cs) := afterSign d.bytes
    let n : Int := Int.ofNat (Numeral.extend 0 (cs.takeWhile Numeral.isDigit))
    clamp (if negative then -n else n)

/-- Whether a condition holds that a datum decides: `none` if it does not decide. -/
def truth? (d : Datum) : Option Bool :=
  match d.number with
  | null => Option.none
  | integer n => some (n != 0)
  | real x => some (!x.isZero)
  | _ => some false

/-! ### Reals -/

/-- The sum of two reals, unless they are opposite infinities. -/
def addReals (x y : Binary64) : Option Binary64 :=
  if x.isInfinite then
    if y.isInfinite && x.isNegative != y.isNegative then Option.none else some x
  else if y.isInfinite then some y
  else
    let s := x.scaled + y.scaled
    let negative := if s = 0 then x.isNegative && y.isNegative else decide (s < 0)
    some (.ofRatio negative s.natAbs (twoTo 1074))

/-- The product of two reals, unless it is infinity times zero. -/
def mulReals (x y : Binary64) : Option Binary64 :=
  if x.isInfinite || y.isInfinite then
    if x.isZero || y.isZero then Option.none
    else some (.infinity (x.isNegative != y.isNegative))
  else some (x.mul y)

/-- The quotient of two reals, unless the second is zero or both are infinite. -/
def divReals (x y : Binary64) : Option Binary64 :=
  let negative := x.isNegative != y.isNegative
  if y.isZero then Option.none
  else if x.isInfinite then if y.isInfinite then Option.none else some (.infinity negative)
  else if y.isInfinite then some (.zero negative)
  else some (x.div y)

/-- The real that arithmetic takes a datum for. -/
def realOf : Datum → Binary64
  | integer n => Binary64.ofInt n.toInt
  | real x => x
  | d => leadingReal d.bytes

/-! ### Operations -/

/-- Works on integers as long as the result is one of 64 bits, and on reals otherwise. -/
def calculate (onIntegers : Int → Int → Int) (onReals : Binary64 → Binary64 → Option Binary64)
    (a b : Datum) : Datum :=
  let result := ((onReals a.realOf b.realOf).map real).getD null
  match a.number, b.number with
  | null, _ => null
  | _, null => null
  | integer x, integer y => ((int64? (onIntegers x.toInt y.toInt)).map integer).getD result
  | _, _ => result

/-- The sum. -/
def add (a b : Datum) : Datum := calculate (· + ·) addReals a b

/-- The difference. -/
def sub (a b : Datum) : Datum := calculate (· - ·) (fun x y => addReals x y.neg) a b

/-- The product. -/
def mul (a b : Datum) : Datum := calculate (· * ·) mulReals a b

/-- The quotient; integers are divided towards zero. -/
def div (a b : Datum) : Datum :=
  if b.number = integer 0 then null else calculate Int.tdiv divReals a b

/-- The remainder of integers; it is a real if either side is one. -/
def rem (a b : Datum) : Datum :=
  match a.number, b.number with
  | null, _ => null
  | _, null => null
  | x, y =>
    if b.whole = 0 then null
    else
      let n := Int.tmod a.whole.toInt b.whole.toInt
      match x, y with
      | integer _, integer _ => integer (Int64.ofInt n)
      | _, _ => real (Binary64.ofInt n)

/-- A datum as text: numbers are written out and blobs relabelled. -/
def asText : Datum → Datum
  | blob bs => text bs
  | d => d.convert .text

/-- One text behind the other. -/
def concat (a b : Datum) : Datum :=
  if a = null ∨ b = null then null else text (a.asText.bytes ++ b.asText.bytes)

/-- Shifts the bits of an integer to the left, or to the right by a negative number. -/
def shift (n : Int64) (places : Int) : Int64 :=
  if 0 ≤ places then
    if 64 ≤ places then 0 else Int64.ofInt (n.toInt * Int.ofNat (twoTo places.toNat))
  else if places ≤ -64 then if n < 0 then -1 else 0
  else Int64.ofInt (Int.fdiv n.toInt (Int.ofNat (twoTo (-places).toNat)))

/-- Works on the bits of integers. -/
def onBits (f : Int64 → Int64 → Int64) (a b : Datum) : Datum :=
  if a = null ∨ b = null then null else integer (f a.whole b.whole)

/-- The result of an operation on two data. -/
def operate (op : Operation) (a b : Datum) : Datum :=
  match op with
  | .add => a.add b
  | .sub => a.sub b
  | .mul => a.mul b
  | .div => a.div b
  | .rem => a.rem b
  | .concat => a.concat b
  | .conj => onBits (· &&& ·) a b
  | .disj => onBits (· ||| ·) a b
  | .shiftLeft => onBits (fun x y => shift x y.toInt) a b
  | .shiftRight => onBits (fun x y => shift x (-y.toInt)) a b

/-- The result of an operation on one datum. -/
def apply (op : Sign) (d : Datum) : Datum :=
  match op with
  | .plus => d
  | .minus => sub (integer 0) d
  | .complement => if d = null then null else integer (-1 - d.whole)

/-- A real that is an integer of at most 51 bits and a sign, as that integer. -/
def smallIntegral : Datum → Datum
  | real x =>
    match x.toInt? with
    | some n => if -twoTo 51 ≤ n ∧ n < twoTo 51 then integer (Int64.ofInt n) else real x
    | Option.none => real x
  | d => d

/-- A datum made into what is preferred, whatever is lost by it. -/
def cast (a : Affinity) (d : Datum) : Datum :=
  if d = null then null
  else match a with
    | .none | .blob => blob d.asText.bytes
    | .text => d.asText
    | .integer => integer d.whole
    | .real => real d.realOf
    | .numeric =>
      match d with
      | integer _ => d
      | real _ => d
      | _ => d.number.smallIntegral

end Datum

end TableGateway.Engine
