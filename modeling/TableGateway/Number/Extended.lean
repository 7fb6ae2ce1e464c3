import TableGateway.Number.Binary64

/-!
# Numbers of 64 significant bits

Positive numbers `significand * 2 ^ exponent`, where the significand has exactly 64 bits. Products
are rounded to the nearest such number, ties to even; the exponent is not bounded. They are precise
enough to scale a number by powers of ten and hardly lose anything, but not without any loss.
-/

namespace TableGateway

/-- A positive number of 64 significant bits. -/
structure Extended where
  significand : Nat
  exponent : Int
  deriving DecidableEq, Repr

namespace Extended

/-- The number nearest to `num / den * 2 ^ shift`, for positive `num` and `den`, ties to the even
significand. -/
def round (num den : Nat) (shift : Int) : Extended :=
  let wide := num * twoTo (64 + Nat.log2 den)
  let p := Nat.log2 (wide / den) - 63
  let m := Binary64.roundEven wide (den * twoTo p)
  let e := shift + p - (64 + Nat.log2 den : Nat)
  if m < twoTo 64 then ⟨m, e⟩ else ⟨m / 2, e + 1⟩

/-- The number nearest to a natural number. -/
def ofNat (n : Nat) : Extended := round n 1 0

/-- The number nearest to a power of ten. -/
def tenPower (e : Int) : Extended :=
  if 0 ≤ e then round (tenTo e.toNat) 1 0 else round 1 (tenTo e.natAbs) 0

/-- A positive finite number, which is kept as it is. -/
def ofBinary64 (x : Binary64) : Extended := round x.magnitude 1 (-1074)

/-- The product. -/
def mul (x y : Extended) : Extended :=
  round (x.significand * y.significand) 1 (x.exponent + y.exponent)

/-- The product with a power of a number. -/
def mulPower (x y : Extended) : Nat → Extended
  | 0 => x
  | n + 1 => mulPower (x.mul y) y n

/-- Whether the first number is less. -/
def less (x y : Extended) : Bool :=
  decide (x.exponent < y.exponent)
    || (x.exponent == y.exponent && decide (x.significand < y.significand))

/-- The number without its fraction. -/
def floor (x : Extended) : Nat :=
  if 0 ≤ x.exponent then x.significand * twoTo x.exponent.toNat
  else x.significand / twoTo x.exponent.natAbs

/-- The nearest number of 53 significant bits with a sign; infinity from the largest finite one
upwards, and zero far below the smallest one. -/
def toBinary64 (negative : Bool) (x : Extended) : Binary64 :=
  let largest := ofNat ((Binary64.hiddenBit * 2 - 1) * twoTo 971)
  if largest.less x then .infinity negative
  else if x.exponent < -1200 then .zero negative
  else if 0 ≤ x.exponent then .ofRatio negative (x.significand * twoTo x.exponent.toNat) 1
  else .ofRatio negative x.significand (twoTo x.exponent.natAbs)

/-- The number with its exponent of ten made less by a step as often as it is not less than a bound,
and how much that is in all. -/
def scaleDown (bound : Extended) (step : Nat) : Nat → Extended × Int → Extended × Int
  | 0, s => s
  | fuel + 1, (x, e) =>
    if x.less bound then (x, e)
    else scaleDown bound step fuel (x.mul (tenPower (-step)), e + step)

/-- The number with its exponent of ten made greater by a step as often as it is less than a bound,
and how much that is in all, as a negative number. -/
def scaleUp (bound : Extended) (step : Nat) : Nat → Extended × Int → Extended × Int
  | 0, s => s
  | fuel + 1, (x, e) =>
    if x.less bound then scaleUp bound step fuel (x.mul (tenPower step), e - step) else (x, e)

/-- Scales a number to one of eighteen or nineteen digits before the point. The number is the first
one times ten to the power of the second. -/
def scaled (x : Extended) : Extended × Int :=
  if x.less (tenPower 19) then
    scaleUp (tenPower 17) 1 16 <| scaleUp (tenPower 7) 10 16 <| scaleUp (tenPower (-97)) 100 16
      (x, 0)
  else
    scaleDown (tenPower 19) 1 16 <| scaleDown (tenPower 29) 10 16
      <| scaleDown (tenPower 119) 100 16 (x, 0)

end Extended

end TableGateway
