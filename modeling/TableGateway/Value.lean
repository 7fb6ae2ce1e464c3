import TableGateway.Number.Text
import TableGateway.Text.Quoted

/-!
# Values

A value is what a column holds or a parameter binds. Integers have 64 bits, reals are binary64
words, and a blob is a list of bytes.

`Value.same` compares as the values themselves do, so a NaN differs from itself; the equality of
the type compares words. The accessors give a value as an integer, a real or a text where it can
be read as one: a truth value counts as an integer and an integer as a real.
-/

namespace TableGateway

/-- A value of a column or a parameter. -/
inductive Value where
  | null
  | bool (b : Bool)
  | integer (n : Int64)
  | real (x : Binary64)
  | text (s : String)
  | blob (bytes : List UInt8)
  deriving DecidableEq, Repr

namespace Value

/-- Whether the value is null. -/
def isNull : Value → Bool
  | null => true
  | _ => false

/-- The value as an integer; truth values are `0` and `1`. -/
def asInteger? : Value → Option Int64
  | integer n => some n
  | bool b => some (if b then 1 else 0)
  | _ => none

/-- The value as a real; integers are rounded to the nearest one. -/
def asReal? : Value → Option Binary64
  | real x => some x
  | integer n => some (Binary64.ofInt n.toInt)
  | _ => none

/-- The value as a text. -/
def asText? : Value → Option String
  | text s => some s
  | _ => none

/-- Comparison of two values. Reals compare as numbers, so the two zeros are the same and a NaN
is the same as nothing. -/
def same : Value → Value → Bool
  | real x, real y => x.same y
  | v, w => decide (v = w)

/-- The value as shown to a person: texts are quoted and a blob only tells its length. -/
def display : Value → String
  | null => "NULL"
  | bool b => if b then "true" else "false"
  | integer n => toString n.toInt
  | real x => x.positional
  | text s => Text.quote s
  | blob bytes => "<" ++ toString bytes.length ++ " bytes>"

/-- The integer a natural number is, for numbers below `2 ^ 63`. -/
def ofNat (n : Nat) : Value := integer (Int64.ofNat n)

end Value

end TableGateway
