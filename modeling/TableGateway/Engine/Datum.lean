import TableGateway.Engine.Numeral
import TableGateway.Text.Bytes
import TableGateway.Value

/-!
# Stored data

What the engine stores and compares: nothing, numbers, texts and blobs, in this order. Texts are
kept as bytes, because a blob can be relabelled as a text whether or not it is one. A column
prefers numbers or texts by its declared type; data is converted towards that preference where
nothing is lost by it.
-/

namespace TableGateway.Engine

/-- One stored item. -/
inductive Datum where
  | null
  | integer (n : Int64)
  | real (x : Binary64)
  | text (bytes : List UInt8)
  | blob (bytes : List UInt8)
  deriving DecidableEq, Repr

/-- What a column or an expression prefers. -/
inductive Affinity where
  /-- It prefers nothing, because it is no column. -/
  | none
  /-- It is a column that stores everything as it is. -/
  | blob
  | text
  | numeric
  | integer
  /-- It stores every number as a real. -/
  | real
  deriving DecidableEq, Repr

/-- Whether numbers are preferred. -/
def Affinity.isNumeric : Affinity → Bool
  | numeric | integer | real => true
  | _ => false

namespace Datum

/-- The stored form of a value: truth values are numbers, and a NaN is nothing. -/
def ofValue : Value → Datum
  | .null => null
  | .bool b => integer (if b then 1 else 0)
  | .integer n => integer n
  | .real x => if x.isNaN then null else real x
  | .text s => text (Text.encode s)
  | .blob bytes => blob bytes

/-- The value of a stored item. -/
def toValue : Datum → Value
  | null => .null
  | integer n => .integer n
  | real x => .real x
  | text bytes => .text (Text.decode bytes)
  | blob bytes => .blob bytes

/-! ### Order -/

/-- The kinds of data, in their order. -/
def rank : Datum → Nat
  | null => 0
  | integer _ => 1
  | real _ => 1
  | text _ => 2
  | blob _ => 3

/-- The value of a number in steps of `2 ^ -1074`. -/
def scaled : Datum → Int
  | integer n => n.toInt * Int.ofNat (twoTo 1074)
  | real x => x.scaled
  | _ => 0

/-- The bytes of a text or blob. -/
def bytes : Datum → List UInt8
  | text bs => bs
  | blob bs => bs
  | _ => []

/-- Lexicographic order of bytes. -/
def compareBytes : List UInt8 → List UInt8 → Ordering
  | [], [] => .eq
  | [], _ :: _ => .lt
  | _ :: _, [] => .gt
  | a :: as, b :: bs => if a < b then .lt else if b < a then .gt else compareBytes as bs

/-- The order of stored data: by kind, then numbers by value and bytes lexicographically. -/
def order (a b : Datum) : Ordering :=
  if a.rank ≠ b.rank then compare a.rank b.rank
  else match compare a.scaled b.scaled with
    | .eq => compareBytes a.bytes b.bytes
    | o => o

/-! ### Conversion -/

/-- Characters around a number that do not matter. -/
def isSpace (c : Char) : Bool :=
  c == ' ' || c == '\t' || c == '\n' || c == '\x0b' || c == '\x0c' || c == '\r'

/-- The number with the given sign that a numeral stands for. -/
def ofNumeral (negative : Bool) (n : Numeral) : Datum :=
  let whole : Int := if negative then -(n.digits : Int) else n.digits
  match if n.isWhole then int64? whole else Option.none with
  | some i => integer i
  | Option.none => real (n.toReal negative)

/-- A real that is an integer of 64 bits, and neither the least nor the greatest, as that
integer. -/
def integral : Datum → Datum
  | real x =>
    match x.toInt? with
    | some n => if leastInteger < n ∧ n < greatestInteger then integer (Int64.ofInt n) else real x
    | Option.none => real x
  | d => d

/-- The characters of a text after leading blanks and a sign, and whether that is a minus. -/
def afterSign (bs : List UInt8) : Bool × List Char :=
  match (bs.map fun b => Char.ofNat b.toNat).dropWhile isSpace with
  | '-' :: rest => (true, rest)
  | '+' :: rest => (false, rest)
  | cs => (false, cs)

/-- The number that a whole text is. -/
def ofNumberText? (bs : List UInt8) : Option Datum :=
  let (negative, cs) := afterSign bs
  match Numeral.scan? cs with
  | some (n, rest) => if rest.all isSpace then some (ofNumeral negative n) else Option.none
  | Option.none => Option.none

/-- A number as text. -/
def numberText? : Datum → Option String
  | integer n => some (toString n.toInt)
  | real x => some (realText x)
  | _ => Option.none

/-- A number as a real. -/
def asReal : Datum → Datum
  | integer n => real (Binary64.ofInt n.toInt)
  | d => d

/-- A datum converted towards a preference, where that is possible without loss. -/
def convert (a : Affinity) (d : Datum) : Datum :=
  let number := match d with
    | text bs => ((ofNumberText? bs).getD d).integral
    | _ => d.integral
  match a with
  | .none | .blob => d
  | .text =>
    match d.numberText? with
    | some s => text (Text.encode s)
    | Option.none => d
  | .numeric | .integer => number
  | .real => number.asReal

/-- The integer that a key column or a limit makes of a datum, if it is one. -/
def key? (d : Datum) : Option Int64 :=
  match d.convert .numeric with
  | integer n => some n
  | _ => Option.none

/-- A truth value as a number. -/
def ofTruth : Option Bool → Datum
  | Option.none => null
  | some b => integer (if b then 1 else 0)

/-- Converts two sides of a comparison towards each other: a side that prefers numbers makes the
other side a number, and a side that prefers texts makes a side without preference a text. -/
def reconcile (l r : Affinity) (a b : Datum) : Datum × Datum :=
  if l.isNumeric && !r.isNumeric then (a, b.convert .numeric)
  else if r.isNumeric && !l.isNumeric then (a.convert .numeric, b)
  else if l = .text ∧ r = .none then (a, b.convert .text)
  else if r = .text ∧ l = .none then (a.convert .text, b)
  else (a, b)

end Datum

end TableGateway.Engine
