import TableGateway.Error
import TableGateway.Number.Binary64

/-!
# Scanning JSON text

The parts of JSON text that do not nest: blanks, words, numbers and strings. A scanner takes the
rest of the text and returns what it read together with what is left, or tells whether the text is
malformed or ended too early. Where two faults meet, the one further to the front is reported.

An integer that fits 64 bits stays an integer. Every other number is a real: the first digits that
fit 64 bits, times or divided by a power of ten, each step rounded.
-/

namespace TableGateway.Json

/-- A number as it is written: an integer that fits 64 bits, or a real. -/
inductive Number where
  /-- A natural number below `2 ^ 64`. -/
  | natural (n : Nat)
  /-- The negative of a positive number of at most `2 ^ 63`. -/
  | negative (n : Nat)
  | real (x : Binary64)
  deriving DecidableEq, Repr

/-- Whether a character separates tokens. -/
def isBlank (c : Char) : Bool := c == ' ' || c == '\n' || c == '\t' || c == '\r'

/-- The text after leading blanks. -/
def skipBlanks (cs : List Char) : List Char := cs.dropWhile isBlank

/-- Reads the rest of a known word. -/
def scanWord : List Char → List Char → Except TextFault (List Char)
  | [], cs => .ok cs
  | _ :: _, [] => .error .ended
  | w :: word, c :: cs => if w = c then scanWord word cs else .error .malformed

/-! ### Numbers -/

/-- Whether a character is a decimal digit. -/
def isDigit (c : Char) : Bool := decide ('0' ≤ c) && decide (c ≤ '9')

/-- The value of a decimal digit. -/
def digitValue (c : Char) : Nat := c.toNat - 48

/-- The digits at the front and the rest. -/
def spanDigits (cs : List Char) : List Char × List Char :=
  (cs.takeWhile isDigit, cs.dropWhile isDigit)

/-- Appends digits to a number as long as it stays at most `bound`; returns the number, how many
digits it took, and how many are left over. -/
def accumulate (bound : Nat) : Nat → List Char → Nat × Nat × Nat
  | n, [] => (n, 0, 0)
  | n, c :: cs =>
    let m := n * 10 + digitValue c
    if m ≤ bound then
      let (total, taken, excess) := accumulate bound m cs
      (total, taken + 1, excess)
    else (n, 0, cs.length + 1)

/-- The largest 64-bit natural number. -/
def maxNatural : Nat := 0xffffffffffffffff

/-- The largest exponent that is read as a number. -/
def maxExponent : Nat := 0x7fffffff

/-- The absolute value of the least 64-bit integer. -/
def minMagnitude : Nat := 0x8000000000000000

/-- A real scaled by a power of ten. Powers beyond `10 ^ 308` are taken in several divisions; a
product that is too large is refused. -/
def scaleByTen : Nat → Binary64 → Int → Except TextFault Binary64
  | 0, x, _ => .ok x
  | fuel + 1, x, e =>
    if e.natAbs ≤ 308 then
      if 0 ≤ e then
        let y := x.mul (Binary64.ofNat (tenTo e.toNat))
        if y.isInfinite then .error .malformed else .ok y
      else .ok (x.div (Binary64.ofNat (tenTo (-e).toNat)))
    else if x.isZero then .ok x
    else if 0 ≤ e then .error .malformed
    else scaleByTen fuel (x.div (Binary64.ofNat (tenTo 308))) (e + 308)

/-- The real `digits * 10 ^ e` with its sign. -/
def realOf (positive : Bool) (digits : Nat) (e : Int) : Except TextFault Number := do
  let x ← scaleByTen 8 (Binary64.ofNat digits) e
  return .real (if positive then x else x.neg)

/-- Reads the digits of an exponent, which may point down, and completes the number. -/
def scanPower (positive : Bool) (digits : Nat) (e : Int) (down : Bool) (cs : List Char) :
    Except TextFault (Number × List Char) :=
  match cs with
  | [] => .error .ended
  | c :: _ =>
    if !isDigit c then .error .malformed
    else
      let (ds, rest) := spanDigits cs
      let (n, _, excess) := accumulate maxExponent 0 ds
      if excess = 0 then do
        let number ← realOf positive digits (if down then e - n else e + n)
        return (number, rest)
      else if digits ≠ 0 && !down then .error .malformed
      else .ok (.real (Binary64.zero (!positive)), rest)

/-- Reads the exponent after its letter and completes the number. -/
def scanExponent (positive : Bool) (digits : Nat) (e : Int) (cs : List Char) :
    Except TextFault (Number × List Char) :=
  match cs with
  | '+' :: rest => scanPower positive digits e false rest
  | '-' :: rest => scanPower positive digits e true rest
  | _ => scanPower positive digits e false cs

/-- Whether a character announces an exponent. -/
def isExponentMark (c : Char) : Bool := c == 'e' || c == 'E'

/-- Reads the digits after the point and completes the number. -/
def scanFraction (positive : Bool) (digits : Nat) (e : Int) (cs : List Char) :
    Except TextFault (Number × List Char) :=
  let (ds, rest) := spanDigits cs
  if ds.isEmpty then .error (if rest.isEmpty then .ended else .malformed)
  else
    let (n, taken, _) := accumulate maxNatural digits ds
    let e := e - taken
    match rest with
    | c :: tail =>
      if isExponentMark c then scanExponent positive n e tail
      else do
        let number ← realOf positive n e
        return (number, rest)
    | [] => do
      let number ← realOf positive n e
      return (number, rest)

/-- A whole number without fraction or exponent. A negative number below the 64-bit range, and
minus zero, are reals. -/
def wholeNumber (positive : Bool) (n : Nat) : Number :=
  if positive then .natural n
  else if n = 0 || minMagnitude < n then .real (Binary64.ofNat n).neg
  else .negative n

/-- Completes a number after the digits of its whole part, of which `excess` did not fit. -/
def scanRest (positive : Bool) (n excess : Nat) (cs : List Char) :
    Except TextFault (Number × List Char) :=
  let plain : Except TextFault (Number × List Char) :=
    if excess = 0 then .ok (wholeNumber positive n, cs)
    else do
      let number ← realOf positive n excess
      return (number, cs)
  match cs with
  | c :: rest =>
    if c = '.' then scanFraction positive n excess rest
    else if isExponentMark c then scanExponent positive n excess rest
    else plain
  | [] => plain

/-- Reads a number after its sign. -/
def scanNumber (positive : Bool) (cs : List Char) : Except TextFault (Number × List Char) :=
  match cs with
  | [] => .error .ended
  | c :: rest =>
    if !isDigit c then .error .malformed
    else if c = '0' then
      match rest with
      | d :: _ => if isDigit d then .error .malformed else scanRest positive 0 0 rest
      | [] => scanRest positive 0 0 rest
    else
      let (ds, rest) := spanDigits cs
      let (n, _, excess) := accumulate maxNatural 0 ds
      scanRest positive n excess rest

/-! ### Strings -/

/-- The value of a hexadecimal digit. -/
def hexValue? (c : Char) : Option Nat :=
  if isDigit c then some (c.toNat - 48)
  else if 'a' ≤ c && c ≤ 'f' then some (c.toNat - 87)
  else if 'A' ≤ c && c ≤ 'F' then some (c.toNat - 55)
  else none

/-- The number of bytes of a text. -/
def byteLength (cs : List Char) : Nat := cs.foldl (fun n c => n + c.utf8Size) 0

/-- What is wrong with a text that does not start with four hexadecimal digits: it ends if there is
no room for them. -/
def hexFault (cs : List Char) : TextFault := if byteLength cs < 4 then .ended else .malformed

/-- The number that four hexadecimal digits write. -/
def hexUnit? (a b c d : Char) : Option Nat := do
  let a ← hexValue? a
  let b ← hexValue? b
  let c ← hexValue? c
  let d ← hexValue? d
  return ((a * 16 + b) * 16 + c) * 16 + d

/-- The character a one-letter escape stands for. -/
def simpleEscape? (c : Char) : Option Char :=
  if c = '"' || c = '\\' || c = '/' then some c
  else if c = 'b' then some '\x08'
  else if c = 'f' then some '\x0c'
  else if c = 'n' then some '\n'
  else if c = 'r' then some '\r'
  else if c = 't' then some '\t'
  else none

/-- Whether a code unit is the first half of a pair. -/
def isHighHalf (n : Nat) : Bool := decide (0xD800 ≤ n) && decide (n ≤ 0xDBFF)

/-- Whether a code unit is the second half of a pair. -/
def isLowHalf (n : Nat) : Bool := decide (0xDC00 ≤ n) && decide (n ≤ 0xDFFF)

/-- The character a pair of halves stands for. -/
def pairChar (high low : Nat) : Char :=
  Char.ofNat ((high - 0xD800) * 0x400 + (low - 0xDC00) + 0x10000)

/-- Puts a character in front of what was read. -/
def consChar (c : Char) :
    Except TextFault (List Char × List Char) → Except TextFault (List Char × List Char)
  | .ok (s, rest) => .ok (c :: s, rest)
  | .error e => .error e

/-- Reads the characters of a string up to and with the closing quote. An escaped first half of a
pair must be followed by an escaped second half, and a control must be escaped. -/
def scanChars : List Char → Except TextFault (List Char × List Char)
  | [] => .error .ended
  | c :: rest =>
    if c = '"' then .ok ([], rest)
    else if c = '\\' then
      match rest with
      | [] => .error .ended
      | e :: rest =>
        match simpleEscape? e with
        | some c => consChar c (scanChars rest)
        | none =>
          if e ≠ 'u' then .error .malformed
          else match rest with
            | a :: b :: c :: d :: rest =>
              match hexUnit? a b c d with
              | none => .error .malformed
              | some n =>
                if isLowHalf n then .error .malformed
                else if isHighHalf n then
                  match rest with
                  | [] => .error .ended
                  | [s] => .error (if s = '\\' then .ended else .malformed)
                  | s :: u :: rest =>
                    if s ≠ '\\' || u ≠ 'u' then .error .malformed
                    else match rest with
                      | a :: b :: c :: d :: rest =>
                        match hexUnit? a b c d with
                        | none => .error .malformed
                        | some m =>
                          if isLowHalf m then consChar (pairChar n m) (scanChars rest)
                          else .error .malformed
                      | short => .error (hexFault short)
                else consChar (Char.ofNat n) (scanChars rest)
            | short => .error (hexFault short)
    else if c.toNat < 32 then .error .malformed
    else consChar c (scanChars rest)

/-- Reads a string after its opening quote. -/
def scanText (cs : List Char) : Except TextFault (String × List Char) := do
  let (s, rest) ← scanChars cs
  return (String.ofList s, rest)

end TableGateway.Json
