import TableGateway.Json.Scan
import TableGateway.Value

/-!
# Reading JSON text

`Json.readTree` reads a text as a tree and `Value.ofJson` reads a value from it: null, a truth
value, an integer of 64 bits, a real, a text, or a blob from an array of bytes, whichever fits
first. `skipValue` passes over a value that nobody asked for and looks at it less closely: it
accepts any nesting and does not pair the halves of escaped characters.

Nesting is limited. A reader takes the number of levels it may still enter, counting the last one
as already too deep, and `fuel`, a bound on its steps; the length of the text always suffices.
-/

namespace TableGateway

/-- A JSON text as a tree; the fields of an object keep their order and may repeat. -/
inductive Json where
  | null
  | bool (b : Bool)
  | number (n : Json.Number)
  | text (s : String)
  | array (items : List Json)
  | object (fields : List (String × Json))

namespace Json

/-- The levels a text may nest. -/
def nestingLimit : Nat := 128

/-- The levels left after entering one. -/
def enter (levels : Nat) : Except TextFault Nat :=
  if levels ≤ 1 then .error .malformed else .ok (levels - 1)

/-- Passes the colon between a name and its value. -/
def scanColon (cs : List Char) : Except TextFault (List Char) :=
  match skipBlanks cs with
  | ':' :: rest => .ok rest
  | _ :: _ => .error .malformed
  | [] => .error .ended

/-- Where an array stands before its next item: at its end, or at an item. -/
def nextItem? (first : Bool) (cs : List Char) : Except TextFault (Option (List Char)) :=
  match skipBlanks cs with
  | [] => .error .ended
  | ']' :: _ => .ok none
  | c :: rest =>
    if first then .ok (some (c :: rest))
    else if c = ',' then
      match skipBlanks rest with
      | [] => .error .ended
      | ']' :: _ => .error .malformed
      | item => .ok (some item)
    else .error .malformed

/-- Where an object stands before its next field: at its end, or after the opening quote of a
name. -/
def nextName? (first : Bool) (cs : List Char) : Except TextFault (Option (List Char)) :=
  match skipBlanks cs with
  | [] => .error .ended
  | '}' :: _ => .ok none
  | c :: rest =>
    if first then
      if c = '"' then .ok (some rest) else .error .malformed
    else if c = ',' then
      match skipBlanks rest with
      | [] => .error .ended
      | '"' :: name => .ok (some name)
      | _ => .error .malformed
    else .error .malformed

/-- Passes the end of an array of which no more items are wanted. -/
def closeArray (cs : List Char) : Except TextFault (List Char) :=
  match skipBlanks cs with
  | ']' :: rest => .ok rest
  | _ :: _ => .error .malformed
  | [] => .error .ended

/-- Passes the end of an object. -/
def closeObject (cs : List Char) : Except TextFault (List Char) :=
  match skipBlanks cs with
  | '}' :: rest => .ok rest
  | _ :: _ => .error .malformed
  | [] => .error .ended

mutual

/-- Reads one value. -/
def readValue : Nat → Nat → List Char → Except TextFault (Json × List Char)
  | 0, _, _ => .error .ended
  | fuel + 1, levels, cs =>
    match skipBlanks cs with
    | [] => .error .ended
    | c :: rest =>
      if c = 'n' then do
        let rest ← scanWord ['u', 'l', 'l'] rest
        return (.null, rest)
      else if c = 't' then do
        let rest ← scanWord ['r', 'u', 'e'] rest
        return (.bool true, rest)
      else if c = 'f' then do
        let rest ← scanWord ['a', 'l', 's', 'e'] rest
        return (.bool false, rest)
      else if c = '-' then do
        let (n, rest) ← scanNumber false rest
        return (.number n, rest)
      else if isDigit c then do
        let (n, rest) ← scanNumber true (c :: rest)
        return (.number n, rest)
      else if c = '"' then do
        let (s, rest) ← scanText rest
        return (.text s, rest)
      else if c = '[' then do
        let levels ← enter levels
        let (items, rest) ← readItems fuel levels true rest
        let rest ← closeArray rest
        return (.array items, rest)
      else if c = '\x7b' then do
        let levels ← enter levels
        let (fields, rest) ← readFields fuel levels true rest
        let rest ← closeObject rest
        return (.object fields, rest)
      else .error .malformed

/-- Reads the items of an array up to its end. -/
def readItems : Nat → Nat → Bool → List Char → Except TextFault (List Json × List Char)
  | 0, _, _, _ => .error .ended
  | fuel + 1, levels, first, cs => do
    match ← nextItem? first cs with
    | none => return ([], cs)
    | some item =>
      let (value, rest) ← readValue fuel levels item
      let (values, rest) ← readItems fuel levels false rest
      return (value :: values, rest)

/-- Reads the fields of an object up to its end. -/
def readFields : Nat → Nat → Bool → List Char → Except TextFault (List (String × Json) × List Char)
  | 0, _, _, _ => .error .ended
  | fuel + 1, levels, first, cs => do
    match ← nextName? first cs with
    | none => return ([], cs)
    | some name =>
      let (key, rest) ← scanText name
      let rest ← scanColon rest
      let (value, rest) ← readValue fuel levels rest
      let (fields, rest) ← readFields fuel levels false rest
      return ((key, value) :: fields, rest)

end

/-- Nothing but blanks may follow a text. -/
def finish (cs : List Char) : Except TextFault Unit :=
  if (skipBlanks cs).isEmpty then .ok () else .error .malformed

/-- Reads the tree at the front of a text; what follows it is left. -/
def readTree (cs : List Char) : Except TextFault (Json × List Char) :=
  readValue (2 * cs.length + 2) nestingLimit cs

/-! ### Values nobody asked for -/

/-- Passes the digits of a number after its sign. -/
def skipWhole (cs : List Char) : Except TextFault (List Char) :=
  match cs with
  | [] => .error .malformed
  | c :: rest =>
    if !isDigit c then .error .malformed
    else if c = '0' then
      match rest with
      | d :: _ => if isDigit d then .error .malformed else .ok rest
      | [] => .ok rest
    else .ok (spanDigits rest).2

/-- Passes the exponent of a number after its letter. -/
def skipExponent (cs : List Char) : Except TextFault (List Char) :=
  let cs := match cs with
    | '+' :: rest => rest
    | '-' :: rest => rest
    | _ => cs
  let (ds, rest) := spanDigits cs
  if ds.isEmpty then .error .malformed else .ok rest

/-- Passes what may follow the digits of a whole number. -/
def skipFraction (cs : List Char) : Except TextFault (List Char) :=
  match cs with
  | '.' :: rest =>
    let (ds, rest) := spanDigits rest
    if ds.isEmpty then .error .malformed
    else match rest with
      | c :: tail => if isExponentMark c then skipExponent tail else .ok rest
      | [] => .ok rest
  | c :: rest => if isExponentMark c then skipExponent rest else .ok cs
  | [] => .ok cs

/-- Passes a number after its sign. -/
def skipNumber (cs : List Char) : Except TextFault (List Char) := do
  let rest ← skipWhole cs
  skipFraction rest

/-- Passes the characters of a string and its closing quote. -/
def skipChars : List Char → Except TextFault (List Char)
  | [] => .error .ended
  | c :: rest =>
    if c = '"' then .ok rest
    else if c = '\\' then
      match rest with
      | [] => .error .ended
      | e :: rest =>
        if (simpleEscape? e).isSome then skipChars rest
        else if e ≠ 'u' then .error .malformed
        else match rest with
          | a :: b :: c :: d :: rest =>
            if (hexUnit? a b c d).isSome then skipChars rest else .error .malformed
          | short => .error (hexFault short)
    else if c.toNat < 32 then .error .malformed
    else skipChars rest

/-- Where skipping an array or object continues. -/
inductive Skipping where
  /-- At a value. -/
  | value
  /-- After a value, inside the innermost of the open brackets. -/
  | after
  /-- Just inside an opening bracket. -/
  | opened

/-- Passes a name and its colon. -/
def skipName (cs : List Char) : Except TextFault (List Char) :=
  match skipBlanks cs with
  | '"' :: rest => do
    let rest ← skipChars rest
    scanColon rest
  | _ :: _ => .error .malformed
  | [] => .error .ended

/-- Passes one value, whatever its nesting. The open brackets are kept in a list, innermost
first. -/
def skipFrom : Nat → Skipping → List Char → List Char → Except TextFault (List Char)
  | 0, _, _, _ => .error .ended
  | fuel + 1, .value, opened, cs =>
    match skipBlanks cs with
    | [] => .error .ended
    | c :: rest =>
      if c = 'n' then do skipFrom fuel .after opened (← scanWord ['u', 'l', 'l'] rest)
      else if c = 't' then do skipFrom fuel .after opened (← scanWord ['r', 'u', 'e'] rest)
      else if c = 'f' then do skipFrom fuel .after opened (← scanWord ['a', 'l', 's', 'e'] rest)
      else if c = '-' then do skipFrom fuel .after opened (← skipNumber rest)
      else if isDigit c then do skipFrom fuel .after opened (← skipNumber (c :: rest))
      else if c = '"' then do skipFrom fuel .after opened (← skipChars rest)
      else if c = '[' || c = '\x7b' then skipFrom fuel .opened (c :: opened) rest
      else .error .malformed
  | _ + 1, .after, [], cs => .ok cs
  | fuel + 1, .after, b :: opened, cs =>
    match skipBlanks cs with
    | [] => .error .ended
    | c :: rest =>
      if c = ',' then
        if b = '\x7b' then do skipFrom fuel .value (b :: opened) (← skipName rest)
        else skipFrom fuel .value (b :: opened) rest
      else if (c = ']' && b = '[') || (c = '\x7d' && b = '\x7b') then
        skipFrom fuel .after opened rest
      else .error .malformed
  | _ + 1, .opened, [], cs => .ok cs
  | fuel + 1, .opened, b :: opened, cs =>
    match skipBlanks cs with
    | [] => .error .ended
    | c :: rest =>
      if (c = ']' && b = '[') || (c = '\x7d' && b = '\x7b') then skipFrom fuel .after opened rest
      else if b = '\x7b' then do skipFrom fuel .value (b :: opened) (← skipName (c :: rest))
      else skipFrom fuel .value (b :: opened) (c :: rest)

/-- Passes one value. -/
def skipValue (cs : List Char) : Except TextFault (List Char) :=
  skipFrom (2 * cs.length + 2) .value [] cs

end Json

/-! ### Values -/

namespace Value

/-- The byte a tree is, if it is a natural number below 256. -/
def byteOfJson? : Json → Option UInt8
  | .number (.natural n) => if n < 256 then some (UInt8.ofNat n) else none
  | _ => none

/-- The value a tree is: the first kind that fits. -/
def ofJson : Json → Except TextFault Value
  | .null => .ok .null
  | .bool b => .ok (.bool b)
  | .number (.natural n) =>
    if n < Json.minMagnitude then .ok (.integer (Int64.ofNat n)) else .ok (.real (Binary64.ofNat n))
  | .number (.negative n) => .ok (.integer (Int64.ofInt (-(n : Int))))
  | .number (.real x) => .ok (.real x)
  | .text s => .ok (.text s)
  | .array items =>
    match items.mapM byteOfJson? with
    | some bytes => .ok (.blob bytes)
    | none => .error .mismatched
  | .object _ => .error .mismatched

/-- Reads a value from JSON text. Whether the tree is a value is found out before what follows it
is looked at. -/
def parse (text : String) : Except TextFault Value := do
  let (tree, rest) ← Json.readTree text.toList
  let value ← ofJson tree
  Json.finish rest
  return value

end Value

end TableGateway
