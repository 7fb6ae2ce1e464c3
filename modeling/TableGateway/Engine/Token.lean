import TableGateway.Engine.Datum

/-!
# Tokens of statements

A text is cut into words, quoted names, literals, parameters and marks; blanks and comments
separate them, and a NUL ends the text. Whatever is none of these becomes `illegal`, so that
cutting never fails: a statement is refused only when its own part of the text holds an illegal
token.
-/

namespace TableGateway.Engine

/-- A token of a statement. -/
inductive Token where
  /-- A keyword or a plain name, as written. -/
  | word (s : String)
  /-- A name in quotes; in double quotes it may stand for a text. -/
  | quoted (s : String) (doubled : Bool)
  | literal (d : Datum)
  /-- A number without its sign. -/
  | numeral (n : Numeral)
  /-- A number in hexadecimal digits, without its sign. -/
  | hex (n : Nat)
  /-- A parameter with the character that announces it. -/
  | param (name : String)
  | mark (s : String)
  | illegal
  deriving DecidableEq, Repr

namespace Token

/-- Whether a character can start a name. -/
def isNameStart (c : Char) : Bool := c.isAlpha || c == '_' || decide (128 ≤ c.toNat)

/-- Whether a character can continue a name. -/
def isNameRest (c : Char) : Bool := isNameStart c || Numeral.isDigit c || c == '$'

/-- Whether a character can start a run of blanks. -/
def isBlank (c : Char) : Bool := Datum.isSpace c && c != '\x0b'

/-- The mark that tells the order of bytes; it is passed over. -/
def byteOrderMark : Char := '\ufeff'

/-! ### Texts and blobs -/

/-- The text up to a closing quote, which stands for itself when written twice. -/
def scanQuoted (close : Char) : List Char → Option (List Char × List Char)
  | [] => none
  | [c] => if c = close then some ([], []) else none
  | c :: d :: rest =>
    if c = close then
      if d = close then (scanQuoted close rest).map fun (s, tail) => (close :: s, tail)
      else some ([], d :: rest)
    else (scanQuoted close (d :: rest)).map fun (s, tail) => (c :: s, tail)

/-- The value of a hexadecimal digit. -/
def hexDigit? (c : Char) : Option Nat :=
  if Numeral.isDigit c then some (c.toNat - 48)
  else if 'a' ≤ c ∧ c ≤ 'f' then some (c.toNat - 87)
  else if 'A' ≤ c ∧ c ≤ 'F' then some (c.toNat - 55)
  else none

/-- Whether a character is a hexadecimal digit. -/
def isHexDigit (c : Char) : Bool := (hexDigit? c).isSome

/-- The bytes that pairs of hexadecimal digits write. -/
def hexBytes? : List Char → Option (List UInt8)
  | [] => some []
  | [_] => none
  | a :: b :: rest => do
    let x ← hexDigit? a
    let y ← hexDigit? b
    let bytes ← hexBytes? rest
    return UInt8.ofNat (16 * x + y) :: bytes

/-- The text after a comment that starts with a slash and a star. -/
def skipComment : List Char → List Char
  | [] => []
  | [_] => []
  | a :: b :: rest => if a = '*' ∧ b = '/' then rest else skipComment (b :: rest)

/-! ### Numbers -/

/-- The character that may stand between two digits of a number. -/
def separator : Char := '_'

/-- Whether every separator stands between two digits. -/
def isSeparated (digit : Char → Bool) : Char → List Char → Bool
  | _, [] => true
  | before, c :: rest =>
    (c != separator || (digit before && rest.head?.any digit)) && isSeparated digit c rest

/-- A number without its separators. -/
def unseparated (cs : List Char) : List Char := cs.filter fun c => c != separator

/-- Splits off digits and separators. -/
def spanDigits (digit : Char → Bool) (cs : List Char) : List Char × List Char :=
  let p (c : Char) : Bool := digit c || c == separator
  (cs.takeWhile p, cs.dropWhile p)

/-- Splits off an exponent with its letter, if there is one. -/
def spanExponent (cs : List Char) : List Char × List Char :=
  match cs with
  | c :: rest =>
    if c = 'e' ∨ c = 'E' then
      let (sign, tail) := match rest with
        | '+' :: tail => (['+'], tail)
        | '-' :: tail => (['-'], tail)
        | _ => ([], rest)
      if tail.head?.any Numeral.isDigit then
        let (ds, tail) := spanDigits Numeral.isDigit tail
        (c :: sign ++ ds, tail)
      else ([], cs)
    else ([], cs)
  | [] => ([], [])

/-- Splits off a number in decimal digits. -/
def spanNumber (cs : List Char) : List Char × List Char :=
  let (ds, rest) := spanDigits Numeral.isDigit cs
  let (places, rest) := match rest with
    | '.' :: tail =>
      let (ds, tail) := spanDigits Numeral.isDigit tail
      ('.' :: ds, tail)
    | _ => ([], rest)
  let (power, rest) := spanExponent rest
  (ds ++ places ++ power, rest)

/-- The token if no name follows it at once. -/
def endNumber (t : Token) (rest : List Char) : Token × List Char :=
  if rest.head?.any isNameRest then (illegal, rest.dropWhile isNameRest) else (t, rest)

/-- Reads a number that starts with the given characters. -/
def scanNumber (cs : List Char) : Token × List Char :=
  match cs with
  | '0' :: x :: d :: rest =>
    if (x = 'x' ∨ x = 'X') ∧ isHexDigit d then
      let (ds, tail) := spanDigits isHexDigit (d :: rest)
      let value := (unseparated ds).foldl (fun n c => 16 * n + (hexDigit? c).getD 0) 0
      endNumber (if isSeparated isHexDigit x ds then hex value else illegal) tail
    else decimal cs
  | _ => decimal cs
where
  /-- Reads a number in decimal digits. -/
  decimal (cs : List Char) : Token × List Char :=
    let (number, tail) := spanNumber cs
    let t :=
      match isSeparated Numeral.isDigit ' ' number, Numeral.scan? (unseparated number) with
      | true, some (n, []) => numeral n
      | _, _ => illegal
    endNumber t tail

/-! ### Parameters -/

/-- Splits off the rest of a parameter after the character that announces it: the characters of a
name, pairs of colons among them, and perhaps brackets at the end. `none` if there is no name or
the brackets do not close. -/
def spanParam (named : Bool) : List Char → Option (List Char × List Char)
  | [] => if named then some ([], []) else none
  | ':' :: ':' :: rest => (spanParam named rest).map fun (s, tail) => (':' :: ':' :: s, tail)
  | c :: rest =>
    if isNameRest c then (spanParam true rest).map fun (s, tail) => (c :: s, tail)
    else if !named then none
    else if c = '(' then
      let inside := rest.takeWhile fun d => !Datum.isSpace d && d != ')'
      match rest.drop inside.length with
      | ')' :: tail => some (c :: inside ++ [')'], tail)
      | _ => none
    else some ([], c :: rest)

/-- The greatest number of a parameter. -/
def maxParam : Nat := 32766

/-- The numbers of parameters by their names, in the order in which they are first named. A number
that is named counts itself; every other parameter gets the number after the greatest so far, and
each lone question mark is a parameter of its own. `none` if a number is out of range. -/
def paramNumbers? (names : List String) : Option (List (String × Nat)) :=
  let step (state : Nat × List (String × Nat)) (name : String) :
      Option (Nat × List (String × Nat)) :=
    let (greatest, known) := state
    let enter (n : Nat) : Option (Nat × List (String × Nat)) :=
      if 1 ≤ n ∧ n ≤ maxParam then some (max greatest n, known ++ [(name, n)]) else none
    if (known.lookup name).isSome && name != "?" then some state
    else match name.toList with
      | '?' :: d :: ds => enter (Numeral.extend 0 (d :: ds))
      | _ => enter (greatest + 1)
  (names.foldlM step (0, [])).map Prod.snd

/-! ### Cutting -/

/-- Marks of two characters. -/
def doubleMarks : List (Char × Char) :=
  [('=', '='), ('<', '>'), ('!', '='), ('<', '='), ('>', '='), ('|', '|'), ('<', '<'), ('>', '>')]

/-- Marks of one character. -/
def singleMarks : List Char :=
  ['(', ')', ',', '.', ';', '*', '=', '<', '>', '+', '-', '/', '%', '&', '|', '~']

/-- The first token of a text that starts with `c`, or nothing if blanks or a comment come first;
and what follows. -/
def first (c : Char) (rest : List Char) : Option Token × List Char :=
  if isBlank c then (none, rest.dropWhile Datum.isSpace)
  else if c = byteOrderMark then (none, rest)
  else if c = '-' ∧ rest.head? = some '-' then (none, rest.dropWhile fun d => d != '\n')
  else if c = '/' ∧ rest.head? = some '*' ∧ 1 < rest.length then (none, skipComment (rest.drop 1))
  else if c = '\'' then
    match scanQuoted '\'' rest with
    | some (s, tail) => (some (literal (.text (Text.encode (String.ofList s)))), tail)
    | none => (some illegal, [])
  else if (c = 'x' ∨ c = 'X') ∧ rest.head? = some '\'' then
    match scanQuoted '\'' (rest.drop 1) with
    | some (s, tail) =>
      match hexBytes? s with
      | some bytes => (some (literal (.blob bytes)), tail)
      | none => (some illegal, tail)
    | none => (some illegal, [])
  else if c = '"' ∨ c = '\x60' then
    match scanQuoted c rest with
    | some (s, tail) => (some (quoted (String.ofList s) (c == '"')), tail)
    | none => (some illegal, [])
  else if c = '[' then
    let s := rest.takeWhile fun d => d != ']'
    match rest.drop s.length with
    | _ :: tail => (some (quoted (String.ofList s) false), tail)
    | [] => (some illegal, [])
  else if isNameStart c then
    (some (word (String.ofList (c :: rest.takeWhile isNameRest))), rest.dropWhile isNameRest)
  else if Numeral.isDigit c ∨ (c = '.' ∧ rest.head?.any Numeral.isDigit) then
    let (t, tail) := scanNumber (c :: rest)
    (some t, tail)
  else if c = '?' then
    (some (param (String.ofList ('?' :: rest.takeWhile Numeral.isDigit))),
      rest.dropWhile Numeral.isDigit)
  else if c = ':' ∨ c = '@' ∨ c = '$' ∨ c = '#' then
    match spanParam false rest with
    | some (name, tail) =>
      if c = '#' ∧ name.head?.any Numeral.isDigit then (some illegal, tail)
      else (some (param (String.ofList (c :: name))), tail)
    | none => (some illegal, rest)
  else
    match rest with
    | d :: tail =>
      if (c, d) ∈ doubleMarks then (some (mark (String.ofList [c, d])), tail)
      else if c ∈ singleMarks then (some (mark (String.ofList [c])), rest)
      else (some illegal, rest)
    | [] => if c ∈ singleMarks then (some (mark (String.ofList [c])), []) else (some illegal, [])

/-- Cuts a text; every token takes at least one character, so `fuel` need not exceed their
number. -/
def cut : Nat → List Char → List Token
  | 0, _ => []
  | _, [] => []
  | fuel + 1, c :: rest =>
    match first c rest with
    | (some t, tail) => t :: cut fuel tail
    | (none, tail) => cut fuel tail

/-- The tokens of a text. -/
def ofText (text : String) : List Token :=
  let cs := text.toList.takeWhile fun c => c != '\x00'
  cut cs.length cs

/-- The tokens of the first statement: leading semicolons are passed over, and the first one after
it ends it. -/
def firstStatement (ts : List Token) : List Token :=
  (ts.dropWhile fun t => t == mark ";").takeWhile fun t => t != mark ";"

/-- The parameters that a list of tokens names, in order. -/
def params (ts : List Token) : List String :=
  ts.filterMap fun
    | param name => some name
    | _ => none

end Token

end TableGateway.Engine
