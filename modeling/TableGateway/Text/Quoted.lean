import TableGateway.Text.Glyphless
import TableGateway.Text.Joined

/-!
# Quoted text

Diagnostic text shows a string between double quotes. Quote, backslash and the common controls
are written with a backslash, a character without a glyph of its own by its code point in lower
case hexadecimal, and every other character as it is.
-/

namespace TableGateway.Text

/-- The lower case hexadecimal digit of a number below sixteen. -/
def hexDigit (n : Nat) : Char :=
  Char.ofNat (if n < 10 then 48 + n else 87 + n)

/-- The hexadecimal digits of a number below `16 ^ fuel`, without leading zeros. -/
def hexDigits : Nat → Nat → List Char → List Char
  | 0, _, acc => acc
  | fuel + 1, n, acc =>
    if n < 16 then hexDigit n :: acc else hexDigits fuel (n / 16) (hexDigit (n % 16) :: acc)

/-- A character by its code point. -/
def codePointEscape (c : Char) : List Char :=
  ['\\', 'u', '\x7b'] ++ hexDigits 8 c.toNat [] ++ ['\x7d']

/-- What is written for one character inside the quotes. -/
def quoteChar (c : Char) : List Char :=
  match c with
  | '\x00' => ['\\', '0']
  | '\t' => ['\\', 't']
  | '\n' => ['\\', 'n']
  | '\r' => ['\\', 'r']
  | '"' => ['\\', '"']
  | '\\' => ['\\', '\\']
  | _ => if isGlyphless c then codePointEscape c else [c]

/-- The text between double quotes. -/
def quote (s : String) : String :=
  String.ofList ('"' :: s.toList.flatMap quoteChar ++ ['"'])

/-- A list of quoted texts between brackets. -/
def quoteList (names : List String) : String :=
  "[" ++ joinWith ", " (names.map quote) ++ "]"

end TableGateway.Text
