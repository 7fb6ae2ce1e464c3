import TableGateway.Params
import TableGateway.Text.Joined

/-!
# Writing JSON text

The compact JSON text of values and of objects of values. A blob is an array of its bytes, and a
real that is not finite is written as `null`.
-/

namespace TableGateway.Json

/-- What is written for one character of a string. -/
def escapeChar (c : Char) : List Char :=
  if c = '"' then ['\\', '"']
  else if c = '\\' then ['\\', '\\']
  else if c = '\x08' then ['\\', 'b']
  else if c = '\x0c' then ['\\', 'f']
  else if c = '\n' then ['\\', 'n']
  else if c = '\r' then ['\\', 'r']
  else if c = '\t' then ['\\', 't']
  else if c.toNat < 32 then
    ['\\', 'u', '0', '0', Text.hexDigit (c.toNat / 16), Text.hexDigit (c.toNat % 16)]
  else [c]

/-- A string between double quotes. -/
def writeText (s : String) : String :=
  String.ofList ('"' :: s.toList.flatMap escapeChar ++ ['"'])

/-- The text of a value. -/
def writeValue : Value → String
  | .null => "null"
  | .bool b => if b then "true" else "false"
  | .integer n => toString n.toInt
  | .real x => x.exponential?.getD "null"
  | .text s => writeText s
  | .blob bytes => "[" ++ joinWith "," (bytes.map fun b => toString b.toNat) ++ "]"

/-- An object with the fields in the given order. -/
def writeObject (fields : List (String × Value)) : String :=
  "\x7b" ++ joinWith "," (fields.map fun (k, v) => writeText k ++ ":" ++ writeValue v) ++ "\x7d"

end TableGateway.Json

/-- A bag as JSON text: its values by name, in binding order. -/
def TableGateway.Params.toJson (p : Params) : String :=
  "\x7b\"values\":" ++ Json.writeObject p.entries ++ "\x7d"
