import TableGateway.Engine.Datum

/-!
# Declared types of columns

A column is declared with the words of a type, and perhaps with sizes behind them. Any words will
do. They tell what the column prefers, by the parts that stand in them, and how large its data are
supposed to be, which matters only to what reading a table is supposed to cost.
-/

namespace TableGateway.Engine

/-- The words of a type, in small letters, and the first size behind them. -/
structure ColumnType where
  words : List String
  size : Option Nat
  deriving DecidableEq, Repr

/-- What stands behind the last place where a part stands in a text. -/
def afterLast? (part : List Char) : List Char → Option (List Char)
  | [] => none
  | c :: cs =>
    match afterLast? part cs with
    | some rest => some rest
    | none =>
      if part.isPrefixOf (c :: cs) then some ((c :: cs).drop part.length) else none

namespace ColumnType

/-- Whether a part stands in one of the words. -/
def has (t : ColumnType) (part : String) : Bool :=
  t.words.any fun w => (afterLast? part.toList w.toList).isSome

/-- What the words prefer. Without words, everything is stored as it is. -/
def affinity (t : ColumnType) : Affinity :=
  if t.words.isEmpty then .blob
  else if t.has "int" then .integer
  else if t.has "char" || t.has "clob" || t.has "text" then .text
  else if t.has "blob" then .blob
  else if t.has "real" || t.has "floa" || t.has "doub" then .real
  else .numeric

/-- Whether the type is the one that makes a key column the key of the stored rows. -/
def isInteger (t : ColumnType) : Bool := t.words == ["integer"] && t.size.isNone

/-- The type as it is written. -/
def text (t : ColumnType) : String :=
  " ".intercalate t.words ++ (t.size.elim "" fun n => "(" ++ toString n ++ ")")

/-- The first number in a text, or zero. -/
def firstNumber (cs : List Char) : Nat :=
  Numeral.extend 0 ((cs.dropWhile fun c => !Numeral.isDigit c).takeWhile Numeral.isDigit)

/-- How large data of a length are supposed to be, where four characters count as one. -/
def sizeOfLength (n : Nat) : Nat := min 255 (n / 4 + 1)

/-- How large the data of a column are supposed to be: a text as large as it may become, if that is
said, and otherwise as twenty characters; a number counts as one. -/
def dataSize (t : ColumnType) : Nat :=
  match t.affinity with
  | .text =>
    match afterLast? "char".toList t.text.toList with
    | some rest => sizeOfLength (firstNumber rest)
    | none => sizeOfLength 16
  | .blob => if t.words.isEmpty then 1 else sizeOfLength (t.size.getD 16)
  | _ => 1

end ColumnType

end TableGateway.Engine
