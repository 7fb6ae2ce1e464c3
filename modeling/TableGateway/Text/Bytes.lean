/-!
# Texts as bytes

A text is encoded in UTF-8, and bytes are decoded leniently: every longest piece that starts a
character and does not complete it is replaced by U+FFFD, and so is every byte that starts none.
Decoding is a left fold over the bytes whose state is the character that is still incomplete.
-/

namespace TableGateway.Text

/-- The bytes of a text. -/
def encode (s : String) : List UInt8 := s.toUTF8.data.toList

/-- A character of which some bytes have been read. -/
structure Incomplete where
  /-- The bits so far. -/
  value : Nat
  /-- The range of the next byte. -/
  low : Nat
  high : Nat
  /-- How many bytes follow the next one. -/
  more : Nat

/-- What the first byte of a character says: the whole character, or what must follow. -/
inductive Lead where
  | whole (c : Char)
  | partly (i : Incomplete)
  | invalid

/-- The meaning of a first byte. The range of the second byte excludes overlong forms, surrogates
and numbers above the last character. -/
def lead (b : Nat) : Lead :=
  if b < 0x80 then .whole (Char.ofNat b)
  else if b < 0xc2 then .invalid
  else if b < 0xe0 then .partly ⟨b - 0xc0, 0x80, 0xbf, 0⟩
  else if b = 0xe0 then .partly ⟨0, 0xa0, 0xbf, 1⟩
  else if b = 0xed then .partly ⟨0xd, 0x80, 0x9f, 1⟩
  else if b < 0xf0 then .partly ⟨b - 0xe0, 0x80, 0xbf, 1⟩
  else if b = 0xf0 then .partly ⟨0, 0x90, 0xbf, 2⟩
  else if b < 0xf4 then .partly ⟨b - 0xf0, 0x80, 0xbf, 2⟩
  else if b = 0xf4 then .partly ⟨4, 0x80, 0x8f, 2⟩
  else .invalid

/-- The character that stands for bytes which are none. -/
def replacement : Char := '\ufffd'

/-- Starts a character: what is written, and what is incomplete afterwards. -/
def startChar (b : Nat) : List Char × Option Incomplete :=
  match lead b with
  | .whole c => ([c], none)
  | .partly i => ([], some i)
  | .invalid => ([replacement], none)

/-- Takes one byte. -/
def takeByte (pending : Option Incomplete) (b : Nat) : List Char × Option Incomplete :=
  match pending with
  | none => startChar b
  | some i =>
    if i.low ≤ b ∧ b ≤ i.high then
      let value := i.value * 64 + b % 64
      match i.more with
      | 0 => ([Char.ofNat value], none)
      | n + 1 => ([], some ⟨value, 0x80, 0xbf, n⟩)
    else
      let (written, next) := startChar b
      (replacement :: written, next)

/-- Decodes bytes after an incomplete character. -/
def decodeFrom : Option Incomplete → List UInt8 → List Char
  | none, [] => []
  | some _, [] => [replacement]
  | pending, b :: rest =>
    let (written, next) := takeByte pending b.toNat
    written ++ decodeFrom next rest

/-- The text of bytes. -/
def decode (bytes : List UInt8) : String := String.ofList (decodeFrom none bytes)

end TableGateway.Text
