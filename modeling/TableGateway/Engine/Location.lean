import TableGateway.Engine.Token
import TableGateway.Error
import TableGateway.Text.Bytes

/-!
# Locations

Where a database is, and how it is opened. A text is the path of a file, unless it starts with
`file:`. Then an authority may stand before the path, which must be empty or `localhost`, and
options behind it: `mode`, `cache`, `vfs`, `immutable` and `nolock`; any other is ignored. In path
and options a percent sign with two hexadecimal digits stands for a byte, and a byte of value zero
ends the path, name or value in which it stands.

Of `mode`, `cache` and `vfs` the last one counts, but a mode can only be followed by one that allows
no more.
-/

namespace TableGateway.Engine

/-- How a file is opened. -/
inductive Access where
  | readOnly
  | readWrite
  /-- It is made if it is not there. -/
  | create
  /-- It is not opened at all; the database is in memory. -/
  | memory
  deriving DecidableEq, Repr

/-- Where the bytes of a database are kept, and who watches over its handles. -/
inductive Medium where
  | disk
  /-- A handle takes the whole file whenever it takes something. -/
  | exclusiveDisk
  /-- Nobody watches. -/
  | openDisk
  | memory
  deriving DecidableEq, Repr

/-- Where a database is, and how it is opened. -/
structure Location where
  path : String
  access : Access := .create
  medium : Medium := .disk
  /-- Handles that are opened alike are one to all others. -/
  isShared : Bool := false
  /-- The file is supposed not to change. -/
  isFrozen : Bool := false
  /-- Nobody watches over the handles. -/
  isUnwatched : Bool := false
  deriving DecidableEq, Repr

/-! ### Failures -/

/-- Something is not known by its name. -/
def unknownName : EngineError := .failure EngineError.genericCode "no such thing"

/-- More is asked for than is allowed. -/
def notAllowed : EngineError := .failure EngineError.permissionCode "access mode not allowed"

/-! ### Options -/

/-- How much an access mode allows; memory is never too much. -/
def Access.measure : Access → Nat
  | readOnly => 1
  | readWrite => 2
  | create => 6
  | memory => 128

/-- The access mode of a name. -/
def Access.ofName? : String → Option Access
  | "ro" => some .readOnly
  | "rw" => some .readWrite
  | "rwc" => some .create
  | "memory" => some .memory
  | _ => none

/-- The medium of a name. -/
def Medium.ofName? : String → Option Medium
  | "unix" | "unix-excl" => some .disk
  | "unix-dotfile" => some .exclusiveDisk
  | "unix-none" => some .openDisk
  | "memdb" => some .memory
  | _ => none

/-- Whether the value of an option means that it holds: an affirmative word, or a number whose last
byte is not zero. -/
def isAffirmed (value : String) : Bool :=
  let digits := value.toList.takeWhile Numeral.isDigit
  if digits.isEmpty then ["on", "yes", "true"].contains value.toLower
  else
    let n := digits.foldl (fun n c => 10 * n + (c.toNat - '0'.toNat)) 0
    decide (n < 2147483648) && n % 256 != 0

/-- Whether an option holds whose first value counts. -/
def holdsFirst (options : List (String × String)) (name : String) : Bool :=
  (options.lookup name).any isAffirmed

namespace Location

/-- The bytes of a part of a location, up to one that is zero. -/
def decodeBytes : List Char → List UInt8
  | [] => []
  | '%' :: a :: b :: rest =>
    match Token.hexDigit? a, Token.hexDigit? b with
    | some x, some y => if x + y = 0 then [] else UInt8.ofNat (16 * x + y) :: decodeBytes rest
    | _, _ => Text.encode "%" ++ decodeBytes (a :: b :: rest)
  | c :: rest => Text.encode (String.singleton c) ++ decodeBytes rest

/-- The text of a part of a location. -/
def decode (cs : List Char) : String := Text.decode (decodeBytes cs)

/-- What stands before a character and what stands behind it. -/
def cut (c : Char) (cs : List Char) : List Char × List Char :=
  (cs.takeWhile (· != c), (cs.dropWhile (· != c)).drop 1)

/-- The name and the value of an option; one without a name is none. -/
def option? (cs : List Char) : Option (String × String) :=
  let (name, value) := cut '=' cs
  if (decode name).isEmpty then none else some (decode name, decode value)

/-- The options that are written behind a path. -/
def options (cs : List Char) : List (String × String) :=
  (cs.splitOn '&').filterMap option?

/-- The location with one more option that says how it is opened. -/
def with? (l : Location) (name value : String) : Except EngineError Location :=
  match name with
  | "mode" =>
    match Access.ofName? value with
    | none => .error unknownName
    | some a =>
      if a != .memory && decide (l.access.measure < a.measure) then .error notAllowed
      else .ok { l with access := a }
  | "cache" =>
    match value with
    | "shared" => .ok { l with isShared := true }
    | "private" => .ok { l with isShared := false }
    | _ => .error unknownName
  | _ => .ok l

/-- The medium that options ask for. -/
def medium? (options : List (String × String)) : Except EngineError Medium :=
  match (options.filter fun (name, _) => name == "vfs").getLast? with
  | none => .ok .disk
  | some (_, value) =>
    match Medium.ofName? value with
    | some m => .ok m
    | none => .error unknownName

/-- What follows an authority that is no other machine. -/
def pastAuthority? (cs : List Char) : Option (List Char) :=
  match cs with
  | '/' :: '/' :: rest =>
    let (authority, path) := (rest.takeWhile (· != '/'), rest.dropWhile (· != '/'))
    if authority.isEmpty || authority == "localhost".toList then some path else none
  | cs => some cs

/-- How a location starts that is more than a path. -/
def scheme : String := "file:"

/-- The location that a text says. -/
def ofText (text : String) : Except EngineError Location := do
  if !scheme.toList.isPrefixOf text.toList then return { path := text }
  match pastAuthority? (text.toList.drop scheme.length) with
  | none => throw unknownName
  | some cs =>
    let (path, rest) := cut '?' (cs.takeWhile (· != '#'))
    let given := options rest
    let plain : Location := { path := decode path }
    let l ← given.foldlM (fun l (name, value) => l.with? name value) plain
    return { l with
      medium := ← medium? given
      isFrozen := holdsFirst given "immutable"
      isUnwatched := holdsFirst given "nolock" }

/-- The path of a database in memory. -/
def memoryPath : String := ":memory:"

/-- Whether the database is in memory and goes by no path. -/
def isInMemory (l : Location) : Bool := l.path = memoryPath || l.access = .memory

end Location

end TableGateway.Engine
