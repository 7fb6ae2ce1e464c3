import TableGateway.Engine.Location
import TableGateway.Engine.Store
import TableGateway.Registry

/-!
# Files and their handles

An engine keeps files and the handles that are open on them. A handle on `:memory:` has a database
of its own; other databases go by a `Place`, and all handles that are open there use the same one.

A file that is no database can be opened; this shows only when an instruction needs its tables.

Handles that were opened as shared (`Handle.isMate`) are one to all others, and know of the same
tables.
-/

namespace TableGateway.Engine

/-- What a database goes by that several handles can have open. -/
inductive Place where
  | file (path : String)
  /-- In memory, like a file. -/
  | memory (path : String)
  /-- In memory, for handles that are shared. -/
  | cache (name : String)
  deriving DecidableEq, Repr

/-- What a handle holds of its file. -/
inductive Hold where
  | nothing
  | share
  /-- It may change the database. -/
  | reserve
  /-- It asked for the whole file. -/
  | claim
  deriving DecidableEq, Repr

/-- Whether a hold keeps others from changing the database. -/
def Hold.canChange : Hold → Bool
  | reserve | claim => true
  | _ => false

/-- How handles on one place keep out of each other's way. -/
inductive Guard where
  /-- Several may read while one changes, until that one asks for the whole file. -/
  | patient
  /-- Several may read until one changes. -/
  | strict
  /-- One at a time. -/
  | single
  | absent
  deriving DecidableEq, Repr

/-- Whether a handle may take a hold while others have theirs. -/
def Guard.allows (g : Guard) (others : List Hold) : Hold → Bool
  | .nothing => true
  | .share =>
    match g with
    | patient => others.all (· != .claim)
    | strict => others.all fun hold => !hold.canChange
    | single => others.all (· == .nothing)
    | absent => true
  | .reserve => g == single || g == absent || others.all fun hold => !hold.canChange
  | .claim => g == single || g == absent || others.all (· == .nothing)

/-- The guard of a location. -/
def Location.guard (l : Location) : Guard :=
  if l.isUnwatched then .absent
  else match l.medium with
    | .disk => .patient
    | .exclusiveDisk => .single
    | .openDisk => .absent
    | .memory => .strict

/-- An open handle. -/
structure Handle where
  /-- Where the database is that others can open too; without a place it is in memory. -/
  place : Option Place
  /-- The last committed database in memory; it may be none. -/
  memory : Option Database := some ⟨[]⟩
  guard : Guard := .patient
  isReadOnly : Bool := false
  isShared : Bool := false
  inTransaction : Bool := false
  hold : Hold := .nothing
  /-- The transaction has the right to change the file. -/
  isWriting : Bool := false
  /-- The transaction has taken the whole file from the start. -/
  isExclusive : Bool := false
  /-- The transaction has made a table. -/
  isMaking : Bool := false
  /-- The tables from which the transaction has read. -/
  reads : List String := []
  /-- The tables to which the transaction may have written. -/
  writes : List String := []
  /-- Handles that share with this one have to end their transactions before others begin. -/
  isStarved : Bool := false
  /-- The database with the changes that are not committed. -/
  uncommitted : Option Database := none
  /-- The database whose tables the handle knows. -/
  known : Option Database := none
  /-- It could not read what tables there are; it forgets them with the next transaction that is
  undone. -/
  isForgetful : Bool := false
  /-- How many rows the last counting instruction changed. -/
  changes : Nat := 0

/-- Whether two handles are one to all others. -/
def Handle.isMate (h g : Handle) : Bool :=
  h.isShared && g.isShared && h.place == g.place && h.guard == g.guard

/-- Files and the handles open on them. -/
structure Files where
  /-- The directories in which files can be opened. -/
  directories : List String
  /-- What is at each place; it may be no database. -/
  content : Registry Place (Option Database)
  handles : Registry Nat Handle
  /-- The number of the next handle. -/
  next : Nat

/-- A file holds something else. -/
def notADatabase : EngineError := .failure EngineError.notADatabaseCode "file is not a database"

/-- There is no place for a file. -/
def cannotOpen : EngineError := .failure EngineError.cannotOpenCode "unable to open database file"

/-! ### Paths -/

/-- The steps that a path leads down: empty ones and single dots lead nowhere, and two dots lead
back. -/
def pathSteps (path : String) : List String :=
  (path.splitOn "/").foldl (fun steps s =>
    if s = "" ∨ s = "." then steps
    else if s = ".." then steps.dropLast
    else steps ++ [s]) []

/-- A path without detours. -/
def straightPath (path : String) : String :=
  (if path.toList.head? = some '/' then "/" else "") ++ "/".intercalate (pathSteps path)

/-- The path of the directory that a path leads to; a path of one step has none. -/
def parentPath? (path : String) : Option String :=
  match (straightPath path).toList.reverse.dropWhile fun c => c != '/' with
  | [] => none
  | _ :: parent => some (String.ofList parent.reverse)

/-- Whether a path in memory is known to all handles. -/
def isPublicPath (path : String) : Bool :=
  match path.toList with
  | c :: _ :: _ => c == '/' || c == '\\'
  | _ => false

/-- The place of a location, if handles can have it in common. -/
def Location.place? (l : Location) : Option Place :=
  if l.path.isEmpty then none
  else if l.isInMemory then if l.isShared then some (.cache l.path) else none
  else if l.medium = .memory then
    if l.isShared || isPublicPath l.path then some (.memory l.path) else none
  else some (.file (straightPath l.path))

namespace Files

/-- No files and no handles. -/
def empty (directories : List String) : Files :=
  ⟨directories.map straightPath, .empty, .empty, 0⟩

/-- Writes a file; one of at most one byte is an empty database, any other is none. -/
def write (fs : Files) (path content : String) : Files :=
  { fs with
    content := fs.content.insert (.file (straightPath path))
      (if content.utf8ByteSize ≤ 1 then some .empty else none) }

/-- Whether there can be a file at a path without detours: in a directory, and not where a directory
is. -/
def hasPlace (fs : Files) (path : String) : Bool :=
  !path.isEmpty && !fs.directories.contains path
    && (parentPath? path).elim true fs.directories.contains

/-- Whether a place can be opened. -/
def canOpen (fs : Files) (access : Access) : Place → Bool
  | .file path => fs.hasPlace path && (access == .create || fs.content.contains (.file path))
  | _ => true

/-- A new handle at a location, where what is there is known. -/
def newHandle (fs : Files) (l : Location) (there : Option Database) : Handle :=
  let isReadOnly := l.access == .readOnly
  match l.place? with
  | none => { place := none, isReadOnly }
  | some place =>
    if l.isFrozen then { place := none, memory := there, isReadOnly := true }
    else
      let h : Handle := { place, guard := l.guard, isReadOnly, isShared := l.isShared }
      match fs.handles.values.find? h.isMate with
      | some mate => { h with isReadOnly := mate.isReadOnly, known := mate.known }
      | none => h

/-- Opens a handle, on a new database if there is none. -/
def open? (fs : Files) (text : String) : Except EngineError (Nat × Files) := do
  let l ← Location.ofText text
  let place := l.place?
  if !place.all (fs.canOpen l.access) then throw cannotOpen
  let there := (place.bind fs.content.get?).getD (some .empty)
  return (fs.next, { fs with
    content := match place with
      | some place => fs.content.insert place there
      | none => fs.content
    handles := fs.handles.insert fs.next (fs.newHandle l there)
    next := fs.next + 1 })

/-- The other handles that are one with a handle to all others. -/
def mates (fs : Files) (id : Nat) (h : Handle) : List Handle :=
  fs.handles.entries.filterMap fun (other, g) =>
    if other != id && h.isMate g then some g else none

/-- What those hold that a handle has to watch out for. -/
def rivals (fs : Files) (id : Nat) (h : Handle) : List Hold :=
  fs.handles.entries.filterMap fun (other, g) =>
    if other != id && h.place.isSome && g.place == h.place && g.guard == h.guard
        && !h.isMate g then
      some g.hold
    else none

/-- Changes a handle. Handles that share with it know the same tables from then on, and one of them
that is left alone is not starved any more. -/
def update (fs : Files) (id : Nat) (h : Handle) : Files :=
  let fs := { fs with handles := fs.handles.insert id h }
  let told (other : Nat) (g : Handle) : Handle :=
    if h.isMate g then
      { g with
        known := h.known
        isStarved := g.isStarved && (fs.mates other g).any fun mate => mate.hold != .nothing }
    else g
  { fs with handles := ⟨fs.handles.entries.map fun (other, g) => (other, told other g)⟩ }

/-- The database that a handle sees. -/
def sees (fs : Files) (h : Handle) : Except EngineError Database :=
  let there := match h.uncommitted, h.place with
    | some db, _ => some db
    | none, none => h.memory
    | none, some place => (fs.content.get? place).getD (some .empty)
  match there with
  | some db => .ok db
  | none => .error notADatabase

/-- A result together with what became of the files. -/
abbrev Outcome (α : Type) := Except EngineError α × Files

end Files

end TableGateway.Engine
