import TableGateway.Json.Tree
import TableGateway.Settings.Basic

/-!
# Reading settings

Settings are JSON text: an object of pools by name. Each pool is an object of its settings, or an
array of them in order of which the last may be missing; so are the options of a backend. A backend
is told apart by its `type`, which may stand before or after its `options`, or first in an array
of the two. Settings nobody knows are passed over, and a setting given twice is an error. Of two
pools of one name the later counts.

The text is read in one pass from front to back, so that of several faults the first is reported.
Options that stand before the type are kept as a tree until the type is known.
-/

namespace TableGateway.Settings

open TableGateway.Json

/-- What is wrong with a value of an unwanted kind: a scalar that is itself malformed is reported as
such. -/
def unwanted {α : Type} (cs : List Char) : Except TextFault α :=
  match cs with
  | [] => .error .ended
  | c :: rest => do
    if c = 'n' then let _ ← scanWord ['u', 'l', 'l'] rest
    else if c = 't' then let _ ← scanWord ['r', 'u', 'e'] rest
    else if c = 'f' then let _ ← scanWord ['a', 'l', 's', 'e'] rest
    else if c = '-' then let _ ← scanNumber false rest
    else if isDigit c then let _ ← scanNumber true cs
    else if c = '"' then let _ ← scanText rest
    else if c ≠ '[' ∧ c ≠ '\x7b' then throw .malformed
    throw .mismatched

/-- Reads a natural number of 64 bits. -/
def readNatural (cs : List Char) : Except TextFault (UInt64 × List Char) :=
  let cs := skipBlanks cs
  let finishWith (r : Number × List Char) : Except TextFault (UInt64 × List Char) :=
    match r with
    | (.natural n, rest) => .ok (UInt64.ofNat n, rest)
    | _ => .error .mismatched
  match cs with
  | [] => .error .ended
  | c :: rest =>
    if c = '-' then do finishWith (← scanNumber false rest)
    else if isDigit c then do finishWith (← scanNumber true cs)
    else unwanted cs

/-- Reads a string. -/
def readString (cs : List Char) : Except TextFault (String × List Char) :=
  match skipBlanks cs with
  | [] => .error .ended
  | '"' :: rest => scanText rest
  | other => unwanted other

/-- Reads the fields of an object into a state, up to and with the closing bracket. The reader of a
field starts right after its name. -/
def readObject {σ : Type} (field : σ → String → List Char → Except TextFault (σ × List Char)) :
    Nat → Bool → σ → List Char → Except TextFault (σ × List Char)
  | 0, _, _, _ => .error .ended
  | fuel + 1, first, state, cs => do
    match ← nextName? first cs with
    | none => return (state, cs)
    | some name =>
      let (key, rest) ← scanText name
      let (state, rest) ← field state key rest
      readObject field fuel false state rest

/-- Reads a structure, given as an object or as an array, one level below. -/
def readStruct {α : Type} (levels : Nat)
    (ofArray ofObject : Nat → List Char → Except TextFault (α × List Char)) (cs : List Char) :
    Except TextFault (α × List Char) :=
  match skipBlanks cs with
  | [] => .error .ended
  | '[' :: rest => do
    let levels ← enter levels
    let (a, rest) ← ofArray levels rest
    let rest ← closeArray rest
    return (a, rest)
  | c :: rest =>
    if c = '\x7b' then do
      let levels ← enter levels
      let (a, rest) ← ofObject levels rest
      let rest ← closeObject rest
      return (a, rest)
    else unwanted (c :: rest)

/-- Reads the next item of an array if there is one. -/
def readItem? {α : Type} (first : Bool) (item : List Char → Except TextFault (α × List Char))
    (cs : List Char) : Except TextFault (Option α × List Char) := do
  match ← nextItem? first cs with
  | none => return (none, cs)
  | some start =>
    let (a, rest) ← item start
    return (some a, rest)

/-- Reads the next item of an array, which must be there. -/
def readItem {α : Type} (first : Bool) (item : List Char → Except TextFault (α × List Char))
    (cs : List Char) : Except TextFault (α × List Char) := do
  match ← readItem? first item cs with
  | (some a, rest) => return (a, rest)
  | (none, _) => throw .mismatched

/-- Sets a field that must not have been set before. -/
def setOnce {α : Type} (old : Option α) (item : List Char → Except TextFault (α × List Char))
    (cs : List Char) : Except TextFault (α × List Char) :=
  if old.isSome then .error .mismatched
  else do
    let rest ← scanColon cs
    item rest

/-- Passes over a field nobody asked for. -/
def skipField (cs : List Char) : Except TextFault (List Char) := do
  let rest ← scanColon cs
  skipValue rest

/-- A field that must be given. -/
def required {α : Type} (field : Option α) : Except TextFault α :=
  match field with
  | some a => .ok a
  | none => .error .mismatched

/-! ### Options of a backend -/

/-- Options as far as they have been read. -/
structure PartialOptions where
  path : Option String := none
  busyTimeoutMs : Option UInt64 := none

/-- The options, of which the path must be given. -/
def PartialOptions.complete (p : PartialOptions) : Except TextFault SqliteOptions := do
  let path ← required p.path
  return { path := path, busyTimeoutMs := p.busyTimeoutMs.getD 5000 }

/-- Reads one field of the options. -/
def optionField (p : PartialOptions) (key : String) (cs : List Char) :
    Except TextFault (PartialOptions × List Char) := do
  if key = "path" then
    let (path, rest) ← setOnce p.path readString cs
    return ({ p with path := some path }, rest)
  else if key = "busy_timeout_ms" then
    let (n, rest) ← setOnce p.busyTimeoutMs readNatural cs
    return ({ p with busyTimeoutMs := some n }, rest)
  else
    let rest ← skipField cs
    return (p, rest)

/-- Reads the options of a backend. -/
def readOptions (levels : Nat) : List Char → Except TextFault (SqliteOptions × List Char) :=
  readStruct levels
    (fun _ cs => do
      let (path, rest) ← readItem true readString cs
      let (busy, rest) ← readItem? false readNatural rest
      return ({ path := path, busyTimeoutMs := busy.getD 5000 }, rest))
    (fun _ cs => do
      let (p, rest) ← readObject optionField (cs.length + 1) true {} cs
      let options ← p.complete
      return (options, rest))

/-- The text a tree is. -/
def textOf : Json → Except TextFault String
  | .text s => .ok s
  | _ => .error .mismatched

/-- The natural number a tree is. -/
def naturalOf : Json → Except TextFault UInt64
  | .number (.natural n) => .ok (UInt64.ofNat n)
  | _ => .error .mismatched

/-- Adds one field of a tree to the options. -/
def optionOfTree (p : PartialOptions) (field : String × Json) :
    Except TextFault PartialOptions := do
  if field.1 = "path" then
    if p.path.isSome then throw .mismatched
    return { p with path := some (← textOf field.2) }
  else if field.1 = "busy_timeout_ms" then
    if p.busyTimeoutMs.isSome then throw .mismatched
    return { p with busyTimeoutMs := some (← naturalOf field.2) }
  else return p

/-- The options a tree describes. -/
def optionsOfTree : Json → Except TextFault SqliteOptions
  | .array [path] => do return { path := ← textOf path }
  | .array [path, busy] => do
    return { path := ← textOf path, busyTimeoutMs := ← naturalOf busy }
  | .object fields => do
    let p ← fields.foldlM optionOfTree {}
    p.complete
  | _ => .error .mismatched

/-! ### Backends -/

/-- Checks the word that tells a backend. -/
def checkType (word : String) : Except TextFault Unit :=
  if word = "sqlite" then .ok () else .error .mismatched

/-- Reads the type of a backend that stands first in an array: only a word will do there. -/
def readTypeWord (cs : List Char) : Except TextFault (List Char) := do
  let (word, rest) ← readString cs
  checkType word
  return rest

/-- Reads the type of a backend: a word, or an object with the word as the name of null. -/
def readType (levels : Nat) (cs : List Char) : Except TextFault (List Char) :=
  match skipBlanks cs with
  | [] => .error .ended
  | '"' :: rest => do
    let (word, rest) ← scanText rest
    checkType word
    return rest
  | c :: rest =>
    if c = '\x7b' then do
      let _ ← enter levels
      let (word, rest) ← readString rest
      checkType word
      let rest ← scanColon rest
      let rest ← match skipBlanks rest with
        | [] => throw .ended
        | 'n' :: tail => scanWord ['u', 'l', 'l'] tail
        | other => unwanted other
      match skipBlanks rest with
      | [] => throw .ended
      | c :: tail => if c = '\x7d' then return tail else throw .malformed
    else .error .malformed

/-- A backend as far as it has been read. -/
inductive PartialBackend where
  | nothing
  | typed
  /-- Options before their type. -/
  | kept (tree : Json)
  | complete (options : SqliteOptions)

/-- Reads one field of a backend. -/
def backendField (levels : Nat) (b : PartialBackend) (key : String) (cs : List Char) :
    Except TextFault (PartialBackend × List Char) := do
  if key = "type" then
    match b with
    | .nothing =>
      let rest ← scanColon cs
      let rest ← readType levels rest
      return (.typed, rest)
    | .kept tree =>
      let rest ← scanColon cs
      let rest ← readType levels rest
      let options ← optionsOfTree tree
      return (.complete options, rest)
    | _ => throw .mismatched
  else if key = "options" then
    match b with
    | .nothing =>
      let rest ← scanColon cs
      let (tree, rest) ← readValue (2 * rest.length + 2) levels rest
      return (.kept tree, rest)
    | .typed =>
      let rest ← scanColon cs
      let (options, rest) ← readOptions levels rest
      return (.complete options, rest)
    | _ => throw .mismatched
  else
    let rest ← skipField cs
    return (b, rest)

/-- Reads a backend. -/
def readBackend (levels : Nat) : List Char → Except TextFault (SqliteOptions × List Char) :=
  readStruct levels
    (fun levels cs => do
      let (_, rest) ← readItem true (fun cs => do return ((), ← readTypeWord cs)) cs
      readItem false (readOptions levels) rest)
    (fun levels cs => do
      match ← readObject (backendField levels) (cs.length + 1) true .nothing cs with
      | (.complete options, rest) => return (options, rest)
      | _ => throw .mismatched)

/-! ### Pools -/

/-- The settings of a pool as far as they have been read. -/
structure PartialPool where
  backend : Option SqliteOptions := none
  lifetime : Option UInt64 := none
  poolSize : Option UInt64 := none

/-- The settings of a pool, of which the backend must be given. -/
def PartialPool.complete (p : PartialPool) : Except TextFault PoolSettings := do
  let backend ← required p.backend
  return { backend := backend, lifetime := p.lifetime.getD 0, poolSize := p.poolSize.getD 10 }

/-- Reads one field of a pool. -/
def poolField (levels : Nat) (p : PartialPool) (key : String) (cs : List Char) :
    Except TextFault (PartialPool × List Char) := do
  if key = "backend" then
    let (backend, rest) ← setOnce p.backend (readBackend levels) cs
    return ({ p with backend := some backend }, rest)
  else if key = "lifetime" then
    let (n, rest) ← setOnce p.lifetime readNatural cs
    return ({ p with lifetime := some n }, rest)
  else if key = "pool_size" then
    let (n, rest) ← setOnce p.poolSize readNatural cs
    return ({ p with poolSize := some n }, rest)
  else
    let rest ← skipField cs
    return (p, rest)

/-- Reads the settings of a pool. -/
def readPool (levels : Nat) : List Char → Except TextFault (PoolSettings × List Char) :=
  readStruct levels
    (fun levels cs => do
      let (backend, rest) ← readItem true (readBackend levels) cs
      let (lifetime, rest) ← readItem? false readNatural rest
      let (poolSize, rest) ← readItem? false readNatural rest
      let p : PartialPool := { backend := some backend, lifetime := lifetime, poolSize := poolSize }
      let settings ← p.complete
      return (settings, rest))
    (fun levels cs => do
      let (p, rest) ← readObject (poolField levels) (cs.length + 1) true {} cs
      let settings ← p.complete
      return (settings, rest))

/-- Reads the settings of one pool from a whole text. -/
def parsePool (text : String) : Except TextFault PoolSettings := do
  let (settings, rest) ← readPool nestingLimit text.toList
  finish rest
  return settings

/-- Reads one named pool. -/
def namedPool (levels : Nat) (pools : Registry String PoolSettings) (name : String)
    (cs : List Char) : Except TextFault (Registry String PoolSettings × List Char) := do
  let rest ← scanColon cs
  let (settings, rest) ← readPool levels rest
  return (pools.insert name settings, rest)

/-- Reads the settings of all pools from a whole text. -/
def parse (text : String) : Except TextFault (Registry String PoolSettings) := do
  let cs := text.toList
  match skipBlanks cs with
  | [] => throw .ended
  | c :: rest =>
    if c = '\x7b' then
      let levels ← enter nestingLimit
      let (pools, rest) ← readObject (namedPool levels) (cs.length + 1) true .empty rest
      let rest ← closeObject rest
      finish rest
      return pools
    else unwanted (c :: rest)

end TableGateway.Settings

namespace TableGateway.Databases

variable {β : Type}

/-- Builds the pools that a settings text describes. -/
def parse (text : String) : Except Failure (Databases β) :=
  match Settings.parse text with
  | .ok pools => ofSettings pools.entries
  | .error fault => .error (.error (.settings fault))

end TableGateway.Databases
