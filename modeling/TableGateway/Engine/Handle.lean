import TableGateway.Backend.Connection
import TableGateway.Engine.Lock

/-!
# Handles

What a handle does with the texts of statements. A handle knows the tables of its database from the
last time it read them; a statement is planned over those, and once more when the handle has taken
what it needs of the file. An instruction that names no table needs none.

`Engine.connection` is a handle as a link knows it, and `Engine.wire` the wire to it.
-/

namespace TableGateway.Engine

/-- An instruction is refused as it is written, or where it comes. -/
def refusal : EngineError := .failure EngineError.genericCode "refused"

/-- There is no instruction in a text. -/
def misuse : EngineError := .failure EngineError.misuseCode "not an instruction"

namespace Files

/-! ### Transactions -/

/-- Begins a transaction. What it demands is taken first, also where it cannot begin. -/
def begin (fs : Files) (id : Nat) (h : Handle) (demand : Demand) : Outcome Unit :=
  match fs.acquire id h demand with
  | (.error e, h) => (.error e, fs.update id h)
  | (.ok (), h) =>
    if h.inTransaction then (.error refusal, fs.update id h)
    else (.ok (), fs.update id { h with inTransaction := true })

/-- Commits a transaction. -/
def commit (fs : Files) (id : Nat) (h : Handle) : Outcome Unit :=
  if h.inTransaction then fs.settle id h else (.error refusal, fs)

/-- Rolls a transaction back. -/
def rollback (fs : Files) (id : Nat) (h : Handle) : Outcome Unit :=
  if h.inTransaction then (.ok (), fs.update id (fs.undone h)) else (.error refusal, fs)

/-! ### Parameters -/

/-- The data that parameters stand for. A parameter is bound by its name, or because it has the
number of one that is; one that is not bound is nothing. -/
def bindings (numbers : List (String × Nat)) (params : Params) (name : String) : Datum :=
  let given := numbers.filterMap fun (other, n) =>
    match other.toList with
    | ':' :: rest =>
      if numbers.lookup name = some n then params.get? (String.ofList rest) else none
    | _ => none
  (given.head?.map Datum.ofValue).getD .null

/-- Fails for the first bound parameter that a statement does not name. -/
def checkBound (tokens : List Token) (params : Params) : Except EngineError Unit :=
  let known := Token.params tokens
  match params.names.find? fun n => !known.contains (":" ++ n) with
  | some n => .error (.unknownParameter (":" ++ n))
  | none => .ok ()

/-! ### Statements -/

/-- The rows that a statement returned. -/
abbrev Rows := List Record

/-- Whether an instruction counts the rows that it changes. -/
def counts {γ : Type} : Instruction γ → Bool
  | .insert _ _ _ _ | .update _ _ _ _ | .delete _ _ => true
  | _ => false

/-- The failure of an instruction that does not get what it needs. -/
def denied {γ : Type} (fs : Files) (id : Nat) (h : Handle) (i : Instruction γ) (e : EngineError) :
    Outcome Rows :=
  let after := if h.inTransaction then h else fs.undone h
  (.error e, fs.update id (if counts i then { after with changes := 0 } else after))

/-- The handle after an instruction; what that took is held on to only in a transaction. -/
def kept (h : Handle) : Handle := if h.inTransaction then h else ended h

/-- Runs a change over a database for a handle that may change it. Outside a transaction it is
committed at once. -/
def change (fs : Files) (id : Nat) (h : Handle) (db : Database) (bound : String → Datum)
    (i : Instruction Slot) : Outcome Rows :=
  match i.change db bound with
  | .error e =>
    let after := match i.undone e with
      | .instruction => if h.inTransaction then h else fs.undone h
      | .transaction => fs.undone h
    (.error e, fs.update id { after with changes := 0 })
  | .ok effect =>
    let h := { h with
      changes := effect.changed.getD h.changes
      known := some effect.database
      uncommitted := some effect.database }
    if h.inTransaction then (.ok [], fs.update id h)
    else
      match fs.settle id h with
      | (.ok (), fs) => (.ok [], fs)
      | (.error e, fs) => (.error e, fs.update id { fs.undone h with changes := 0 })

/-- Runs a select over a database. -/
def select (db : Database) (bound : String → Datum) (q : Select Slot) :
    Except EngineError Rows := do
  let rows ← q.eval (db.context db bound)
  return rows.map fun row => row.map Datum.toValue

/-- Runs a planned instruction over a database for a handle that has taken what it needs. -/
def carryOut (fs : Files) (id : Nat) (h : Handle) (db : Database) (bound : String → Datum) :
    Instruction Slot → Outcome Rows
  | .select q => (select db bound q, fs.update id (kept h))
  | .create _ true [] => (.ok [], fs.update id (kept h))
  | planned => fs.change id h db bound planned

/-- Whether a planned instruction makes a table. One that is already there is not made again. -/
def makesTable : Instruction Slot → Bool
  | .create _ _ columns => !columns.isEmpty
  | _ => false

/-- Runs an instruction about tables whose plan is `planned` as far as the handle knows. What it
needs of the file is taken first; then it is planned once more over what is there. -/
def runPlanned (fs : Files) (id : Nat) (h : Handle) (bound : String → Datum)
    (i : Instruction ColumnName) (planned : Instruction Slot) : Outcome Rows :=
  let taken := if makesTable planned || counts planned then fs.reserve id h
    else (fs.share id h).map Prod.fst
  match taken with
  | .error e => fs.denied id h i e
  | .ok taken =>
    let reads := i.tables.map Reading.fold
    match fs.lockTables id taken reads (i.target?.map Reading.fold) (makesTable planned),
        fs.sees taken with
    | (false, taken), _ => fs.denied id taken i locked
    | _, .error e => (.error e, fs)
    | (true, taken), .ok db =>
      let taken := { taken with known := some db }
      match i.plan db with
      | none => (.error refusal, fs.update id (kept taken))
      | some planned => fs.carryOut id taken db bound planned

/-- The plan of an instruction about tables over those that a handle knows, and the handle. One
that knows none reads them; one that knows too few reads them again, if it can. -/
def plan (fs : Files) (id : Nat) (h : Handle) (i : Instruction ColumnName) :
    Except EngineError (Option (Instruction Slot) × Handle) :=
  let there := (fs.share id h).map Prod.snd
  let planned (db : Database) : Option (Instruction Slot) × Handle :=
    (i.plan db, { h with known := some db })
  match h.known, there with
  | none, .error e => .error e
  | none, .ok db => .ok (planned db)
  | some db, there =>
    match i.plan db, there with
    | none, .ok db => .ok (planned db)
    | i, _ => .ok (i, h)

/-- The handle after an instruction without tables has been refused. It looks whether it still knows
what tables there are. -/
def doubting (fs : Files) (id : Nat) (h : Handle) : Handle :=
  let definitions (db : Database) : List (String × List ColumnDef) :=
    db.tables.map fun t => (t.name, t.columns)
  match h.known, fs.share id h with
  | some known, .ok (_, db) =>
    if definitions known = definitions db then h else { h with known := none }
  | _, _ => h

/-- Runs an instruction about tables. -/
def runOnTables (fs : Files) (id : Nat) (h : Handle) (tokens : List Token)
    (bound : String → Datum) (params : Params) (i : Instruction ColumnName) : Outcome Rows :=
  match fs.plan id h i with
  | .error e => (.error e, fs.update id { h with isForgetful := true })
  | .ok (planned, h) =>
    let fs := fs.update id h
    match planned, checkBound tokens params with
    | none, _ => (.error refusal, fs)
    | some _, .error e => (.error e, fs)
    | some planned, .ok () => fs.runPlanned id h bound i planned

/-- An outcome without rows. -/
def rowless (o : Outcome Unit) : Outcome Rows := (o.1.map fun () => [], o.2)

/-- An outcome that there is only if every bound parameter is named. -/
def checked (fs : Files) (tokens : List Token) (params : Params) (run : Outcome Rows) :
    Outcome Rows :=
  match checkBound tokens params with
  | .error e => (.error e, fs)
  | .ok () => run

/-- Runs an instruction. -/
def runInstruction (fs : Files) (id : Nat) (h : Handle) (tokens : List Token)
    (bound : String → Datum) (params : Params) (i : Instruction ColumnName) : Outcome Rows :=
  match i with
  | .begin demand => fs.checked tokens params (rowless (fs.begin id h demand))
  | .commit => fs.checked tokens params (rowless (fs.commit id h))
  | .rollback => fs.checked tokens params (rowless (fs.rollback id h))
  | .select q =>
    if !q.tables.isEmpty then fs.runOnTables id h tokens bound params (.select q)
    else
      match (Instruction.select q).plan .empty with
      | some (.select q) => fs.checked tokens params (select .empty bound q, fs)
      | _ => (.error refusal, fs.update id (fs.doubting id h))
  | i => fs.runOnTables id h tokens bound params i

/-- Runs the first statement of a text on a handle. -/
def run (fs : Files) (id : Nat) (h : Handle) (text : String) (params : Params) : Outcome Rows :=
  let tokens := Token.firstStatement (Token.ofText text)
  if tokens.isEmpty then
    (match checkBound tokens params with
      | .error e => .error e
      | .ok () => .error misuse, fs)
  else
    match Instruction.ofTokens? tokens, Token.paramNumbers? (Token.params tokens) with
    | some i, some numbers => fs.runInstruction id h tokens (bindings numbers params) params i
    | _, _ => (.error refusal, fs)

end Files

/-! ### Connections -/

/-- Runs a command on a handle. Nobody answers for a handle that is gone. -/
def serve (id : Nat) (command : Command) (fs : Files) :
    Option (Except EngineError Files.Rows) × Files :=
  match fs.handles.get? id with
  | none => (none, fs)
  | some h =>
    let unlessShutOut (o : Files.Outcome Files.Rows) : Option (Except _ _) × Files :=
      if fs.isShutOut id h then (some (.error locked), fs) else (some o.1, o.2)
    match command with
    | .begin => unlessShutOut (Files.rowless (fs.begin id h .nothing))
    | .commit => unlessShutOut (Files.rowless (fs.commit id h))
    | .rollback => unlessShutOut (Files.rowless (fs.rollback id h))
    | .statement text params => unlessShutOut (fs.run id h text params)
    | .disconnect => (some (.ok []), fs.disconnect id)

/-- Whether an instruction cannot write. Neither end of a transaction writes anything by itself, but
a beginning that demands something of the file is taken for one that can. -/
def isReadOnly {γ : Type} : Instruction γ → Bool
  | .select _ | .commit | .rollback => true
  | .begin demand => demand = .nothing
  | .insert _ _ _ _ | .update _ _ _ _ | .delete _ _ | .create _ _ _ => false

/-- The connection of a handle. -/
def connection (id : Nat) : Connection Files where
  run := serve id
  isReadOnly text _ :=
    (Instruction.ofTokens? (Token.firstStatement (Token.ofText text))).any isReadOnly
  changes fs := (fs.handles.get? id).elim 0 Handle.changes

/-- The wire to a handle. -/
def wire (id : Nat) : Wire Files := (connection id).wire

/-- The wire to a handle for which nobody waits: the command still runs, and with its answer the
handle is gone. -/
def abandonedWire (id : Nat) : Wire Files := fun command fs =>
  (.abandoned, (wire id command fs).2.disconnect id)

end TableGateway.Engine
