import TableGateway.Backend.Call

/-!
# Links

A link is one connection to an engine that knows transactions. It begins them lazily, buffers the
rows of the last statement, and keeps its own record of where the transaction stands; only the
answers to its own commands change that record.

Every command is a trip: the connection travels with the command and comes back with the answer.
When a trip is lost, or whoever waits for it gives up, the connection does not come back, and the
link is of no more use.

The operations are written over an engine `σ` that is reached through `Wire`, a function that
takes a command to the engine and brings back what became of the trip.
-/

namespace TableGateway

/-- What a link sends to its engine. -/
inductive Command where
  | begin
  | commit
  | rollback
  | statement (sql : String) (params : Params)
  /-- End the connection. -/
  | disconnect
  deriving DecidableEq, Repr

/-- What became of a trip to the engine. -/
inductive Trip where
  /-- The command succeeded: its rows and how many rows it changed. -/
  | answered (rows : List Record) (affected : Nat)
  /-- The engine refused the command. -/
  | refused (cause : EngineError)
  /-- The trip was lost. -/
  | lost
  /-- Nobody waits for the answer any more. -/
  | abandoned
  deriving DecidableEq, Repr

/-- How commands reach an engine. -/
abbrev Wire (σ : Type) := Command → σ → Trip × σ

/-- One connection to an engine. -/
structure Link where
  /-- The connection is here; it is not while it travels, and never again once it is lost. -/
  connected : Bool
  transaction : Transaction
  /-- A statement has succeeded since the last begin or rollback. -/
  executed : Bool
  /-- The rows that have not been read. -/
  rows : List Record
  affected : Nat
  /-- The last trip did not come back. -/
  broken : Bool
  deriving DecidableEq, Repr

/-- Why an operation on a link ends early. -/
inductive Stop where
  /-- It failed. -/
  | failed (e : Error)
  /-- Whoever asked for it is gone. -/
  | abandoned
  deriving DecidableEq, Repr

/-- An operation on a link and the engine behind it. -/
abbrev Talk (σ : Type) := ExceptT Stop (StateM (Link × σ))

namespace Link

variable {σ : Type}

/-- A link over a fresh connection. -/
def fresh : Link where
  connected := true
  transaction := .idle
  executed := false
  rows := []
  affected := 0
  broken := false

/-- Whether the link can still be used. -/
def isUsable (l : Link) : Bool := l.connected && !l.broken

/-- Fails because the link is in the wrong state. -/
def refuse {α : Type} (message : String) : Talk σ α := throw (.failed (.state message))

/-- Reads the link. -/
def look : Talk σ Link := do return (← get).1

/-- Changes the link. -/
def update (f : Link → Link) : Talk σ Unit := modify fun (l, s) => (f l, s)

/-- Sends a command along the wire and takes note of whether the connection came back. -/
def send (wire : Wire σ) (command : Command) : Talk σ (List Record × Nat) := do
  let (l, s) ← get
  if !l.connected then refuse "connection is closed"
  else
    let (trip, s) := wire command s
    match trip with
    | .answered rows affected =>
      set ({ l with broken := false }, s)
      return (rows, affected)
    | .refused cause =>
      set ({ l with broken := false }, s)
      throw (.failed (.engine cause))
    | .lost =>
      set ({ l with connected := false, broken := true }, s)
      throw (.failed .task)
    | .abandoned =>
      set ({ l with connected := false, broken := true }, s)
      throw .abandoned

/-- The link with nothing to read. -/
def cleared (t : Transaction) (l : Link) : Link :=
  { l with transaction := t, executed := false, rows := [], affected := 0 }

/-- Begins a transaction. -/
def begin (wire : Wire σ) : Talk σ Unit := do
  if (← look).transaction = .opened then refuse "a transaction is already open"
  let _ ← send wire .begin
  update (cleared .opened)

/-- Commits the open transaction; what it read stays readable. -/
def commit (wire : Wire σ) : Talk σ Unit := do
  if (← look).transaction ≠ .opened then refuse "no open transaction to commit"
  let _ ← send wire .commit
  update fun l => { l with transaction := .committed }

/-- Rolls back a transaction if one is open, and drops what was not read. -/
def rollback (wire : Wire σ) : Talk σ Unit := do
  if (← look).transaction = .opened then
    let _ ← send wire .rollback
  update (cleared .idle)

/-- Makes the link ready for another holder. -/
def reset (wire : Wire σ) : Talk σ Unit := rollback wire

/-- Ends the connection, after a rollback if a transaction is open. A failed rollback is reported
only after the connection has been ended. -/
def close (wire : Wire σ) : Talk σ Unit := do
  let rolledBack : Except Error Unit ←
    if (← look).transaction = .opened then
      tryCatch (do rollback wire; return .ok ()) fun
        | .failed e => return .error e
        | .abandoned => throw .abandoned
    else pure (.ok ())
  update fun l => { l with rows := [], executed := false, transaction := .idle }
  if (← look).connected then
    let (l, s) ← get
    let (trip, s) := wire .disconnect s
    set ({ l with connected := false }, s)
    match trip with
    | .answered _ _ => pure ()
    | .refused cause => throw (.failed (.engine cause))
    | .lost => throw (.failed .task)
    | .abandoned => throw .abandoned
  match rolledBack with
  | .ok () => return ()
  | .error e => throw (.failed e)

/-- Runs a statement, in a transaction of its own if none is open. A statement that fails leaves
nothing to read; a transaction that cannot be begun leaves everything as it was. -/
def execute (wire : Wire σ) (sql : String) (params : Params) : Talk σ Unit := do
  if (← look).transaction ≠ .opened then begin wire
  let (rows, affected) ← tryCatch (send wire (.statement sql params)) fun
    | .failed e => do
      update fun l => { l with rows := [], executed := false }
      throw (.failed e)
    | .abandoned => throw .abandoned
  update fun l => { l with rows := rows, affected := affected, executed := true }

/-- Commits before a result is read, if the transaction is still open. -/
def settle (wire : Wire σ) : Talk σ Unit := do
  if !(← look).executed then
    refuse "cannot read results before a statement has been executed"
  if (← look).transaction = .opened then commit wire

/-- The next `n` rows, or all that are left. -/
def fetchMany (wire : Wire σ) (n : Nat) : Talk σ (List Record) := do
  settle wire
  let rows := (← look).rows
  update fun l => { l with rows := rows.drop n }
  return rows.take n

/-- The next row, if there is one. -/
def fetchOne (wire : Wire σ) : Talk σ (Option Record) := do
  return (← fetchMany wire 1).head?

/-- All rows that are left. -/
def fetchAll (wire : Wire σ) : Talk σ (List Record) := do
  settle wire
  let rows := (← look).rows
  update fun l => { l with rows := [] }
  return rows

/-- How many rows the last statement changed. -/
def changedRows (wire : Wire σ) : Talk σ Nat := do
  settle wire
  return (← look).affected

/-- Any call. -/
def call (wire : Wire σ) : Call → Talk σ Answer
  | .begin => do begin wire; return .done
  | .commit => do commit wire; return .done
  | .rollback => do rollback wire; return .done
  | .reset => do reset wire; return .done
  | .close => do close wire; return .done
  | .execute sql params => do execute wire sql params; return .done
  | .fetchOne => do return .row (← fetchOne wire)
  | .fetchMany n => do return .rows (← fetchMany wire n)
  | .fetchAll => do return .rows (← fetchAll wire)
  | .affected => do return .count (← changedRows wire)

/-- What a caller is told of an operation that has ended. -/
def told : Except Stop Answer → Except Error Answer
  | .ok a => .ok a
  | .error (.failed e) => .error e
  | .error .abandoned => .error .task

end Link

end TableGateway
