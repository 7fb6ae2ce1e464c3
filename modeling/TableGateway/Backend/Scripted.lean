import TableGateway.Backend.Call
import TableGateway.Registry

/-!
# Scripted backends

A backend that answers from a script, for rehearsing pools and requests without an engine. Each
open takes the next entry of one list and each statement the next entry of another; either may
fail, and may first stall for some time. Three flags make a backend unusable or make its reset or
its close fail. Every call is recorded.
-/

namespace TableGateway.Scripted

/-- How one open goes. -/
structure OpenItem where
  stallMs : Option Nat := none
  error : Option Error := none
  deriving Repr

/-- How one statement and the calls after it go. -/
structure Reply where
  stallMs : Option Nat := none
  error : Option Error := none
  rows : List Record := []
  affected : Nat := 0
  commitError : Option Error := none
  fetchOneError : Option Error := none
  fetchManyError : Option Error := none
  fetchAllError : Option Error := none
  affectedError : Option Error := none
  deriving Repr

/-- What is still to be played for one pool, and how many backends have been asked for. -/
structure Script where
  opens : List OpenItem := []
  replies : List Reply := []
  opened : Nat := 0

/-- Flags of a backend. -/
structure Flags where
  unusable : Bool := false
  resetError : Bool := false
  closeError : Bool := false

/-- One recorded call. -/
structure Event where
  backend : String
  verb : String
  /-- The statement of an execution. -/
  statement : Option (String × Params) := none

/-- A scripted backend. -/
structure Backend where
  id : String
  isOpen : Bool := true
  transaction : Transaction := .idle
  executed : Bool := false
  rows : List Record := []
  reply : Reply := {}

namespace Backend

/-- The backend with nothing to read. -/
def cleared (b : Backend) : Backend :=
  { b with transaction := .idle, executed := false, rows := [] }

/-- Starts a statement: its reply is taken, and nothing can be read until it has ended. -/
def startExecute (b : Backend) (reply : Reply) : Backend :=
  { b with reply := reply, transaction := .opened, executed := false }

/-- Ends a statement. -/
def finishExecute (b : Backend) : Except Error Answer × Backend :=
  match b.reply.error with
  | some e => (.error e, b)
  | none => (.ok .done, { b with rows := b.reply.rows, executed := true })

/-- Reads from the result, unless the reply says that this fails. -/
def read (b : Backend) (failure : Option Error) (take : List Record → Answer × List Record) :
    Except Error Answer × Backend :=
  if !b.executed then (.error (.state "nothing executed"), b)
  else match failure with
    | some e => (.error e, b)
    | none =>
      let (answer, rest) := take b.rows
      (.ok answer, { b with rows := rest, transaction := .committed })

/-- Any call but the execution of a statement, with the verbs that are recorded. -/
def call (b : Backend) (flags : Flags) :
    Call → Except Error Answer × Backend × List String
  | .begin => (.ok .done, { b with transaction := .opened }, ["begin"])
  | .commit =>
    match b.reply.commitError with
    | some e => (.error e, b, ["commit"])
    | none => (.ok .done, { b with transaction := .committed }, ["commit"])
  | .rollback => (.ok .done, b.cleared, ["rollback"])
  | .reset =>
    if flags.resetError then (.error (.state "reset failed"), b, ["reset"])
    else
      (.ok .done, b.cleared,
        if b.transaction = .opened then ["reset", "rollback"] else ["reset"])
  | .close =>
    let b := { b with isOpen := false }
    if flags.closeError then (.error (.state "close failed"), b, ["close"])
    else (.ok .done, b, ["close"])
  | .fetchOne =>
    let (r, b) := b.read b.reply.fetchOneError fun rows => (.row rows.head?, rows.drop 1)
    (r, b, ["fetch_one"])
  | .fetchMany n =>
    let (r, b) := b.read b.reply.fetchManyError fun rows => (.rows (rows.take n), rows.drop n)
    (r, b, ["fetch_many"])
  | .fetchAll =>
    let (r, b) := b.read b.reply.fetchAllError fun rows => (.rows rows, [])
    (r, b, ["fetch_all"])
  | .affected =>
    let (r, b) := b.read b.reply.affectedError fun rows => (.count b.reply.affected, rows)
    (r, b, ["affected_count"])
  | .execute _ _ => (.ok .done, b, [])

end Backend

end TableGateway.Scripted
