import TableGateway.Pool.Host
import TableGateway.Query.Statement
import TableGateway.Row

/-!
# Running requests

What a request does with the one connection it gets: it executes its statement and then commits
and asks for the number of changed rows, or reads rows. The calls are made in order up to the
first that fails; the result is read off the last answer. Whatever became of it, the connection
goes back to its pool.
-/

namespace TableGateway

/-- What is wanted of a request. -/
inductive Verb where
  /-- The number of rows it changes. -/
  | execute
  /-- All rows it selects. -/
  | all
  /-- The first row it selects. -/
  | one
  /-- The number of rows it selects. -/
  | count
  deriving DecidableEq, Repr

/-- The result of a request. -/
inductive Outcome where
  | changed (n : Nat)
  | rows (rs : List Row)
  | row (r : Option Row)
  | total (n : Int64)

namespace Verb

/-- The mode of the connection a request needs. -/
def mode : Verb → Mode
  | execute => .write
  | _ => .read

/-- The calls that follow the execution of the statement. -/
def followUp : Verb → List Call
  | execute => [.commit, .affected]
  | all => [.fetchAll]
  | one => [.fetchOne]
  | count => [.fetchOne]

/-- The statement that is executed. Rows can only be wanted of a select. -/
def statement (v : Verb) (dialects : Query.Dialects) (q : Query) : Except Error Statement :=
  match v with
  | execute => q.statement dialects
  | count => do
    q.expectRows
    q.countStatement dialects
  | _ => do
    q.expectRows
    q.statement dialects

/-- The rows of an answer. -/
def answeredRows : Answer → List Record
  | .rows rs => rs
  | .row (some r) => [r]
  | _ => []

/-- The number in the first column of the first row, or zero. -/
def firstNumber (rows : List Record) : Int64 :=
  ((rows.head?.bind List.head?).bind Value.asInteger?).getD 0

/-- The result, from the answer to the last call. -/
def outcome (v : Verb) (q : Query) (answer : Answer) : Outcome :=
  let wrap (raw : Record) : Row := Row.fetched q.table q.selection.names raw
  match v with
  | execute =>
    match answer with
    | .count n => .changed n
    | _ => .changed 0
  | all => .rows ((answeredRows answer).map wrap)
  | one => .row ((answeredRows answer).head?.map wrap)
  | count => .total (firstNumber (answeredRows answer))

end Verb

/-- Makes calls in order up to the first that fails, starting from the answer to an earlier one. -/
def converse {m : Type → Type} [Monad m] (perform : Call → m (Except Error Answer)) :
    List Call → Answer → m (Except Error Answer)
  | [], answer => return .ok answer
  | call :: rest, _ => do
    match ← perform call with
    | .ok answer => converse perform rest answer
    | .error e => return .error e

namespace Host

variable {m : Type → Type} {β : Type} [Monad m] (host : Host m β) (t : Ticket) (verb : Verb)
  (q : Query)

/-- Makes the calls that follow the execution of a statement, unless that failed. -/
def proceed : Except Error Answer → m (Except Error Answer)
  | .ok answer => converse (host.callOn t) verb.followUp answer
  | .error e => return .error e

/-- Goes on with a request after its statement, and returns the connection. A failure after which
the connection must not be used again flags it first. -/
def conclude (executed : Except Error Answer) : m (Except Error Outcome) := do
  match ← host.proceed t verb executed with
  | .ok answer =>
    host.giveBack t
    return .ok (verb.outcome q answer)
  | .error e =>
    if e.spoilsConnection then host.onPool fun p => p.condemn t
    host.giveBack t
    return .error e

/-- Runs the statement of a request on the connection that its errand holds. -/
def fulfil (s : Statement) : m (Except Error Outcome) := do
  host.conclude t verb q (← host.callOn t (.execute s.sql s.params))

/-- Runs a request as a new errand: it is written as a statement, gets a connection, for which it
may have to wait, and runs on it. -/
def request (dialects : Query.Dialects) (wait : m (Except Error Unit)) :
    m (Except Error Outcome) := do
  match verb.statement dialects q with
  | .error e => return .error e
  | .ok s =>
    match ← host.acquire t wait with
    | .error e => return .error e
    | .ok () => host.fulfil t verb q s

end Host

end TableGateway
