import TableGateway.Backend.Call
import TableGateway.Pool.Basic

/-!
# Hosts of pools

A pool only decides: who is admitted, who gets which connection, whether a connection is used
again. Its host acts. It opens connections, makes calls on them and knows the time, and while it
waits for an answer others may go on.

What an errand does from one end to the other is written here over any host, from the pool's own
pieces of work and from what the host does in between.
-/

namespace TableGateway

/-- What a pool is used through. -/
structure Host (m : Type → Type) (β : Type) where
  /-- The pool, or why there is none. -/
  find : m (Except Error (Pool β))
  /-- Changes the pool. -/
  onPool : (Pool β → Pool β) → m Unit
  /-- Changes the pool in a way that may give somebody a permit. -/
  onPoolWaking : (Pool β → Pool β × Option Ticket) → m Unit
  /-- Makes a call on a connection and waits for its end. -/
  call : Call → β → m (Except Error Answer × β)
  /-- Whether a connection can still be used. -/
  isUsable : β → m Bool
  /-- Lets go of a connection. -/
  forget : β → m Unit
  /-- Opens a connection. -/
  connect : m (Except Error β)
  /-- The time in milliseconds. -/
  now : m Nat

namespace Host

variable {m : Type → Type} {α β : Type} [Monad m] (host : Host m β) (t : Ticket)

/-- Where an errand stands. -/
def stage? : m (Option (Stage β)) := do
  match ← host.find with
  | .ok p => return p.stage? t
  | .error _ => return none

/-! ### Getting a connection -/

/-- An opening has ended for an errand. -/
def opened : Except Error β → m (Except Error Unit)
  | .ok backend => do
    let now ← host.now
    host.onPool fun p => p.opened t backend now
    return .ok ()
  | .error e => do
    host.onPoolWaking fun p => p.openFailed t
    return .error e

/-- Goes on with an errand that wants a connection as far as it got. One that has to wait goes on
with `wait`. -/
def enter (wait : m (Except Error Unit)) : Pool.Progress → m (Except Error Unit)
  | .refused => return .error (.state "pool is closed")
  | .waits => wait
  | .connected => return .ok ()
  | .opens => do host.opened t (← host.connect)

/-- A new errand gets a connection. -/
def acquire (wait : m (Except Error Unit)) : m (Except Error Unit) := do
  match ← host.find with
  | .error e => return .error e
  | .ok p =>
    let (p, progress) := p.ask t
    host.onPool fun _ => p
    host.enter t wait progress

/-! ### While a connection is out -/

/-- Does something with the connection that an errand holds. -/
def onConnection (otherwise : α) (f : β → m (α × β)) : m α := do
  match ← host.stage? t with
  | some (.out c) =>
    let (a, backend) ← f c.backend
    host.onPool fun p => p.setBackend t backend
    return a
  | _ => return otherwise

/-- Makes a call on the connection that an errand holds. -/
def callOn (request : Call) : m (Except Error Answer) :=
  host.onConnection t (.error .task) (host.call request)

/-! ### Returning a connection -/

/-- Resets a connection whose return has come to that. -/
def resetReturned : m Unit := do
  match ← host.stage? t with
  | some (.resetting c) =>
    let (r, backend) ← host.call .reset c.backend
    host.onPoolWaking fun p => p.resetDone t backend r.toBool
  | _ => return ()

/-- Closes a connection whose return has come to that, in whatever way this ends. -/
def closeReturned : m Unit := do
  match ← host.stage? t with
  | some (.closing c) =>
    let (_, backend) ← host.call .close c.backend
    host.forget backend
    host.onPoolWaking fun p => p.closeDone t
  | _ => return ()

/-- Returns a connection: it is reset for another use, or else closed. -/
def giveBack : m Unit := do
  match ← host.stage? t with
  | some (.out c) | some (.dropped c) =>
    let usable ← host.isUsable c.backend
    let now ← host.now
    host.onPool fun p => p.startReturn t now usable
    host.resetReturned t
    host.closeReturned t
  | _ => return ()

end Host

end TableGateway
