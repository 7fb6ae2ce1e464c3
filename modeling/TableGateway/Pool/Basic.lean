import TableGateway.Dialect.Basic
import TableGateway.Pool.Config
import TableGateway.Registry

/-!
# Connection pools

A pool hands out at most `size` connections. Callers are admitted by permits: whoever asks when no
permit is free waits in arrival order, and a permit that comes back goes to the one who has waited
longest. An admitted caller takes the connection that has been idle longest, or opens a new one.

Everybody who is engaged with a pool runs an errand, identified by a ticket, and `Stage` says
where the errand stands between two waits. The functions below are the uninterrupted pieces of
work between these waits, as functions of the pool alone: asking for a connection, going on with a
granted permit, the end of an open, the return of a connection over a reset and perhaps a close,
the closing of the pool, and the loss of an errand at any of its waits. Time, and what a backend
answers, come in as arguments.

`live` counts the connections that exist or are being opened or closed. The number of errands that
wait and the number of permits that are out can be read off the stages.
-/

namespace TableGateway

/-- Identifies an errand. -/
abbrev Ticket := Nat

/-- An idle connection and when it was opened. -/
structure Parked (β : Type) where
  backend : β
  created : Nat

/-- A connection that is checked out or on its way back. -/
structure Checkout (β : Type) where
  backend : β
  created : Nat
  /-- It must not be used again. -/
  broken : Bool

/-- Where an errand stands between two waits. -/
inductive Stage (β : Type) where
  /-- It waits for a permit. -/
  | queued
  /-- It has been given a permit and has not gone on yet. -/
  | granted
  /-- It holds a permit and a slot and waits for a new connection. -/
  | opening
  /-- It holds a connection. -/
  | out (c : Checkout β)
  /-- The connection was dropped and its return has not started. -/
  | dropped (c : Checkout β)
  /-- The connection is being reset. -/
  | resetting (c : Checkout β)
  /-- The connection is being closed. -/
  | closing (c : Checkout β)
  /-- The pool was closed and one idle connection after the other is being closed. -/
  | draining (current : Parked β) (rest : List (Parked β))

/-- A pool together with everybody engaged with it. -/
structure Pool (β : Type) where
  config : Pool.Config
  dialect : Dialect
  closed : Bool
  /-- Permits that nobody holds. -/
  permits : Nat
  /-- Those who wait for a permit, the longest waiting first. -/
  queue : List Ticket
  /-- Connections nobody uses, the longest idle first. -/
  idle : List (Parked β)
  /-- Connections that are idle, checked out, being opened or being closed. -/
  live : Nat
  errands : Registry Ticket (Stage β)

namespace Pool

variable {β : Type}

/-- A pool without connections. -/
def new (config : Config) (dialect : Dialect) : Pool β where
  config := config
  dialect := dialect
  closed := false
  permits := config.size
  queue := []
  idle := []
  live := 0
  errands := .empty

/-- A pool without connections, if its configuration is valid. -/
def create (config : Config) (dialect : Dialect) : Except Failure (Pool β) := do
  config.validate
  return new config dialect

/-- Where an errand stands. -/
def stage? (p : Pool β) (t : Ticket) : Option (Stage β) := p.errands.get? t

/-- Moves an errand to a stage. -/
def setStage (p : Pool β) (t : Ticket) (s : Stage β) : Pool β :=
  { p with errands := p.errands.insert t s }

/-- Ends an errand. -/
def endErrand (p : Pool β) (t : Ticket) : Pool β := { p with errands := p.errands.erase t }

/-- Takes back a permit: the longest waiting errand gets it, and is to be resumed. -/
def putPermit (p : Pool β) : Pool β × Option Ticket :=
  match p.queue with
  | [] => ({ p with permits := p.permits + 1 }, none)
  | t :: rest => (({ p with queue := rest } : Pool β).setStage t .granted, some t)

/-- Gives back a slot. -/
def vacate (p : Pool β) : Pool β := { p with live := p.live - 1 }

/-! ### Getting a connection -/

/-- How far an errand that wants a connection got. -/
inductive Progress where
  /-- The pool is closed. -/
  | refused
  /-- It has to wait. -/
  | waits
  /-- It holds a connection that was idle. -/
  | connected
  /-- It has to open a connection. -/
  | opens
  deriving DecidableEq, Repr

/-- What an errand that holds a permit does: it takes the connection that has been idle longest,
or else reserves a slot for a new one. -/
def proceed (p : Pool β) (t : Ticket) : Pool β × Progress :=
  match p.idle with
  | c :: rest =>
    (({ p with idle := rest } : Pool β).setStage t (.out ⟨c.backend, c.created, false⟩),
      .connected)
  | [] => (({ p with live := p.live + 1 } : Pool β).setStage t .opening, .opens)

/-- A new errand asks for a connection. -/
def ask (p : Pool β) (t : Ticket) : Pool β × Progress :=
  if p.closed then (p, .refused)
  else if p.permits = 0 then
    (({ p with queue := p.queue ++ [t] } : Pool β).setStage t .queued, .waits)
  else ({ p with permits := p.permits - 1 } : Pool β).proceed t

/-- A waiting errand looks again. Once the pool is closed it is refused, also when a permit had
been granted to it, which it gives back. -/
def resume (p : Pool β) (t : Ticket) : Pool β × Progress × Option Ticket :=
  match p.stage? t with
  | some .queued => if p.closed then (p.endErrand t, .refused, none) else (p, .waits, none)
  | some .granted =>
    if p.closed then
      let (p, next) := (p.endErrand t).putPermit
      (p, .refused, next)
    else
      let (p, progress) := p.proceed t
      (p, progress, none)
  | _ => (p, .waits, none)

/-- A new connection is open. -/
def opened (p : Pool β) (t : Ticket) (backend : β) (now : Nat) : Pool β :=
  match p.stage? t with
  | some .opening => p.setStage t (.out ⟨backend, now, false⟩)
  | _ => p

/-- A new connection could not be opened: its slot and its permit are free again. -/
def openFailed (p : Pool β) (t : Ticket) : Pool β × Option Ticket :=
  match p.stage? t with
  | some .opening => (p.endErrand t).vacate.putPermit
  | _ => (p, none)

/-! ### While a connection is out -/

/-- The connection an errand holds. -/
def checkout? (p : Pool β) (t : Ticket) : Option (Checkout β) :=
  match p.stage? t with
  | some (.out c) => some c
  | _ => none

/-- Records what a call made of the backend that an errand holds. -/
def setBackend (p : Pool β) (t : Ticket) (backend : β) : Pool β :=
  match p.stage? t with
  | some (.out c) => p.setStage t (.out { c with backend := backend })
  | _ => p

/-- Flags the connection an errand holds, so that it is closed on its return. -/
def condemn (p : Pool β) (t : Ticket) : Pool β :=
  match p.stage? t with
  | some (.out c) => p.setStage t (.out { c with broken := true })
  | _ => p

/-! ### Returning a connection -/

/-- Whether a connection has reached the lifetime. -/
def isExpired (p : Pool β) (c : Checkout β) (now : Nat) : Bool :=
  p.config.lifetime != 0 && decide (p.config.lifetime ≤ now - c.created)

/-- Whether a connection that comes back may be used again. -/
def mayReuse (p : Pool β) (c : Checkout β) (now : Nat) (usable : Bool) : Bool :=
  !p.isExpired c now && !c.broken && !p.closed && usable

/-- The return of a connection starts: it is to be reset, or else to be closed. -/
def startReturn (p : Pool β) (t : Ticket) (now : Nat) (usable : Bool) : Pool β :=
  let go (c : Checkout β) : Pool β :=
    p.setStage t (if p.mayReuse c now usable then .resetting c else .closing c)
  match p.stage? t with
  | some (.out c) => go c
  | some (.dropped c) => go c
  | _ => p

/-- A reset has ended. The connection becomes idle, unless the reset failed or the pool has been
closed meanwhile. -/
def resetDone (p : Pool β) (t : Ticket) (backend : β) (succeeded : Bool) :
    Pool β × Option Ticket :=
  match p.stage? t with
  | some (.resetting c) =>
    if succeeded && !p.closed then
      let p : Pool β := { p with idle := p.idle ++ [⟨backend, c.created⟩] }
      (p.endErrand t).putPermit
    else (p.setStage t (.closing { c with backend := backend }), none)
  | _ => (p, none)

/-- A close has ended, in whatever way. -/
def closeDone (p : Pool β) (t : Ticket) : Pool β × Option Ticket :=
  match p.stage? t with
  | some (.closing _) => (p.endErrand t).vacate.putPermit
  | _ => (p, none)

/-- A holder drops its connection; the return is left to a task of its own. -/
def drop (p : Pool β) (t : Ticket) : Pool β :=
  match p.stage? t with
  | some (.out c) => p.setStage t (.dropped c)
  | _ => p

/-- A holder drops its connection where no task can be started: the connection is gone at once. -/
def discard (p : Pool β) (t : Ticket) : Pool β × Option Ticket :=
  match p.stage? t with
  | some (.out _) => (p.endErrand t).vacate.putPermit
  | _ => (p, none)

/-! ### Closing the pool -/

/-- The pool admits nobody any more. Those who waited are to be resumed, and an errand closes the
connections that were idle, one after the other. -/
def close (p : Pool β) (t : Ticket) : Pool β × List Ticket :=
  let waiting := p.queue
  match p.idle with
  | [] => ({ p with closed := true, queue := [] }, waiting)
  | c :: rest =>
    (({ p with closed := true, queue := [], idle := [] } : Pool β).setStage t (.draining c rest),
      waiting)

/-- One connection of a closed pool has been closed. -/
def drained (p : Pool β) (t : Ticket) : Pool β :=
  match p.stage? t with
  | some (.draining _ []) => (p.endErrand t).vacate
  | some (.draining _ (c :: rest)) => p.vacate.setStage t (.draining c rest)
  | _ => p

/-! ### Losing an errand -/

/-- An errand is lost at a wait, and with it what it held. A connection that was out is dropped; a
connection whose return had started is gone, and gives back its slot and its permit; one whose
return had not started gives back its permit only. -/
def cancel (p : Pool β) (t : Ticket) : Pool β × Option Ticket :=
  match p.stage? t with
  | some .queued =>
    (({ p with queue := p.queue.filter fun q => q != t } : Pool β).endErrand t, none)
  | some .granted => (p.endErrand t).putPermit
  | some .opening => (p.endErrand t).vacate.putPermit
  | some (.out _) => (p.drop t, none)
  | some (.dropped _) => (p.endErrand t).putPermit
  | some (.resetting _) => (p.endErrand t).vacate.putPermit
  | some (.closing _) => (p.endErrand t).vacate.putPermit
  | some (.draining _ _) => ((p.endErrand t).vacate, none)
  | none => (p, none)

/-- The pool as shown to a person. -/
def display (p : Pool β) : String :=
  "Pool \x7b dialect: " ++ "\"" ++ p.dialect.name ++ "\"" ++ ", config: " ++ p.config.display
    ++ ", live: " ++ toString p.live ++ ", idle: " ++ toString p.idle.length ++ " \x7d"

end Pool

end TableGateway
