import TableGateway.Rehearsal.World

/-!
# Running errands

The uninterrupted pieces of work of everybody who is engaged with a pool, put together from the
pool's own steps, the calls on connections and the script of the opens. A piece ends where its
errand ends or waits: for a permit, for the clock, or for a turn of its own in the background.
`drain` lets all errands go on that can, in the order in which they were woken.
-/

namespace TableGateway.Rehearsal

/-! ### Opening connections -/

/-- The longest patience, in milliseconds, that a connection can be given: what fits 32 bits. With
a greater one the task that opens it breaks down. -/
def maxPatience : Nat := 2147483647

/-- Starts to open a connection. The result is the connection or the failure, unless the opening
takes its time. -/
def startOpen (pool : String) :
    Act (Except (String × Scripted.OpenItem) (Except Error Connection)) := do
  match (← get).connectors.get? pool with
  | some (.scripted script) =>
    let n := script.opened + 1
    onScript pool fun s => { s with opens := s.opens.drop 1, opened := n }
    let id := pool ++ "#" ++ toString n
    record id ["open"]
    return .error (id, script.opens.head?.getD {})
  | some (.engine path patience) =>
    let w ← get
    match w.files.open? path with
    | .ok (handle, files) =>
      if maxPatience < patience then
        set { w with files := files.disconnect handle }
        return .ok (.error .task)
      else
        set { w with files := files }
        return .ok (.ok (.linked handle Link.fresh))
    | .error cause => return .ok (.error (.engine cause))
  | none => return .ok (.error (.unknownPool pool))

/-- What an opening of a scripted backend ends in. -/
def openResult (id : String) (item : Scripted.OpenItem) : Except Error Connection :=
  match item.error with
  | some e => .error e
  | none => .ok (.scripted { id := id })

/-! ### Pools and their connections -/

/-- What a pool is used through in a rehearsal. An opening that takes its time ends at once. -/
def host (pool : String) : Host Act Connection where
  find := do
    match ← pool? pool with
    | some p => return .ok p
    | none => return .error (.unknownPool pool)
  onPool := onPool pool
  onPoolWaking := onPoolWaking pool
  call := Connection.call pool
  isUsable := Connection.isUsable
  forget := Connection.forget
  connect := do
    match ← startOpen pool with
    | .ok r => return r
    | .error (id, item) => return openResult id item
  now := do return (← get).now

/-! ### Connections that are out -/

/-- The connection that an errand holds. -/
def checkout? (pool : String) (t : Ticket) : Act (Option (Checkout Connection)) := do
  return (← pool? pool).bind fun p => p.checkout? t

/-- What is known of a held connection. -/
def portrait (c : Checkout Connection) : Act Portrait := do
  return {
    id := c.backend.id?
    transaction := c.backend.transaction
    usable := ← c.backend.isUsable
    broken := c.broken
    age := (← get).now - c.created }

/-! ### Returning connections -/

/-- Returns a connection: it is reset for another use, or else closed. -/
def giveBack (pool : String) (t : Ticket) : Act Unit := (host pool).giveBack t

/-- Leaves the return of a dropped connection to a task. -/
def returnLater (pool : String) (t : Ticket) : Act Unit := do
  modify fun w => { w with tasks := w.tasks.insert t { pool := pool, aim := .giveBack } }
  wake [t]

/-- Drops a connection. -/
def dropConnection (pool : String) (t : Ticket) : Act Unit := do
  onPool pool fun p => p.drop t
  returnLater pool t

/-! ### Requests -/

/-- Keeps the rows that a request returned, under its name and in place of those kept there
before. -/
def keepRows (name : String) : Outcome → Act Unit
  | .rows rs => modify fun w => { w with kept := w.kept.insert name rs }
  | .row r => modify fun w => { w with kept := w.kept.insert name r.toList }
  | _ => return ()

/-- Ends the task of a request. -/
def endRequest (t : Ticket) (name : String) (result : Except Error Outcome) : Act Unit := do
  match result with
  | .ok o => keepRows name o
  | .error _ => pure ()
  finish t name (result.map .fulfilled)

/-! ### Tasks -/

/-- Keeps a connection under a name; one that was there is dropped. -/
def hold (name pool : String) (t : Ticket) : Act Unit := do
  match (← get).held.get? name with
  | some (other, u) => dropConnection other u
  | none => pure ()
  modify fun w => { w with held := w.held.insert name (pool, t) }

/-- Reports that a task got no connection. -/
def endWithout (t : Ticket) (task : Task) (e : Error) : Act Unit := do
  match task.aim.name? with
  | some name => finish t name (.error e)
  | none => modify fun w => { w with tasks := w.tasks.erase t }

/-- A task has its connection. -/
def connected (t : Ticket) (task : Task) : Act Unit := do
  match task.aim with
  | .hold name =>
    match ← checkout? task.pool t with
    | some c =>
      hold name task.pool t
      finish t name (.ok (.connected (← portrait c)))
    | none => return ()
  | .request name verb q s =>
    match ← (host task.pool).onConnection t (.ended (.error .task))
        (Connection.startExecute task.pool s.sql s.params) with
    | .stalls ms => sleep ms t
    | .ended r => endRequest t name (← (host task.pool).conclude t verb q r)
  | .giveBack => return ()

/-- Goes on with a task when its opening has ended. -/
def afterOpen (t : Ticket) (task : Task) (r : Except Error Connection) : Act Unit := do
  match ← (host task.pool).opened t r with
  | .ok () => connected t task
  | .error e => endWithout t task e

/-- Goes on with a task as far as it got in its pool. -/
def advance (t : Ticket) (task : Task) : Pool.Progress → Act Unit
  | .refused => endWithout t task (.state "pool is closed")
  | .waits => return ()
  | .connected => connected t task
  | .opens => do
    match ← startOpen task.pool with
    | .ok r => afterOpen t task r
    | .error (id, item) =>
      match item.stallMs with
      | some (ms + 1) =>
        modify fun w => { w with
          tasks := w.tasks.insert t { task with opening := some (id, item) } }
        sleep (ms + 1) t
      | _ => afterOpen t task (openResult id item)

/-- Lets a task go on. -/
def goOn (t : Ticket) (task : Task) : Act Unit := do
  match ← pool? task.pool with
  | none => endWithout t task (.unknownPool task.pool)
  | some p =>
    match p.stage? t, task.aim with
    | none, .giveBack => return ()
    | none, _ =>
      let (p, progress) := p.ask t
      onPool task.pool fun _ => p
      advance t task progress
    | some .queued, _ | some .granted, _ =>
      let (p, progress, next) := p.resume t
      onPool task.pool fun _ => p
      wake next.toList
      advance t task progress
    | some .opening, _ =>
      match task.opening with
      | some (id, item) => afterOpen t task (openResult id item)
      | none => return ()
    | some (.out _), .request name verb q _ =>
      let r ← (host task.pool).onConnection t (.error .task) fun c => pure c.finishExecute
      endRequest t name (← (host task.pool).conclude t verb q r)
    | some (.dropped _), _ =>
      giveBack task.pool t
      modify fun w => { w with tasks := w.tasks.erase t }
    | _, _ => return ()

/-- Lets tasks go on until all have ended or wait. -/
def drainWith : Nat → Act Unit
  | 0 => return ()
  | fuel + 1 => do
    let w ← get
    match w.ready with
    | [] => return ()
    | t :: rest =>
      set { w with ready := rest }
      match w.tasks.get? t with
      | some task => goOn t task
      | none => pure ()
      drainWith fuel

/-- Lets tasks go on until all have ended or wait. A task is woken for its permit, for its opening,
for its statement and for the return of its connection, and may drop one other connection. -/
def drain : Act Unit := do
  let w ← get
  drainWith (8 * (w.tasks.size + w.ready.length) + 8)

/-- Starts a task. -/
def spawn (pool : String) (aim : Aim) : Act Unit := do
  let t ← newTicket
  modify fun w => { w with tasks := w.tasks.insert t { pool := pool, aim := aim } }
  wake [t]

/-! ### At once -/

/-- Leaves the queue instead of waiting for a permit. -/
def withdraw (pool : String) (t : Ticket) : Act (Except Error Unit) := do
  onPoolWaking pool fun p => p.cancel t
  return .error (.state "no connection is free")

/-- Runs a request at once. -/
def requestNow (verb : Verb) (q : Query) : Act (Except Error Outcome) := do
  let t ← newTicket
  let pool := q.table.poolOf verb.mode
  (host pool).request t verb q (← get).pools.dialect (withdraw pool t)

/-- Executes texts on one connection and commits; a failure drops the connection. -/
def executeAll (pool : String) (texts : List String) : Act (Except Error Unit) := do
  let t ← newTicket
  match ← (host pool).acquire t (withdraw pool t) with
  | .error e => return .error e
  | .ok () =>
    let calls := texts.map fun text => Call.execute text Params.empty
    match ← converse ((host pool).callOn t) (calls ++ [.commit]) .done with
    | .ok _ =>
      giveBack pool t
      return .ok ()
    | .error e =>
      dropConnection pool t
      return .error e

end TableGateway.Rehearsal
