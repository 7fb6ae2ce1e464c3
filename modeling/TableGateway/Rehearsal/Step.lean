import TableGateway.Rehearsal.Errands

/-!
# Steps of a rehearsal

What a caller can do in a rehearsal, one step at a time, and what is reported after each step: the
reply to the step itself, the results of the tasks that ended, the recorded calls and the state of
the pools. A step first does its own work; then everything that can go on does go on.
-/

namespace TableGateway.Rehearsal

/-- What a caller does with a held connection. -/
inductive Use where
  | call (c : Call)
  /-- Starts a statement and gives up at the first wait. -/
  | abandonExecute (sql : String) (params : Params)
  | condemn
  | dialect
  | describe
  /-- Whether it has the time of its opening. -/
  | created
  | show

/-- One step. -/
inductive Step where
  /-- Gets a connection from a pool and keeps it under a name. -/
  | take (pool name : String)
  /-- Gets a connection for a table. -/
  | acquire (table : Table) (mode : Mode) (name : String)
  /-- Returns a held connection to a pool. -/
  | release (name pool : String)
  | releaseVia (table : Table) (mode : Mode) (name : String)
  /-- Drops a held connection where a task can be started. -/
  | drop (name : String)
  /-- Drops a held connection where no task can be started. -/
  | discard (name : String)
  /-- Cancels a task. -/
  | abort (name : String)
  /-- Moves the clock. -/
  | advance (ms : Nat)
  | closePool (pool : String)
  | closeAll
  | showPool (pool : String)
  /-- Adds to the script of a pool. -/
  | opens (pool : String) (items : List Scripted.OpenItem)
  | replies (pool : String) (items : List Scripted.Reply)
  /-- Changes the flags of a scripted backend. -/
  | flag (backend : String) (change : Scripted.Flags → Scripted.Flags)
  /-- Executes texts on one connection and commits. -/
  | sql (pool : String) (texts : List String)
  /-- Starts a request. -/
  | run (name : String) (verb : Verb) (query : Query)
  /-- Looks at a kept row and changes it. -/
  | row (name : String) (index : Nat) (change : Row → Row)
  | saveRow (name : String) (index : Nat)
  | deleteRow (name : String) (index : Nat)
  /-- Uses a held connection. -/
  | conn (name : String) (use : Use)

/-- The reply to a step. -/
inductive Said where
  | done
  | started
  | aborted
  | noTask
  | cancelled
  | finished
  | yes
  | text (s : String)
  | failed (e : Error)
  /-- The caller was at fault, and the step ended there. -/
  | panicked (message : String)
  /-- There is no connection, or no row, of this name. -/
  | noConnection
  | noRow
  | answer (a : Answer)
  | count (n : Nat)
  | portrait (p : Portrait)
  /-- A kept row as it was before the step. -/
  | row (r : Row)

/-- The reply to a step that succeeds without a result or fails. -/
def Said.ofUnit : Except Error Unit → Said
  | .ok () => done
  | .error e => failed e

/-- What a holder of a connection is told when a pool gets one that it did not issue. -/
def foreignMessage : String := "connection released into a pool that did not issue it"

/-! ### Connections and tasks -/

/-- Gives up the name of a held connection. -/
def unhold (name : String) : Act Unit := modify fun w => { w with held := w.held.erase name }

/-- Returns a held connection into a pool. One that another pool issued is dropped instead. -/
def release (name pool : String) : Act Said := do
  let w ← get
  if !w.pools.contains pool then return .failed (.unknownPool pool)
  match w.held.get? name with
  | none => return .noConnection
  | some (own, t) =>
    unhold name
    if own = pool then
      giveBack own t
      return .done
    else
      dropConnection own t
      return .panicked foreignMessage

/-- Returns a held connection into the pool of a table. If that pool is unknown the connection is
dropped. -/
def releaseVia (t : Table) (mode : Mode) (name : String) : Act Said := do
  let w ← get
  match w.held.get? name with
  | none => return .noConnection
  | some (own, ticket) =>
    if w.pools.contains (t.poolOf mode) then release name (t.poolOf mode)
    else
      unhold name
      dropConnection own ticket
      return .failed (.unknownPool (t.poolOf mode))

/-- Drops a held connection where no task can be started. -/
def discard (name : String) : Act Said := do
  match (← get).held.get? name with
  | none => return .noConnection
  | some (pool, t) =>
    unhold name
    match ← checkout? pool t with
    | some c => c.backend.forget
    | none => pure ()
    onPoolWaking pool fun p => p.discard t
    return .done

/-- Cancels the task of a name. What it holds is dropped. -/
def abort (name : String) : Act Said := do
  let w ← get
  match w.tasks.entries.reverse.find? fun (_, task) => task.aim.name? == some name with
  | none => return .noTask
  | some (t, task) =>
    set { w with
      tasks := w.tasks.erase t
      ready := w.ready.filter fun u => u != t
      timers := w.timers.filter fun (_, u) => u != t }
    onPoolWaking task.pool fun p => p.cancel t
    match (← pool? task.pool).bind fun p => p.stage? t with
    | some (.dropped _) => returnLater task.pool t
    | _ => pure ()
    return .aborted

/-- Moves the clock and wakes those whose deadline has come, in the order of their deadlines. -/
def passTime (ms : Nat) : Act Unit := do
  modify fun w => { w with now := w.now + ms }
  let w ← get
  let due := w.timers.filter fun (d, _) => decide (d ≤ w.now)
  set { w with timers := w.timers.filter fun (d, _) => !decide (d ≤ w.now) }
  wake (due.map Prod.snd)

/-! ### Pools -/

/-- Closes the connections that were idle when a pool was closed, one after the other. -/
def drainIdle (pool : String) (t : Ticket) : Nat → Act Unit
  | 0 => return ()
  | fuel + 1 => do
    match (← pool? pool).bind fun p => p.stage? t with
    | some (.draining current _) =>
      let (_, backend) ← current.backend.call pool .close
      backend.forget
      onPool pool fun p => p.drained t
      drainIdle pool t fuel
    | _ => return ()

/-- Closes a pool. -/
def closePool (pool : String) : Act Unit := do
  match ← pool? pool with
  | none => return ()
  | some p =>
    let t ← newTicket
    let (closed, waiting) := p.close t
    onPool pool fun _ => closed
    wake waiting
    drainIdle pool t p.idle.length

/-- The text by which recorded calls are put in order: who was called, in quotes, and with what. -/
def eventText (e : Scripted.Event) : String :=
  let statement := e.statement.elim [] fun (sql, params) => [Json.writeText sql, params.toJson]
  joinWith "," ([Json.writeText e.backend, Json.writeText e.verb] ++ statement)

/-- The order of recorded calls by their text. -/
def eventBefore (a b : Scripted.Event) : Bool := decide (eventText a ≤ eventText b)

/-! ### Requests and rows -/

/-- Starts a request. One that cannot be written as a statement, or whose pool is unknown, ends at
once. -/
def startRequest (name : String) (verb : Verb) (q : Query) : Act Unit := do
  let w ← get
  let fail (e : Error) : Act Unit :=
    modify fun w => { w with finished := w.finished ++ [(name, .error e)] }
  match verb.statement w.pools.dialect q with
  | .error e => fail e
  | .ok s =>
    let pool := q.table.poolOf verb.mode
    if w.pools.contains pool then spawn pool (.request name verb q s)
    else fail (.unknownPool pool)

/-- A kept row. -/
def keptRow? (name : String) (index : Nat) : Act (Option Row) := do
  return ((← get).kept.get? name).bind fun rows => rows[index]?

/-- Changes a kept row. -/
def setRow (name : String) (index : Nat) (r : Row) : Act Unit :=
  modify fun w => { w with kept := w.kept.modify name fun rows => rows.set index r }

/-- How many rows a request changed. -/
def changedRows : Outcome → Nat
  | .changed n => n
  | _ => 0

/-- Runs the request that writes a kept row. -/
def writeRow (name : String) (index : Nat) (query : Row → Except Error Query)
    (after : Row → Row) : Act Said := do
  match ← keptRow? name index with
  | none => return .noRow
  | some r =>
    match query r with
    | .error e => return .failed e
    | .ok q =>
      match ← requestNow .execute q with
      | .ok o =>
        setRow name index (after r)
        return .count (changedRows o)
      | .error e => return .failed e

/-! ### Held connections -/

/-- A connection as shown to a person. -/
def showConnection (dialect : Dialect) (p : Portrait) : String :=
  "PooledConnection \x7b dialect: \"" ++ dialect.name ++ "\", age: " ++ durationText p.age
    ++ ", state: Some(" ++ p.transaction.word ++ ") \x7d"

/-- Uses a held connection. -/
def use (name : String) (u : Use) : Act Said := do
  match (← get).held.get? name with
  | none => return .noConnection
  | some (pool, t) =>
    match ← checkout? pool t, ← pool? pool with
    | some c, some p =>
      match u with
      | .call request =>
        match ← (host pool).callOn t request with
        | .ok a => return .answer a
        | .error e => return .failed e
      | .abandonExecute sql params =>
        let waited ← (host pool).onConnection t false
          (Connection.abandonExecute pool sql params)
        return if waited then .cancelled else .finished
      | .condemn =>
        onPool pool fun p => p.condemn t
        return .done
      | .dialect => return .text p.dialect.name
      | .describe => return .portrait (← portrait c)
      | .created => return .yes
      | .show => return .text (showConnection p.dialect (← portrait c))
    | _, _ => return .noConnection

/-! ### Steps and reports -/

/-- Does something with a pool if there is one of this name. -/
def withPool (pool : String) (f : Pool Connection → Act Said) : Act Said := do
  match ← pool? pool with
  | none => return .failed (.unknownPool pool)
  | some p => f p

/-- The own work of a step. -/
def perform : Step → Act Said
  | .take pool name => withPool pool fun _ => do
    spawn pool (.hold name)
    return .started
  | .acquire t mode name => do
    let pool := t.poolOf mode
    if (← get).pools.contains pool then spawn pool (.hold name)
    else modify fun w => { w with finished := w.finished ++ [(name, .error (.unknownPool pool))] }
    return .started
  | .release name pool => release name pool
  | .releaseVia t mode name => releaseVia t mode name
  | .drop name => do
    match (← get).held.get? name with
    | none => return .noConnection
    | some (pool, t) =>
      unhold name
      dropConnection pool t
      return .done
  | .discard name => discard name
  | .abort name => abort name
  | .advance ms => do
    passTime ms
    return .done
  | .closePool pool => withPool pool fun _ => do
    closePool pool
    return .done
  | .closeAll => do
    (← get).pools.keys.forM closePool
    return .done
  | .showPool pool => withPool pool fun p => return .text p.display
  | .opens pool items => withPool pool fun _ => do
    onScript pool fun s => { s with opens := s.opens ++ items }
    return .done
  | .replies pool items => withPool pool fun _ => do
    onScript pool fun s => { s with replies := s.replies ++ items }
    return .done
  | .flag backend change => do
    let flags ← flagsOf backend
    modify fun w => { w with flags := w.flags.insert backend (change flags) }
    return .done
  | .sql pool texts => withPool pool fun _ => do return .ofUnit (← executeAll pool texts)
  | .run name verb q => do
    startRequest name verb q
    return .started
  | .row name index change => do
    match ← keptRow? name index with
    | none => return .noRow
    | some r =>
      setRow name index (change r)
      return .row r
  | .saveRow name index => writeRow name index Row.saveRequest Row.saved
  | .deleteRow name index => writeRow name index Row.deleteRequest id
  | .conn name u => use name u

/-- What is reported after a step. -/
structure Report where
  said : Said
  /-- The results of the tasks that ended, by their names. -/
  finished : List (String × Except Error Ending)
  events : List Scripted.Event
  pools : List (Pool Connection)
  /-- The connection that the step used, if it is held. -/
  used : Option Portrait

/-- The name of the connection that a step uses. -/
def Step.used? : Step → Option String
  | .conn name _ => some name
  | _ => none

/-- What is known of a held connection. -/
def heldPortrait? (name : String) : Act (Option Portrait) := do
  match (← get).held.get? name with
  | none => return none
  | some (pool, t) =>
    match ← checkout? pool t with
    | some c => return some (← portrait c)
    | none => return none

/-- Lets everything go on after a step's own work and reports. -/
def report (said : Said) (sorted : Bool) (used : Option String) : Act Report := do
  drain
  let portrait ← match used with
    | some name => heldPortrait? name
    | none => pure none
  let w ← get
  set { w with finished := [], events := [] }
  return {
    said := said
    finished := w.finished.mergeSort fun a b => decide (a.1 ≤ b.1)
    events := if sorted then w.events.mergeSort eventBefore else w.events
    pools := w.pools.values
    used := portrait }

/-- Whether a step's calls come in no particular order. -/
def Step.isUnordered : Step → Bool
  | .closeAll => true
  | _ => false

/-- Makes a step. -/
def step (s : Step) : Act Report := do
  let said ← perform s
  report said s.isUnordered s.used?

/-- A step that could not be made, because what it asked for cannot be. -/
def stepFailed (e : Error) : Act Report := report (.failed e) false none

/-! ### Beginning -/

/-- A world without pools. -/
def World.new (directories : List String) : World := { files := .empty directories }

/-- Adds a pool behind the others; one of the same name is given up. -/
def World.addPool (w : World) (name : String) (p : Pool Connection) (c : Connector) : World :=
  { w with
    pools := (w.pools.erase name).insert name p
    connectors := w.connectors.insert name c }

end TableGateway.Rehearsal
