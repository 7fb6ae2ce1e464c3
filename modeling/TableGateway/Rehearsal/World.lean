import TableGateway.Backend.Scripted
import TableGateway.Engine.Handle
import TableGateway.Request
import TableGateway.Settings.Basic

/-!
# The world of a rehearsal

A rehearsal runs pools, connections and requests on one thread and on a clock that stands still
unless it is advanced. This module has what such a run consists of: the pools with their
connectors, the tasks that are under way, who is to go on next, who waits for the clock, what is
held under which name, and what has been recorded since the last step.

A pool opens connections either to scripted backends or to an engine. What a call does to the
world beyond its connection, namely to scripts, to records and to files, is done here by
`Connection.call`.
-/

namespace TableGateway.Rehearsal

/-- A connection to a scripted backend, or to an engine by its handle. -/
inductive Connection where
  | scripted (b : Scripted.Backend)
  | linked (handle : Nat) (link : Link)

/-- How a pool opens connections. -/
inductive Connector where
  | scripted (script : Scripted.Script)
  /-- On a file of an engine; while the file is busy, commands wait for so many milliseconds. -/
  | engine (path : String) (patience : Nat)

/-- What a task is after. -/
inductive Aim where
  /-- It keeps a connection under a name. -/
  | hold (name : String)
  /-- It runs a request on a connection. -/
  | request (name : String) (verb : Verb) (query : Query) (statement : Statement)
  /-- It returns a connection that was dropped. -/
  | giveBack

/-- The name under which the result of a task is reported. -/
def Aim.name? : Aim → Option String
  | hold name => some name
  | request name _ _ _ => some name
  | giveBack => none

/-- A task that has not ended. Its ticket identifies its errand at the pool. -/
structure Task where
  pool : String
  aim : Aim
  /-- The scripted backend that is being opened for it. -/
  opening : Option (String × Scripted.OpenItem) := none

/-- What is known of a connection. -/
structure Portrait where
  /-- The identifier of a scripted backend. -/
  id : Option String
  transaction : Transaction
  usable : Bool
  broken : Bool
  age : Nat

/-- The result of a task. -/
inductive Ending where
  | connected (p : Portrait)
  | fulfilled (o : Outcome)

/-- The world of a rehearsal. -/
structure World where
  now : Nat := 0
  pools : Databases Connection := .empty
  connectors : Registry String Connector := .empty
  flags : Registry String Scripted.Flags := .empty
  files : Engine.Files
  tasks : Registry Ticket Task := .empty
  /-- The ticket of the next errand. -/
  next : Ticket := 0
  /-- Those who can go on, in this order. -/
  ready : List Ticket := []
  /-- Those who wait for the clock: the earliest deadline first, and of equal ones the older. -/
  timers : List (Nat × Ticket) := []
  /-- Held connections by name: the pool and the ticket of the errand. -/
  held : Registry String (String × Ticket) := .empty
  /-- Rows that requests returned, by the name of the request. -/
  kept : Registry String (List Row) := .empty
  /-- The results of the tasks that ended during this step. -/
  finished : List (String × Except Error Ending) := []
  /-- The calls that were recorded during this step. -/
  events : List Scripted.Event := []

/-- An action on the world. -/
abbrev Act := StateM World

/-! ### Parts of the world -/

/-- A ticket for a new errand. -/
def newTicket : Act Ticket := do
  let w ← get
  set { w with next := w.next + 1 }
  return w.next

/-- Lets errands go on. -/
def wake (ts : List Ticket) : Act Unit := modify fun w => { w with ready := w.ready ++ ts }

/-- Enters a deadline behind those that are not later. -/
def enterTimer (deadline : Nat) (t : Ticket) : List (Nat × Ticket) → List (Nat × Ticket)
  | [] => [(deadline, t)]
  | (d, u) :: rest =>
    if deadline < d then (deadline, t) :: (d, u) :: rest
    else (d, u) :: enterTimer deadline t rest

/-- Lets an errand wait for the clock. -/
def sleep (ms : Nat) (t : Ticket) : Act Unit :=
  modify fun w => { w with timers := enterTimer (w.now + ms) t w.timers }

/-- Records calls on a scripted backend. -/
def record (backend : String) (verbs : List String) : Act Unit :=
  modify fun w => { w with
    events := w.events ++ verbs.map fun v => { backend := backend, verb := v } }

/-- Records a statement on a scripted backend. -/
def recordStatement (backend sql : String) (params : Params) : Act Unit :=
  modify fun w => { w with
    events := w.events ++
      [{ backend := backend, verb := "execute", statement := some (sql, params) }] }

/-- The pool of a name. -/
def pool? (name : String) : Act (Option (Pool Connection)) := do return (← get).pools.get? name

/-- Changes a pool. -/
def onPool (name : String) (f : Pool Connection → Pool Connection) : Act Unit :=
  modify fun w => { w with pools := w.pools.modify name f }

/-- Changes a pool in a way that may give somebody a permit. -/
def onPoolWaking (name : String) (f : Pool Connection → Pool Connection × Option Ticket) :
    Act Unit := do
  match ← pool? name with
  | none => return ()
  | some p =>
    let (p, next) := f p
    modify fun w => { w with pools := w.pools.insert name p }
    wake next.toList

/-- Changes the script of a pool, if it has one. -/
def onScript (pool : String) (f : Scripted.Script → Scripted.Script) : Act Unit :=
  modify fun w => { w with
    connectors := w.connectors.modify pool fun
      | .scripted script => .scripted (f script)
      | other => other }

/-- The script of a pool. -/
def script? (pool : String) : Act (Option Scripted.Script) := do
  match (← get).connectors.get? pool with
  | some (.scripted script) => return some script
  | _ => return none

/-- The next reply of a pool's script. -/
def nextReply (pool : String) : Act Scripted.Reply := do
  match ← script? pool with
  | some script =>
    onScript pool fun s => { s with replies := s.replies.drop 1 }
    return script.replies.head?.getD {}
  | none => return {}

/-- The flags of a scripted backend. -/
def flagsOf (backend : String) : Act Scripted.Flags := do
  return ((← get).flags.get? backend).getD {}

/-- Ends a task and reports its result under its name. -/
def finish (t : Ticket) (name : String) (result : Except Error Ending) : Act Unit :=
  modify fun w => { w with
    tasks := w.tasks.erase t
    finished := w.finished ++ [(name, result)] }

/-! ### Calls on connections -/

namespace Connection

/-- The identifier of a scripted backend. -/
def id? : Connection → Option String
  | scripted b => some b.id
  | linked _ _ => none

/-- Where the connection stands. -/
def transaction : Connection → Transaction
  | scripted b => b.transaction
  | linked _ link => link.transaction

/-- Whether the connection can still be used. -/
def isUsable (c : Connection) : Act Bool := do
  match c with
  | scripted b => return b.isOpen && !(← flagsOf b.id).unusable
  | linked _ link => return link.isUsable

/-- Runs an operation on a link and the files behind it. -/
def converse (wire : Wire Engine.Files) (handle : Nat) (link : Link)
    (talk : Wire Engine.Files → Talk Engine.Files Answer) :
    Act (Except Stop Answer × Connection) := do
  let w ← get
  let (r, link, files) := (talk wire).run (link, w.files)
  set { w with files := files }
  return (r, linked handle link)

/-- How far the execution of a statement got. -/
inductive Begun where
  /-- It takes so long. -/
  | stalls (ms : Nat)
  | ended (r : Except Error Answer)

/-- Starts a statement. -/
def startExecute (pool sql : String) (params : Params) (c : Connection) :
    Act (Begun × Connection) := do
  match c with
  | scripted b =>
    recordStatement b.id sql params
    let reply ← nextReply pool
    let b := b.startExecute reply
    match reply.stallMs with
    | some (ms + 1) => return (.stalls (ms + 1), scripted b)
    | _ =>
      let (r, b) := b.finishExecute
      return (.ended r, scripted b)
  | linked handle link =>
    let (r, c) ← converse (Engine.wire handle) handle link
      fun w => Link.call w (.execute sql params)
    return (.ended (Link.told r), c)

/-- Ends a statement that took its time. -/
def finishExecute : Connection → Except Error Answer × Connection
  | scripted b =>
    let (r, b) := b.finishExecute
    (r, scripted b)
  | linked handle link => (.ok .done, linked handle link)

/-- Makes a call and waits for its end. -/
def call (pool : String) (request : Call) (c : Connection) :
    Act (Except Error Answer × Connection) := do
  match c, request with
  | c, .execute sql params =>
    match ← startExecute pool sql params c with
    | (.ended r, c) => return (r, c)
    | (.stalls _, c) => return c.finishExecute
  | scripted b, request =>
    let (r, b, verbs) := b.call (← flagsOf b.id) request
    record b.id verbs
    return (r, scripted b)
  | linked handle link, request =>
    let (r, c) ← converse (Engine.wire handle) handle link fun w => Link.call w request
    return (Link.told r, c)

/-- Starts a statement and gives up at the first wait. The result tells whether there was one. -/
def abandonExecute (pool sql : String) (params : Params) (c : Connection) :
    Act (Bool × Connection) := do
  match c with
  | scripted _ =>
    match ← startExecute pool sql params c with
    | (.stalls _, c) => return (true, c)
    | (.ended _, c) => return (false, c)
  | linked handle link =>
    match ← converse (Engine.abandonedWire handle) handle link
        fun w => Link.call w (.execute sql params) with
    | (.error .abandoned, c) => return (true, c)
    | (_, c) => return (false, c)

/-- Forgets a connection; the handle behind it ends. -/
def forget : Connection → Act Unit
  | scripted _ => return ()
  | linked handle _ => modify fun w => { w with files := w.files.disconnect handle }

end Connection

end TableGateway.Rehearsal
