import TableGateway.Engine.Files

/-!
# Locks

Whoever reads within a transaction holds a share of its file until it ends, and at most one handle
may hold the right to change the file. It gets that right with the first instruction that can change
something, whether or not that changes anything. To end such a transaction it needs the whole file:
while another handle holds a share the commit fails as busy, and from then on no new share is given
away. Who asks for the whole file before it changes anything and does not get it, keeps others from
new shares too, but has no part in changing the file.

Handles that share hold a file together. Among themselves they lock single tables until their
transactions end: whoever finds a table locked is refused at once, and if it wanted to write, no
other transaction begins before those end that are in its way.
-/

namespace TableGateway.Engine

/-- Another handle holds too much of the file. -/
def busy : EngineError := .failure EngineError.busyCode "database is locked"

/-- A handle that shares with this one holds a table. -/
def locked : EngineError := .failure EngineError.lockedCode "database table is locked"

/-- A handle that can only read is to change something. -/
def readOnly : EngineError :=
  .failure EngineError.readOnlyCode "attempt to write a readonly database"

namespace Files

/-- Whether a handle that shares with this one keeps it from even looking at what tables there
are. -/
def isShutOut (fs : Files) (id : Nat) (h : Handle) : Bool :=
  (fs.mates id h).any fun g => g.isExclusive || g.isMaking

/-- Whether a handle that shares with this one keeps it from a hold. -/
def isKeptOut (fs : Files) (id : Nat) (h : Handle) (hold : Hold) : Bool :=
  fs.isShutOut id h || (fs.mates id h).any fun g =>
    g.isStarved || (hold.canChange && g.isWriting) || (hold == .claim && g.hold != .nothing)

/-- Whether a handle can have a hold beside what others hold. A share that one of those has that
share with it is its own too. -/
def canTake (fs : Files) (id : Nat) (h : Handle) (hold : Hold) : Bool :=
  (hold == .share && (fs.mates id h).any fun g => g.hold != .nothing)
    || h.guard.allows (fs.rivals id h) hold

/-- The handle with a share of its file, and the database that it sees then. -/
def share (fs : Files) (id : Nat) (h : Handle) : Except EngineError (Handle × Database) := do
  if h.hold != .nothing then return (h, ← fs.sees h)
  else if fs.isKeptOut id h .share then throw locked
  else if fs.canTake id h .share then return ({ h with hold := .share }, ← fs.sees h)
  else throw busy

/-- The handle with the right to change its file. -/
def reserve (fs : Files) (id : Nat) (h : Handle) : Except EngineError Handle := do
  if h.isWriting then return h
  else if h.isReadOnly then throw readOnly
  else if fs.isKeptOut id h .reserve then throw locked
  let (h, _) ← fs.share id h
  if fs.canTake id h .reserve then
    return { h with hold := if h.hold.canChange then h.hold else .reserve, isWriting := true }
  else throw busy

/-- The handle with its whole file. If it does not get that while others hold shares but has a share
itself, no new share is given away from then on. -/
def claim (fs : Files) (id : Nat) (h : Handle) : Except EngineError Unit × Handle :=
  if fs.isKeptOut id h .claim then (.error locked, h)
  else
    match fs.reserve id h with
    | .error e => (.error e, h)
    | .ok reserved =>
      if fs.canTake id h .claim then
        (.ok (), { reserved with hold := .claim, isExclusive := true })
      else (.error busy, if h.hold = .nothing then h else { h with hold := .claim })

/-- The handle with what was taken, or as it was. -/
def orAsBefore (h : Handle) : Except EngineError Handle → Except EngineError Unit × Handle
  | .error e => (.error e, h)
  | .ok taken => (.ok (), taken)

/-- Takes as much of the file as a transaction demands; a handle that may already change the file
gets no more, and one that can only read gets a share. -/
def acquire (fs : Files) (id : Nat) (h : Handle) (demand : Demand) :
    Except EngineError Unit × Handle :=
  if demand = .nothing then (.ok (), h)
  else if h.isReadOnly then orAsBefore h ((fs.share id h).map Prod.fst)
  else if demand = .write || h.isWriting then orAsBefore h (fs.reserve id h)
  else fs.claim id h

/-- The handle with the tables that an instruction needs: some to read from, perhaps one to change,
and what tables there are, if it makes one. Only those who share with it can be in its way; the
result tells whether they are not. -/
def lockTables (fs : Files) (id : Nat) (h : Handle) (reads : List String) (target : Option String)
    (isMaking : Bool) : Bool × Handle :=
  let mates := fs.mates id h
  let isTaken (t : String) : Bool := mates.any fun g => g.writes.contains t
  let isInUse (t : String) : Bool := mates.any fun g => g.reads.contains t
  if reads.any isTaken then (false, h)
  else if target.any (fun t => isTaken t || isInUse t)
      || (isMaking && mates.any fun g => g.hold != .nothing) then
    (false, { h with isStarved := true })
  else
    (true, { h with
      reads := reads ++ h.reads
      writes := target.toList ++ h.writes
      isMaking := isMaking || h.isMaking })

/-! ### Ends of transactions -/

/-- The handle after its transaction. -/
def ended (h : Handle) : Handle :=
  { h with
    inTransaction := false
    hold := .nothing
    isWriting := false
    isExclusive := false
    isMaking := false
    reads := []
    writes := []
    isStarved := false
    isForgetful := false
    uncommitted := none }

/-- Ends a transaction and makes its changes permanent. One that could change something needs the
whole file. -/
def settle (fs : Files) (id : Nat) (h : Handle) : Outcome Unit :=
  if h.isWriting && !fs.canTake id h .claim then
    (.error busy, fs.update id { h with hold := .claim })
  else
    match h.uncommitted, h.place with
    | none, _ => (.ok (), fs.update id (ended h))
    | some db, none => (.ok (), fs.update id { ended h with memory := some db })
    | some db, some place =>
      (.ok (), { fs.update id (ended h) with content := fs.content.insert place (some db) })

/-- The handle after its transaction is undone. If a table was made in it, the handle no longer
knows what tables there are. -/
def undone (fs : Files) (h : Handle) : Handle :=
  let count (db : Database) : Nat := db.tables.length
  let madeTable : Bool :=
    match h.uncommitted, fs.sees { h with uncommitted := none } with
    | some db, .ok before => count db != count before
    | _, _ => false
  { ended h with known := if madeTable || h.isForgetful then none else h.known }

/-- Ends a handle; what it had not committed is gone, and so is a database in memory that no other
handle has open. -/
def disconnect (fs : Files) (id : Nat) : Files :=
  match fs.handles.get? id with
  | none => fs
  | some h =>
    let fs := fs.update id (fs.undone h)
    let handles := fs.handles.erase id
    let content := match h.place with
      | none | some (.file _) => fs.content
      | some place =>
        if handles.values.any fun g => g.place == h.place then fs.content
        else fs.content.erase place
    { fs with handles, content }

end Files

end TableGateway.Engine
