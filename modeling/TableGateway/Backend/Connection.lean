import TableGateway.Backend.Link

/-!
# Connections

What an engine offers on one connection. It runs commands, tells of a text whether it cannot write,
and counts the rows that are changed; that count stays until the next statement that counts.

`Connection.wire` is the wire over which a link reaches the engine.
-/

namespace TableGateway

/-- One connection to an engine. -/
structure Connection (σ : Type) where
  /-- What is answered to a command; to one that is lost, nothing. -/
  run : Command → σ → Option (Except EngineError (List Record)) × σ
  /-- Whether a text holds a statement that cannot write. -/
  isReadOnly : String → σ → Bool
  /-- How many rows were changed last. -/
  changes : σ → Nat

namespace Connection

variable {σ : Type}

/-- The number of changed rows that is told with the answer to a command. -/
def reported (k : Connection σ) (command : Command) (before after : σ) : Nat :=
  match command with
  | .statement sql _ => if k.isReadOnly sql before then 0 else k.changes after
  | .begin | .commit | .rollback | .disconnect => 0

/-- The wire to a connection. -/
def wire (k : Connection σ) : Wire σ := fun command s =>
  match k.run command s with
  | (some (.ok rows), s') => (.answered rows (k.reported command s s'), s')
  | (some (.error cause), s') => (.refused cause, s')
  | (none, s') => (.lost, s')

end Connection

end TableGateway
