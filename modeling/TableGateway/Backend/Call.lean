import TableGateway.Params

/-!
# Calls on a connection

What a holder of a connection can ask of it, and what it is told. A transaction begins lazily:
executing a statement begins one when none is open, and reading a result commits it.
-/

namespace TableGateway

/-- One row as it comes from an engine. -/
abbrev Record := List Value

/-- Where a connection is between beginning and ending a transaction. -/
inductive Transaction where
  /-- None was begun and nothing is left to read. -/
  | idle
  /-- One was begun and not ended. -/
  | opened
  /-- The last one was committed, and its result can still be read. -/
  | committed
  deriving DecidableEq, Repr

/-- The word for a transaction state. -/
def Transaction.word : Transaction → String
  | idle => "Idle"
  | opened => "Open"
  | committed => "Committed"

/-- A request to a connection. -/
inductive Call where
  | begin
  | commit
  | rollback
  /-- Roll back an open transaction and drop what was not read. -/
  | reset
  | close
  | execute (sql : String) (params : Params)
  | fetchOne
  | fetchMany (n : Nat)
  | fetchAll
  /-- How many rows the last statement changed. -/
  | affected
  deriving DecidableEq, Repr

/-- What a call answers when it succeeds. -/
inductive Answer where
  | done
  | row (r : Option Record)
  | rows (rs : List Record)
  | count (n : Nat)
  deriving DecidableEq, Repr

end TableGateway
