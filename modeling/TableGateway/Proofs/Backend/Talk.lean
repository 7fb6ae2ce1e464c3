import TableGateway.Backend.Link

/-!
# What operations on a link do

An operation is a computation over the link and the engine behind it that may stop early. This
module runs operations: `Talk.on` is what an operation answers and what it leaves, and there is one
equation for each way of putting operations together. With them every operation of `Link` comes
down to its trips, and `Link.on_send` says what one trip does.

## Main results

* `Talk.on_bind`, `Talk.on_tryCatch`: running one operation after another.
* `Link.on_send`: one trip.
-/

namespace TableGateway

variable {σ α β : Type}

namespace Talk

/-- What an operation answers and leaves. -/
def on (x : Talk σ α) (y : Link × σ) : Except Stop α × (Link × σ) := x.run.run y

section

variable (y : Link × σ)

/-- One operation goes on where another ends; where the first stops, both stop. -/
theorem on_bind (x : Talk σ α) (f : α → Talk σ β) :
    (x >>= f).on y = match x.on y with
      | (.ok a, z) => (f a).on z
      | (.error e, z) => (.error e, z) := by
  unfold on
  rw [ExceptT.run_bind, StateT.run_bind]
  change (match StateT.run x.run y with | (a, z) => _) = _
  rcases StateT.run x.run y with ⟨_ | _, z⟩ <;> rfl

/-- What is done where an operation stops goes on with what that left. -/
theorem on_tryCatch (x : Talk σ α) (f : Stop → Talk σ α) :
    (tryCatch x f).on y = match x.on y with
      | (.ok a, z) => (.ok a, z)
      | (.error e, z) => (f e).on z := by
  unfold on
  rw [ExceptT.run_tryCatch, StateT.run_bind]
  change (match StateT.run x.run y with | (a, z) => _) = _
  rcases StateT.run x.run y with ⟨_ | _, z⟩ <;> rfl

/-- One of two operations. -/
theorem on_ite (c : Prop) [Decidable c] (x x' : Talk σ α) :
    (if c then x else x').on y = if c then x.on y else x'.on y := by
  split <;> rfl

/-- Looking at the link. -/
theorem on_look : (Link.look : Talk σ Link).on y = (.ok y.1, y) := rfl

/-- Changing the link. -/
theorem on_update (f : Link → Link) :
    (Link.update f : Talk σ Unit).on y = (.ok (), (f y.1, y.2)) := rfl

/-- Refusing. -/
theorem on_refuse (message : String) :
    (Link.refuse message : Talk σ α).on y = (.error (.failed (.state message)), y) := rfl

end

end Talk

/-- Whether the connection comes back from a trip. -/
def Trip.cameBack : Trip → Bool
  | .answered _ _ | .refused _ => true
  | .lost | .abandoned => false

/-- What whoever sent a command is told. -/
def Trip.told : Trip → Except Stop (List Record × Nat)
  | .answered rows affected => .ok (rows, affected)
  | .refused cause => .error (.failed (.engine cause))
  | .lost => .error (.failed .task)
  | .abandoned => .error .abandoned

namespace Link

/-- The link after a trip. -/
def afterTrip (l : Link) (trip : Trip) : Link :=
  { l with connected := trip.cameBack, broken := !trip.cameBack }

/-- **One trip.** Without a connection there is none. -/
theorem on_send (wire : Wire σ) (c : Command) (l : Link) (s : σ) :
    (send wire c).on (l, s) =
      if l.connected then ((wire c s).1.told, (l.afterTrip (wire c s).1, (wire c s).2))
      else (.error (.failed (.state "connection is closed")), (l, s)) := by
  unfold send
  rw [Talk.on_bind]
  change (ite _ _ _ : Talk σ _).on (l, s) = _
  rw [Talk.on_ite, Talk.on_refuse]
  obtain ⟨connected, transaction, executed, rows, affected, broken⟩ := l
  cases connected
  · rfl
  · rcases wire c s with ⟨_ | _ | _ | _, s'⟩ <;> rfl

end Link

end TableGateway
