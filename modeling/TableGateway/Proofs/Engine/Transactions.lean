import TableGateway.Engine.Handle
import TableGateway.Proofs.Backend.Course
import TableGateway.Proofs.Registry

/-!
# The transaction of a handle

A handle of the engine keeps what a link trusts an engine with: a begin that is answered opens its
transaction, one that is refused does not, and a commit or a rollback that is answered ends it.

## Main results

* `Engine.wire_transactional`: a handle keeps what a link trusts it with.
-/

namespace TableGateway.Engine

namespace Files

/-- Whether a handle is in a transaction. -/
def inTransaction (fs : Files) (id : Nat) : Bool := (fs.handles.get? id).any (·.inTransaction)

/-- A changed handle is in a transaction when its new state is. What is told to those that share
with it does not matter. -/
theorem inTransaction_update (fs : Files) (id : Nat) (h : Handle) :
    (fs.update id h).inTransaction id = h.inTransaction := by
  unfold update inTransaction
  dsimp only
  rw [Registry.get?_mapped, Registry.get?_insert, if_pos rfl]
  dsimp only [Option.map_some, Option.any_some]
  split <;> rfl

/-- A settled transaction is over. -/
theorem inTransaction_settle {fs : Files} {id : Nat} {h : Handle}
    (hok : (fs.settle id h).1 = .ok ()) : (fs.settle id h).2.inTransaction id = false := by
  unfold settle at hok ⊢
  split at hok
  · exact absurd hok (by simp)
  · rw [if_neg ‹_›]
    rcases h.uncommitted with _ | db
    · exact inTransaction_update fs id (ended h)
    · rcases h.place with _ | place
      · exact inTransaction_update fs id { ended h with memory := some db }
      · exact inTransaction_update fs id (ended h)

/-- A begin that succeeds opens a transaction. -/
theorem inTransaction_begin {fs : Files} {id : Nat} {h : Handle}
    (hok : (fs.begin id h .nothing).1 = .ok ()) :
    (fs.begin id h .nothing).2.inTransaction id = true := by
  simp only [begin, acquire, if_true] at hok ⊢
  cases hin : h.inTransaction with
  | true => simp [hin] at hok
  | false => exact inTransaction_update fs id { h with inTransaction := true }

/-- A begin fails only in a transaction. -/
theorem inTransaction_of_begin_error {fs : Files} {id : Nat} {h : Handle} {e : EngineError}
    (herror : (fs.begin id h .nothing).1 = .error e) : h.inTransaction = true := by
  simp only [begin, acquire, if_true] at herror
  cases hin : h.inTransaction with
  | true => rfl
  | false => simp [hin] at herror

/-- A commit that succeeds ends the transaction. -/
theorem inTransaction_commit {fs : Files} {id : Nat} {h : Handle}
    (hok : (fs.commit id h).1 = .ok ()) : (fs.commit id h).2.inTransaction id = false := by
  unfold commit at hok ⊢
  cases hin : h.inTransaction with
  | true =>
      rw [hin, if_pos rfl] at hok
      rw [if_pos rfl]
      exact inTransaction_settle hok
  | false => simp [hin] at hok

/-- A rollback that succeeds ends the transaction. -/
theorem inTransaction_rollback {fs : Files} {id : Nat} {h : Handle}
    (hok : (fs.rollback id h).1 = .ok ()) : (fs.rollback id h).2.inTransaction id = false := by
  unfold rollback at hok ⊢
  cases hin : h.inTransaction with
  | true => exact inTransaction_update fs id (fs.undone h)
  | false => simp [hin] at hok

end Files

/-! ### Over the wire -/

/-- What becomes of a command that a handle does with `run`, unless it is shut out. -/
def turn (id : Nat) (fs : Files) (run : Handle → Files.Outcome Unit) : Trip × Files :=
  match fs.handles.get? id with
  | none => (.lost, fs)
  | some h =>
    if fs.isShutOut id h then (.refused locked, fs)
    else
      (match (run h).1 with
        | .ok () => .answered [] 0
        | .error e => .refused e, (run h).2)

section

variable {id : Nat} {fs : Files} {run : Handle → Files.Outcome Unit}

/-- A command that is answered succeeded. -/
theorem turn_answered (ha : (turn id fs run).1.isAnswered = true) :
    ∃ h, fs.handles.get? id = some h ∧ (run h).1 = .ok () ∧ (turn id fs run).2 = (run h).2 := by
  unfold turn at ha ⊢
  cases hh : fs.handles.get? id with
  | none => simp [hh, Trip.isAnswered] at ha
  | some h =>
      simp only [hh] at ha ⊢
      split at ha
      · exact absurd ha (by simp [Trip.isAnswered])
      · next hfree =>
          rw [if_neg hfree]
          refine ⟨h, rfl, ?_, rfl⟩
          cases hrun : (run h).1 with
          | ok u => rfl
          | error e => simp [hrun, Trip.isAnswered] at ha

/-- A command that is refused failed, or nothing was done. -/
theorem turn_refused {cause : EngineError} (hr : (turn id fs run).1 = .refused cause) :
    (turn id fs run).2 = fs ∨ ∃ h e, fs.handles.get? id = some h ∧ (run h).1 = .error e := by
  unfold turn at hr ⊢
  cases hh : fs.handles.get? id with
  | none => exact .inl rfl
  | some h =>
      simp only [hh] at hr ⊢
      split at hr
      · next hshut => exact .inl (by rw [if_pos hshut])
      · cases hrun : (run h).1 with
        | ok u => simp [hrun] at hr
        | error e => exact .inr ⟨h, e, rfl, hrun⟩

end

/-- A command that does nothing but `run`, over the wire. -/
theorem wire_eq_turn {id : Nat} {fs : Files} {command : Command} {run : Handle → Files.Outcome Unit}
    (hserve : serve id command fs = match fs.handles.get? id with
      | none => (none, fs)
      | some h => if fs.isShutOut id h then (some (.error locked), fs)
        else (some ((run h).1.map fun () => []), (run h).2))
    (hreported : ∀ after, (connection id).reported command fs after = 0) :
    wire id command fs = turn id fs run := by
  have hrun : (connection id).run command fs = serve id command fs := rfl
  unfold wire Connection.wire turn
  rw [hrun, hserve]
  rcases fs.handles.get? id with _ | h
  · rfl
  · dsimp only
    split_ifs
    · rfl
    · rcases (run h).1 with e | ⟨⟩
      · rfl
      · exact congrArg (fun n => (Trip.answered [] n, (run h).2)) (hreported _)

/-- A begin on a handle. -/
theorem wire_begin (id : Nat) (fs : Files) :
    wire id .begin fs = turn id fs fun h => fs.begin id h .nothing :=
  wire_eq_turn rfl fun _ => rfl

/-- A commit on a handle. -/
theorem wire_commit (id : Nat) (fs : Files) :
    wire id .commit fs = turn id fs fun h => fs.commit id h :=
  wire_eq_turn rfl fun _ => rfl

/-- A rollback on a handle. -/
theorem wire_rollback (id : Nat) (fs : Files) :
    wire id .rollback fs = turn id fs fun h => fs.rollback id h :=
  wire_eq_turn rfl fun _ => rfl

/-- **A handle keeps what a link trusts it with.** -/
theorem wire_transactional (id : Nat) :
    (wire id).Transactional fun fs => fs.inTransaction id = true where
  begins fs ha := by
    rw [wire_begin] at ha ⊢
    obtain ⟨h, -, hok, heq⟩ := turn_answered ha
    rw [heq]
    exact Files.inTransaction_begin hok
  declines fs cause hr hnone := by
    rw [wire_begin] at hr ⊢
    rcases turn_refused hr with heq | ⟨h, e, hh, herror⟩
    · rwa [heq]
    · have hin : h.inTransaction = true := Files.inTransaction_of_begin_error herror
      exact absurd (by rw [Files.inTransaction, hh]; exact hin) hnone
  commits fs ha := by
    rw [wire_commit] at ha ⊢
    obtain ⟨h, -, hok, heq⟩ := turn_answered ha
    rw [heq, Files.inTransaction_commit hok]
    exact Bool.false_ne_true
  rollsBack fs ha := by
    rw [wire_rollback] at ha ⊢
    obtain ⟨h, -, hok, heq⟩ := turn_answered ha
    rw [heq, Files.inTransaction_rollback hok]
    exact Bool.false_ne_true

end TableGateway.Engine
