import TableGateway.Backend.Connection
import TableGateway.Proofs.Backend.Protocol

/-!
# What statements do to rows

A connection has one count of changed rows, and only statements that insert, update or delete set
it. This module says what an engine is trusted with about that count, and what a link is then told
with the answer to a statement.

## Main results

* `Deed.told_eq_own`: when what is told of a statement is what it changed.
* `Connection.Counts.told`: what is told of a statement that succeeds.
-/

namespace TableGateway

variable {σ : Type}

/-- What a statement does to the rows of tables. -/
inductive Deed where
  /-- It cannot write. -/
  | reads
  /-- It inserts, updates or deletes some number of rows. -/
  | changes (n : Nat)
  /-- It can write, but does none of these. -/
  | writes
  deriving DecidableEq, Repr

namespace Deed

/-- How many rows a statement itself changes. -/
def own : Deed → Nat
  | changes n => n
  | reads | writes => 0

/-- The count behind a statement, where it is `n` before. -/
def count (n : Nat) : Deed → Nat
  | changes m => m
  | reads | writes => n

/-- What is told of a statement, where the count is `n` behind it. -/
def told (n : Nat) : Deed → Nat
  | reads => 0
  | changes _ | writes => n

/-- A statement is told of another's rows exactly if it does not count, can write, and the count is
not zero. -/
theorem told_eq_own (d : Deed) (n : Nat) :
    d.told (d.count n) = d.own ↔ ¬(d = .writes ∧ n ≠ 0) := by
  cases d with
  | reads => simp [told, own]
  | changes m => simp [told, own, count]
  | writes => simp [told, own, count]

end Deed

/-- The count behind some statements, where it is zero before them. -/
def countBehind (ds : List Deed) : Nat := ds.foldl Deed.count 0

/-- What the statement of a trip does, if it brings one. -/
def Hop.deed? (deed : String → Params → σ → Deed) (hop : Hop σ) : Option Deed :=
  match hop.command with
  | .statement sql params => some (deed sql params hop.before)
  | .begin | .commit | .rollback | .disconnect => none

/-- The statement that is brought succeeds, and whatever else is brought, the connection
comes back. -/
def Hop.GoesWell (hop : Hop σ) : Prop :=
  (match hop.command with
    | .statement _ _ => hop.trip.isAnswered
    | .begin | .commit | .rollback | .disconnect => hop.trip.cameBack) = true

instance (hop : Hop σ) : Decidable hop.GoesWell := inferInstanceAs (Decidable (_ = true))

/-- The connection comes back from a trip that goes well. -/
theorem Hop.GoesWell.back {hop : Hop σ} (h : hop.GoesWell) : hop.trip.cameBack = true := by
  obtain ⟨command, trip, before, after⟩ := hop
  cases command with
  | statement sql params => exact Trip.cameBack_of_isAnswered h
  | begin | commit | rollback | disconnect => exact h

/-- What an engine is trusted with about its count. -/
structure Connection.Counts (k : Connection σ) (deed : String → Params → σ → Deed) : Prop where
  /-- It knows which statements cannot write. -/
  readOnly : ∀ sql params s, k.isReadOnly sql s = true ↔ deed sql params s = .reads
  /-- A statement that succeeds sets the count, or leaves it. -/
  counted : ∀ sql params s, (k.wire (.statement sql params) s).1.isAnswered = true →
    k.changes (k.wire (.statement sql params) s).2 = (deed sql params s).count (k.changes s)
  /-- Neither beginning nor ending a transaction changes it. -/
  kept : ∀ c s, c.isControl = true → (k.wire c s).1.cameBack = true →
    k.changes (k.wire c s).2 = k.changes s

/-- The statements of some trips. -/
abbrev deeds (deed : String → Params → σ → Deed) (hops : List (Hop σ)) : List Deed :=
  hops.filterMap (Hop.deed? deed)

/-- A statement that succeeds is told of as its deed says. -/
theorem Connection.Counts.told {k : Connection σ} {deed : String → Params → σ → Deed} {s : σ}
    (h : k.Counts deed) {sql : String} {params : Params}
    (ha : (k.wire (.statement sql params) s).1.isAnswered = true) :
    ∃ rows, (k.wire (.statement sql params) s).1 =
      .answered rows ((deed sql params s).told ((deed sql params s).count (k.changes s))) := by
  have hcount := h.counted sql params s ha
  have hreads := h.readOnly sql params s
  revert ha hcount
  rcases hrun : k.run (.statement sql params) s with ⟨_ | e | rows, s'⟩
  · simp [Connection.wire, hrun, Trip.isAnswered]
  · simp [Connection.wire, hrun, Trip.isAnswered]
  · intro _ hcount
    have hreported : k.reported (.statement sql params) s s' =
        if k.isReadOnly sql s then 0 else k.changes s' := rfl
    simp only [Connection.wire, hrun] at hcount ⊢
    refine ⟨rows, congrArg (Trip.answered rows) ?_⟩
    rw [hreported]
    cases hd : deed sql params s with
    | reads => rw [if_pos (hreads.mpr hd)]; rfl
    | changes n | writes =>
        have hnot : ¬ k.isReadOnly sql s = true := fun hro => by simp [hreads.mp hro] at hd
        rw [if_neg hnot, hcount, hd]
        rfl

end TableGateway
