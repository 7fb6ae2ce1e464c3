import TableGateway.Proofs.Pool.Effects

/-!
# A counter that is too high

A pool counts its live connections and shows the number, but nothing that it does depends on it. So
a pool whose counter is too high by some slots goes on exactly as the pool does whose counter is
right, and its counter stays too high by as much.

## Main results

* `Pool.overcounted_work`: any piece of work, on a pool whose counter is too high.
-/

namespace TableGateway

variable {β : Type}

namespace Pool

/-- The pool with a counter of live connections that is too high by `n`. -/
def overcounted (p : Pool β) (n : Nat) : Pool β := { p with live := p.live + n }

variable {p : Pool β} {t : Ticket} {n : Nat}

@[simp] theorem overcounted_stage? (p : Pool β) (n : Nat) (t : Ticket) :
    (p.overcounted n).stage? t = p.stage? t := rfl

@[simp] theorem overcounted_closed (p : Pool β) (n : Nat) :
    (p.overcounted n).closed = p.closed := rfl

/-! ### Slots and permits -/

/-- A slot is given back while the true counter is not zero. -/
theorem overcounted_vacate (h : 0 < p.live) :
    (p.overcounted n).vacate = p.vacate.overcounted n := by
  have hlive : p.live + n - 1 = p.live - 1 + n := by omega
  exact congrArg (fun live => ({ p with live := live } : Pool β)) hlive

/-- A permit comes back. -/
theorem overcounted_putPermit (p : Pool β) (n : Nat) :
    (p.overcounted n).putPermit.1 = p.putPermit.1.overcounted n := by
  obtain ⟨config, dialect, closed, permits, queue, idle, live, errands⟩ := p
  cases queue <;> rfl

/-- An errand ends and gives back its slot and its permit. -/
theorem overcounted_leave (h : 0 < p.live) :
    ((p.overcounted n).endErrand t).vacate.putPermit.1 =
      (p.endErrand t).vacate.putPermit.1.overcounted n := by
  rw [← overcounted_putPermit, ← overcounted_vacate (p := p.endErrand t) h]
  rfl

/-- An errand with a permit goes on. -/
theorem overcounted_proceed (p : Pool β) (t : Ticket) (n : Nat) :
    ((p.overcounted n).proceed t).1 = (p.proceed t).1.overcounted n := by
  obtain ⟨config, dialect, closed, permits, queue, idle, live, errands⟩ := p
  cases idle with
  | cons c rest => rfl
  | nil =>
      have hlive : live + n + 1 = live + 1 + n := Nat.add_right_comm live n 1
      exact congrArg (fun live => (⟨config, dialect, closed, permits, queue, [], live,
        errands.insert t .opening⟩ : Pool β)) hlive

/-! ### Pieces of work -/

/-- A new errand asks. -/
theorem overcounted_ask (p : Pool β) (t : Ticket) (n : Nat) :
    ((p.overcounted n).ask t).1 = (p.ask t).1.overcounted n := by
  obtain ⟨config, dialect, closed, permits, queue, idle, live, errands⟩ := p
  unfold ask
  cases closed with
  | true => rfl
  | false =>
      cases permits with
      | zero => rfl
      | succ m =>
          exact overcounted_proceed ⟨config, dialect, false, m, queue, idle, live, errands⟩ t n

/-- A waiting errand looks again. -/
theorem overcounted_resume (p : Pool β) (t : Ticket) (n : Nat) :
    ((p.overcounted n).resume t).1 = (p.resume t).1.overcounted n := by
  unfold resume
  rw [overcounted_stage?]
  cases p.stage? t with
  | none => rfl
  | some s =>
      cases s with
      | queued =>
          dsimp only
          rw [overcounted_closed]
          split_ifs <;> rfl
      | granted =>
          dsimp only
          rw [overcounted_closed]
          split_ifs
          · exact overcounted_putPermit (p.endErrand t) n
          · exact overcounted_proceed p t n
      | _ => rfl

/-- A reset ends. -/
theorem overcounted_resetDone (p : Pool β) (t : Ticket) (backend : β) (succeeded : Bool) (n : Nat) :
    ((p.overcounted n).resetDone t backend succeeded).1 =
      (p.resetDone t backend succeeded).1.overcounted n := by
  simp only [resetDone, overcounted_stage?, overcounted_closed]
  cases p.stage? t with
  | none => rfl
  | some s =>
      cases s with
      | resetting c =>
          dsimp only
          by_cases hparks : (succeeded && !p.closed) = true
          · simp only [hparks, if_true]
            exact overcounted_putPermit
              (({ p with idle := p.idle ++ [⟨backend, c.created⟩] } : Pool β).endErrand t) n
          · simp only [hparks]
            rfl
      | _ => rfl

/-- An errand is lost at a wait. -/
theorem overcounted_cancel (hlose : ∀ s, p.stage? t = some s → Losable s)
    (hlive : p.Vacates (.cancel t) → 0 < p.live) :
    ((p.overcounted n).cancel t).1 = (p.cancel t).1.overcounted n := by
  unfold cancel drop
  rw [overcounted_stage?]
  cases ht : p.stage? t with
  | none => rfl
  | some s =>
      cases s with
      | queued | out c => rfl
      | granted => exact overcounted_putPermit (p.endErrand t) n
      | opening => exact overcounted_leave (hlive (.inl ht))
      | resetting c => exact overcounted_leave (hlive (.inr (.inl ⟨c, ht⟩)))
      | closing c => exact overcounted_leave (hlive (.inr (.inr ⟨c, ht⟩)))
      | dropped c | draining c rest => exact absurd (hlose _ ht) id

/-- One connection of a closed pool has been closed. -/
theorem overcounted_drained (hlive : p.Vacates (.drained t) → 0 < p.live) :
    (p.overcounted n).drained t = (p.drained t).overcounted n := by
  simp only [drained, overcounted_stage?]
  cases ht : p.stage? t with
  | none => rfl
  | some s =>
      cases s with
      | draining c rest =>
          cases rest with
          | nil => exact overcounted_vacate (p := p.endErrand t) (hlive ⟨c, [], ht⟩)
          | cons d rest =>
              exact congrArg (fun q => setStage q t (.draining d rest))
                (overcounted_vacate (hlive ⟨c, d :: rest, ht⟩))
      | _ => rfl

/-- **Any piece of work.** Where slots are only given back while the true counter is not zero, the
pool with the counter that is too high becomes what the pool becomes, with a counter that is too
high by as much. -/
theorem overcounted_work {e : Piece β} (he : p.Possible e) (hlive : p.Vacates e → 0 < p.live) :
    (p.overcounted n).work e = (p.work e).overcounted n := by
  cases e with
  | ask t => exact overcounted_ask p t n
  | resume t => exact overcounted_resume p t n
  | resetDone t backend succeeded => exact overcounted_resetDone p t backend succeeded n
  | cancel t => exact overcounted_cancel he hlive
  | drained t => exact overcounted_drained hlive
  | opened t | setBackend t | condemn t | drop t | startReturn t =>
      simp only [work, opened, setBackend, condemn, drop, startReturn, overcounted_stage?]
      cases p.stage? t with
      | none => rfl
      | some s => cases s <;> rfl
  | openFailed t =>
      simp only [work, openFailed, overcounted_stage?]
      cases ht : p.stage? t with
      | none => rfl
      | some s =>
          cases s with
          | opening => exact overcounted_leave (hlive ht)
          | _ => rfl
  | closeDone t =>
      simp only [work, closeDone, overcounted_stage?]
      cases ht : p.stage? t with
      | none => rfl
      | some s =>
          cases s with
          | closing c => exact overcounted_leave (hlive ⟨c, ht⟩)
          | _ => rfl
  | discard t =>
      simp only [work, discard, overcounted_stage?]
      cases ht : p.stage? t with
      | none => rfl
      | some s =>
          cases s with
          | out c => exact overcounted_leave (hlive ⟨c, ht⟩)
          | _ => rfl
  | close t =>
      obtain ⟨config, dialect, closed, permits, queue, idle, live, errands⟩ := p
      cases idle <;> rfl

end Pool

end TableGateway
