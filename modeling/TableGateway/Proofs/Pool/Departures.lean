import TableGateway.Proofs.Pool.Accounting
import TableGateway.Proofs.Pool.Effects

/-!
# What departing errands give back

An errand that holds a permit keeps it until it ends, and then gives it back at once: the permit is
free, or held by whoever waited longest. The slot is given back with it, unless the connection
becomes idle and keeps its slot. So it is however the errand ends, with an open that failed, a
connection that was closed, or the loss of the errand.

## Main results

* `Pool.Departs.givesBack`: the pieces of work with which an errand ends, and what each gives back.
* `Pool.keeps_or_givesBack`: nothing else takes a permit from an errand.
-/

namespace TableGateway

variable {β : Type}

namespace Pool

/-- Between two pools the errand `t` has ended, and what it held has been given back: `n` slots,
and its permit, which is free or has been granted to whoever waited longest. -/
structure GivesBack (p : Pool β) (t : Ticket) (n : Nat) (p' : Pool β) : Prop where
  ended : p'.stage? t = none
  slots : p'.live + n = p.live
  permit : p.queue = [] ∧ p'.queue = [] ∧ p'.permits = p.permits + 1 ∨
    ∃ u rest, p.queue = u :: rest ∧ p'.queue = rest ∧ p'.permits = p.permits ∧
      p'.stage? u = some .granted
  /-- Everybody else stands where it stood. -/
  others : ∀ u, u ≠ t → p.queue.head? ≠ some u → p'.stage? u = p.stage? u

/-- A piece of work with which an errand that holds a permit ends, and how many slots it gives
back. -/
inductive Departs (p : Pool β) : Piece β → Nat → Prop where
  /-- Its open failed. -/
  | openFailed {t : Ticket} (ht : p.stage? t = some .opening) : Departs p (.openFailed t) 1
  /-- Its connection became idle. -/
  | parked {t : Ticket} {c : Checkout β} (backend : β) (hopen : p.closed = false)
      (ht : p.stage? t = some (.resetting c)) : Departs p (.resetDone t backend true) 0
  /-- Its connection was closed. -/
  | closed {t : Ticket} {c : Checkout β} (ht : p.stage? t = some (.closing c)) :
      Departs p (.closeDone t) 1
  /-- It dropped its connection where no task can be started. -/
  | discarded {t : Ticket} {c : Checkout β} (ht : p.stage? t = some (.out c)) :
      Departs p (.discard t) 1
  /-- It was lost before it went on with its permit. -/
  | lostGranted {t : Ticket} (ht : p.stage? t = some .granted) : Departs p (.cancel t) 0
  /-- It was lost while it opened a connection. -/
  | lostOpening {t : Ticket} (ht : p.stage? t = some .opening) : Departs p (.cancel t) 1
  /-- It was lost while its connection was reset. -/
  | lostResetting {t : Ticket} {c : Checkout β} (ht : p.stage? t = some (.resetting c)) :
      Departs p (.cancel t) 1
  /-- It was lost while its connection was closed. -/
  | lostClosing {t : Ticket} {c : Checkout β} (ht : p.stage? t = some (.closing c)) :
      Departs p (.cancel t) 1
  /-- It went on with its permit in a pool that had been closed. -/
  | refused {t : Ticket} (hclosed : p.closed = true) (ht : p.stage? t = some .granted) :
      Departs p (.resume t) 0

section

variable {p p' q : Pool β} {t : Ticket} {s : Stage β} {n : Nat}

/-- An errand ends, and then its permit comes back. -/
theorem GivesBack.of_putPermit (hp : p.Sound) (ht : p.stage? t = some s) (hs : 0 < s.permits)
    (hqueue : q.queue = p.queue) (hpermits : q.permits = p.permits)
    (herrands : q.errands = p.errands.erase t) (hlive : q.live + n = p.live) :
    p.GivesBack t n q.putPermit.1 where
  ended := stage?_leave hp ht hs hqueue herrands
  slots := by
    rw [putPermit_live]
    exact hlive
  permit := by
    unfold putPermit
    split
    · next hnone => exact .inl ⟨hqueue.symm.trans hnone, hnone, congrArg (· + 1) hpermits⟩
    · next u rest hnext =>
        exact .inr ⟨u, rest, hqueue.symm.trans hnext, rfl, hpermits, stage?_setStage_self _ u _⟩
  others := fun u hut hu => by
    have hstays : q.stage? u = p.stage? u := by
      have herase := Registry.get?_erase p.errands t u
      rw [if_neg hut, ← herrands] at herase
      exact herase
    unfold putPermit
    split
    · exact hstays
    · next v rest hnext =>
        have huv : u ≠ v := by
          rintro rfl
          exact hu (by rw [← hqueue, hnext]; rfl)
        rw [stage?_setStage, if_neg huv]
        exact hstays

/-- An errand ends with its slot. -/
theorem GivesBack.of_vacate (hp : p.Accounted) (ht : p.stage? t = some s) (hs : s.permits = 1)
    (hslots : s.slots = 1) : p.GivesBack t 1 (p.endErrand t).vacate.putPermit.1 :=
  .of_putPermit hp.sound ht (by omega) rfl rfl rfl
    (Nat.sub_add_cancel (hp.live_pos ht (by omega)))

/-- **Departures.** With each of these pieces of work the errand has ended and what it held is
given back. -/
theorem Departs.givesBack {e : Piece β} (h : p.Departs e n) (hp : p.Accounted) :
    p.GivesBack e.ticket n (p.work e) := by
  cases h with
  | openFailed ht =>
      simp only [work, Pool.openFailed, ht]
      exact .of_vacate hp ht rfl rfl
  | parked backend hopen ht =>
      simp only [work, Pool.resetDone, ht, hopen, Bool.not_false, Bool.and_self, if_true]
      exact .of_putPermit hp.sound ht Nat.one_pos rfl rfl rfl rfl
  | closed ht =>
      simp only [work, Pool.closeDone, ht]
      exact .of_vacate hp ht rfl rfl
  | discarded ht =>
      simp only [work, Pool.discard, ht]
      exact .of_vacate hp ht rfl rfl
  | lostGranted ht =>
      simp only [work, Pool.cancel, ht]
      exact .of_putPermit hp.sound ht Nat.one_pos rfl rfl rfl rfl
  | lostOpening ht | lostResetting ht | lostClosing ht =>
      simp only [work, Pool.cancel, ht]
      exact .of_vacate hp ht rfl rfl
  | refused hclosed ht =>
      simp only [work, Pool.resume, ht, hclosed, if_true]
      exact .of_putPermit hp.sound ht Nat.one_pos rfl rfl rfl rfl

end

section

variable {ι : Type} {name : β → ι} {p p' : Pool β} {t : Ticket} {s : Stage β}
  {news : List (Event β)}

/-- Whoever moves on with its connection keeps its permit. -/
theorem Moves.permits_pos {s' : Stage β} (h : Moves name t s s' news) : 0 < s'.permits := by
  cases h <;> exact Nat.one_pos

/-- An errand that holds a permit keeps one, or ends and gives it back. -/
theorem Effect.keeps_or_givesBack (h : Effect name p t p' news) (hp : p.Accounted)
    (ht : p.stage? t = some s) (hs : 0 < s.permits) :
    (∃ s', p'.stage? t = some s' ∧ 0 < s'.permits) ∨ ∃ n, p.GivesBack t n p' := by
  have hset : ∀ (q : Pool β) (s' : Stage β), 0 < s'.permits →
      ∃ s₁, (q.setStage t s').stage? t = some s₁ ∧ 0 < s₁.permits := fun q s' hpos =>
    ⟨s', stage?_setStage_self q t s', hpos⟩
  have hsame : ∀ {s' : Stage β}, p.stage? t = some s' → s = s' := fun hs' =>
    Option.some.inj (ht.symm.trans hs')
  cases h with
  | nothing | shuts => exact .inl ⟨s, ht, hs⟩
  | queues _ _ hnew | shutsIdle _ hnew => exact absurd (ht.symm.trans hnew) (by simp)
  | reuses | opens => exact .inl (hset _ _ Nat.one_pos)
  | moves _ hmoves => exact .inl (hset _ _ hmoves.permits_pos)
  | parks => exact .inr ⟨0, .of_putPermit hp.sound ht hs rfl rfl rfl rfl⟩
  | @leaves s₁ _ hs₁ hgone =>
      exact .inr ⟨s₁.slots, .of_putPermit hp.sound ht hs rfl rfl rfl
        (Nat.sub_add_cancel (hp.slots_le_live hs₁))⟩
  | withdraws hs₁ | refused _ hs₁ | drains hs₁ | drained hs₁ =>
      obtain rfl := hsame hs₁
      exact absurd hs (Nat.lt_irrefl 0)

end

/-- An errand that gives up waiting has ended, and everybody else stands where it stood. -/
theorem cancel_waiting {p : Pool β} {t : Ticket} (ht : p.stage? t = some .queued) :
    (p.cancel t).1.stage? t = none ∧ (p.cancel t).1.queue = (p.queue.filter fun u => u != t) ∧
      (p.cancel t).1.permits = p.permits ∧ (p.cancel t).1.live = p.live ∧
      ∀ u, u ≠ t → (p.cancel t).1.stage? u = p.stage? u := by
  simp only [Pool.cancel, ht]
  refine ⟨stage?_of_erase rfl, rfl, rfl, rfl, fun u hu => ?_⟩
  rw [stage?_endErrand, if_neg hu]
  rfl

/-- **Permits are kept.** Whatever comes next, an errand that holds a permit keeps one, or the piece
is its own and it ends and gives the permit back. -/
theorem keeps_or_givesBack {p : Pool β} (hp : p.Accounted) {e : Piece β} (he : p.Possible e)
    {t : Ticket} {s : Stage β} (ht : p.stage? t = some s) (hs : 0 < s.permits) :
    (∃ s', (p.work e).stage? t = some s' ∧ 0 < s'.permits) ∨
      e.ticket = t ∧ ∃ n, p.GivesBack t n (p.work e) := by
  have heffect : Effect (fun _ => ()) p e.ticket (p.work e) (p.news e) :=
    work_effect he (keepsNames_unnamed p e)
  by_cases hticket : e.ticket = t
  · subst hticket
    exact (heffect.keeps_or_givesBack hp ht hs).imp_right fun hback => ⟨rfl, hback⟩
  · have hnot : p.stage? t ≠ some .queued := fun hq => by
      obtain rfl := Option.some.inj (ht.symm.trans hq)
      exact absurd hs (Nat.lt_irrefl 0)
    exact .inl ⟨s, ((heffect.beside (Ne.symm hticket)).stage? hp.sound hnot).trans ht, hs⟩

end Pool

end TableGateway
