import TableGateway.Proofs.Registry
import TableGateway.Settings.Basic

/-!
# The work on pools

Everything that happens to a pool happens in uninterrupted pieces of work, each done by one errand
between two of its waits. This module lists the pieces, so that a run of any number of pools and
errands is a sequence of them in any order, with any answer of a backend at the end of an open, a
reset or a close, and with the loss of an errand at any wait.

It also says what an errand holds at each stage. A slot is one connection that counts as live,
and a permit admits one errand.

## Conventions

An errand that asks or closes a pool is new to it. The return of a dropped connection that has not
started yet is not lost, and neither is the closing of a pool. A piece of work for an errand that
does not stand where the piece begins does nothing.

## Main results

* `Pool.total_setStage`, `Pool.total_endErrand`: how a total over all errands changes.
* `Pool.Sound`: the queue holds exactly waiting errands, and what preserves that.
-/

namespace TableGateway

variable {β : Type}

/-! ### What an errand holds -/

namespace Stage

/-- A connection that is checked out. -/
def checkedOut : Stage β → Nat
  | out _ => 1
  | _ => 0

/-- A connection that is being opened. -/
def beingOpened : Stage β → Nat
  | opening => 1
  | _ => 0

/-- A connection that is on its way back, also when its return has not started. -/
def onItsWay : Stage β → Nat
  | dropped _ | resetting _ | closing _ => 1
  | _ => 0

/-- Connections of a closed pool that are not closed yet. -/
def undrained : Stage β → Nat
  | draining _ rest => rest.length + 1
  | _ => 0

/-- A permit that was granted to an errand that has not gone on yet. -/
def admitted : Stage β → Nat
  | granted => 1
  | _ => 0

/-- The slots that an errand holds. -/
def slots (s : Stage β) : Nat := s.checkedOut + s.beingOpened + s.onItsWay + s.undrained

/-- The permits that an errand holds. -/
def permits (s : Stage β) : Nat := s.admitted + s.checkedOut + s.beingOpened + s.onItsWay

/-- Whoever holds a slot but drains no pool holds a permit too. -/
theorem slots_le_permits {s : Stage β} (h : s.undrained = 0) : s.slots ≤ s.permits := by
  simp only [slots, permits]
  omega

end Stage

namespace Pool

/-- The sum of a measure over all errands. -/
def total (p : Pool β) (f : Stage β → Nat) : Nat := p.errands.total f

/-! ### Pieces of work -/

/-- An uninterrupted piece of work on a pool. -/
inductive Piece (β : Type) where
  /-- A new errand asks for a connection. -/
  | ask (t : Ticket)
  /-- A waiting errand looks again. -/
  | resume (t : Ticket)
  /-- An open ends with a connection. -/
  | opened (t : Ticket) (backend : β) (now : Nat)
  /-- An open fails. -/
  | openFailed (t : Ticket)
  /-- A call has been made on a connection that is out. -/
  | setBackend (t : Ticket) (backend : β)
  /-- A connection that is out is flagged. -/
  | condemn (t : Ticket)
  /-- A connection is returned, or the return of a dropped one starts. -/
  | startReturn (t : Ticket) (now : Nat) (usable : Bool)
  /-- A reset ends. -/
  | resetDone (t : Ticket) (backend : β) (succeeded : Bool)
  /-- A close ends. -/
  | closeDone (t : Ticket)
  /-- A connection is dropped where its return can be left to a task. -/
  | drop (t : Ticket)
  /-- A connection is dropped where it cannot. -/
  | discard (t : Ticket)
  /-- The pool is closed by a new errand. -/
  | close (t : Ticket)
  /-- One of the connections of a closed pool has been closed. -/
  | drained (t : Ticket)
  /-- An errand is lost at a wait. -/
  | cancel (t : Ticket)

/-- Whose work a piece is. -/
def Piece.ticket : Piece β → Ticket
  | .ask t | .resume t | .opened t _ _ | .openFailed t | .setBackend t _ | .condemn t
  | .startReturn t _ _ | .resetDone t _ _ | .closeDone t | .drop t | .discard t | .close t
  | .drained t | .cancel t => t

/-- Does a piece of work. -/
def work (p : Pool β) : Piece β → Pool β
  | .ask t => (p.ask t).1
  | .resume t => (p.resume t).1
  | .opened t backend now => p.opened t backend now
  | .openFailed t => (p.openFailed t).1
  | .setBackend t backend => p.setBackend t backend
  | .condemn t => p.condemn t
  | .startReturn t now usable => p.startReturn t now usable
  | .resetDone t backend succeeded => (p.resetDone t backend succeeded).1
  | .closeDone t => (p.closeDone t).1
  | .drop t => p.drop t
  | .discard t => (p.discard t).1
  | .close t => (p.close t).1
  | .drained t => p.drained t
  | .cancel t => (p.cancel t).1

/-- Whether an errand at this stage can be lost. -/
def Losable : Stage β → Prop
  | .dropped _ | .draining _ _ => False
  | _ => True

/-- Whether a piece of work can come next. -/
def Possible (p : Pool β) : Piece β → Prop
  | .ask t | .close t => p.stage? t = none
  | .cancel t => ∀ s, p.stage? t = some s → Losable s
  | _ => True

/-- Whether a piece of work gives back a slot. -/
def Vacates (p : Pool β) : Piece β → Prop
  | .openFailed t => p.stage? t = some .opening
  | .closeDone t => ∃ c, p.stage? t = some (.closing c)
  | .discard t => ∃ c, p.stage? t = some (.out c)
  | .drained t => ∃ c rest, p.stage? t = some (.draining c rest)
  | .cancel t => p.stage? t = some .opening ∨ (∃ c, p.stage? t = some (.resetting c)) ∨
      ∃ c, p.stage? t = some (.closing c)
  | _ => False

/-! ### Totals over errands -/

section

variable {p : Pool β} {t : Ticket} {s s' : Stage β}

/-- A new errand adds its measure. -/
theorem total_setStage_new (f : Stage β → Nat) (h : p.stage? t = none) (s : Stage β) :
    (p.setStage t s).total f = p.total f + f s :=
  Registry.total_insert_new f h s

/-- An errand that moves exchanges its measure. -/
theorem total_setStage (f : Stage β → Nat) (h : p.stage? t = some s) (s' : Stage β) :
    (p.setStage t s').total f + f s = p.total f + f s' :=
  Registry.total_insert_of_get? f h s'

/-- An errand that ends takes its measure away. -/
theorem total_endErrand (f : Stage β → Nat) (hd : p.errands.keys.Nodup) (h : p.stage? t = some s) :
    (p.endErrand t).total f + f s = p.total f :=
  Registry.total_erase f hd h

/-- The total over errands of whom none has a measure. -/
theorem total_eq_zero {f : Stage β → Nat} (hd : p.errands.keys.Nodup)
    (h : ∀ t s, p.stage? t = some s → f s = 0) : p.total f = 0 := by
  have hle : p.total f ≤ p.total fun _ => 0 :=
    Registry.total_le_total hd fun t s hs => (h t s hs).le
  have hzero : (p.total fun _ => 0) = 0 := by simp [Pool.total, Registry.total]
  omega

/-- Where another errand stands does not change. -/
theorem stage?_setStage (p : Pool β) (t u : Ticket) (s : Stage β) :
    (p.setStage t s).stage? u = if u = t then some s else p.stage? u :=
  Registry.get?_insert p.errands t u s

/-- An errand that moves stands where it moved to. -/
@[simp] theorem stage?_setStage_self (p : Pool β) (t : Ticket) (s : Stage β) :
    (p.setStage t s).stage? t = some s :=
  (stage?_setStage p t t s).trans (if_pos rfl)

/-- An errand that ends is nowhere, and the others stand where they stood. -/
theorem stage?_endErrand (p : Pool β) (t u : Ticket) :
    (p.endErrand t).stage? u = if u = t then none else p.stage? u :=
  Registry.get?_erase p.errands t u

/-- An errand that has ended is nowhere, whatever else changes. -/
theorem stage?_of_erase {q : Pool β} (h : q.errands = p.errands.erase t) : q.stage? t = none := by
  rw [stage?, h]
  exact (Registry.get?_erase p.errands t t).trans (if_pos rfl)

/-! ### Errands with a connection -/

/-- A new connection is out. -/
theorem stage?_opened (ht : p.stage? t = some .opening) (backend : β) (now : Nat) :
    (p.opened t backend now).stage? t = some (.out ⟨backend, now, false⟩) := by
  rw [opened, ht]
  exact stage?_setStage_self p t _

variable {c : Checkout β}

/-- A connection that is out is what a call left of it. -/
theorem stage?_setBackend (ht : p.stage? t = some (.out c)) (backend : β) :
    (p.setBackend t backend).stage? t = some (.out { c with backend := backend }) := by
  rw [setBackend, ht]
  exact stage?_setStage_self p t _

/-- A connection that is flagged stays out. -/
theorem stage?_condemn (ht : p.stage? t = some (.out c)) :
    (p.condemn t).stage? t = some (.out { c with broken := true }) := by
  rw [condemn, ht]
  exact stage?_setStage_self p t _

/-- A connection that is dropped is on its way back. -/
theorem stage?_drop (ht : p.stage? t = some (.out c)) :
    (p.drop t).stage? t = some (.dropped c) := by
  rw [drop, ht]
  exact stage?_setStage_self p t _

/-- A return starts with a reset or with a close. -/
theorem stage?_startReturn
    (ht : p.stage? t = some (.out c) ∨ p.stage? t = some (.dropped c)) (now : Nat) (answer : Bool) :
    (p.startReturn t now answer).stage? t =
      some (if p.mayReuse c now answer then .resetting c else .closing c) := by
  rcases ht with ht | ht <;>
    · rw [startReturn, ht]
      exact stage?_setStage_self p t _

end

/-! ### The shape of a pool -/

/-- Tickets are distinct, the queue holds waiting errands only, each once, a closed pool has no
queue, and only a closed pool is drained. -/
structure Sound (p : Pool β) : Prop where
  distinct : p.errands.keys.Nodup
  queue_nodup : p.queue.Nodup
  queued : ∀ t ∈ p.queue, p.stage? t = some .queued
  closed_queue : p.closed = true → p.queue = []
  undrained : p.closed = false → ∀ t s, p.stage? t = some s → s.undrained = 0

namespace Sound

variable {p : Pool β} {t : Ticket} {s : Stage β}

/-- A new pool. -/
theorem new (config : Config) (dialect : Dialect) : (Pool.new (β := β) config dialect).Sound where
  distinct := List.nodup_nil
  queue_nodup := List.nodup_nil
  queued := by simp [Pool.new]
  closed_queue := fun _ => rfl
  undrained := fun _ t s h => by simp [Pool.new, stage?, Registry.get?, Registry.empty] at h

/-- Slots, permits and idle connections do not matter. -/
theorem withCounts (h : p.Sound) (permits live : Nat) (idle : List (Parked β)) :
    Sound { p with permits := permits, live := live, idle := idle } :=
  ⟨h.distinct, h.queue_nodup, h.queued, h.closed_queue, h.undrained⟩

/-- Whoever is new is not in the queue. -/
theorem not_mem_queue_of_new (h : p.Sound) (ht : p.stage? t = none) : t ∉ p.queue :=
  fun hmem => absurd (ht.symm.trans (h.queued t hmem)) (by simp)

/-- Whoever holds a slot or a permit is not in the queue. -/
theorem not_mem_queue (h : p.Sound) (ht : p.stage? t = some s) (hs : 0 < s.slots + s.permits) :
    t ∉ p.queue := by
  intro hmem
  obtain rfl := Option.some.inj (ht.symm.trans (h.queued t hmem))
  exact absurd hs (Nat.lt_irrefl 0)

/-- A pool with an errand that drains it is closed. -/
theorem closed_of_undrained (h : p.Sound) (ht : p.stage? t = some s) (hs : 0 < s.undrained) :
    p.closed = true := by
  cases hc : p.closed with
  | true => rfl
  | false => exact absurd hs (by rw [h.undrained hc t s ht]; exact Nat.lt_irrefl 0)

/-- An errand outside the queue moves. -/
theorem setStage (h : p.Sound) (ht : t ∉ p.queue) (hs : p.closed = false → s.undrained = 0) :
    (p.setStage t s).Sound where
  distinct := Registry.keys_nodup_insert h.distinct t s
  queue_nodup := h.queue_nodup
  queued := by
    intro u hu
    have hne : u ≠ t := by
      rintro rfl
      exact ht hu
    rw [stage?_setStage, if_neg hne]
    exact h.queued u hu
  closed_queue := h.closed_queue
  undrained := by
    intro hc u s' hu
    rw [stage?_setStage] at hu
    split at hu
    · obtain rfl := Option.some.inj hu
      exact hs hc
    · exact h.undrained hc u s' hu

/-- An errand outside the queue ends. -/
theorem endErrand (h : p.Sound) (ht : t ∉ p.queue) : (p.endErrand t).Sound where
  distinct := Registry.keys_nodup_erase h.distinct t
  queue_nodup := h.queue_nodup
  queued := by
    intro u hu
    have hne : u ≠ t := by
      rintro rfl
      exact ht hu
    rw [stage?_endErrand, if_neg hne]
    exact h.queued u hu
  closed_queue := h.closed_queue
  undrained := by
    intro hc u s hu
    rw [stage?_endErrand] at hu
    split at hu
    · exact absurd hu (by simp)
    · exact h.undrained hc u s hu

/-- A new errand queues up in a pool that is not closed. -/
theorem enqueue (h : p.Sound) (ht : p.stage? t = none) (hopen : p.closed = false) :
    (({ p with queue := p.queue ++ [t] } : Pool β).setStage t .queued).Sound where
  distinct := Registry.keys_nodup_insert h.distinct t .queued
  queue_nodup := by
    refine List.nodup_append.mpr ⟨h.queue_nodup, by simp, fun u hu v hv => ?_⟩
    rw [List.mem_singleton.mp hv]
    rintro rfl
    exact h.not_mem_queue_of_new ht hu
  queued := by
    intro u hu
    rw [stage?_setStage]
    split
    · rfl
    · next hne =>
        rcases List.mem_append.mp hu with hold | hnew
        · exact h.queued u hold
        · exact absurd (List.mem_singleton.mp hnew) hne
  closed_queue := fun hc => absurd (hopen.symm.trans hc) (by decide)
  undrained := by
    intro hc u s hu
    rw [stage?_setStage] at hu
    split at hu
    · obtain rfl := Option.some.inj hu
      rfl
    · exact h.undrained hc u s hu

/-- The queue gets shorter. -/
theorem shorten (h : p.Sound) {queue : List Ticket} (hsub : queue.Sublist p.queue) :
    Sound { p with queue := queue } where
  distinct := h.distinct
  queue_nodup := h.queue_nodup.sublist hsub
  queued := fun t ht => h.queued t (hsub.subset ht)
  closed_queue := fun hc => by
    have hnil : p.queue = [] := h.closed_queue hc
    exact List.sublist_nil.mp (hnil ▸ hsub)
  undrained := h.undrained

/-- A permit comes back. -/
theorem putPermit (h : p.Sound) : p.putPermit.1.Sound := by
  unfold Pool.putPermit
  split
  · exact h.withCounts (p.permits + 1) p.live p.idle
  · next t rest hq =>
      have hsub : rest.Sublist p.queue := by
        rw [hq]
        exact List.sublist_cons_self t rest
      have hnot : t ∉ rest := by
        have hn := h.queue_nodup
        rw [hq] at hn
        exact (List.nodup_cons.mp hn).1
      exact (h.shorten hsub).setStage hnot fun _ => rfl

end Sound

/-- A permit that comes back is free, or held by the errand that it was granted to. -/
theorem Sound.putPermit_counts {p : Pool β} (h : p.Sound) :
    p.putPermit.1.live = p.live ∧ p.putPermit.1.idle = p.idle ∧
      p.putPermit.1.config = p.config ∧ p.putPermit.1.total Stage.slots = p.total Stage.slots ∧
      p.putPermit.1.permits + p.putPermit.1.total Stage.permits =
        p.permits + p.total Stage.permits + 1 := by
  unfold Pool.putPermit
  split
  · refine ⟨rfl, rfl, rfl, rfl, ?_⟩
    change p.permits + 1 + p.total Stage.permits = _
    omega
  · next t rest hq =>
      have ht : p.stage? t = some .queued := h.queued t (by rw [hq]; exact List.mem_cons_self)
      have hslots : (p.setStage t .granted).total Stage.slots = p.total Stage.slots :=
        total_setStage Stage.slots ht .granted
      have hpermits : (p.setStage t .granted).total Stage.permits = p.total Stage.permits + 1 :=
        total_setStage Stage.permits ht .granted
      exact ⟨rfl, rfl, rfl, hslots, congrArg (p.permits + ·) hpermits⟩

end Pool

end TableGateway
