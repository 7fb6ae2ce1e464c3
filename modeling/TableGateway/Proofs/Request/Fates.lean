import TableGateway.Proofs.Request.Conduct

/-!
# One fate for every returned connection

A return asks five questions of a connection, some when it starts and some when its reset has ended,
and while the connection is reset the pool may be closed. Whatever the answers are, a return that
runs to its end does one of two things: the connection becomes the last of the idle ones, or it is
closed once and its slot is free.

## Conventions

In the log each call stands with the pool as it was when the call had ended. The last of these pools
is `q`, and the last piece of work of the errand leads from `q` to `p'`; before that its pieces
change neither the idle connections nor the counter of the live ones. What others do in between is
not restricted.

## Main results

* `Site.Passage.oneFate`: what was done with the connection, and what this left.
* `Site.giveBack_one_fate`: any return that runs to its end.
-/

namespace TableGateway

variable {β : Type}

namespace Note

/-- A reset. -/
def isReset : Note β → Bool
  | .made .reset _ _ _ _ | .left .reset _ => true
  | _ => false

/-- A close. -/
def isClose : Note β → Bool
  | .made .close _ _ _ _ | .left .close _ => true
  | _ => false

/-- The pool as it was then. -/
def pool? : Note β → Option (Pool β)
  | .made _ _ _ _ p | .clock _ p => p
  | _ => none

end Note

namespace Site

variable {usable : β → Bool} {name : String} {t : Ticket} {s s' : Site β} {p q p' : Pool β}
  {k : Checkout β} {now : Nat} {notes : List (Note β)}

/-! ### What keeps a connection from being used again -/

/-- The connection has not reached the lifetime, if there is one. -/
def Young (p : Pool β) (k : Checkout β) (now : Nat) : Prop :=
  p.config.lifetime = 0 ∨ now - k.created < p.config.lifetime

/-- Nothing about the connection keeps it from being used again. -/
structure Fit (usable : β → Bool) (p : Pool β) (k : Checkout β) (now : Nat) : Prop where
  sound : k.broken = false
  usable : usable k.backend = true
  young : Young p k now

/-- A connection has reached the lifetime exactly if it is not young. -/
theorem isExpired_eq_false_iff : p.isExpired k now = false ↔ Young p k now := by
  unfold Pool.isExpired Young
  by_cases h : p.config.lifetime = 0 <;> simp [h]

/-- A connection is not barred exactly if it is fit and its pool is open. -/
theorem not_barred_iff : ¬Barred usable p k now ↔ Fit usable p k now ∧ p.closed = false := by
  unfold Barred
  rw [not_or, not_or, not_or, Bool.not_eq_true, Bool.not_eq_false, Bool.not_eq_true,
    Bool.not_eq_true, isExpired_eq_false_iff]
  exact ⟨fun ⟨hsound, husable, hyoung, hopen⟩ => ⟨⟨hsound, husable, hyoung⟩, hopen⟩,
    fun ⟨⟨hsound, husable, hyoung⟩, hopen⟩ => ⟨hsound, husable, hyoung, hopen⟩⟩

/-! ### The permit -/

/-- A permit has come back: the errand that waited longest has it, or else nobody. -/
structure HandsOn (q p' : Pool β) : Prop where
  free : q.queue = [] → p'.permits = q.permits + 1
  granted : ∀ u rest, q.queue = u :: rest →
    p'.permits = q.permits ∧ p'.queue = rest ∧ p'.stage? u = some .granted

/-- It does where it is put back. -/
theorem handsOn_putPermit {r : Pool β} (hqueue : r.queue = q.queue)
    (hpermits : r.permits = q.permits) : HandsOn q r.putPermit.1 := by
  refine ⟨fun hq => ?_, fun u rest hq => ?_⟩
  · unfold Pool.putPermit
    rw [hqueue.trans hq]
    exact congrArg (· + 1) hpermits
  · have hr : r.queue = u :: rest := hqueue.trans hq
    unfold Pool.putPermit
    rw [hr]
    exact ⟨hpermits, rfl, Pool.stage?_setStage_self _ u _⟩

/-! ### The two fates -/

/-- The connection was reset and is the last of the idle ones, as old as it was. -/
structure Requeued (k : Checkout β) (notes : List (Note β)) (q p' : Pool β) : Prop where
  reset : ∃ a x, notes = [.made .reset k.backend (.ok a) x (some q)] ∧
    p'.idle = q.idle ++ [⟨x, k.created⟩]
  live : p'.live = q.live

/-- The connection was closed, which was the last that was done with it, and its slot is free. -/
structure ClosedOnce (notes : List (Note β)) (q p' : Pool β) : Prop where
  once : notes.countP Note.isClose = 1
  last : ∃ x answer x', notes.getLast? = some (.made .close x answer x' (some q))
  live : p'.live + 1 = q.live
  idle : p'.idle = q.idle

/-- The errand has its slot and its permit. -/
def Holding (t : Ticket) (p : Pool β) : Prop :=
  ∃ stage, p.stage? t = some stage ∧ stage.slots = 1 ∧ stage.permits = 1

/-- What has become of a connection `k` that was given back at the time `now` to the pool `p`. -/
structure OneFate (usable : β → Bool) (t : Ticket) (k : Checkout β) (now : Nat) (p : Pool β)
    (notes : List (Note β)) (q p' : Pool β) : Prop where
  one : Xor (Requeued k notes q p') (ClosedOnce notes q p')
  /-- It is idle exactly if it was fit, its reset succeeded and the pool was still open then. -/
  requeued_iff : Requeued k notes q p' ↔ Fit usable p k now ∧
    ∃ a x r, .made .reset k.backend (.ok a) x (some r) ∈ notes ∧ r.closed = false
  resets : notes.countP Note.isReset ≤ 1
  /-- What could not be used again when the return started was not reset. -/
  unreset : ¬(Fit usable p k now ∧ p.closed = false) → notes.countP Note.isReset = 0
  /-- The start of the return changes no count. -/
  started : (p.startReturn t now (usable k.backend)).live = p.live ∧
    (p.startReturn t now (usable k.backend)).idle = p.idle
  /-- A reset behind which the connection is closed changes no count. -/
  spoilt : ClosedOnce notes q p' → ∀ answer x r,
    .made .reset k.backend answer x (some r) ∈ notes →
      (r.resetDone t x answer.toBool).1.live = r.live ∧
      (r.resetDone t x answer.toBool).1.idle = r.idle
  /-- During all calls the errand has its slot and its permit. -/
  holds : ∀ note ∈ notes, ∀ r, note.pool? = some r → Holding t r
  gone : p'.stage? t = none
  handsOn : HandsOn q p'

/-- A connection has at most one of the two fates. -/
theorem Requeued.not_closedOnce (h : Requeued k notes q p') : ¬ClosedOnce notes q p' := fun h' => by
  have hlive := h.live
  have hlive' := h'.live
  omega

/-- The start of a return moves the errand and nothing else. -/
theorem startReturn_counts (p : Pool β) (t : Ticket) (now : Nat) (answer : Bool) :
    (p.startReturn t now answer).live = p.live ∧ (p.startReturn t now answer).idle = p.idle := by
  unfold Pool.startReturn
  split
  · exact ⟨rfl, rfl⟩
  · exact ⟨rfl, rfl⟩
  · exact ⟨rfl, rfl⟩

/-- A reset that failed or came too late moves the errand and nothing else. -/
theorem resetDone_counts {x : β} {succeeded : Bool} (h : succeeded = false ∨ q.closed = true) :
    (q.resetDone t x succeeded).1.live = q.live ∧ (q.resetDone t x succeeded).1.idle = q.idle := by
  have hnot : ¬(succeeded && !q.closed) = true := by
    rcases h with h | h <;> simp [h]
  unfold Pool.resetDone
  split
  · rw [if_neg hnot]
    exact ⟨rfl, rfl⟩
  · exact ⟨rfl, rfl⟩

/-- The end of a close hands the permit on. -/
theorem closeDone_handsOn (ht : q.stage? t = some (.closing k)) : HandsOn q (q.closeDone t).1 := by
  rw [Pool.closeDone, ht]
  exact handsOn_putPermit rfl rfl

/-- The end of a reset hands the permit on where the connection becomes idle. -/
theorem resetDone_handsOn (ht : q.stage? t = some (.resetting k)) (hopen : q.closed = false)
    (x : β) : HandsOn q (q.resetDone t x true).1 := by
  have hdone : (true && !q.closed) = true := by
    rw [hopen]
    rfl
  rw [Pool.resetDone, ht]
  dsimp only
  rw [if_pos hdone]
  exact handsOn_putPermit rfl rfl

/-- A connection that was closed has this fate only. -/
theorem ClosedOnce.one (h : ClosedOnce notes q p') :
    Xor (Requeued k notes q p') (ClosedOnce notes q p') :=
  .inr ⟨h, fun hrequeued => hrequeued.not_closedOnce h⟩

/-- A close behind which the slot is free is the one fate, whether the connection was reset before
it or not. -/
theorem closedOnce_of_freed {answer : Except Error Answer} {x x' : β} (resets : List (Note β))
    (hresets : resets.countP Note.isClose = 0) (h : Freed t q p') :
    ClosedOnce (resets ++ [.made .close x answer x' (some q)]) q p' where
  once := by
    rw [List.countP_append, hresets]
    rfl
  last := ⟨x, answer, x', List.getLast?_concat⟩
  live := h.live
  idle := h.idle

/-- During a call the errand stands where it does in the pool behind it. -/
theorem holds_of_holding {c : Call} {x x' : β} {answer : Except Error Answer} {stage : Stage β}
    (ht : q.stage? t = some stage) (hslot : stage.slots = 1) (hpermit : stage.permits = 1) :
    ∀ r, (Note.made c x answer x' (some q)).pool? = some r → Holding t r :=
  fun _ hr => Option.some.inj hr ▸ ⟨stage, ht, hslot, hpermit⟩

/-- **One fate.** -/
theorem Passage.oneFate (h : Passage usable t k (.clock now (some p) :: notes) p') :
    ∃ q, OneFate usable t k now p notes q p' := by
  cases h with
  | @closed _ _ q answer x _ _ hbooks ht =>
      have hfreed := closeDone_freed hbooks ht
      have hclosed : ClosedOnce [.made .close k.backend answer x (some q)] q (q.closeDone t).1 :=
        closedOnce_of_freed [] rfl hfreed
      refine ⟨q, {
        one := hclosed.one
        requeued_iff := iff_of_false (fun h => h.not_closedOnce hclosed) ?_
        resets := Nat.zero_le 1
        unreset := fun _ => rfl
        started := startReturn_counts p t now _
        spoilt := fun _ _ _ _ hmem => absurd hmem (by simp)
        holds := List.forall_mem_singleton.mpr (holds_of_holding ht rfl rfl)
        gone := hfreed.gone
        handsOn := closeDone_handsOn ht }⟩
      rintro ⟨-, a, x, r, hmem, -⟩
      exact absurd hmem (by simp)
  | @closedAfterReset _ _ p₂ q reset answer' x x' _ hfit ht₂ hspoilt hbooks ht =>
      have hfreed := closeDone_freed hbooks ht
      have hclosed : ClosedOnce [.made .reset k.backend reset x (some p₂),
          .made .close x answer' x' (some q)] q (q.closeDone t).1 :=
        closedOnce_of_freed [_] rfl hfreed
      have hreset : ∀ {answer : Except Error Answer} {y : β} {r : Pool β},
          Note.made .reset k.backend answer y (some r) ∈ [.made .reset k.backend reset x (some p₂),
            .made .close x answer' x' (some q)] → answer = reset ∧ r = p₂ := fun hmem => by
        rcases List.mem_pair.mp hmem with heq | heq
        · injection heq with _ _ hanswer _ hpool
          exact ⟨hanswer, Option.some.inj hpool⟩
        · exact absurd heq (by simp)
      refine ⟨q, {
        one := hclosed.one
        requeued_iff := iff_of_false (fun h => h.not_closedOnce hclosed) ?_
        resets := Nat.le_refl 1
        unreset := fun hnot => absurd (not_barred_iff.mp hfit) hnot
        started := startReturn_counts p t now _
        spoilt := fun _ answer y r hmem => ?_
        holds := List.forall_mem_cons.mpr ⟨holds_of_holding ht₂ rfl rfl,
          List.forall_mem_singleton.mpr (holds_of_holding ht rfl rfl)⟩
        gone := hfreed.gone
        handsOn := closeDone_handsOn ht }⟩
      · rintro ⟨-, a, y, r, hmem, hopen⟩
        obtain ⟨rfl, rfl⟩ := hreset hmem
        rcases hspoilt with ⟨e, he⟩ | hlate
        · exact absurd he (by simp)
        · exact absurd (hopen.symm.trans hlate) (by simp)
      · obtain ⟨rfl, rfl⟩ := hreset hmem
        exact resetDone_counts (hspoilt.imp_left fun ⟨e, he⟩ => he ▸ rfl)
  | @parked _ _ q a x _ hfit hopen hbooks ht =>
      have hparks := resetDone_parks hbooks ht hopen x
      have hrequeued : Requeued k [.made .reset k.backend (.ok a) x (some q)] q
          (q.resetDone t x true).1 := ⟨⟨a, x, rfl, hparks.idle⟩, hparks.live⟩
      exact ⟨q, {
        one := .inl ⟨hrequeued, hrequeued.not_closedOnce⟩
        requeued_iff := iff_of_true hrequeued
          ⟨(not_barred_iff.mp hfit).1, a, x, q, List.mem_singleton_self _, hopen⟩
        resets := Nat.le_refl 1
        unreset := fun hnot => absurd (not_barred_iff.mp hfit) hnot
        started := startReturn_counts p t now _
        spoilt := fun h => absurd h hrequeued.not_closedOnce
        holds := List.forall_mem_singleton.mpr (holds_of_holding ht rfl rfl)
        gone := hparks.gone
        handsOn := resetDone_handsOn ht hopen x }⟩

/-- **Any return that runs to its end.** -/
theorem giveBack_one_fate {start : Databases β} (hfresh : start.Fresh)
    (hreached : start.Reaches s.pools) (hp : s.pools.get? name = some p)
    (hheld : p.stage? t = some (.out k) ∨ p.stage? t = some (.dropped k))
    (h : (host usable name t).giveBack t s (some ()) s') :
    ∃ now notes q p', s'.log = s.log ++ .clock now (some p) :: notes ∧
      s'.pools.get? name = some p' ∧ OneFate usable t k now p notes q p' := by
  have hs : s.Has name p := ⟨hp, (Databases.accounted_of_reaches hfresh hreached hp).1⟩
  obtain ⟨now, notes, p', hlog, hs', ⟨-, hpassage⟩ | ⟨_, hnone, -⟩⟩ := giveBack_proceeds hs hheld h
  · obtain ⟨q, hfate⟩ := hpassage.oneFate
    exact ⟨now, notes, q, p', hlog.trans (List.append_assoc _ _ _), hs'.1, hfate⟩
  · exact absurd hnone (by simp)

/-! ### A pool that is closed during a reset -/

/-- The sample pool when another errand closes it while the connection is being reset. -/
def sampleShutting : Pool Unit := ((samplePool.startReturn 0 0 true).close 1).1

/-- The pool when the reset has succeeded. -/
def sampleLate : Pool Unit := (sampleShutting.resetDone 0 () true).1

/-- The pool when the connection has been closed. -/
def sampleGone : Pool Unit := (sampleLate.closeDone 0).1

/-- The connection is reset while the pool is closed, and then closed, which fails. -/
theorem sampleGone_runs :
    (host (fun _ => true) "main" 0).giveBack 0 (sampleSite samplePool []) (some ())
      (sampleSite sampleGone [.clock 0 (some samplePool),
        .made .reset () (.ok .done) () (some sampleShutting),
        .made .close () (.error .task) () (some sampleLate)]) := by
  have hothers : Databases.Others "main" 0
      (sampleSite (samplePool.startReturn 0 0 true) []).pools
      (sampleSite sampleShutting []).pools :=
    .single ⟨.work "main" (.close 1), fun p hp => Option.some.inj hp ▸ rfl,
      by simp [Databases.Move.IsOf, Pool.Piece.ticket], rfl⟩
  have hreset : (host (fun _ => true) "main" 0).resetReturned 0
      (sampleSite (samplePool.startReturn 0 0 true) [.clock 0 (some samplePool)]) (some ())
      (sampleSite sampleLate [.clock 0 (some samplePool),
        .made .reset () (.ok .done) () (some sampleShutting)]) :=
    .inl ⟨some (.resetting ⟨(), 0, false⟩), _, stage?_runs rfl rfl,
      .inl ⟨(.ok .done, ()), _, ⟨_, hothers, .inl ⟨.ok .done, (),
        fun a ha => Except.ok.inj ha ▸ trivial, rfl, rfl⟩⟩, rfl, rfl⟩⟩
  have hclose : (host (fun _ => true) "main" 0).closeReturned 0
      (sampleSite sampleLate [.clock 0 (some samplePool),
        .made .reset () (.ok .done) () (some sampleShutting)]) (some ())
      (sampleSite sampleGone [.clock 0 (some samplePool),
        .made .reset () (.ok .done) () (some sampleShutting),
        .made .close () (.error .task) () (some sampleLate)]) :=
    .inl ⟨some (.closing ⟨(), 0, false⟩), _, stage?_runs rfl rfl,
      .inl ⟨(.error .task, ()), _, call_runs rfl (by simp) () (),
        .inl ⟨(), _, ⟨rfl, rfl⟩, rfl, rfl⟩⟩⟩
  exact .inl ⟨some (.out ⟨(), 0, false⟩), _, stage?_runs rfl rfl,
    .inl ⟨true, _, ⟨rfl, rfl⟩, .inl ⟨0, _, ⟨0, rfl, rfl⟩, .inl ⟨(), _, ⟨rfl, rfl⟩,
      .inl ⟨(), _, hreset, hclose⟩⟩⟩⟩⟩

/-- The reset has succeeded, and the connection is closed all the same. -/
theorem giveBack_one_fate_sampleGone :
    Databases.samplePools.Fresh ∧
    Databases.samplePools.Reaches (sampleSite samplePool []).pools ∧
    (sampleSite samplePool []).pools.get? "main" = some samplePool ∧
    samplePool.stage? 0 = some (.out ⟨(), 0, false⟩) ∧
    ∃ now notes q p', [.clock 0 (some samplePool),
        .made .reset () (.ok .done) () (some sampleShutting),
        .made .close () (.error .task) () (some sampleLate)] =
          Note.clock now (some samplePool) :: notes ∧
      OneFate (fun _ => true) 0 ⟨(), 0, false⟩ now samplePool notes q p' ∧
      p'.live = 0 ∧ p'.idle.length = 0 := by
  have hreached : Databases.samplePools.Reaches (sampleSite samplePool []).pools :=
    .move (.move .refl (.work "main" (.ask 0)) fun p hp => Option.some.inj hp ▸ rfl)
      (.work "main" (.opened 0 () 0)) fun _ _ => trivial
  obtain ⟨now, notes, q, p', hlog, hp', hfate⟩ := giveBack_one_fate Databases.samplePools_fresh
    hreached rfl (.inl rfl) sampleGone_runs
  obtain rfl := Option.some.inj hp'
  exact ⟨Databases.samplePools_fresh, hreached, rfl, rfl, now, notes, q, _, hlog, hfate, rfl, rfl⟩

end Site

end TableGateway
