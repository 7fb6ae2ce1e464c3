import Mathlib.Data.Fintype.EquivFin
import TableGateway.Proofs.Pool.Strays

/-!
# Returns that are lost

The return of a dropped connection takes the slot of the connection into its care when it starts,
and from then on gives it back wherever it is lost. Lost before, it leaves the slot behind, and its
permit goes to somebody else. An open pool can always fill up with connections, so one slot that was
left behind is enough for the counter to exceed the size.

## Main results

* `Pool.settles_iff`: how the return of a connection ends.
* `Pool.Accounted.fills`: an open pool can fill up.
* `Pool.Loses.returns`: how far the counter is off, and when it can exceed the size.
-/

namespace TableGateway

namespace Pool

variable {β : Type} {p p' p₀ : Pool β} {t : Ticket} {s : Stage β} {e : Piece β} {r m : Nat}

/-! ### A pool that fills up -/

/-- There is always a new errand. -/
theorem exists_new (p : Pool β) : ∃ t, p.stage? t = none := by
  obtain ⟨t, ht⟩ := Infinite.exists_notMem_finset p.errands.keys.toFinset
  have hnew : ¬ (p.stage? t).isSome := fun hsome =>
    ht (List.mem_toFinset.mpr (Registry.mem_keys_iff.mpr hsome))
  exact ⟨t, Option.not_isSome_iff_eq_none.mp hnew⟩

/-- Whoever has a permit and goes on does not wait to go on any more. -/
theorem proceed_admitted {q : Pool β} {k : Nat}
    (h : ∀ s, (q.setStage t s).total Stage.admitted = k + s.admitted) :
    (q.proceed t).1.total Stage.admitted = k ∧ (q.proceed t).1.permits = q.permits ∧
      (q.proceed t).1.closed = q.closed := by
  unfold proceed
  split
  · exact ⟨h (.out ⟨_, _, false⟩), rfl, rfl⟩
  · exact ⟨h .opening, rfl, rfl⟩

/-- Where no permit is free or unused, all slots are taken. -/
theorem Accounted.full (h : p.Accounted) (hfree : p.permits + p.total Stage.admitted = 0) :
    p.live = p.config.size := by
  have hlive := h.live
  have hslots := Accounted.total_slots p
  have hsum := h.permits
  have hpermits := Accounted.total_permits p
  have hbounded := h.bounded
  omega

/-- While a permit is free or unused, somebody can go on with it: a new errand asks, or one that was
granted the permit looks again. -/
theorem exists_admission (hp : p.Sound) (hopen : p.closed = false)
    (hpos : 0 < p.permits + p.total Stage.admitted) :
    ∃ e, p.Possible e ∧ (p.work e).closed = false ∧
      (p.work e).permits + (p.work e).total Stage.admitted + 1 =
        p.permits + p.total Stage.admitted := by
  cases hfree : p.permits with
  | succ k =>
      obtain ⟨t, ht⟩ := exists_new p
      have hask : p.work (.ask t) = (({ p with permits := k } : Pool β).proceed t).1 := by
        simp only [work, ask, hopen, hfree]
        rfl
      obtain ⟨hadmitted, hpermits, hclosed⟩ :=
        proceed_admitted (q := { p with permits := k }) (total_setStage_new Stage.admitted ht)
      refine ⟨.ask t, ht, ?_, ?_⟩
      · rw [hask, hclosed]
        exact hopen
      · rw [hask, hadmitted, hpermits]
        exact Nat.add_right_comm k _ 1
  | zero =>
      obtain ⟨t, ht⟩ : ∃ t, p.stage? t = some .granted := by
        by_contra hnone
        have hzero : p.total Stage.admitted = 0 := total_eq_zero hp.distinct fun t s hs => by
          cases s with
          | granted => exact absurd ⟨t, hs⟩ hnone
          | _ => rfl
        omega
      have hresume : p.work (.resume t) = (p.proceed t).1 := by
        simp only [work, resume, ht, hopen]
        rfl
      obtain ⟨hadmitted, hpermits, hclosed⟩ := proceed_admitted (q := p) (t := t)
        (k := p.total Stage.admitted - 1) fun s => by
          have htotal : (p.setStage t s).total Stage.admitted + 1 =
              p.total Stage.admitted + s.admitted := total_setStage Stage.admitted ht s
          omega
      refine ⟨.resume t, trivial, ?_, ?_⟩
      · rw [hresume, hclosed]
        exact hopen
      · rw [hresume, hadmitted, hpermits]
        omega

/-- **An open pool can fill up.** By induction over the permits that are free or unused. -/
theorem Accounted.fills (h : p.Accounted) (hopen : p.closed = false) :
    ∃ q, Becomes p q ∧ q.live = p.config.size := by
  obtain ⟨k, hk⟩ : ∃ k, p.permits + p.total Stage.admitted = k := ⟨_, rfl⟩
  induction k generalizing p with
  | zero => exact ⟨p, .refl, h.full hk⟩
  | succ k ih =>
      obtain ⟨e, he, hopen', hone⟩ := exists_admission h.sound hopen (by omega)
      have hleads := h.work he
      obtain ⟨q, hq, hfull⟩ := ih hleads.accounted hopen' (by omega)
      exact ⟨q, (Becomes.of_work he).trans hq, hfull.trans (congrArg Config.size hleads.config)⟩

/-! ### Returns -/

/-- A return is over: the connection is idle again, or its slot has been given back. -/
def Settles (p p' : Pool β) : Prop :=
  (∃ c, p'.idle = p.idle ++ [c]) ∧ p'.live = p.live ∨ p'.idle = p.idle ∧ p'.live + 1 = p.live

/-- An errand that returns a connection and leaves has settled the return, where the piece of work
is possible. By its effect. -/
theorem Effect.settles {ι : Type} {name : β → ι} {news : List (Event β)}
    (h : Effect name p t p' news) (hlive : 0 < p.live) (ht : p.stage? t = some s)
    (hs : 0 < s.onItsWay) (hgone : p'.stage? t = none) : p.Settles p' := by
  have hset : ∀ (q : Pool β) (s : Stage β), (q.setStage t s).stage? t ≠ none := fun q s h =>
    absurd ((stage?_setStage_self q t s).symm.trans h) (by simp)
  cases h with
  | nothing | shuts => exact absurd (ht.symm.trans hgone) (by simp)
  | queues | reuses | opens | moves | shutsIdle | drains => exact absurd hgone (hset _ _)
  | @parks c backend => exact .inl ⟨⟨_, putPermit_idle _⟩, putPermit_live _⟩
  | @leaves s' news ht' hleaves =>
      obtain rfl := Option.some.inj (ht.symm.trans ht')
      have hone : p.live - 1 + 1 = p.live := Nat.sub_add_cancel hlive
      refine .inr ⟨putPermit_idle _, ?_⟩
      rw [putPermit_live]
      cases hleaves with
      | granted | opening | discarded => exact absurd hs (Nat.lt_irrefl 0)
      | closed | resetting | closing => exact hone
  | withdraws ht' | refused _ ht' | drained ht' =>
      obtain rfl := Option.some.inj (ht.symm.trans ht')
      exact absurd hs (Nat.lt_irrefl 0)

/-- **How a return ends.** Whatever ends it settles it, except for its loss before it has
started. -/
theorem settles_iff (hlive : 0 < p.live) (ht : p.stage? t = some s) (hs : 0 < s.onItsWay)
    (he : p.Arises e) (hgone : (p.work e).stage? t = none) :
    p.Settles (p.work e) ↔ ¬ (e = .cancel t ∧ ∃ c, s = .dropped c) := by
  have hown : e.ticket = t := by
    by_contra hother
    rcases arises_beside he (Ne.symm hother) with hsame | ⟨-, hgranted⟩
    · exact absurd (ht.symm.trans (hsame.symm.trans hgone)) (by simp)
    · exact absurd (hgranted.symm.trans hgone) (by simp)
  rcases arises_cases he with hpossible | ⟨u, c, rfl, hu⟩ | ⟨u, d, rest, rfl, hu⟩
  · have heffect := work_effect hpossible (keepsNames_unnamed p e)
    rw [hown] at heffect
    refine iff_of_true (heffect.settles hlive ht hs hgone) ?_
    rintro ⟨rfl, c, rfl⟩
    exact hpossible _ ht
  · obtain rfl : u = t := hown
    obtain rfl := Option.some.inj (ht.symm.trans hu)
    refine iff_of_false ?_ fun h => h ⟨rfl, c, rfl⟩
    simp only [Settles, work, cancel, hu, putPermit_idle, putPermit_live]
    rintro (⟨⟨c', hidle⟩, -⟩ | ⟨-, hlive'⟩)
    · have hsame : p.idle = p.idle ++ [c'] := hidle
      exact absurd hsame (by simp)
    · exact absurd hlive' (Nat.succ_ne_self _)
  · obtain rfl : u = t := hown
    obtain rfl := Option.some.inj (ht.symm.trans hu)
    exact absurd hs (Nat.lt_irrefl 0)

/-- **Returns.** In every state that a pool reaches that was created, whatever errands are lost: the
counter is what exists and the slots that were left behind, what exists is no more than the size,
and all permits are free or held. The return of a connection ends with the connection idle again, or
with its slot given back, exactly if it is not lost before it has started. So the counter is what
exists exactly if no slot was left behind, and exactly then it never exceeds the size of an open
pool, whatever happens next without such a loss. -/
theorem Loses.returns {config : Config} {dialect : Dialect}
    (hcreate : create config dialect = .ok p₀) (h : Loses p₀ p r m) :
    p.live = p.existing + (r + m) ∧ p.existing ≤ config.size ∧
      p.permits + (p.total Stage.admitted + p.total Stage.checkedOut +
        p.total Stage.beingOpened + p.total Stage.onItsWay) = config.size ∧
      (∀ t s e, p.stage? t = some s → 0 < s.onItsWay → p.Arises e →
        (p.work e).stage? t = none →
          (p.Settles (p.work e) ↔ ¬ (e = .cancel t ∧ ∃ c, s = .dropped c))) ∧
      (p.live = p.existing ↔ r = 0 ∧ m = 0) ∧
      (p.closed = false →
        ((∀ p', Loses p p' 0 0 → p'.live ≤ config.size) ↔ r = 0 ∧ m = 0)) := by
  have hcount := h.live hcreate
  obtain ⟨q, -, hq, rfl, rfl⟩ := h.of_create hcreate
  have hlive := hq.live_eq_existing
  have hperm := hq.permits
  have hpermits := Accounted.total_permits q
  have hbounded := hq.bounded
  refine ⟨hcount, by rw [overcounted_existing]; omega, ?_, fun t s e ht hs he hgone => ?_, ?_,
    fun hopen => ⟨fun hall => ?_, fun hnone p' hlater => ?_⟩⟩
  · change q.permits + (q.total Stage.admitted + q.total Stage.checkedOut +
      q.total Stage.beingOpened + q.total Stage.onItsWay) = q.config.size
    omega
  · have hslots : 0 < s.slots := by
      simp only [Stage.slots]
      omega
    have hpos : 0 < q.live := hq.live_pos ht hslots
    exact settles_iff (Nat.add_pos_left hpos _) ht hs he hgone
  · rw [hcount, overcounted_existing]
    omega
  · obtain ⟨q', hbecomes, hfull⟩ := hq.fills hopen
    have hover : q'.live + (r + m) ≤ q.config.size := hall _ (hbecomes.overcounted hq (r + m))
    omega
  · obtain ⟨q', -, hq', hconfig, rfl⟩ := (h.trans hlater).of_create hcreate
    have hbounded' := hq'.bounded
    change q'.live + (r + 0 + (m + 0)) ≤ q.config.size
    rw [hnone.1, hnone.2, ← hconfig]
    exact hbounded'

/-- A connection of a pool of size one is dropped, and its return is lost before it has started. -/
def sampleLost : Pool Nat :=
  [.ask 0, .opened 0 7 0, .drop 0, .cancel 0].foldl work (new { size := 1 } Sqlite.dialect)

/-- The pool opens another one. -/
def sampleAgain : Pool Nat := [.ask 1, .opened 1 8 0].foldl work sampleLost

/-- What has become of the pool of size one, with one slot that was left behind. -/
theorem sampleAgain_loses : Loses (new { size := 1 } Sqlite.dialect) sampleAgain 1 0 :=
  have hnew := @Loses.refl Nat (new { size := 1 } Sqlite.dialect)
  have hout := (hnew.work (e := .ask 0) rfl).work (e := .opened 0 7 0) trivial
  have hlost := (hout.work (e := .drop 0) trivial).work (e := .cancel 0) trivial
  (hlost.work (e := .ask 1) rfl).work (e := .opened 1 8 0) trivial

/-- Nobody is left and the permit is free again, but the lost connection still counts: with the next
one there are two in a pool of size one. -/
theorem lost_return_overcounts :
    sampleLost.errands.keys = [] ∧ sampleLost.permits = 1 ∧ sampleLost.existing = 0 ∧
      sampleLost.live = 1 ∧ sampleAgain.existing = 1 ∧ sampleAgain.live = 2 ∧
      sampleAgain.config.size = 1 :=
  ⟨rfl, rfl, rfl, rfl, rfl, rfl, rfl⟩

/-- The counter is too high by the slot that was left behind. -/
theorem returns_sampleAgain :
    sampleAgain.live = sampleAgain.existing + (1 + 0) ∧
      ¬ (sampleAgain.live = sampleAgain.existing) :=
  have hcreate : create { size := 1 } Sqlite.dialect =
      .ok (new { size := 1 } Sqlite.dialect : Pool Nat) := rfl
  have hreturns := Loses.returns hcreate sampleAgain_loses
  ⟨hreturns.1, fun hright => absurd (hreturns.2.2.2.2.1.mp hright).1 Nat.one_ne_zero⟩

end Pool

end TableGateway
