import TableGateway.Proofs.Pool.Overcount

/-!
# Slots that go astray

Two waits are left out by `Pool.Losable`: the return of a dropped connection may be lost before it
has started, and the closing of a pool may be lost while it closes one connection after the other.
Here errands are lost at these waits too. A return that has not started takes its permit back and
leaves its slot behind. A closing gives back the slot of the connection that it is closing just
then, and leaves behind the slots of those that it has not come to. Nobody ever gives these slots
back.

Apart from the counter such a loss is like any other one: a pool can become the same, except for its
counter, when no errand is lost at these two waits. So the counter is too high by exactly the slots
that were left behind.

## Conventions

In `Loses p₀ p r m` the numbers say how many slots were left behind on the way, by returns and by
closings. A connection exists while it is idle, with its holder, being opened, on its way back, or
taken from a closed pool by the errand that closes it.

## Main results

* `Pool.Loses.proper`: what losing errands anywhere comes to.
* `Pool.Loses.live`: how far the counter is off.
-/

namespace TableGateway

variable {β : Type}

namespace Pool

/-! ### Errands that are lost anywhere -/

/-- Whether a piece of work can come next where errands may be lost at any wait. -/
def Arises (p : Pool β) : Piece β → Prop
  | .ask t | .close t => p.stage? t = none
  | _ => True

/-- The slots that a piece of work leaves behind because the return of a dropped connection is lost
before it has started. -/
def unreturned (p : Pool β) : Piece β → Nat
  | .cancel t =>
    match p.stage? t with
    | some (.dropped _) => 1
    | _ => 0
  | _ => 0

/-- The slots that a piece of work leaves behind because the closing of the pool is lost. -/
def undone (p : Pool β) : Piece β → Nat
  | .cancel t =>
    match p.stage? t with
    | some (.draining _ rest) => rest.length
    | _ => 0
  | _ => 0

/-- What a pool can become in any pieces of work, with any losses, and how many slots were left
behind by returns and by closings. -/
inductive Loses (p₀ : Pool β) : Pool β → Nat → Nat → Prop where
  | refl : Loses p₀ p₀ 0 0
  | work {p : Pool β} {r m : Nat} {e : Piece β} (h : Loses p₀ p r m) (he : p.Arises e) :
      Loses p₀ (p.work e) (r + p.unreturned e) (m + p.undone e)

/-- What a pool can become in pieces of work that are possible. -/
def Becomes : Pool β → Pool β → Prop :=
  Relation.ReflTransGen fun p p' => ∃ e, p.Possible e ∧ p' = p.work e

variable {p p' p₀ q : Pool β} {t u : Ticket} {s : Stage β} {c : Checkout β} {d : Parked β}
  {rest : List (Parked β)} {e : Piece β} {n r m r' m' : Nat}

/-- One run after the other. -/
theorem Loses.trans (h : Loses p₀ p r m) (h' : Loses p p' r' m') :
    Loses p₀ p' (r + r') (m + m') := by
  induction h' with
  | refl => exact h
  | work _ he ih =>
      rw [← Nat.add_assoc, ← Nat.add_assoc]
      exact ih.work he

/-- Where nothing is lost that must not be, nothing is left behind. -/
theorem strays_of_possible (he : p.Possible e) : p.unreturned e = 0 ∧ p.undone e = 0 := by
  cases e with
  | cancel t =>
      simp only [unreturned, undone]
      cases ht : p.stage? t with
      | none => exact ⟨rfl, rfl⟩
      | some s =>
          cases s with
          | dropped | draining => exact absurd (he _ ht) id
          | _ => exact ⟨rfl, rfl⟩
  | _ => exact ⟨rfl, rfl⟩

/-- What is possible arises. -/
theorem arises_of_possible (he : p.Possible e) : p.Arises e := by
  cases e with
  | ask | close => exact he
  | _ => trivial

/-- What arises is possible, or it is one of the two losses. -/
theorem arises_cases (he : p.Arises e) :
    p.Possible e ∨ (∃ t c, e = .cancel t ∧ p.stage? t = some (.dropped c)) ∨
      ∃ t d rest, e = .cancel t ∧ p.stage? t = some (.draining d rest) := by
  cases e with
  | cancel t =>
      cases ht : p.stage? t with
      | none => exact .inl fun s hs => absurd (ht.symm.trans hs) (by simp)
      | some s =>
          cases s with
          | dropped c => exact .inr (.inl ⟨t, c, rfl, ht⟩)
          | draining d rest => exact .inr (.inr ⟨t, d, rest, rfl, ht⟩)
          | _ =>
              refine .inl fun s hs => ?_
              obtain rfl := Option.some.inj (ht.symm.trans hs)
              trivial
  | ask | close => exact .inl he
  | _ => exact .inl trivial

/-- The errands of others stand where they stood, or are granted a permit. -/
theorem arises_beside (he : p.Arises e) (hu : u ≠ e.ticket) : Beside p (p.work e) u := by
  have hend : ∀ {t}, u ≠ t → (p.endErrand t).stage? u = p.stage? u := fun hut => by
    rw [stage?_endErrand, if_neg hut]
  rcases arises_cases he with hpossible | ⟨t, c, rfl, ht⟩ | ⟨t, d, rest, rfl, ht⟩
  · exact (work_effect hpossible (keepsNames_unnamed p e)).beside hu
  · simp only [work, cancel, ht]
    exact .of_putPermit (hend hu) rfl
  · simp only [work, cancel, ht]
    exact .inl (hend hu)

/-! ### Losing them without a trace -/

namespace Becomes

/-- One piece of work. -/
theorem of_work (he : p.Possible e) : Becomes p (p.work e) := .single ⟨e, he, rfl⟩

/-- The books stay right. By induction over the pieces of work. -/
theorem accounted (h : Becomes p q) (hp : p.Accounted) :
    q.Accounted ∧ q.config = p.config := by
  induction h with
  | refl => exact ⟨hp, rfl⟩
  | tail _ hstep ih =>
      obtain ⟨e, he, rfl⟩ := hstep
      have hleads := ih.1.work he
      exact ⟨hleads.accounted, hleads.config.trans ih.2⟩

/-- A dropped connection can be returned in vain: it is to be closed, and then the return is lost,
with the slot and the permit. -/
theorem unreturned (ht : p.stage? t = some (.dropped c)) :
    Becomes p (p.endErrand t).vacate.putPermit.1 := by
  have hstart : p.work (.startReturn t 0 false) = p.setStage t (.closing c) := by
    simp only [work, startReturn, ht]
    rw [if_neg (by simp [mayReuse])]
  have hend : (p.setStage t (.closing c)).endErrand t = p.endErrand t :=
    congrArg (fun errands => ({ p with errands := errands } : Pool β))
      (Registry.erase_insert p.errands t (.closing c))
  have hcancel : (p.setStage t (.closing c)).work (.cancel t) =
      (p.endErrand t).vacate.putPermit.1 := by
    simp only [work, cancel, stage?_setStage_self, hend]
  have hlosable : (p.setStage t (.closing c)).Possible (.cancel t) := fun s hs => by
    obtain rfl := Option.some.inj ((stage?_setStage_self p t _).symm.trans hs)
    trivial
  have hfirst : Becomes p (p.work (.startReturn t 0 false)) := .of_work trivial
  rw [hstart] at hfirst
  rw [← hcancel]
  exact hfirst.trans (Becomes.of_work hlosable)

/-- The closing of a pool can come to its end. By induction over the connections that are left. -/
theorem undone (ht : p.stage? t = some (.draining d rest)) :
    Becomes p { p.endErrand t with live := p.live - (rest.length + 1) } := by
  induction rest generalizing p d with
  | nil =>
      have hdrained : p.work (.drained t) = (p.endErrand t).vacate := by
        simp only [work, drained, ht]
      have hstep : Becomes p (p.work (.drained t)) := .of_work trivial
      rwa [hdrained] at hstep
  | cons d' rest ih =>
      have hdrained : p.work (.drained t) = p.vacate.setStage t (.draining d' rest) := by
        simp only [work, drained, ht]
      have hstep : Becomes p (p.work (.drained t)) := .of_work trivial
      rw [hdrained] at hstep
      have hrest := ih (p := p.vacate.setStage t (.draining d' rest)) (stage?_setStage_self _ t _)
      have hlive : p.live - 1 - (rest.length + 1) = p.live - (rest.length + 1 + 1) := by omega
      have hend : (p.errands.insert t (.draining d' rest)).erase t = p.errands.erase t :=
        Registry.erase_insert _ _ _
      have hsame : ({ (p.vacate.setStage t (.draining d' rest)).endErrand t with
          live := (p.vacate.setStage t (.draining d' rest)).live - (rest.length + 1) } : Pool β) =
          { p.endErrand t with live := p.live - (rest.length + 1 + 1) } :=
        congrArg₂ (fun live errands => ({ p with live := live, errands := errands } : Pool β))
          hlive hend
      rw [hsame] at hrest
      exact hstep.trans hrest

end Becomes

/-- **One piece of work.** Whatever arises in a pool with a counter that is too high leads where
possible pieces of work lead in the pool itself, with a counter that is too high by what was left
behind as well. -/
theorem overcounted_arises (hp : p.Accounted) (he : p.Arises e) :
    ∃ q, Becomes p q ∧
      (p.overcounted n).work e = q.overcounted (n + (p.unreturned e + p.undone e)) := by
  rcases arises_cases he with hpossible | ⟨t, c, rfl, ht⟩ | ⟨t, d, rest, rfl, ht⟩
  · obtain ⟨hr, hm⟩ := strays_of_possible hpossible
    refine ⟨p.work e, .of_work hpossible, ?_⟩
    rw [hr, hm]
    exact overcounted_work hpossible fun hv => hp.live_pos_of_vacates hpossible hv
  · refine ⟨_, .unreturned ht, ?_⟩
    have hpos : 0 < p.live := hp.live_pos ht Nat.one_pos
    have hlive : p.live + n = p.live - 1 + (n + 1) := by omega
    simp only [work, cancel, overcounted_stage?, ht, unreturned, undone]
    rw [← overcounted_putPermit]
    exact congrArg (fun live => ({ p.endErrand t with live := live } : Pool β).putPermit.1) hlive
  · refine ⟨_, .undone ht, ?_⟩
    have hslots : 0 + 0 + 0 + (rest.length + 1) ≤ p.live := hp.slots_le_live ht
    have hlive : p.live + n - 1 = p.live - (rest.length + 1) + (n + (0 + rest.length)) := by omega
    simp only [work, cancel, overcounted_stage?, ht, unreturned, undone]
    exact congrArg (fun live => ({ p.endErrand t with live := live } : Pool β)) hlive

/-- **Losing errands anywhere.** It leads where possible pieces of work lead, except that the
counter is too high by the slots that were left behind. By induction over the pieces of work. -/
theorem Loses.proper (h : Loses (p₀.overcounted n) p r m) (hp₀ : p₀.Accounted) :
    ∃ q, Becomes p₀ q ∧ p = q.overcounted (n + r + m) := by
  induction h with
  | refl => exact ⟨p₀, .refl, rfl⟩
  | @work _ r m e _ he ih =>
      obtain ⟨q, hq, rfl⟩ := ih
      obtain ⟨q', hq', hwork⟩ := overcounted_arises (n := n + r + m) (hq.accounted hp₀).1 he
      have hsum : n + r + m + (q.unreturned e + q.undone e) =
          n + (r + q.unreturned e) + (m + q.undone e) := by omega
      exact ⟨q', hq.trans hq', hwork.trans (congrArg q'.overcounted hsum)⟩

/-- From a pool that was created. -/
theorem Loses.of_create {config : Config} {dialect : Dialect}
    (hcreate : create config dialect = .ok p₀) (h : Loses p₀ p r m) :
    ∃ q, Becomes p₀ q ∧ q.Accounted ∧ q.config = config ∧ p = q.overcounted (r + m) := by
  obtain ⟨rfl, -⟩ := create_eq_ok hcreate
  have hzero : Loses ((new config dialect).overcounted 0) p r m := h
  obtain ⟨q, hq, heq⟩ := hzero.proper (.new config dialect)
  obtain ⟨haccounted, hconfig⟩ := hq.accounted (.new config dialect)
  rw [Nat.zero_add] at heq
  exact ⟨q, hq, haccounted, hconfig, heq⟩

/-- What is possible in a pool can be done where its counter is too high. -/
theorem Becomes.overcounted (h : Becomes p q) (hp : p.Accounted) (n : Nat) :
    Loses (p.overcounted n) (q.overcounted n) 0 0 := by
  induction h with
  | refl => exact .refl
  | @tail q _ hrun hstep ih =>
      obtain ⟨e, he, rfl⟩ := hstep
      have hq : q.Accounted := (Becomes.accounted hrun hp).1
      obtain ⟨hr, hm⟩ := strays_of_possible he
      have hwork := ih.work (e := e) (arises_of_possible he)
      have hr' : (q.overcounted n).unreturned e = 0 := hr
      have hm' : (q.overcounted n).undone e = 0 := hm
      rw [hr', hm', overcounted_work he fun hv => hq.live_pos_of_vacates he hv] at hwork
      exact hwork

/-! ### How far the counter is off -/

/-- The connections that the pool still comes by: those that are idle, with their holders, being
opened, or on their way back. -/
def attended (p : Pool β) : Nat :=
  p.idle.length + p.total Stage.checkedOut + p.total Stage.beingOpened + p.total Stage.onItsWay

/-- The connections that exist. -/
def existing (p : Pool β) : Nat := p.attended + p.total Stage.undrained

/-- In a pool whose books are right, the counter is what exists. -/
theorem Accounted.live_eq_existing (h : p.Accounted) : p.live = p.existing := by
  have hlive := h.live
  have hslots := Accounted.total_slots p
  rw [existing, attended]
  omega

/-- A counter that is too high does not change what exists. -/
@[simp] theorem overcounted_existing (p : Pool β) (n : Nat) :
    (p.overcounted n).existing = p.existing := rfl

/-- **How far the counter is off.** It is what exists, and the slots that were left behind. -/
theorem Loses.live {config : Config} {dialect : Dialect} (hcreate : create config dialect = .ok p₀)
    (h : Loses p₀ p r m) : p.live = p.existing + (r + m) := by
  obtain ⟨q, -, hq, -, rfl⟩ := h.of_create hcreate
  exact congrArg (· + (r + m)) hq.live_eq_existing

end Pool

end TableGateway
