import TableGateway.Proofs.Pool.Departures
import TableGateway.Proofs.Request.Site

/-!
# What becomes of a connection

Calls are made on a connection in order up to the first that fails, and then it is given back: it
is reset and becomes idle, or it is closed. Where this is given up at a wait, the loss of the errand
frees what it holds.

## Conventions

`k` is the connection of an errand, as it is when the calls begin or when they have ended. What the
log says of the pool is how it was when a call had ended, or when the time was asked for.

## Main results

* `Site.converse_run`: any calls.
* `Site.giveBack_proceeds`, `Site.giveBack_run`: any return.
-/

namespace TableGateway

variable {β γ : Type}

namespace Site

/-! ### Making calls -/

/-- On the connection `k` of the errand, calls were made in order up to the first that failed, and
left `k'`. The result is its error, or the last answer, which is `prior` if there was no call. -/
inductive Carried (t : Ticket) : List Call → Answer → Checkout β → List (Note β) →
    Except Error Answer → Checkout β → Prop where
  | done {prior : Answer} {k : Checkout β} : Carried t [] prior k [] (.ok prior) k
  | failed {c : Call} {rest : List Call} {prior : Answer} {k : Checkout β} {e : Error} {x : β}
      {p : Pool β} (hheld : p.stage? t = some (.out k)) :
      Carried t (c :: rest) prior k [.made c k.backend (.error e) x (some p)] (.error e)
        { k with backend := x }
  | next {c : Call} {rest : List Call} {prior a : Answer} {k k' : Checkout β} {x : β} {p : Pool β}
      {notes : List (Note β)} {r : Except Error Answer} (hheld : p.stage? t = some (.out k))
      (hfits : c.Fits a) (h : Carried t rest a { k with backend := x } notes r k') :
      Carried t (c :: rest) prior k (.made c k.backend (.ok a) x (some p) :: notes) r k'

/-- On the connection `k` of the errand, calls were made in order without a failure, and the next
one was given up. -/
inductive LeftOff (t : Ticket) : List Call → Checkout β → List (Note β) → Checkout β → Prop where
  | here {c : Call} {rest : List Call} {k : Checkout β} {x : β} :
      LeftOff t (c :: rest) k [.left c k.backend] { k with backend := x }
  | later {c : Call} {rest : List Call} {a : Answer} {k k' : Checkout β} {x : β} {p : Pool β}
      {notes : List (Note β)} (hheld : p.stage? t = some (.out k))
      (h : LeftOff t rest { k with backend := x } notes k') :
      LeftOff t (c :: rest) k (.made c k.backend (.ok a) x (some p) :: notes) k'

variable {usable : β → Bool} {name : String} {t : Ticket} {s s' : Site β} {p : Pool β}
  {k : Checkout β}

/-- A call on the connection of the errand ends and the next action follows, or it is given up. -/
theorem bind_callOn (hs : s.Has name p) (ht : p.stage? t = some (.out k)) {c : Call}
    {f : Except Error Answer → Attempt (Site β) γ} {r : Option γ}
    (h : ((host usable name t).callOn t c >>= f) s r s') :
    ∃ p₁ x, p₁.stage? t = some (.out k) ∧
      ((∃ answer s₁, (∀ a, answer = .ok a → c.Fits a) ∧ s₁.Has name (p₁.setBackend t x) ∧
          s₁.log = s.log ++ [.made c k.backend answer x (some p₁)] ∧ f answer s₁ r s') ∨
        r = none ∧ s'.Has name (p₁.setBackend t x) ∧ s'.log = s.log ++ [.left c k.backend]) := by
  unfold Host.callOn Host.onConnection at h
  replace h := (bind_stage? hs _ _).mp ((Attempt.bind_assoc _ _ _ _).mp h)
  rw [ht] at h
  obtain ⟨p₁, x, ht₁, ⟨answer, s₁, hfits, hs₁, hlog, h⟩ | hleft⟩ :=
    bind_call hs ht (by simp) ((Attempt.bind_assoc _ _ _ _).mp h)
  · have hbooks : (p₁.setBackend t x).Accounted :=
      (hs₁.2.work (e := .setBackend t x) trivial).accounted
    refine ⟨p₁, x, ht₁, .inl ⟨answer, s₁.change name fun p => p.setBackend t x, hfits,
      hs₁.change hbooks, hlog, ?_⟩⟩
    exact (Attempt.bind_at_once (fun _ _ => bind_onPool _ _ _) f r).mp h
  · exact ⟨p₁, x, ht₁, .inr hleft⟩

/-- **Calls.** They are made in order on the one connection, up to the first that fails, or to one
that is given up. By induction over the calls. -/
theorem converse_run {calls : List Call} {prior : Answer} (hs : s.Has name p)
    (ht : p.stage? t = some (.out k)) {r : Option (Except Error Answer)}
    (h : converse ((host usable name t).callOn t) calls prior s r s') :
    ∃ p' k' notes, s'.Has name p' ∧ p'.stage? t = some (.out k') ∧ s'.log = s.log ++ notes ∧
      ((∃ answer, r = some answer ∧ Carried t calls prior k notes answer k') ∨
        r = none ∧ LeftOff t calls k notes k') := by
  induction calls generalizing prior s p k with
  | nil =>
      obtain ⟨rfl, rfl⟩ := h
      exact ⟨p, k, [], hs, ht, (List.append_nil _).symm, .inl ⟨_, rfl, .done⟩⟩
  | cons c rest ih =>
      obtain ⟨p₁, x, ht₁, ⟨answer, s₁, hfits, hs₁, hlog, h⟩ | ⟨rfl, hs', hlog⟩⟩ :=
        bind_callOn hs ht h
      · have hout := Pool.stage?_setBackend ht₁ x
        cases answer with
        | error e =>
            obtain ⟨rfl, rfl⟩ := h
            exact ⟨_, _, _, hs₁, hout, hlog, .inl ⟨_, rfl, .failed ht₁⟩⟩
        | ok a =>
            obtain ⟨p', k', notes, hs', ht', hlog', hcases⟩ := ih hs₁ hout h
            refine ⟨p', k', .made c k.backend (.ok a) x (some p₁) :: notes, hs', ht', ?_,
              hcases.imp ?_ ?_⟩
            · rw [hlog', hlog, List.append_assoc]
              rfl
            · rintro ⟨answer, rfl, hcarried⟩
              exact ⟨answer, rfl, .next ht₁ (hfits a rfl) hcarried⟩
            · rintro ⟨rfl, hleft⟩
              exact ⟨rfl, .later ht₁ hleft⟩
      · exact ⟨_, _, _, hs', Pool.stage?_setBackend ht₁ x, hlog, .inr ⟨rfl, .here⟩⟩

/-! ### Giving the connection back -/

/-- What keeps a connection from being used again when its return starts. -/
def Barred (usable : β → Bool) (p : Pool β) (k : Checkout β) (now : Nat) : Prop :=
  k.broken = true ∨ usable k.backend = false ∨ p.isExpired k now = true ∨ p.closed = true

/-- An errand has ended, and the slot of its connection is free. -/
structure Freed (t : Ticket) (before after : Pool β) : Prop where
  gone : after.stage? t = none
  live : after.live + 1 = before.live
  idle : after.idle = before.idle

/-- An errand has ended, and its connection is the last of the idle ones. -/
structure Parks (t : Ticket) (c : Parked β) (before after : Pool β) : Prop where
  gone : after.stage? t = none
  live : after.live = before.live
  idle : after.idle = before.idle ++ [c]

/-- An errand is lost that stood at some stage, and what it held is free. -/
structure Lost (t : Ticket) (stage : Stage β) (before after : Pool β) : Prop where
  gone : after.stage? t = none
  live : after.live + stage.slots = before.live
  idle : after.idle = before.idle

/-- What has become of the connection `k` that the errand gave back. -/
inductive Fate (usable : β → Bool) (t : Ticket) (k : Checkout β) :
    List (Note β) → Pool β → Prop where
  /-- It could not be used again when its return started, and was closed. -/
  | closed {now : Nat} {p₁ p₂ p' : Pool β} {answer : Except Error Answer} {x : β}
      (hheld : p₁.stage? t = some (.out k) ∨ p₁.stage? t = some (.dropped k))
      (hbarred : Barred usable p₁ k now) (hfreed : Freed t p₂ p') :
      Fate usable t k [.clock now (some p₁), .made .close k.backend answer x (some p₂)] p'
  /-- It was reset, but this failed or the pool has been closed meanwhile, and it was closed. -/
  | closedAfterReset {now : Nat} {p₁ p₂ p₃ p' : Pool β} {reset answer : Except Error Answer}
      {x x' : β}
      (hheld : p₁.stage? t = some (.out k) ∨ p₁.stage? t = some (.dropped k))
      (hfit : ¬Barred usable p₁ k now) (hspoilt : (∃ e, reset = .error e) ∨ p₂.closed = true)
      (hfreed : Freed t p₃ p') :
      Fate usable t k [.clock now (some p₁), .made .reset k.backend reset x (some p₂),
        .made .close x answer x' (some p₃)] p'
  /-- It was reset, and is the last of the idle ones. -/
  | parked {now : Nat} {p₁ p₂ p' : Pool β} {a : Answer} {x : β}
      (hheld : p₁.stage? t = some (.out k) ∨ p₁.stage? t = some (.dropped k))
      (hfit : ¬Barred usable p₁ k now) (hopen : p₂.closed = false)
      (hparks : Parks t ⟨x, k.created⟩ p₂ p') :
      Fate usable t k [.clock now (some p₁), .made .reset k.backend (.ok a) x (some p₂)] p'

/-- The return of the connection `k` was given up while it was being reset or closed. -/
inductive Abandoned (usable : β → Bool) (t : Ticket) (k : Checkout β) :
    List (Note β) → Stage β → Prop where
  | resetting {now : Nat} {p₁ : Pool β} (hfit : ¬Barred usable p₁ k now) :
      Abandoned usable t k [.clock now (some p₁), .left .reset k.backend] (.resetting k)
  | closing {now : Nat} {p₁ : Pool β} (hbarred : Barred usable p₁ k now) :
      Abandoned usable t k [.clock now (some p₁), .left .close k.backend] (.closing k)
  | closingAfterReset {now : Nat} {p₁ p₂ : Pool β} {reset : Except Error Answer} {x : β}
      (hfit : ¬Barred usable p₁ k now) (hspoilt : (∃ e, reset = .error e) ∨ p₂.closed = true) :
      Abandoned usable t k [.clock now (some p₁), .made .reset k.backend reset x (some p₂),
        .left .close x] (.closing { k with backend := x })

/-- What was done with the connection `k` until the errand that gave it back ended, and what its
last piece of work left. -/
inductive Passage (usable : β → Bool) (t : Ticket) (k : Checkout β) :
    List (Note β) → Pool β → Prop where
  /-- It was closed. -/
  | closed {now : Nat} {p₁ q : Pool β} {answer : Except Error Answer} {x : β}
      (hheld : p₁.stage? t = some (.out k) ∨ p₁.stage? t = some (.dropped k))
      (hbarred : Barred usable p₁ k now) (hbooks : q.Accounted)
      (ht : q.stage? t = some (.closing k)) :
      Passage usable t k [.clock now (some p₁), .made .close k.backend answer x (some q)]
        (q.closeDone t).1
  /-- It was reset and then closed. -/
  | closedAfterReset {now : Nat} {p₁ p₂ q : Pool β} {reset answer : Except Error Answer} {x x' : β}
      (hheld : p₁.stage? t = some (.out k) ∨ p₁.stage? t = some (.dropped k))
      (hfit : ¬Barred usable p₁ k now) (ht₂ : p₂.stage? t = some (.resetting k))
      (hspoilt : (∃ e, reset = .error e) ∨ p₂.closed = true) (hbooks : q.Accounted)
      (ht : q.stage? t = some (.closing { k with backend := x })) :
      Passage usable t k [.clock now (some p₁), .made .reset k.backend reset x (some p₂),
        .made .close x answer x' (some q)] (q.closeDone t).1
  /-- It was reset and is idle. -/
  | parked {now : Nat} {p₁ q : Pool β} {a : Answer} {x : β}
      (hheld : p₁.stage? t = some (.out k) ∨ p₁.stage? t = some (.dropped k))
      (hfit : ¬Barred usable p₁ k now) (hopen : q.closed = false) (hbooks : q.Accounted)
      (ht : q.stage? t = some (.resetting k)) :
      Passage usable t k [.clock now (some p₁), .made .reset k.backend (.ok a) x (some q)]
        (q.resetDone t x true).1

/-- A connection may be used again exactly if nothing keeps it from that. -/
theorem mayReuse_iff (p : Pool β) (k : Checkout β) (now : Nat) :
    p.mayReuse k now (usable k.backend) = true ↔ ¬Barred usable p k now := by
  unfold Pool.mayReuse Barred
  cases p.isExpired k now <;> cases k.broken <;> cases p.closed <;> cases usable k.backend <;> simp

/-- The loss of an errand leaves the idle connections alone. -/
theorem cancel_idle (p : Pool β) (t : Ticket) : (p.cancel t).1.idle = p.idle := by
  unfold Pool.cancel
  split
  case h_1 | h_8 | h_9 => rfl
  case h_4 k ht =>
    rw [Pool.drop, ht]
    rfl
  case h_2 | h_3 | h_5 | h_6 | h_7 => exact Pool.putPermit_idle _

/-- The loss of an errand without a connection, or while its connection is reset or closed, frees
what it holds. -/
theorem cancel_lost (hp : p.Accounted) {stage : Stage β} (ht : p.stage? t = some stage)
    (hlosable : Pool.Losable stage) (hnot : ∀ k, stage ≠ .out k) :
    Lost t stage p (p.cancel t).1 := by
  have hlost : p.Departs (.cancel t) stage.slots → Lost t stage p (p.cancel t).1 :=
    fun hdeparts =>
      have hback := hdeparts.givesBack hp
      ⟨hback.ended, hback.slots, cancel_idle p t⟩
  cases stage with
  | queued =>
      obtain ⟨hgone, -, -, hlive, -⟩ := Pool.cancel_waiting ht
      exact ⟨hgone, hlive, cancel_idle p t⟩
  | granted => exact hlost (.lostGranted ht)
  | opening => exact hlost (.lostOpening ht)
  | out k => exact absurd rfl (hnot k)
  | dropped k => exact absurd hlosable id
  | resetting k => exact hlost (.lostResetting ht)
  | closing k => exact hlost (.lostClosing ht)
  | draining c rest => exact absurd hlosable id

/-- A close that has ended frees the slot. -/
theorem closeDone_freed (hp : p.Accounted) (ht : p.stage? t = some (.closing k)) :
    Freed t p (p.closeDone t).1 := by
  have hback : p.GivesBack t 1 (p.closeDone t).1 := (Pool.Departs.closed ht).givesBack hp
  refine ⟨hback.ended, hback.slots, ?_⟩
  rw [Pool.closeDone, ht]
  exact Pool.putPermit_idle _

/-- A reset that has ended puts the connection behind the idle ones. -/
theorem resetDone_parks (hp : p.Accounted) (ht : p.stage? t = some (.resetting k))
    (hopen : p.closed = false) (x : β) :
    Parks t ⟨x, k.created⟩ p (p.resetDone t x true).1 := by
  have hback : p.GivesBack t 0 (p.resetDone t x true).1 :=
    (Pool.Departs.parked x hopen ht).givesBack hp
  have hdone : (true && !p.closed) = true := by rw [hopen]; rfl
  refine ⟨hback.ended, hback.slots, ?_⟩
  rw [Pool.resetDone, ht]
  dsimp only
  rw [if_pos hdone]
  exact Pool.putPermit_idle _

/-- A connection whose reset failed, or whose pool has been closed meanwhile, is to be closed. -/
theorem resetDone_closes (ht : p.stage? t = some (.resetting k)) {x : β} {succeeded : Bool}
    (h : succeeded = false ∨ p.closed = true) :
    (p.resetDone t x succeeded).1.stage? t = some (.closing { k with backend := x }) := by
  have hnot : ¬(succeeded && !p.closed) = true := by
    rcases h with h | h <;> simp [h]
  rw [Pool.resetDone, ht]
  dsimp only
  rw [if_neg hnot]
  exact Pool.stage?_setStage_self _ t _

/-- A call on a connection that is on its way back leaves nothing in the pool if it is given up. -/
theorem setBackend_returning {stage : Stage β} (ht : p.stage? t = some stage)
    (hnot : ∀ k, stage ≠ .out k) (x : β) : p.setBackend t x = p := by
  unfold Pool.setBackend
  split
  · next k hk => exact absurd (Option.some.inj (ht.symm.trans hk)) (hnot k)
  · rfl

/-- **Closing a returned connection.** -/
theorem closeReturned_run (hs : s.Has name p) (ht : p.stage? t = some (.closing k))
    {r : Option Unit} (h : (host usable name t).closeReturned t s r s') :
    (∃ answer x q, r = some () ∧ q.Accounted ∧ q.stage? t = some (.closing k) ∧
      s'.Has name (q.closeDone t).1 ∧
      s'.log = s.log ++ [.made .close k.backend answer x (some q)]) ∨
    (∃ p', r = none ∧ s'.Has name p' ∧ p'.stage? t = some (.closing k) ∧
      s'.log = s.log ++ [.left .close k.backend]) := by
  unfold Host.closeReturned at h
  rw [bind_stage? hs, ht] at h
  obtain ⟨q, x, htq, ⟨answer, s₁, -, hs₁, hlog, h⟩ | ⟨rfl, hs', hlog⟩⟩ :=
    bind_call hs ht (by simp) h
  · obtain ⟨rfl, rfl⟩ := (bind_forget _ _ _).mp h
    exact .inl ⟨answer, x, q, rfl, hs₁.2, htq, hs₁.change hs₁.2.closeDone.accounted, hlog⟩
  · rw [setBackend_returning htq (by simp)] at hs'
    exact .inr ⟨q, rfl, hs', htq, hlog⟩

/-- **Resetting a returned connection.** The reset ends and the next action follows, or it is given
up. -/
theorem bind_reset (hs : s.Has name p) (ht : p.stage? t = some (.resetting k))
    {f : Unit → Attempt (Site β) γ} {r : Option γ}
    (h : ((host usable name t).resetReturned t >>= f) s r s') :
    (∃ answer x p₁ s₁, p₁.Accounted ∧ p₁.stage? t = some (.resetting k) ∧
      s₁.Has name (p₁.resetDone t x answer.toBool).1 ∧
      s₁.log = s.log ++ [.made .reset k.backend answer x (some p₁)] ∧ f () s₁ r s') ∨
    (∃ p', r = none ∧ s'.Has name p' ∧ p'.stage? t = some (.resetting k) ∧
      s'.log = s.log ++ [.left .reset k.backend]) := by
  unfold Host.resetReturned at h
  replace h := (bind_stage? hs _ _).mp ((Attempt.bind_assoc _ _ _ _).mp h)
  rw [ht] at h
  obtain ⟨p₁, x, ht₁, ⟨answer, s₁, -, hs₁, hlog, h⟩ | ⟨rfl, hs', hlog⟩⟩ :=
    bind_call hs ht (by simp) ((Attempt.bind_assoc _ _ _ _).mp h)
  · exact .inl ⟨answer, x, p₁, s₁.change name fun p => (p.resetDone t x answer.toBool).1, hs₁.2,
      ht₁, hs₁.change (hs₁.2.resetDone x answer.toBool).accounted, hlog,
      (bind_onPoolWaking _ _ _).mp h⟩
  · rw [setBackend_returning ht₁ (by simp)] at hs'
    exact .inr ⟨p₁, rfl, hs', ht₁, hlog⟩

/-- There is nothing to reset for an errand whose connection is to be closed. -/
theorem bind_resetReturned (hs : s.Has name p) (ht : p.stage? t = some (.closing k))
    (f : Unit → Attempt (Site β) Unit) (r : Option Unit) :
    ((host usable name t).resetReturned t >>= f) s r s' ↔ f () s r s' := by
  refine Attempt.bind_at_once (fun r s' => ?_) f r
  unfold Host.resetReturned
  rw [bind_stage? hs, ht]
  exact .rfl

/-- How the return of the connection `k` goes on from the site `s`, after the notes `earlier`. -/
def GoesOn (usable : β → Bool) (name : String) (t : Ticket) (k : Checkout β)
    (earlier : List (Note β)) (s : Site β) (r : Option Unit) (s' : Site β) : Prop :=
  ∃ notes p', s'.log = s.log ++ notes ∧ s'.Has name p' ∧
    ((r = some () ∧ Fate usable t k (earlier ++ notes) p') ∨
      ∃ stage, r = none ∧ Abandoned usable t k (earlier ++ notes) stage ∧
        p'.stage? t = some stage ∧ Lost t stage p' (p'.cancel t).1)

/-- The same, with the pieces of work that are done. -/
def Proceeds (usable : β → Bool) (name : String) (t : Ticket) (k : Checkout β)
    (earlier : List (Note β)) (s : Site β) (r : Option Unit) (s' : Site β) : Prop :=
  ∃ notes p', s'.log = s.log ++ notes ∧ s'.Has name p' ∧
    ((r = some () ∧ Passage usable t k (earlier ++ notes) p') ∨
      ∃ stage, r = none ∧ Abandoned usable t k (earlier ++ notes) stage ∧
        p'.stage? t = some stage)

section

variable {now : Nat} {p₁ : Pool β}
  (hheld : p₁.stage? t = some (.out k) ∨ p₁.stage? t = some (.dropped k)) {r : Option Unit}

include hheld

/-- A connection that cannot be used again is closed. -/
theorem close_run (hbarred : Barred usable p₁ k now) (hs : s.Has name p)
    (ht : p.stage? t = some (.closing k)) (h : (host usable name t).closeReturned t s r s') :
    Proceeds usable name t k [.clock now (some p₁)] s r s' := by
  rcases closeReturned_run hs ht h with ⟨answer, x, q, rfl, hbooks, htq, hs', hlog⟩ |
    ⟨p', rfl, hs', ht', hlog⟩
  · exact ⟨_, _, hlog, hs', .inl ⟨rfl, .closed hheld hbarred hbooks htq⟩⟩
  · exact ⟨_, p', hlog, hs', .inr ⟨_, rfl, .closing hbarred, ht'⟩⟩

/-- A connection whose reset failed, or whose pool has been closed meanwhile, is closed. -/
theorem close_after_reset_run (hfit : ¬Barred usable p₁ k now) {reset : Except Error Answer}
    {p₂ : Pool β} (ht₂ : p₂.stage? t = some (.resetting k))
    (hspoilt : (∃ e, reset = .error e) ∨ p₂.closed = true) (hs : s.Has name p) {x : β}
    (ht : p.stage? t = some (.closing { k with backend := x }))
    (h : (host usable name t).closeReturned t s r s') :
    Proceeds usable name t k [.clock now (some p₁), .made .reset k.backend reset x (some p₂)]
      s r s' := by
  rcases closeReturned_run hs ht h with ⟨answer, x', q, rfl, hbooks, htq, hs', hlog⟩ |
    ⟨p', rfl, hs', ht', hlog⟩
  · exact ⟨_, _, hlog, hs',
      .inl ⟨rfl, .closedAfterReset hheld hfit ht₂ hspoilt hbooks htq⟩⟩
  · exact ⟨_, p', hlog, hs', .inr ⟨_, rfl, .closingAfterReset hfit hspoilt, ht'⟩⟩

/-- A connection that may be used again is reset, and then idle or closed. -/
theorem reset_run (hfit : ¬Barred usable p₁ k now) (hs : s.Has name p)
    (ht : p.stage? t = some (.resetting k))
    (h : (do (host usable name t).resetReturned t
             (host usable name t).closeReturned t : Attempt (Site β) Unit) s r s') :
    Proceeds usable name t k [.clock now (some p₁)] s r s' := by
  rcases bind_reset hs ht h with ⟨reset, x, p₂, s₁, hbooks, ht₂, hs₁, hlog, h⟩ |
    ⟨p', rfl, hs', ht', hlog⟩
  · have hcloses : (∃ e, reset = .error e) ∨ p₂.closed = true → reset.toBool = false ∨
        p₂.closed = true := Or.imp_left fun ⟨e, he⟩ => he ▸ rfl
    -- A reset that failed and a pool that was closed meanwhile lead to the same close.
    have hgoes : (∃ e, reset = .error e) ∨ p₂.closed = true →
        Proceeds usable name t k [.clock now (some p₁)] s r s' := fun hspoilt => by
      obtain ⟨notes, p', hlog', hs', hcases⟩ := close_after_reset_run hheld hfit ht₂ hspoilt hs₁
        (resetDone_closes ht₂ (hcloses hspoilt)) h
      have hwhole : s'.log = s.log ++ .made .reset k.backend reset x (some p₂) :: notes := by
        rw [hlog', hlog, List.append_assoc]
        rfl
      exact ⟨_, p', hwhole, hs', hcases⟩
    cases reset with
    | error e => exact hgoes (.inl ⟨e, rfl⟩)
    | ok a =>
        cases hclosed : p₂.closed with
        | true => exact hgoes (.inr hclosed)
        | false =>
            have hgone : (p₂.resetDone t x
                (Except.ok a : Except Error Answer).toBool).1.stage? t = none :=
              (resetDone_parks hbooks ht₂ hclosed x).gone
            unfold Host.closeReturned at h
            rw [bind_stage? hs₁, hgone] at h
            obtain ⟨rfl, rfl⟩ := h
            exact ⟨_, _, hlog, hs₁, .inl ⟨rfl, .parked hheld hfit hclosed hbooks ht₂⟩⟩
  · exact ⟨_, p', hlog, hs', .inr ⟨_, rfl, .resetting hfit, ht'⟩⟩

end

/-- **The pieces of a return.** The time is asked for and the return starts; what follows is a
reset, a close or both. -/
theorem giveBack_proceeds (hs : s.Has name p)
    (hheld : p.stage? t = some (.out k) ∨ p.stage? t = some (.dropped k)) {r : Option Unit}
    (h : (host usable name t).giveBack t s r s') :
    ∃ now, Proceeds usable name t k [.clock now (some p)]
      { s with log := s.log ++ [.clock now (some p)] } r s' := by
  obtain ⟨now, h⟩ : ∃ now, (do (host usable name t).resetReturned t
                               (host usable name t).closeReturned t : Attempt (Site β) Unit)
      (Site.change name { s with log := s.log ++ [.clock now (some p)] } fun p =>
        p.startReturn t now (usable k.backend)) r s' := by
    unfold Host.giveBack at h
    rw [bind_stage? hs] at h
    rcases hheld with ht | ht <;> rw [ht] at h
    all_goals
      obtain ⟨now, h⟩ := (bind_now _ _).mp ((bind_isUsable _ _ _).mp h)
      rw [hs.1] at h
      exact ⟨now, (bind_onPool _ _ _).mp h⟩
  have hs₁ : Has name (Site.change name { s with log := s.log ++ [.clock now (some p)] } fun p =>
      p.startReturn t now (usable k.backend)) (p.startReturn t now (usable k.backend)) :=
    Has.change (s := { s with log := s.log ++ [.clock now (some p)] }) hs
      (hs.2.startReturn now (usable k.backend)).accounted
  have hstage := Pool.stage?_startReturn hheld now (usable k.backend)
  -- The start of the return is not in the log.
  have hproceeds : Proceeds usable name t k [.clock now (some p)]
      (Site.change name { s with log := s.log ++ [.clock now (some p)] } fun p =>
        p.startReturn t now (usable k.backend)) r s' := by
    by_cases hreuse : p.mayReuse k now (usable k.backend) = true
    · rw [if_pos hreuse] at hstage
      exact reset_run hheld ((mayReuse_iff p k now).mp hreuse) hs₁ hstage h
    · have hbarred : Barred usable p k now :=
        by_contra fun hnot => hreuse ((mayReuse_iff p k now).mpr hnot)
      rw [if_neg hreuse] at hstage
      exact close_run hheld hbarred hs₁ hstage ((bind_resetReturned hs₁ hstage _ _).mp h)
  exact ⟨now, hproceeds⟩

/-- What becomes of a connection, from what was done with it. -/
theorem Passage.fate {notes : List (Note β)} (h : Passage usable t k notes p) :
    Fate usable t k notes p := by
  cases h with
  | closed hheld hbarred hbooks ht => exact .closed hheld hbarred (closeDone_freed hbooks ht)
  | closedAfterReset hheld hfit _ hspoilt hbooks ht =>
      exact .closedAfterReset hheld hfit hspoilt (closeDone_freed hbooks ht)
  | parked hheld hfit hopen hbooks ht =>
      exact .parked hheld hfit hopen (resetDone_parks hbooks ht hopen _)

/-- The loss of an errand whose return was given up frees what it holds. -/
theorem Abandoned.lost {notes : List (Note β)} {stage : Stage β}
    (h : Abandoned usable t k notes stage) (hp : p.Accounted) (ht : p.stage? t = some stage) :
    Lost t stage p (p.cancel t).1 := by
  cases h with
  | resetting | closing | closingAfterReset => exact cancel_lost hp ht trivial (by simp)

/-- **Giving back.** A connection that may be used again is reset, and is idle if this succeeds and
the pool is still open; any other one is closed. Unless it is given up, the errand has nothing
afterwards. -/
theorem giveBack_run (hs : s.Has name p)
    (hheld : p.stage? t = some (.out k) ∨ p.stage? t = some (.dropped k)) {r : Option Unit}
    (h : (host usable name t).giveBack t s r s') : GoesOn usable name t k [] s r s' := by
  obtain ⟨now, notes, p', hlog, hs', hcases⟩ := giveBack_proceeds hs hheld h
  refine ⟨_, p', hlog.trans (List.append_assoc _ _ _), hs', hcases.imp ?_ ?_⟩
  · rintro ⟨rfl, hpassage⟩
    exact ⟨rfl, hpassage.fate⟩
  · rintro ⟨stage, rfl, habandoned, ht⟩
    exact ⟨stage, rfl, habandoned, ht, habandoned.lost hs'.2 ht⟩

end Site

end TableGateway
