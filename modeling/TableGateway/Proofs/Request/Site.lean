import Mathlib.Logic.Relation
import TableGateway.Proofs.Pool.Effects
import TableGateway.Request

/-!
# Where requests run

What a request does is written over any host. Here it runs on the pools of an application, over
backends that answer any call in any way, and it can be given up at any of its waits. While it
waits, others go on. Beside the pools stands a log of what the request has done so far, with what
its pool looked like then.

## Conventions

A state of the pools together with the log is a `Site`. An `Attempt` says what may be answered and
left, and also what is left where it is given up, `none`. `usable` is what backends say of
themselves. A call that is given up may leave anything of its connection.

## Main results

* `Databases.Others.pool`: what others do to the pool of an errand while it waits.
* `Site.bind_stage?`, `Site.bind_onPool`, `Site.bind_call`: one action after another.
-/

namespace TableGateway

variable {β : Type} {S α γ : Type}

/-! ### Attempts -/

/-- Work on a state that may be given up at a wait: what it may answer, or `none`, and leave. -/
def Attempt (S α : Type) : Type := S → Option α → S → Prop

instance : Monad (Attempt S) where
  pure a := fun s r s' => r = some a ∧ s' = s
  bind x f := fun s r s' => (∃ a s₁, x s (some a) s₁ ∧ f a s₁ r s') ∨ r = none ∧ x s none s'

namespace Attempt

variable {s s' : S}

/-- Nothing that waits comes before: an action that is answered at once, and then another one. -/
theorem bind_at_once {x : Attempt S α} {a : α} {s₁ : S}
    (hx : ∀ r s', x s r s' ↔ r = some a ∧ s' = s₁) (f : α → Attempt S γ) (r : Option γ) :
    (x >>= f) s r s' ↔ f a s₁ r s' := by
  constructor
  · rintro (⟨b, s₂, hb, hf⟩ | ⟨rfl, hnone⟩)
    · obtain ⟨hab, rfl⟩ := (hx _ _).mp hb
      obtain rfl := Option.some.inj hab
      exact hf
    · exact absurd ((hx _ _).mp hnone).1 (by simp)
  · exact fun hf => .inl ⟨a, s₁, (hx _ _).mpr ⟨rfl, rfl⟩, hf⟩

/-- Three actions can be grouped in either way. -/
theorem bind_assoc {δ : Type} (x : Attempt S α) (f : α → Attempt S γ) (g : γ → Attempt S δ)
    (r : Option δ) : (x >>= f >>= g) s r s' ↔ (x >>= fun a => f a >>= g) s r s' := by
  constructor
  · rintro (⟨b, s₂, ⟨a, s₁, hx, hf⟩ | ⟨hnone, -⟩, hg⟩ | ⟨rfl, ⟨a, s₁, hx, hf⟩ | ⟨-, hx⟩⟩)
    · exact .inl ⟨a, s₁, hx, .inl ⟨b, s₂, hf, hg⟩⟩
    · exact absurd hnone (by simp)
    · exact .inl ⟨a, s₁, hx, .inr ⟨rfl, hf⟩⟩
    · exact .inr ⟨rfl, hx⟩
  · rintro (⟨a, s₁, hx, ⟨b, s₂, hf, hg⟩ | ⟨rfl, hf⟩⟩ | ⟨rfl, hx⟩)
    · exact .inl ⟨b, s₂, .inl ⟨a, s₁, hx, hf⟩, hg⟩
    · exact .inr ⟨rfl, .inl ⟨a, s₁, hx, hf⟩⟩
    · exact .inr ⟨rfl, .inr ⟨rfl, hx⟩⟩

end Attempt

/-! ### What others do -/

namespace Databases

/-- Whose move it is. -/
def Move.IsOf (name : String) (t : Ticket) : Move β → Prop
  | .work pool e => pool = name ∧ e.ticket = t
  | .releaseForeign own u _ => own = name ∧ u = t

/-- What some pools can become by moves of others than the errand `t` of the pool `name`. -/
def Others (name : String) (t : Ticket) : Databases β → Databases β → Prop :=
  Relation.ReflTransGen fun d d' => ∃ m, d.Possible m ∧ ¬m.IsOf name t ∧ d' = d.move m

variable {name : String} {t : Ticket} {d d' : Databases β} {p : Pool β}

/-- One move of others leaves the books of a pool right, and its errand where it stands or with a
permit. -/
theorem move_others {m : Move β} (hm : d.Possible m) (hother : ¬m.IsOf name t)
    (hp : d.get? name = some p) (hbooks : p.Accounted) :
    ∃ p', (d.move m).get? name = some p' ∧ p'.Accounted ∧ p.Beside p' t := by
  cases m with
  | work pool e =>
      rw [move, Registry.get?_modify]
      split_ifs with hname
      · subst hname
        have hne : t ≠ e.ticket := fun heq => hother ⟨rfl, heq.symm⟩
        have heffect := Pool.work_effect (hm p hp) (Pool.keepsNames_unnamed p e)
        exact ⟨p.work e, by rw [hp]; rfl, (hbooks.work (hm p hp)).accounted, heffect.beside hne⟩
      · exact ⟨p, hp, hbooks, .inl rfl⟩
  | releaseForeign own u target =>
      rw [move, Registry.get?_modify]
      split_ifs with hname
      · subst hname
        have hne : t ≠ u := fun heq => hother ⟨rfl, heq.symm⟩
        have heffect := Pool.work_effect (p := p) (e := .drop u) trivial
          (Pool.keepsNames_unnamed p (.drop u))
        exact ⟨p.drop u, by rw [hp]; rfl, (hbooks.drop).accounted, heffect.beside hne⟩
      · exact ⟨p, hp, hbooks, .inl rfl⟩

/-- Where an errand may stand after others went on: where it stood, or with a permit if it waited
for one. -/
def Stays (before after : Option (Stage β)) : Prop :=
  after = before ∨ before = some .queued ∧ after = some .granted

/-- **Others.** They leave the books of a pool right, and its errand where it stands or with a
permit. By induction over their moves. -/
theorem Others.pool (h : Others name t d d') (hp : d.get? name = some p) (hbooks : p.Accounted) :
    ∃ p', d'.get? name = some p' ∧ p'.Accounted ∧ Stays (p.stage? t) (p'.stage? t) := by
  induction h with
  | refl => exact ⟨p, hp, hbooks, .inl rfl⟩
  | tail _ hstep ih =>
      obtain ⟨m, hm, hother, rfl⟩ := hstep
      obtain ⟨p₁, hp₁, hbooks₁, hstays⟩ := ih
      obtain ⟨p', hp', hbooks', hbeside⟩ := move_others hm hother hp₁ hbooks₁
      refine ⟨p', hp', hbooks', ?_⟩
      rcases hbeside with hsame | ⟨hqueued, hgranted⟩
      · rw [hsame]
        exact hstays
      · -- It waits, so it had not been granted a permit before.
        have hwaits := hbooks₁.sound.queued t hqueued
        rcases hstays with hsame | ⟨-, hgranted₁⟩
        · exact .inr ⟨hsame.symm.trans hwaits, hgranted⟩
        · exact absurd (hwaits.symm.trans hgranted₁) (by simp)

end Databases

/-! ### Sites -/

/-- An answer is of the kind that a call asks for. -/
def Call.Fits : Call → Answer → Prop
  | .fetchOne, .row _ | .fetchMany _, .rows _ | .fetchAll, .rows _ | .affected, .count _
  | .begin, .done | .commit, .done | .rollback, .done | .reset, .done | .close, .done
  | .execute _ _, .done => True
  | _, _ => False

/-- What a request has done: opening a connection, a call that ended or was given up, or asking for
the time. With it stands the pool as it was then. -/
inductive Note (β : Type) where
  | connect (answer : Except Error β)
  | made (call : Call) (before : β) (answer : Except Error Answer) (after : β)
      (pool : Option (Pool β))
  | left (call : Call) (before : β)
  | clock (now : Nat) (pool : Option (Pool β))

/-- Some pools, and what a request has done so far. -/
structure Site (β : Type) where
  pools : Databases β
  log : List (Note β)

namespace Site

variable (usable : β → Bool) (name : String) (t : Ticket)

/-- Changes one of the pools. -/
def change (s : Site β) (f : Pool β → Pool β) : Site β := { s with pools := s.pools.modify name f }

/-- What can come of the actions of the errand `t` on its pool. -/
def host : Host (Attempt (Site β)) β where
  find := fun s r s' => r = some (s.pools.find name) ∧ s' = s
  onPool := fun f s r s' => r = some () ∧ s' = s.change name f
  onPoolWaking := fun f s r s' => r = some () ∧ s' = s.change name fun p => (f p).1
  call := fun c x s r s' => ∃ d, Databases.Others name t s.pools d ∧
    ((∃ answer x', (∀ a, answer = .ok a → c.Fits a) ∧ r = some (answer, x') ∧
        s' = ⟨d, s.log ++ [.made c x answer x' (d.get? name)]⟩) ∨
      ∃ x', r = none ∧
        s' = ⟨d.modify name fun p => p.setBackend t x', s.log ++ [.left c x]⟩)
  isUsable := fun x s r s' => r = some (usable x) ∧ s' = s
  forget := fun _ s r s' => r = some () ∧ s' = s
  connect := fun s r s' => ∃ d, Databases.Others name t s.pools d ∧
    ((∃ answer, r = some answer ∧ s' = ⟨d, s.log ++ [.connect answer]⟩) ∨
      r = none ∧ s' = ⟨d, s.log⟩)
  now := fun s r s' => ∃ now, r = some now ∧
    s' = { s with log := s.log ++ [.clock now (s.pools.get? name)] }

/-- The errand waits for a permit: others go on, and it looks again until it has not to wait any
more, unless it is given up. -/
inductive Waits : Site β → Option (Except Error Unit) → Site β → Prop where
  | givenUp {s : Site β} {d : Databases β} (hothers : Databases.Others name t s.pools d) :
      Waits s none { s with pools := d }
  | again {s s' : Site β} {d : Databases β} {p p' : Pool β} {next : Option Ticket}
      {r : Option (Except Error Unit)} (hothers : Databases.Others name t s.pools d)
      (hp : d.get? name = some p) (hresume : p.resume t = (p', .waits, next))
      (h : Waits ⟨d.modify name fun _ => p', s.log⟩ r s') : Waits s r s'
  | done {s s' : Site β} {d : Databases β} {p p' : Pool β} {progress : Pool.Progress}
      {next : Option Ticket} {r : Option (Except Error Unit)}
      (hothers : Databases.Others name t s.pools d) (hp : d.get? name = some p)
      (hresume : p.resume t = (p', progress, next)) (hprogress : progress ≠ .waits)
      (h : (host usable name t).enter t (fun _ _ _ => False) progress
        ⟨d.modify name fun _ => p', s.log⟩ r s') : Waits s r s'

/-! ### One action after another -/

variable {usable name t} {s s' : Site β} {p : Pool β} {stage : Stage β}

/-- The pool of a name, with its books right. -/
def Has (name : String) (s : Site β) (p : Pool β) : Prop :=
  s.pools.get? name = some p ∧ p.Accounted

/-- A change of the pool that leaves its books right. -/
theorem Has.change (hs : s.Has name p) {f : Pool β → Pool β} (hf : (f p).Accounted) :
    (s.change name f).Has name (f p) :=
  ⟨Registry.get?_modify_of hs.1 f, hf⟩

/-- Others may go on meanwhile. -/
theorem Has.others (hs : s.Has name p) {d : Databases β} (log : List (Note β))
    (h : Databases.Others name t s.pools d) :
    ∃ p', Has name ⟨d, log⟩ p' ∧ Databases.Stays (p.stage? t) (p'.stage? t) := by
  obtain ⟨p', hp', hbooks, hstays⟩ := h.pool hs.1 hs.2
  exact ⟨p', ⟨hp', hbooks⟩, hstays⟩

/-- They do not move an errand that does not wait for a permit. -/
theorem Has.others_at (hs : s.Has name p) (ht : p.stage? t = some stage)
    (hwaits : stage ≠ .queued) {d : Databases β} (log : List (Note β))
    (h : Databases.Others name t s.pools d) :
    ∃ p', Has name ⟨d, log⟩ p' ∧ p'.stage? t = some stage := by
  obtain ⟨p', hs', hsame | ⟨hqueued, -⟩⟩ := hs.others log h
  · exact ⟨p', hs', hsame.trans ht⟩
  · exact absurd (Option.some.inj (ht.symm.trans hqueued)) hwaits

/-- Looking where the errand stands. -/
theorem bind_stage? (hs : s.Has name p) (f : Option (Stage β) → Attempt (Site β) γ) (r : Option γ) :
    ((host usable name t).stage? t >>= f) s r s' ↔ f (p.stage? t) s r s' := by
  have hfind : s.pools.find name = .ok p := by rw [Databases.find, hs.1]
  have hlook : ∀ r s', (host usable name t).find s r s' ↔
      r = some (s.pools.find name) ∧ s' = s := fun _ _ => .rfl
  refine Attempt.bind_at_once (fun r s' => ?_) f r
  refine (Attempt.bind_at_once hlook _ r).trans ?_
  rw [hfind]
  rfl

/-- Changing the pool. -/
theorem bind_onPool (g : Pool β → Pool β) (f : Unit → Attempt (Site β) γ) (r : Option γ) :
    ((host usable name t).onPool g >>= f) s r s' ↔ f () (s.change name g) r s' :=
  Attempt.bind_at_once (fun _ _ => .rfl) f r

/-- Changing the pool in a way that may give somebody a permit. -/
theorem bind_onPoolWaking (g : Pool β → Pool β × Option Ticket) (f : Unit → Attempt (Site β) γ)
    (r : Option γ) :
    ((host usable name t).onPoolWaking g >>= f) s r s' ↔
      f () (s.change name fun p => (g p).1) r s' :=
  Attempt.bind_at_once (fun _ _ => .rfl) f r

/-- Asking a backend whether it can be used. -/
theorem bind_isUsable (x : β) (f : Bool → Attempt (Site β) γ) (r : Option γ) :
    ((host usable name t).isUsable x >>= f) s r s' ↔ f (usable x) s r s' :=
  Attempt.bind_at_once (fun _ _ => .rfl) f r

/-- Letting go of a backend. -/
theorem bind_forget (x : β) (f : Unit → Attempt (Site β) γ) (r : Option γ) :
    ((host usable name t).forget x >>= f) s r s' ↔ f () s r s' :=
  Attempt.bind_at_once (fun _ _ => .rfl) f r

/-- Asking for the time. -/
theorem bind_now (f : Nat → Attempt (Site β) γ) (r : Option γ) :
    ((host usable name t).now >>= f) s r s' ↔
      ∃ now, f now { s with log := s.log ++ [.clock now (s.pools.get? name)] } r s' := by
  constructor
  · rintro (⟨n, s₁, ⟨now, hn, rfl⟩, hf⟩ | ⟨rfl, now, hnone, -⟩)
    · obtain rfl := Option.some.inj hn
      exact ⟨n, hf⟩
    · exact absurd hnone (by simp)
  · rintro ⟨now, hf⟩
    exact .inl ⟨now, _, ⟨now, rfl, rfl⟩, hf⟩

/-- **A call.** The errand stands in its pool where it stood, whether the call ends and the next
action follows, or the call is given up. -/
theorem bind_call (hs : s.Has name p) (ht : p.stage? t = some stage) (hwaits : stage ≠ .queued)
    {c : Call} {x : β} {f : Except Error Answer × β → Attempt (Site β) γ} {r : Option γ}
    (h : ((host usable name t).call c x >>= f) s r s') :
    ∃ p₁ x', p₁.stage? t = some stage ∧
      ((∃ answer s₁, (∀ a, answer = .ok a → c.Fits a) ∧ s₁.Has name p₁ ∧
          s₁.log = s.log ++ [.made c x answer x' (some p₁)] ∧ f (answer, x') s₁ r s') ∨
        r = none ∧ s'.Has name (p₁.setBackend t x') ∧ s'.log = s.log ++ [.left c x]) := by
  rcases h with ⟨told, s₁, ⟨d, hothers, ⟨answer, x', hfits, heq, rfl⟩ | ⟨_, hnone, -⟩⟩, hf⟩ |
    ⟨rfl, d, hothers, ⟨_, _, -, hsome, -⟩ | ⟨x', -, rfl⟩⟩
  · obtain rfl := Option.some.inj heq
    obtain ⟨p₁, hs₁, ht₁⟩ :=
      hs.others_at ht hwaits (s.log ++ [.made c x answer x' (d.get? name)]) hothers
    exact ⟨p₁, x', ht₁, .inl ⟨answer, _, hfits, hs₁, by rw [← hs₁.1], hf⟩⟩
  · exact absurd hnone (by simp)
  · exact absurd hsome (by simp)
  · obtain ⟨p₁, hs₁, ht₁⟩ := hs.others_at ht hwaits (s.log ++ [.left c x]) hothers
    have hbooks : (p₁.setBackend t x').Accounted :=
      (hs₁.2.work (e := .setBackend t x') trivial).accounted
    exact ⟨p₁, x', ht₁, .inr ⟨rfl, hs₁.change hbooks, rfl⟩⟩

end Site

end TableGateway
