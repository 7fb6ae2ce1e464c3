import TableGateway.Pool.Host
import TableGateway.Proofs.Service.Steps

/-!
# Running on a service

What an errand does from one end to the other is written over any host. Here it runs on a service,
where it can be answered in several ways and can leave several things: the engine does as it
pleases, and others go on wherever the errand waits. `Service.host` says what can come of each
action.

For each thing an errand does with its pool there is one fact about everything that can come of it.

## Conventions

While an errand waits, others may do anything to the pool and to their own connections, but nobody
else changes the committed data. They may go on before and after the engine does a command, and
whenever the errand waits for a permit or for a new connection.

## Main results

* `Service.acquire_run`: getting a connection.
* `Service.callOn_run`: a call on it.
* `Service.giveBack_run`: returning it.
-/

namespace TableGateway

/-- Work on a state that can be answered and can end in several ways: what it may answer and
leave. -/
def Run (S α : Type) : Type := S → α → S → Prop

instance {S : Type} : Monad (Run S) where
  pure a := fun s b s' => a = b ∧ s = s'
  bind x f := fun s b s' => ∃ a s₁, x s a s₁ ∧ f a s₁ b s'

namespace Service

variable {δ : Type} {effect : String → Params → δ → δ} {t : Ticket} {s s' : Service δ}

/-! ### A service as a host -/

/-- A wire to the engine of a service for the errand `t`, which waits for every answer. Others go on
before the engine has done the command and before the answer is there. -/
def Serving (effect : String → Params → δ → δ) (t : Ticket)
    (wire : Wire (Option δ × Service δ)) : Prop :=
  ∀ c y, (wire c y).1 ≠ .abandoned ∧ ∃ s₁ s₂ : Service δ, Beside effect t y.2 s₁ ∧
    s₂.pool = s₁.pool ∧
    Serves effect c y.1 s₁.data (wire c y).1 (wire c y).2.1 s₂.data ∧
    Beside effect t s₂ (wire c y).2.2

/-- What can come of the actions of the errand `t` on a service. -/
def host (effect : String → Params → δ → δ) (t : Ticket) :
    Host (Run (Service δ)) (Session δ) where
  find := fun s r s' => .ok s.pool = r ∧ s = s'
  onPool := fun f s _ s' => s' = { s with pool := f s.pool }
  onPoolWaking := fun f s _ s' => s' = { s with pool := (f s.pool).1 }
  call := fun c x s r s' => ∃ wire, Serving effect t wire ∧
    ∃ r', (Link.call wire c).on (x.1, (x.2, s)) = (r', (r.2.1, (r.2.2, s'))) ∧
      r.1 = Link.told r'
  isUsable := fun x => pure x.isUsable
  forget := fun _ => pure ()
  connect := fun s r s' => Beside effect t s s' ∧ (r = .ok .fresh ∨ ∃ e, r = .error e)
  now := fun s _ s' => s = s'

/-- The errand `t` waits for a permit: others go on, and it looks again until it has not to wait any
more. -/
inductive Waits (effect : String → Params → δ → δ) (t : Ticket) :
    Service δ → Except Error Unit → Service δ → Prop where
  | again {s s₁ s' : Service δ} {p : Pool (Session δ)} {next : Option Ticket}
      {r : Except Error Unit} (hothers : Beside effect t s s₁)
      (hresume : s₁.pool.resume t = (p, .waits, next)) (h : Waits effect t ⟨p, s₁.data⟩ r s') :
      Waits effect t s r s'
  | done {s s₁ s' : Service δ} {p : Pool (Session δ)} {progress : Pool.Progress}
      {next : Option Ticket} {r : Except Error Unit} (hothers : Beside effect t s s₁)
      (hresume : s₁.pool.resume t = (p, progress, next)) (hprogress : progress ≠ .waits)
      (h : (host effect t).enter t (fun _ _ _ => False) progress ⟨p, s₁.data⟩ r s') :
      Waits effect t s r s'

/-! ### While a connection is out -/

/-- Looking where an errand stands. -/
theorem stage?_run {r : Option (Stage (Session δ))} (h : (host effect t).stage? t s r s') :
    s.pool.stage? t = r ∧ s = s' := by
  obtain ⟨_, _, ⟨rfl, rfl⟩, rfl, rfl⟩ := h
  exact ⟨rfl, rfl⟩

/-- Over the trips of its own call, everything stays right, and the errand stands where it stood. -/
theorem Serving.stays {wire : Wire (Option δ × Service δ)} (hwire : Serving effect t wire)
    {c : Command} {y : Option δ × Service δ} {stage : Stage (Session δ)}
    (hwaits : stage ≠ .queued) (hs : y.2.Sane) (ht : y.2.pool.stage? t = some stage) :
    (wire c y).2.2.Sane ∧ (wire c y).2.2.pool.stage? t = some stage := by
  obtain ⟨-, s₁, s₂, hbefore, hpool, -, hafter⟩ := hwire c y
  have hne : some stage ≠ some .queued := fun heq => hwaits (Option.some.inj heq)
  have hs₁ : s₁.Sane := (hbefore.sane hs).1
  have ht₁ : s₁.pool.stage? t = some stage := (hbefore.stage? hs (ht ▸ hne)).trans ht
  have hs₂ : s₂.Sane := ⟨hpool ▸ hs₁.accounted, hpool ▸ hs₁.holds⟩
  have ht₂ : s₂.pool.stage? t = some stage := hpool ▸ ht₁
  exact ⟨(hafter.sane hs₂).1, (hafter.stage? hs₂ (ht₂ ▸ hne)).trans ht₂⟩

/-- What the engine does with a command of the errand, between what others do. -/
theorem Serving.serves {wire : Wire (Option δ × Service δ)} (hwire : Serving effect t wire)
    (c : Command) {y : Option δ × Service δ} (hs : y.2.Sane) :
    Serves effect c y.1 y.2.data (wire c y).1 (wire c y).2.1 (wire c y).2.2.data := by
  obtain ⟨-, s₁, s₂, hbefore, hpool, hserves, hafter⟩ := hwire c y
  have hs₁ := hbefore.sane hs
  have hs₂ : s₂.Sane := ⟨hpool ▸ hs₁.1.accounted, hpool ▸ hs₁.1.holds⟩
  rwa [hs₁.2, ← (hafter.sane hs₂).2] at hserves

/-- The engine is one with committed data, whatever others do beside it. -/
theorem Serving.exists_serves {wire : Wire (Option δ × Service δ)}
    (hwire : Serving effect t wire) (c : Command) (y : Option δ × Service δ) :
    ∃ data data', Serves effect c y.1 data (wire c y).1 (wire c y).2.1 data' := by
  obtain ⟨-, s₁, s₂, -, -, hserves, -⟩ := hwire c y
  exact ⟨_, _, hserves⟩

/-- Over a call of the errand, everything stays right, and the errand stands where it stood. -/
theorem Serving.call {wire : Wire (Option δ × Service δ)} (hwire : Serving effect t wire)
    {c : Call} {x : Session δ} {r : Except Stop Answer} {l : Link} {copy : Option δ}
    {s₁ : Service δ} (hcall : (Link.call wire c).on (x.1, (x.2, s)) = (r, (l, (copy, s₁))))
    {stage : Stage (Session δ)} (hwaits : stage ≠ .queued) (hs : s.Sane)
    (ht : s.pool.stage? t = some stage) (hx : x.Aware) :
    s₁.Sane ∧ s₁.pool.stage? t = some stage ∧ Session.Aware (l, copy) := by
  have hkeeps : Talk.Keeps (fun y : Option δ × Service δ =>
      y.2.Sane ∧ y.2.pool.stage? t = some stage) (Link.call wire c) :=
    Link.call_keeps fun k _ y hy => hwire.stays hwaits hy.1 hy.2
  have hafter := hkeeps (x.1, (x.2, s)) ⟨hs, ht⟩
  rw [hcall] at hafter
  exact ⟨hafter.1, hafter.2, Session.Aware.call hwire.exists_serves hx hcall⟩

/-- Making a call on the connection that the errand holds. -/
theorem callOn_run (hs : s.Sane) {k : Checkout (Session δ)} (ht : s.pool.stage? t = some (.out k))
    {c : Call} {r : Except Error Answer} (h : (host effect t).callOn t c s r s') :
    ∃ wire r' l copy s₁, Serving effect t wire ∧
      (Link.call wire c).on (k.backend.1, (k.backend.2, s)) = (r', (l, (copy, s₁))) ∧
      r = Link.told r' ∧ s'.Sane ∧ s'.data = s₁.data ∧
      s'.pool.stage? t = some (.out { k with backend := (l, copy) }) := by
  obtain ⟨_, _, hstage, h⟩ := h
  obtain ⟨rfl, rfl⟩ := stage?_run hstage
  rw [ht] at h
  obtain ⟨⟨r, l, copy⟩, s₁, ⟨wire, hwire, r', hcall, hr⟩, _, _, rfl, rfl, rfl⟩ := h
  obtain ⟨hs₁, ht₁, haware⟩ := hwire.call hcall (by simp) hs ht (hs.holds.stages t _ ht)
  refine ⟨wire, r', l, copy, s₁, hwire, hcall, hr, ?_, rfl, ?_⟩
  · exact (hs₁.work (e := .setBackend t (l, copy)) trivial haware s₁.data).1
  · exact Pool.stage?_setBackend ht₁ (l, copy)

/-! ### Returning the connection -/

/-- A call of a return leaves the committed data alone: it rolls back or ends the connection. -/
theorem Serving.kept {wire : Wire (Option δ × Service δ)} (hwire : Serving effect t wire)
    {c : Call} {x : Session δ} {r : Except Stop Answer} {l : Link} {copy : Option δ}
    {s₁ : Service δ} (hcall : (Link.call wire c).on (x.1, (x.2, s)) = (r, (l, (copy, s₁))))
    (hc : ∀ k ∈ c.commands, k = .rollback ∨ k = .disconnect) {stage : Stage (Session δ)}
    (hwaits : stage ≠ .queued) (hs : s.Sane) (ht : s.pool.stage? t = some stage) :
    s₁.data = s.data := by
  have hkeeps : Talk.Keeps (fun y : Option δ × Service δ =>
      (y.2.Sane ∧ y.2.pool.stage? t = some stage) ∧ y.2.data = s.data) (Link.call wire c) := by
    refine Link.call_keeps fun k hk y hy => ⟨hwire.stays hwaits hy.1.1 hy.1.2, ?_⟩
    have hserves := hwire.serves k hy.1.1
    rcases hc k hk with rfl | rfl
    · exact (hserves.kept nofun nofun).trans hy.2
    · exact (hserves.kept nofun nofun).trans hy.2
  have hafter := hkeeps (x.1, (x.2, s)) ⟨⟨hs, ht⟩, rfl⟩
  rw [hcall] at hafter
  exact hafter.2

/-- Whatever does nothing keeps everything right. -/
theorem Sane.stays (hs : s.Sane) (h : s = s') : s'.Sane ∧ s'.data = s.data := by
  subst h
  exact ⟨hs, rfl⟩

/-- Resetting a returned connection. -/
theorem resetReturned_run (hs : s.Sane) {a : Unit} (h : (host effect t).resetReturned t s a s') :
    s'.Sane ∧ s'.data = s.data := by
  obtain ⟨place, _, hstage, h⟩ := h
  obtain ⟨ht, rfl⟩ := stage?_run hstage
  cases place with
  | none => exact hs.stays h.2
  | some stage =>
      cases stage with
      | resetting k =>
          obtain ⟨⟨r, l, copy⟩, s₁, ⟨wire, hwire, r', hcall, rfl⟩, rfl⟩ := h
          obtain ⟨haware, husable⟩ := hs.holds.stages t _ ht
          obtain ⟨hs₁, -, haware₁⟩ := hwire.call hcall (by simp) hs ht haware
          have hfresh : (Link.told r').toBool = true → (l, copy) = Session.fresh := by
            intro hok
            cases r' with
            | ok a => exact haware.reset hwire.exists_serves husable hcall
            | error e => cases e <;> exact absurd hok (by simp [Link.told, Except.toBool])
          have hdata : s₁.data = s.data :=
            hwire.kept hcall (by simp [Call.commands]) (by simp) hs ht
          exact ⟨(hs₁.work (e := .resetDone t (l, copy) (Link.told r').toBool) trivial
            ⟨haware₁, hfresh⟩ s₁.data).1, hdata⟩
      | _ => exact hs.stays h.2

/-- Closing a returned connection. -/
theorem closeReturned_run (hs : s.Sane) {a : Unit} (h : (host effect t).closeReturned t s a s') :
    s'.Sane ∧ s'.data = s.data := by
  obtain ⟨place, _, hstage, h⟩ := h
  obtain ⟨ht, rfl⟩ := stage?_run hstage
  cases place with
  | none => exact hs.stays h.2
  | some stage =>
      cases stage with
      | closing k =>
          obtain ⟨⟨r, l, copy⟩, s₁, ⟨wire, hwire, r', hcall, -⟩, _, _, ⟨-, rfl⟩, rfl⟩ := h
          have hs₁ := (hwire.call hcall (by simp) hs ht (hs.holds.stages t _ ht)).1
          have hdata : s₁.data = s.data :=
            hwire.kept hcall (by simp [Call.commands]) (by simp) hs ht
          exact ⟨(hs₁.work (e := .closeDone t) trivial trivial s₁.data).1, hdata⟩
      | _ => exact hs.stays h.2

/-- **Returning.** A connection comes back, however it is left, without a change of the committed
data. -/
theorem giveBack_run (hs : s.Sane) {a : Unit} (h : (host effect t).giveBack t s a s') :
    s'.Sane ∧ s'.data = s.data := by
  have go : ∀ k, s.pool.stage? t = some (.out k) ∨ s.pool.stage? t = some (.dropped k) →
      (do let usable ← (host effect t).isUsable k.backend
          let now ← (host effect t).now
          (host effect t).onPool fun p => p.startReturn t now usable
          (host effect t).resetReturned t
          (host effect t).closeReturned t : Run (Service δ) Unit) s a s' →
      s'.Sane ∧ s'.data = s.data := by
    rintro k ht ⟨_, _, ⟨rfl, rfl⟩, now, _, rfl, _, _, rfl, _, s₂, hreset, hclose⟩
    have hbacked : s.Backed effect (.startReturn t now k.backend.isUsable) s.data :=
      .startReturn now ht
    have hreturn := hs.work (e := .startReturn t now k.backend.isUsable) trivial
      (hbacked.suits hs) s.data
    obtain ⟨hs₂, hdata₂⟩ := resetReturned_run hreturn.1 hreset
    obtain ⟨hs', hdata'⟩ := closeReturned_run hs₂ hclose
    exact ⟨hs', hdata'.trans hdata₂⟩
  obtain ⟨place, _, hstage, h⟩ := h
  obtain ⟨ht, rfl⟩ := stage?_run hstage
  cases place with
  | none => exact hs.stays h.2
  | some stage =>
      cases stage with
      | out k => exact go k (.inl ht) h
      | dropped k => exact go k (.inr ht) h
      | _ => exact hs.stays h.2

/-! ### Getting a connection -/

/-- An errand has been told `r` about the connection that it wanted: the committed data are `data`,
and if it has a connection, this is as good as new. -/
structure Acquired (t : Ticket) (data : δ) (r : Except Error Unit) (s : Service δ) : Prop where
  sane : s.Sane
  data : s.data = data
  out : r = .ok () → ∃ k, s.pool.stage? t = some (.out k) ∧ k.backend = .fresh

/-- An opening has ended. -/
theorem opened_run (hs : s.Sane) (ht : s.pool.stage? t = some .opening)
    {connected : Except Error (Session δ)}
    (hconnected : connected = .ok .fresh ∨ ∃ e, connected = .error e) {r : Except Error Unit}
    (h : (host effect t).opened t connected s r s') : Acquired t s.data r s' := by
  rcases hconnected with rfl | ⟨e, rfl⟩
  · obtain ⟨now, _, rfl, _, _, rfl, rfl, rfl⟩ := h
    exact ⟨(hs.work (e := .opened t .fresh now) trivial Session.fresh_aware s.data).1, rfl,
      fun _ => ⟨⟨.fresh, now, false⟩, Pool.stage?_opened ht .fresh now, rfl⟩⟩
  · obtain ⟨_, _, rfl, rfl, rfl⟩ := h
    exact ⟨(hs.work (e := .openFailed t) trivial trivial s.data).1, rfl, nofun⟩

/-- Going on with an errand that has not to wait for a permit, or whose waiting ends well. -/
theorem enter_run (hs : s.Sane) {progress : Pool.Progress}
    (hstands : s.pool.Stands (· = .fresh) t progress) {wait : Run (Service δ) (Except Error Unit)}
    {r : Except Error Unit}
    (hwait : progress = .waits → wait s r s' → Acquired t s.data r s')
    (h : (host effect t).enter t wait progress s r s') : Acquired t s.data r s' := by
  cases progress with
  | refused =>
      obtain ⟨rfl, rfl⟩ := h
      exact ⟨hs, rfl, nofun⟩
  | waits => exact hwait rfl h
  | connected =>
      obtain ⟨rfl, rfl⟩ := h
      exact ⟨hs, rfl, fun _ => hstands⟩
  | opens =>
      obtain ⟨connected, s₁, ⟨hothers, hconnected⟩, hopened⟩ := h
      obtain ⟨hs₁, hdata₁⟩ := hothers.sane hs
      have ht : s.pool.stage? t = some .opening := hstands
      have ht₁ : s₁.pool.stage? t = some .opening :=
        (hothers.stage? hs (by rw [ht]; simp)).trans ht
      exact hdata₁ ▸ opened_run hs₁ ht₁ hconnected hopened

/-- Looking again after others went on. -/
theorem resume_run (hs : s.Sane) (ht : s.pool.stage? t = some .queued) {s₁ : Service δ}
    (hothers : Beside effect t s s₁) {p : Pool (Session δ)} {progress : Pool.Progress}
    {next : Option Ticket} (hresume : s₁.pool.resume t = (p, progress, next)) :
    (Service.mk p s₁.data).Sane ∧ p.Stands (· = .fresh) t progress ∧ s₁.data = s.data := by
  obtain ⟨hs₁, hdata₁⟩ := hothers.sane hs
  have hresumed : (Service.mk (s₁.pool.resume t).1 s₁.data).Sane :=
    (hs₁.work (e := .resume t) trivial trivial s₁.data).1
  have hstands : (s₁.pool.resume t).1.Stands (· = .fresh) t (s₁.pool.resume t).2.1 :=
    Pool.resume_stands hs₁.holds.idle (hothers.waiting hs (.inl ht))
  rw [hresume] at hresumed hstands
  exact ⟨hresumed, hstands, hdata₁⟩

/-- **Waiting.** By induction over the times that the errand looks again. -/
theorem Waits.acquired {r : Except Error Unit} (h : Waits effect t s r s') (hs : s.Sane)
    (ht : s.pool.stage? t = some .queued) : Acquired t s.data r s' := by
  induction h with
  | again hothers hresume h ih =>
      obtain ⟨hs₁, hstands, hdata₁⟩ := resume_run hs ht hothers hresume
      exact hdata₁ ▸ ih hs₁ hstands
  | done hothers hresume hprogress h =>
      obtain ⟨hs₁, hstands, hdata₁⟩ := resume_run hs ht hothers hresume
      exact hdata₁ ▸ enter_run hs₁ hstands (fun hwaits => absurd hwaits hprogress) h

/-- **Getting a connection.** A new errand gets a connection that is as good as new, or none, and
nobody changes the committed data meanwhile. -/
theorem acquire_run (hs : s.Sane) (ht : s.pool.stage? t = none) {r : Except Error Unit}
    (h : (host effect t).acquire t (Waits effect t) s r s') : Acquired t s.data r s' := by
  obtain ⟨_, _, ⟨rfl, rfl⟩, _, s₁, rfl, henter⟩ := h
  have hasked : (Service.mk (s.pool.ask t).1 s.data).Sane :=
    (hs.work (e := .ask t) ht trivial s.data).1
  have hstands : (s.pool.ask t).1.Stands (· = .fresh) t (s.pool.ask t).2 :=
    Pool.ask_stands hs.holds.idle
  refine enter_run hasked hstands (fun hwaits hwait => ?_) henter
  rw [hwaits] at hstands
  exact hwait.acquired hasked hstands

end Service

end TableGateway
