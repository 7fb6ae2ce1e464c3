import Mathlib.Logic.Relation
import TableGateway.Proofs.Pool.Accounting
import TableGateway.Proofs.Pool.Holdings
import TableGateway.Proofs.Service.Engine

/-!
# A pool on an engine

A service is a pool whose connections lead to one engine with committed data. Everybody engaged
with the pool works on it in steps, one piece of work at a time, in any order; what a piece brings
into the pool comes from a call on the connection that its errand holds, and a call can go as the
engine pleases.

Two facts about the connections hold in every state that a new service reaches: every link takes a
transaction to be open if its connection has a working copy, and every idle connection is as good
as a new one.

## Conventions

The working copy is kept with its connection, so a connection that is dropped takes it along. One
call is one step here, also if it makes several trips: they reach nothing but its own connection
and the committed data.

## Main results

* `Service.Step.sane`, `Service.Reaches.sane`: the two facts.
* `Service.Beside.sane`, `Service.Beside.stage?`: what others do while one errand waits.
-/

namespace TableGateway

variable {δ : Type}

/-! ### Sessions -/

/-- A connection of a pool: its link, and the working copy that its engine keeps for it. -/
abbrev Session (δ : Type) := Link × Option δ

namespace Session

/-- A new connection. -/
def fresh : Session δ := (Link.fresh, none)

/-- Whether the connection can still be used. -/
def isUsable (x : Session δ) : Bool := x.1.isUsable

/-- The link takes a transaction to be open if there is a working copy. -/
def Aware (x : Session δ) : Prop :=
  x.1.connected = true → x.1.isOpen = false → x.2 = none

/-- A new connection has none. -/
theorem fresh_aware : (fresh : Session δ).Aware := fun _ _ => rfl

/-- Over an engine beside which other things happen, this is what calls keep. -/
theorem aware_iff {τ : Type} (l : Link) (y : Option δ × τ) :
    Link.Aware (fun y : Option δ × τ => y.1 ≠ none) (l, y) ↔ Aware (l, y.1) := by
  simp only [Link.Aware, Aware, ne_eq, Classical.not_not]

section

variable {τ : Type} {effect : String → Params → δ → δ} {wire : Wire (Option δ × τ)}
  (hwire : ∀ c y, ∃ data data', Serves effect c y.1 data (wire c y).1 (wire c y).2.1 data')
  {l l' : Link} {copy copy' : Option δ} {x x' : τ} {c : Call} {r : Except Stop Answer}

include hwire

/-- Every call keeps a connection aware. -/
theorem Aware.call (h : Aware (l, copy))
    (hcall : (Link.call wire c).on (l, (copy, x)) = (r, (l', (copy', x')))) :
    Aware (l', copy') := by
  have hkept := Link.call_aware (Wire.transactional_of_serves hwire).finishes c
    ((aware_iff l (copy, x)).mpr h)
  rw [hcall] at hkept
  exact (aware_iff l' _).mp hkept

/-- A reset that succeeds leaves a connection as good as new. -/
theorem Aware.reset {a : Answer} (h : Aware (l, copy)) (husable : isUsable (l, copy) = true)
    (hcall : (Link.call wire .reset).on (l, (copy, x)) = (.ok a, (l', (copy', x')))) :
    (l', copy') = fresh := by
  obtain ⟨rfl, hnone⟩ := Link.reset_fresh (Wire.transactional_of_serves hwire).finishes husable
    ((aware_iff l (copy, x)).mpr h) hcall
  obtain rfl : copy' = none := Classical.not_not.mp hnone
  rfl

end

/-- A call on a connection, over an engine that does nothing else meanwhile. -/
def Calls (effect : String → Params → δ → δ) (c : Call) (x : Session δ) (data : δ)
    (r : Except Error Answer) (x' : Session δ) (data' : δ) : Prop :=
  ∃ wire : Wire (Option δ × δ),
    (∀ c y, Serves effect c y.1 y.2 (wire c y).1 (wire c y).2.1 (wire c y).2.2) ∧
      ∃ r', (Link.call wire c).on (x.1, (x.2, data)) = (r', (x'.1, (x'.2, data'))) ∧
        r = Link.told r'

/-- A call keeps a connection aware. -/
theorem Calls.aware {effect : String → Params → δ → δ} {c : Call} {x x' : Session δ}
    {data data' : δ} {r : Except Error Answer} (h : Calls effect c x data r x' data')
    (hx : x.Aware) : x'.Aware := by
  obtain ⟨wire, hwire, r', hcall, -⟩ := h
  exact Aware.call (fun c y => ⟨_, _, hwire c y⟩) hx hcall

/-- A reset that succeeds leaves a connection as good as new. -/
theorem Calls.reset {effect : String → Params → δ → δ} {x x' : Session δ} {data data' : δ}
    {r : Except Error Answer} (h : Calls effect .reset x data r x' data') (hx : x.Aware)
    (husable : x.isUsable = true) (hr : r.toBool = true) : x' = fresh := by
  obtain ⟨wire, hwire, r', hcall, rfl⟩ := h
  cases r' with
  | ok a => exact Aware.reset (fun c y => ⟨_, _, hwire c y⟩) hx husable hcall
  | error e => cases e <;> exact absurd hr (by simp [Link.told, Except.toBool])

end Session

/-! ### Steps -/

/-- A pool and the committed data of its engine. -/
structure Service (δ : Type) where
  pool : Pool (Session δ)
  data : δ

namespace Service

variable {effect : String → Params → δ → δ} {s s' : Service δ} {t u : Ticket}

/-- A service without connections. -/
def new (config : Pool.Config) (data : δ) : Service δ :=
  ⟨Pool.new config Sqlite.dialect, data⟩

/-- A piece of work can come next and brings what it should, and afterwards the committed data are
`data'`. -/
inductive Backed (effect : String → Params → δ → δ) (s : Service δ) :
    Pool.Piece (Session δ) → δ → Prop where
  | ask (t : Ticket) : Backed effect s (.ask t) s.data
  | resume (t : Ticket) : Backed effect s (.resume t) s.data
  | opened (t : Ticket) (now : Nat) : Backed effect s (.opened t .fresh now) s.data
  | openFailed (t : Ticket) : Backed effect s (.openFailed t) s.data
  | called {t : Ticket} {k : Checkout (Session δ)} {c : Call} {r : Except Error Answer}
      {x : Session δ} {data' : δ} (hout : s.pool.stage? t = some (.out k))
      (hcall : Session.Calls effect c k.backend s.data r x data') :
      Backed effect s (.setBackend t x) data'
  | condemn (t : Ticket) : Backed effect s (.condemn t) s.data
  | startReturn {t : Ticket} {k : Checkout (Session δ)} (now : Nat)
      (hout : s.pool.stage? t = some (.out k) ∨ s.pool.stage? t = some (.dropped k)) :
      Backed effect s (.startReturn t now k.backend.isUsable) s.data
  | reset {t : Ticket} {k : Checkout (Session δ)} {r : Except Error Answer} {x : Session δ}
      {data' : δ} (hreset : s.pool.stage? t = some (.resetting k))
      (hcall : Session.Calls effect .reset k.backend s.data r x data') :
      Backed effect s (.resetDone t x r.toBool) data'
  | closed {t : Ticket} {k : Checkout (Session δ)} {r : Except Error Answer} {x : Session δ}
      {data' : δ} (hclose : s.pool.stage? t = some (.closing k))
      (hcall : Session.Calls effect .close k.backend s.data r x data') :
      Backed effect s (.closeDone t) data'
  | drop (t : Ticket) : Backed effect s (.drop t) s.data
  | discard (t : Ticket) : Backed effect s (.discard t) s.data
  | close (t : Ticket) : Backed effect s (.close t) s.data
  | drained {t : Ticket} {k : Parked (Session δ)} {rest : List (Parked (Session δ))}
      {r : Except Error Answer} {x : Session δ} {data' : δ}
      (hdrain : s.pool.stage? t = some (.draining k rest))
      (hcall : Session.Calls effect .close k.backend s.data r x data') :
      Backed effect s (.drained t) data'
  | cancel (t : Ticket) : Backed effect s (.cancel t) s.data

/-- What somebody engaged with the pool does next. -/
inductive Step (effect : String → Params → δ → δ) (t : Ticket) (s : Service δ) :
    Service δ → Prop where
  | piece {e : Pool.Piece (Session δ)} {data' : δ} (ht : e.ticket = t)
      (hpossible : s.pool.Possible e) (hbacked : s.Backed effect e data') :
      Step effect t s ⟨s.pool.work e, data'⟩

/-- What a service can become, in any number of steps of anybody. -/
def Reaches (effect : String → Params → δ → δ) : Service δ → Service δ → Prop :=
  Relation.ReflTransGen fun s s' => ∃ t, Step effect t s s'

/-- What a service can become while the errand `t` waits and nobody else changes the committed
data. -/
def Beside (effect : String → Params → δ → δ) (t : Ticket) : Service δ → Service δ → Prop :=
  Relation.ReflTransGen fun s s' => ∃ u, u ≠ t ∧ Step effect u s s' ∧ s'.data = s.data

/-! ### What every step keeps -/

/-- The books of the pool are right; the connections of errands are aware, and idle ones are as
good as new. -/
structure Sane (s : Service δ) : Prop where
  accounted : s.pool.Accounted
  holds : s.pool.Holds Session.Aware (· = .fresh) Session.isUsable

/-- A new service. -/
theorem Sane.new (config : Pool.Config) (data : δ) : (new config data).Sane where
  accounted := .new config Sqlite.dialect
  holds := .new config Sqlite.dialect

/-- A piece of work that suits the pool keeps everything right, and leaves the errands of others
where they stand, except that one that waits may be granted a permit. -/
theorem Sane.work (hs : s.Sane) {e : Pool.Piece (Session δ)} (hpossible : s.pool.Possible e)
    (hsuits : s.pool.Suits Session.Aware (· = .fresh) Session.isUsable e) (data' : δ) :
    (Service.mk (s.pool.work e) data').Sane ∧
      ∀ u, u ≠ e.ticket → s.pool.Beside (s.pool.work e) u := by
  have hpasses := hs.holds.work (fun _ hx => hx ▸ Session.fresh_aware) hsuits
  exact ⟨⟨(hs.accounted.work hpossible).accounted, hpasses.holds⟩, hpasses.beside⟩

/-- What a backed piece of work brings suits the pool. -/
theorem Backed.suits {e : Pool.Piece (Session δ)} {data' : δ} (h : s.Backed effect e data')
    (hs : s.Sane) : s.pool.Suits Session.Aware (· = .fresh) Session.isUsable e := by
  cases h with
  | opened t now => exact Session.fresh_aware
  | called hout hcall => exact hcall.aware (hs.holds.stages _ _ hout)
  | @startReturn t k now hout =>
      intro k' hout'
      have heq : k' = k := by
        rcases hout with hout | hout <;> rcases hout' with hout' | hout' <;>
          simpa [hout] using hout'.symm
      rw [heq]
  | reset hreset hcall =>
      obtain ⟨haware, husable⟩ := hs.holds.stages _ _ hreset
      exact ⟨hcall.aware haware, fun hr => hcall.reset haware husable hr⟩
  | ask | resume | openFailed | condemn | closed | drop | discard | close | drained | cancel =>
      trivial

/-- **One step.** Every step keeps the books and the connections right, and leaves every errand of
others where it stands, except that one that waits may be granted a permit. -/
theorem Step.sane (h : Step effect t s s') (hs : s.Sane) :
    s'.Sane ∧ ∀ u, u ≠ t → s.pool.Beside s'.pool u := by
  cases h with
  | piece ht hpossible hbacked =>
      rw [← ht]
      exact hs.work hpossible (hbacked.suits hs) _

/-- **Any steps.** The books and the connections of a service that a new one becomes are right. -/
theorem Reaches.sane (h : Reaches effect s s') (hs : s.Sane) : s'.Sane := by
  induction h with
  | refl => exact hs
  | tail _ hstep ih =>
      obtain ⟨t, hstep⟩ := hstep
      exact (hstep.sane ih).1

namespace Beside

/-- The steps of others keep everything right, and change no data. -/
theorem sane (h : Beside effect t s s') (hs : s.Sane) : s'.Sane ∧ s'.data = s.data := by
  induction h with
  | refl => exact ⟨hs, rfl⟩
  | tail _ hstep ih =>
      obtain ⟨u, -, hstep, hdata⟩ := hstep
      exact ⟨(hstep.sane ih.1).1, hdata.trans ih.2⟩

/-- An errand that waits for a permit goes on waiting, or it has been granted one. -/
theorem waiting (h : Beside effect t s s') (hs : s.Sane)
    (ht : s.pool.stage? t = some .queued ∨ s.pool.stage? t = some .granted) :
    s'.pool.stage? t = some .queued ∨ s'.pool.stage? t = some .granted := by
  induction h with
  | refl => exact ht
  | tail h hstep ih =>
      obtain ⟨u, hu, hstep, -⟩ := hstep
      rcases (hstep.sane (Beside.sane h hs).1).2 t hu.symm with hsame | hgranted
      · rwa [hsame]
      · exact .inr hgranted.2

/-- **What others do.** An errand that does not wait for a permit stands where it stood. -/
theorem stage? (h : Beside effect t s s') (hs : s.Sane) (ht : s.pool.stage? t ≠ some .queued) :
    s'.pool.stage? t = s.pool.stage? t := by
  induction h with
  | refl => rfl
  | @tail s₁ s₂ h hstep ih =>
      obtain ⟨u, hu, hstep, -⟩ := hstep
      have hs₁ : s₁.Sane := (Beside.sane h hs).1
      have hne : s₁.pool.stage? t ≠ some .queued := by rwa [ih]
      exact (((hstep.sane hs₁).2 t hu.symm).stage? hs₁.accounted.sound hne).trans ih

end Beside

end Service

end TableGateway
