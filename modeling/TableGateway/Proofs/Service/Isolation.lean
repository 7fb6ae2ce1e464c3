import TableGateway.Proofs.Backend.Sessions
import TableGateway.Proofs.Backend.Transactions
import TableGateway.Proofs.Pool.Holdings

/-!
# Isolation between holders

A pool hands the link that one holder returns to the next. Whatever the first one did on it, also
statements that begin or end transactions by themselves and calls that were lost midway, the next
one finds it as good as new: it can read no rows of the first, and commit none of its work.

## Conventions

`inTx` says whether the engine of a link has a transaction open. A new connection has none. Every
call goes over a wire of its own, so the engine may answer as it likes; it is trusted only as far
as `Wire.Finishes` says. The pieces of work are otherwise any that are possible, in any order.

## Main results

* `Link.fresh_refuses`, `Link.trips_begin`: what the next holder can do.
* `Pool.Runs.isolated`: any run of a pool.
-/

namespace TableGateway

variable {σ : Type} {inTx : σ → Prop}

/-- A call reads or commits what was executed before. -/
def Call.LooksBack : Call → Prop
  | .commit | .fetchOne | .fetchMany _ | .fetchAll | .affected => True
  | _ => False

namespace Link

/-! ### Clean connections -/

/-- A connection on which nothing has happened, whose engine has no transaction open. -/
structure Clean (inTx : σ → Prop) (y : Link × σ) : Prop where
  usable : y.1.isUsable = true
  idle : y.1.transaction = .idle
  unexecuted : y.1.executed = false
  unread : y.1.rows = []
  unaffected : y.1.affected = 0
  none : ¬inTx y.2

/-- The link of a clean connection is a fresh one. -/
theorem clean_iff {y : Link × σ} : Clean inTx y ↔ y.1 = fresh ∧ ¬inTx y.2 := by
  constructor
  · rintro ⟨husable, hidle, hexecuted, hrows, haffected, hnone⟩
    refine ⟨?_, hnone⟩
    obtain ⟨⟨connected, transaction, executed, rows, affected, broken⟩, s⟩ := y
    obtain ⟨rfl, rfl⟩ : connected = true ∧ broken = false := by simpa [isUsable] using husable
    subst hidle hexecuted hrows haffected
    rfl
  · rintro ⟨hfresh, hnone⟩
    obtain ⟨l, s⟩ := y
    obtain rfl : l = fresh := hfresh
    exact ⟨rfl, rfl, rfl, rfl, rfl, hnone⟩

/-- A clean connection takes no transaction to be open, and there is none. -/
theorem Clean.aware {y : Link × σ} (h : Clean inTx y) : Aware inTx y := fun _ _ => h.none

/-- On a fresh link nothing can be read or committed: without a trip, the call is refused. -/
theorem fresh_refuses (wire : Wire σ) (s : σ) {c : Call} (hc : c.LooksBack) :
    ∃ message, (call wire c).on (fresh, s) = (.error (.failed (.state message)), (fresh, s)) := by
  cases c with
  | commit | fetchOne | fetchMany | fetchAll | affected => exact ⟨_, rfl⟩
  | _ => exact absurd hc id

/-- Where a link takes no transaction to be open, the first trip of a call is a begin, and after a
call without a trip it still takes none to be open. -/
theorem Course.begin_first {wire : Wire σ} {cs : List Command} {l l' : Link} {s s' : σ}
    {hops : List (Hop σ)} (h : Course wire cs l s l' s' hops) (ho : l.isOpen = false) :
    (∀ hop ∈ hops.head?, hop.command = .begin) ∧ (hops = [] → l'.isOpen = false) := by
  cases h with
  | quiet _ hsame => exact ⟨fun hop hhop => absurd hhop (by simp), fun _ => hsame.trans ho⟩
  | trip _ hs =>
      refine ⟨fun hop hhop => ?_, fun hnil => absurd hnil (by simp)⟩
      obtain rfl := Option.some.inj hhop
      exact hs.fits.mpr ho
  | begun =>
      refine ⟨fun hop hhop => ?_, fun hnil => absurd hnil (by simp)⟩
      obtain rfl := Option.some.inj hhop
      rfl

/-- Whatever is called on a fresh link, the first command that reaches the engine is a begin. By
induction over the calls. -/
theorem trips_begin (wire : Wire σ) (s : σ) {calls : List Call} (hcalls : Call.close ∉ calls) :
    (∀ hop ∈ (trips wire s calls).head?, hop.command = .begin) ∧
      (trips wire s calls = [] → (afterAll wire (fresh, s) calls).1.isOpen = false) := by
  induction calls using List.reverseRecOn with
  | nil => exact ⟨fun hop hhop => absurd hhop (by simp [trips, afterAll]), fun _ => rfl⟩
  | append_singleton calls c ih =>
      obtain ⟨hops, htrips, hcourse⟩ := trips_snoc wire s hcalls
      rw [List.mem_append, not_or] at hcalls
      obtain ⟨hfirst, hquiet⟩ := ih hcalls.1
      rw [htrips]
      cases hearlier : trips wire s calls with
      | nil =>
          rw [List.nil_append]
          exact hcourse.begin_first (hquiet hearlier)
      | cons hop rest =>
          rw [hearlier] at hfirst
          exact ⟨hfirst, fun hnil => absurd hnil (by simp)⟩

end Link

namespace Pool

variable {p p₀ : Pool (Link × σ)} {log : List (Event (Link × σ))} {config : Config}
  {dialect : Dialect}

/-! ### What pieces of work bring -/

/-- What a piece of work brings comes from the connection that its errand holds, over some wire. -/
inductive Supplied (inTx : σ → Prop) (p : Pool (Link × σ)) : Piece (Link × σ) → Prop where
  | ask (t : Ticket) : Supplied inTx p (.ask t)
  | resume (t : Ticket) : Supplied inTx p (.resume t)
  | opened (t : Ticket) {s : σ} (now : Nat) (hs : ¬inTx s) :
      Supplied inTx p (.opened t (.fresh, s) now)
  | openFailed (t : Ticket) : Supplied inTx p (.openFailed t)
  | called {t : Ticket} {k : Checkout (Link × σ)} {wire : Wire σ} (c : Call)
      (hwire : wire.Finishes inTx) (hout : p.stage? t = some (.out k)) :
      Supplied inTx p (.setBackend t ((Link.call wire c).on k.backend).2)
  | condemn (t : Ticket) : Supplied inTx p (.condemn t)
  | startReturn {t : Ticket} {k : Checkout (Link × σ)} (now : Nat)
      (hout : p.stage? t = some (.out k) ∨ p.stage? t = some (.dropped k)) :
      Supplied inTx p (.startReturn t now k.backend.1.isUsable)
  | reset {t : Ticket} {k : Checkout (Link × σ)} {wire : Wire σ} (hwire : wire.Finishes inTx)
      (hreset : p.stage? t = some (.resetting k)) :
      Supplied inTx p (.resetDone t ((Link.call wire .reset).on k.backend).2
        (Link.told ((Link.call wire .reset).on k.backend).1).toBool)
  | closeDone (t : Ticket) : Supplied inTx p (.closeDone t)
  | drop (t : Ticket) : Supplied inTx p (.drop t)
  | discard (t : Ticket) : Supplied inTx p (.discard t)
  | close (t : Ticket) : Supplied inTx p (.close t)
  | drained (t : Ticket) : Supplied inTx p (.drained t)
  | cancel (t : Ticket) : Supplied inTx p (.cancel t)

/-- Every connection of an errand knows about a transaction that is open, and idle ones are
clean. -/
abbrev Kept (inTx : σ → Prop) (p : Pool (Link × σ)) : Prop :=
  p.Holds (Link.Aware inTx) (Link.Clean inTx) fun y => y.1.isUsable

/-- What a piece of work brings keeps it so: in particular, a reset that succeeds leaves a
connection clean. -/
theorem Supplied.suits {e : Piece (Link × σ)} (h : p.Supplied inTx e) (hp : p.Kept inTx) :
    p.Suits (Link.Aware inTx) (Link.Clean inTx) (fun y => y.1.isUsable) e := by
  cases h with
  | opened t now hs => exact fun _ _ => hs
  | called c hwire hout => exact Link.call_aware hwire c (hp.stages _ _ hout)
  | @startReturn t k now hout =>
      intro k' hout'
      have heq : k' = k := by
        rcases hout with hout | hout <;> rcases hout' with hout' | hout' <;>
          simpa [hout] using hout'.symm
      rw [heq]
  | @reset t k wire hwire hreset =>
      obtain ⟨haware, husable⟩ := hp.stages _ _ hreset
      refine ⟨Link.call_aware hwire .reset haware, fun hdone => ?_⟩
      rcases hcall : (Link.call wire .reset).on k.backend with ⟨e | a, y⟩
      · rw [hcall] at hdone
        cases e <;> exact absurd hdone (by simp [Link.told, Except.toBool])
      · exact Link.clean_iff.mpr (Link.reset_fresh hwire husable haware hcall)
  | ask | resume | openFailed | condemn | closeDone | drop | discard | close | drained | cancel =>
      trivial

/-- In a run, every connection of an errand knows about a transaction that is open, and idle ones
are clean. By induction over the pieces of work. -/
theorem Runs.kept {y : Pool (Link × σ) × List (Event (Link × σ))}
    (hcreate : create config dialect = .ok p₀) (h : Runs (Supplied inTx) (p₀, []) y) :
    y.1.Kept inTx := by
  obtain ⟨rfl, -⟩ := create_eq_ok hcreate
  induction h with
  | refl => exact .new config dialect
  | tail _ hstep ih =>
      cases hstep with
      | work hnext => exact (ih.work (fun _ hclean => hclean.aware) (hnext.brings.suits ih)).holds

/-! ### Isolation -/

/-- The next holder of a connection finds nothing of an earlier one. -/
structure Isolated (inTx : σ → Prop) (p : Pool (Link × σ)) : Prop where
  /-- Idle connections are clean. -/
  idle : ∀ c ∈ p.idle, Link.Clean inTx c.backend
  /-- Whatever comes next, whoever comes to hold a connection gets a clean one. -/
  handed : ∀ e, p.Possible e → p.Supplied inTx e → ∀ u k, (p.work e).stage? u = some (.out k) →
    (∀ k', p.stage? u ≠ some (.out k')) → Link.Clean inTx k.backend
  /-- Nothing can be read or committed on a clean connection: it is refused without a trip. -/
  refuses : ∀ y, Link.Clean inTx y → ∀ (wire : Wire σ) (c : Call), c.LooksBack →
    ∃ message, (Link.call wire c).on y = (.error (.failed (.state message)), y)
  /-- Whatever is called on a clean connection, the first command that reaches the engine is a
  begin. -/
  begins : ∀ y, Link.Clean inTx y → ∀ (wire : Wire σ) (calls : List Call), Call.close ∉ calls →
    ∀ hop ∈ (Link.afterAll wire.logged (y.1, (y.2, [])) calls).2.2.head?, hop.command = .begin

/-- **Isolation.** In every run of a pool on links that was created, whatever its holders call and
whatever the engine answers, idle connections are clean and so is every connection that is handed
out. -/
theorem Runs.isolated (hcreate : create config dialect = .ok p₀)
    (h : Runs (Supplied inTx) (p₀, []) (p, log)) : p.Isolated inTx := by
  have hkept : p.Kept inTx := Runs.kept hcreate h
  refine ⟨hkept.idle, fun e he hsupplied u k hout hnot => ?_, fun y hy wire c hc => ?_,
    fun y hy wire calls hcalls => ?_⟩
  · have heffect : Effect (fun _ => ()) p e.ticket (p.work e) (p.news e) :=
      work_effect he (keepsNames_unnamed p e)
    -- Whoever held no connection has got an idle one, or one that this very piece opened.
    rcases heffect.out hout hnot with ⟨c, rest, hidle, rfl⟩ | ⟨-, hopened⟩
    · exact hkept.idle c (hidle ▸ List.mem_cons_self)
    · obtain ⟨now, he⟩ := news_opened hopened
      cases hsupplied with
      | @opened t s _ hs =>
          have hk : (Link.fresh, s) = k.backend := (Piece.opened.inj he).2.1
          exact hk ▸ Link.clean_iff.mpr ⟨rfl, hs⟩
      | _ => exact absurd he (by simp)
  · obtain ⟨l, s⟩ := y
    obtain rfl : l = .fresh := (Link.clean_iff.mp hy).1
    exact Link.fresh_refuses wire s hc
  · obtain ⟨l, s⟩ := y
    obtain rfl : l = .fresh := (Link.clean_iff.mp hy).1
    exact (Link.trips_begin wire s hcalls).1

/-! ### A transaction that is left open -/

/-- An engine that says of every statement that it brings one row, and knows whether a transaction
is open. -/
def sampleWire : Wire Bool
  | .begin, _ => (.answered [] 0, true)
  | .commit, _ | .rollback, _ | .disconnect, _ => (.answered [] 0, false)
  | .statement _ _, s => (.answered [[.integer 1]] 1, s)

/-- It finishes its transactions. -/
theorem sampleWire_finishes : sampleWire.Finishes (· = true) where
  declines := fun _ _ htrip => absurd htrip (by simp [sampleWire])
  commits := fun _ _ => by simp [sampleWire]
  rollsBack := fun _ _ => by simp [sampleWire]

/-- What a holder leaves that executes a statement and reads nothing. -/
def sampleLeft : Link × Bool :=
  ((Link.call sampleWire (.execute "INSERT INTO t VALUES (1)" .empty)).on (.fresh, false)).2

/-- A holder returns its connection like that, while another errand waits for it. -/
def sampleReturn : Pool (Link × Bool) × List (Event (Link × Bool)) :=
  follow (new { size := 1 } Sqlite.dialect, [])
    [.ask 0, .opened 0 (.fresh, false) 0, .setBackend 0 sampleLeft, .ask 1,
      .startReturn 0 1 sampleLeft.1.isUsable,
      .resetDone 0 ((Link.call sampleWire .reset).on sampleLeft).2
        (Link.told ((Link.call sampleWire .reset).on sampleLeft).1).toBool]

/-- This is a run. -/
theorem sampleReturn_runs :
    Runs (Supplied (· = true)) (new { size := 1 } Sqlite.dialect, []) sampleReturn :=
  .follow ⟨⟨rfl, by decide, .ask 0⟩, ⟨trivial, by decide, .opened 0 0 (by decide)⟩,
    ⟨trivial, by decide,
      .called (k := ⟨(.fresh, false), 0, false⟩) _ sampleWire_finishes rfl⟩,
    ⟨rfl, by decide, .ask 1⟩,
    ⟨trivial, by decide, .startReturn (k := ⟨sampleLeft, 0, false⟩) 1 (.inl rfl)⟩,
    ⟨trivial, by decide, .reset (k := ⟨sampleLeft, 0, false⟩) sampleWire_finishes rfl⟩, trivial⟩

/-- The holder left an open transaction and a row to read, and the errand that waits finds a clean
connection. -/
theorem isolated_sampleReturn :
    sampleLeft.2 = true ∧ sampleLeft.1.rows = [[.integer 1]] ∧
      (sampleReturn.1.work (.resume 1)).stage? 1 = some (.out ⟨(.fresh, false), 0, false⟩) ∧
      sampleReturn.1.Isolated (· = true) :=
  have hcreate : create { size := 1 } Sqlite.dialect =
      .ok (new { size := 1 } Sqlite.dialect : Pool (Link × Bool)) := rfl
  ⟨rfl, rfl, rfl, Runs.isolated hcreate sampleReturn_runs⟩

end Pool

end TableGateway
