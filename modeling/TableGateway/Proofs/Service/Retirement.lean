import TableGateway.Proofs.Backend.Leftovers
import TableGateway.Proofs.Request.Return
import TableGateway.Proofs.Service.Isolation

/-!
# A connection that is gone stays gone

A link loses its connection when it is closed, when a trip is lost, and when whoever waits for a
trip gives up. There is no way back: nothing that is called on it afterwards reaches the engine, and
no pool keeps it for another holder.

## Conventions

The loss is told by the call: it was a close, or one of its trips did not bring the connection back.
The link may be in any state before, and anything may be called on it afterwards.

## Main results

* `Link.Goes.stays_gone`: one call without a connection.
* `Site.giveBack_scrapped`: the return of such a link to a pool.
* `Link.stays_dead`: any calls, and any pool.
-/

namespace TableGateway

variable {σ β : Type} {wire : Wire σ}

/-- A call that does nothing without a connection: it begins, commits or executes. -/
def Call.Engages : Call → Prop
  | .begin | .commit | .execute _ _ => True
  | _ => False

/-- A trip of the call has lost the connection. -/
def Turn.Loses (t : Turn σ) : Prop := ∃ hop ∈ t.hops, hop.trip.cameBack = false

/-- A call on a link that is of no use and stays so: no command reaches the engine. -/
structure Turn.Futile (t : Turn σ) : Prop where
  unusable : t.before.isUsable = false
  still : t.after.isUsable = false
  quiet : t.hops = []
  refused : t.call.Engages → ∃ message, t.answer = .error (.failed (.state message))

namespace Link

variable {l l' : Link} {s : σ} {c : Call} {r : Except Stop Answer} {hops : List (Hop σ)}

/-! ### One call -/

/-- The connection is gone. -/
def Gone (l : Link) : Prop := l.connected = false

/-- A link without a connection is of no use. -/
theorem Gone.unusable (h : l.Gone) : l.isUsable = false := by
  rw [isUsable, h]
  rfl

/-- A connection that is gone does not come back. -/
theorem Goes.gone (h : Goes wire l s c r l' hops) (hl : l.Gone) : l'.Gone := by
  by_contra hback
  have hconn := (h.alternates.opened (by simpa [Gone] using hback)).1
  exact absurd (hconn.symm.trans hl) (by simp)

/-- A statement leaves a connection exactly if its trip brought it back. -/
theorem connected_afterStatement (k : Link) (trip : Trip) :
    (k.afterStatement trip).connected = trip.cameBack := by
  cases trip <;> rfl

/-- A trip that did not bring the connection back was not answered. -/
theorem not_isAnswered_of_lost {trip : Trip} (h : trip.cameBack = false) :
    trip.isAnswered ≠ true :=
  fun ha => absurd ((Trip.cameBack_of_isAnswered ha).symm.trans h) (by simp)

/-- A close ends the connection. -/
theorem Goes.ends (h : Goes wire l s .close r l' hops) : l'.Gone := by
  cases h with
  | misplaced hk | dropped hk | sent hk | unsent hk => exact absurd hk (by simp [Call.control])
  | unread hc | read hc | settled hc | unsettled hc => exact absurd hc Bool.false_ne_true
  | givenUp _ _ htrip => simp [Gone, afterTrip, htrip, Trip.cameBack]
  | closed _ _ _ hl => exact hl

/-- A trip that does not bring the connection back loses it. -/
theorem Goes.loses (h : Goes wire l s c r l' hops) (hlost : Turn.Loses ⟨c, l, r, l', hops⟩) :
    l'.Gone := by
  obtain ⟨hop, hmem, hback⟩ := hlost
  cases h with
  | misplaced | dropped | unsent | unread | read | unsettled | unlinked =>
      exact absurd hmem List.not_mem_nil
  | sent | settled =>
      obtain rfl := List.mem_singleton.mp hmem
      split_ifs with ha
      · exact absurd ha (not_isAnswered_of_lost hback)
      · exact hback
  | unbegun | givenUp =>
      obtain rfl := List.mem_singleton.mp hmem
      exact hback
  | ran =>
      obtain rfl := List.mem_singleton.mp hmem
      exact (connected_afterStatement _ _).trans hback
  | began _ _ ha =>
      rcases List.mem_pair.mp hmem with rfl | rfl
      · exact absurd ha (not_isAnswered_of_lost hback)
      · exact (connected_afterStatement _ _).trans hback
  | closed _ _ _ hl => exact hl

/-- Without a connection, what would begin, commit or execute is refused. -/
theorem Goes.refuses_engaging (h : Goes wire l s c r l' hops) (hl : l.Gone)
    (hc : c.Engages) : ∃ message, r = .error (.failed (.state message)) := by
  cases h with
  | misplaced | unsent | unread | unsettled | unlinked => exact ⟨_, rfl⟩
  | dropped hk => cases c <;> simp_all [Call.control, Call.Engages]
  | read hr => cases c <;> simp_all [Call.isReading, Call.Engages]
  | sent _ hconn | settled _ _ _ hconn | unbegun _ hconn | ran _ hconn | began _ hconn =>
      exact absurd (hconn.symm.trans hl) (by simp)
  | givenUp | closed => exact absurd hc id

/-- **Without a connection.** -/
theorem Goes.stays_gone (h : Goes wire l s c r l' hops) (hl : l.Gone) :
    Turn.Futile ⟨c, l, r, l', hops⟩ where
  unusable := hl.unusable
  still := (h.gone hl).unusable
  quiet := h.alternates.quiet hl
  refused := h.refuses_engaging hl

/-- A close leaves a link that cannot be read. -/
theorem Goes.close_barren (h : Goes wire l s .close r l' hops) : l'.Barren := by
  cases h with
  | misplaced hk | dropped hk | sent hk | unsent hk => exact absurd hk (by simp [Call.control])
  | unread hc | read hc | settled hc | unsettled hc => exact absurd hc Bool.false_ne_true
  | givenUp ho _ htrip => exact .inr ⟨by simp [afterTrip, htrip, Trip.cameBack], ho⟩
  | closed _ he => exact .inl he

/-! ### Any calls -/

/-- Whatever is called on a link without a connection, each call is futile. -/
theorem futile_turns {calls : List Call} {y : Link × σ} (hy : y.1.Gone) :
    (afterAll wire y calls).1.Gone ∧ ∀ t ∈ turns wire y calls, t.Futile := by
  have hstep : ∀ (y : Link × σ) (c : Call), y.1.Gone → True → (takeTurn wire y c).after.Gone :=
    fun y c hl _ => (takeTurn_goes wire y c).gone hl
  have htrue : ∀ t ∈ turns wire y calls, True := fun _ _ => trivial
  obtain ⟨hlast, hbefore⟩ := turns_keep hstep hy htrue
  refine ⟨hlast, fun t ht => ?_⟩
  obtain ⟨z, c, -, rfl⟩ := exists_of_mem_turns ht
  exact (takeTurn_goes wire z c).stays_gone (hbefore _ ht)

/-- If it cannot be read either, this stays so. -/
theorem refused_turns {calls : List Call} {y : Link × σ} (hy : y.1.Gone) (hbarren : y.1.Barren) :
    ∀ t ∈ turns wire y calls, t.call.isReading = true →
      ∃ message, t.answer = .error (.failed (.state message)) := by
  intro t ht hc
  have hfutile : ∀ t ∈ turns wire y calls, t.Futile := (futile_turns hy).2
  have hnot : ∀ t ∈ turns wire y calls, ¬t.Succeeds := fun t ht => by
    rintro ⟨⟨sql, params, hexecute⟩, hdone⟩
    obtain ⟨message, hmessage⟩ := (hfutile t ht).refused (hexecute ▸ trivial)
    exact absurd (hmessage.symm.trans hdone) (by simp)
  have hstep : ∀ (y : Link × σ) (c : Call), y.1.Barren → ¬(takeTurn wire y c).Succeeds →
      (takeTurn wire y c).after.Barren :=
    fun y c hl hturn => (takeTurn_goes wire y c).barren hl hturn
  obtain ⟨z, c, -, rfl⟩ := exists_of_mem_turns ht
  exact (takeTurn_goes wire z c).refuses ((turns_keep hstep hbarren hnot).2 _ ht) hc

end Link

/-! ### In a pool -/

namespace Site

variable {usable : β → Bool} {name : String} {t : Ticket} {s s' : Site β} {p : Pool β}
  {k : Checkout β}

/-- The connection `k` that the errand gave back was not reset and is not idle. It was closed, and
its slot is free; or the return was given up during the close, and the loss of the errand frees what
it holds. -/
inductive Scrapped (name : String) (t : Ticket) (k : Checkout β) (s : Site β) :
    Option Unit → Site β → Prop where
  | closed {now : Nat} {p q p' : Pool β} {answer : Except Error Answer} {x : β} {s' : Site β}
      (hlog : s'.log = s.log ++
        [.clock now (some p), .made .close k.backend answer x (some q)])
      (hp' : s'.pools.get? name = some p') (hfreed : Freed t q p') :
      Scrapped name t k s (some ()) s'
  | givenUp {now : Nat} {p p' : Pool β} {s' : Site β}
      (hlog : s'.log = s.log ++ [.clock now (some p), .left .close k.backend])
      (hp' : s'.pools.get? name = some p') (hlost : Lost t (.closing k) p' (p'.cancel t).1) :
      Scrapped name t k s none s'

/-- **Returning what cannot be used.** -/
theorem giveBack_scrapped (hs : s.Has name p)
    (hheld : p.stage? t = some (.out k) ∨ p.stage? t = some (.dropped k))
    (hunusable : usable k.backend = false) {r : Option Unit}
    (h : (host usable name t).giveBack t s r s') : Scrapped name t k s r s' := by
  have hbarred : ∀ {p : Pool β} {now : Nat}, Barred usable p k now := .inr (.inl hunusable)
  obtain ⟨notes, p', hlog, hs', ⟨rfl, hfate⟩ | ⟨stage, rfl, habandoned, -, hlost⟩⟩ :=
    giveBack_run hs hheld h
  · rw [List.nil_append] at hfate
    cases hfate with
    | closed _ _ hfreed => exact .closed hlog hs'.1 hfreed
    | closedAfterReset _ hfit => exact absurd hbarred hfit
    | parked _ hfit => exact absurd hbarred hfit
  · rw [List.nil_append] at habandoned
    cases habandoned with
    | closing => exact .givenUp hlog hs'.1 hlost
    | resetting hfit => exact absurd hbarred hfit
    | closingAfterReset hfit => exact absurd hbarred hfit

end Site

namespace Link

/-- **Dead for good.** A link in any state is closed, or a trip of a call on it does not bring its
connection back. Whatever is called on it afterwards, it is of no use, no command reaches the
engine, and what would begin, commit or execute is refused because of its state; behind a close so
is everything that reads. Any pool that it is given back to closes it without a reset, and in no run
of a pool is it among the idle connections. -/
theorem stays_dead (wire : Wire σ) (y : Link × σ) {c : Call}
    (hgone : c = .close ∨ (takeTurn wire y c).Loses) (later : List Call) :
    (afterAll wire y (c :: later)).1.isUsable = false ∧
    (∀ t ∈ turns wire ((call wire c).on y).2 later, t.Futile) ∧
    (c = .close → ∀ t ∈ turns wire ((call wire c).on y).2 later, t.call.isReading = true →
      ∃ message, t.answer = .error (.failed (.state message))) ∧
    (∀ (name : String) (t : Ticket) (s s' : Site (Link × σ)) (p : Pool (Link × σ))
      (k : Checkout (Link × σ)) (r : Option Unit), s.Has name p →
      (p.stage? t = some (.out k) ∨ p.stage? t = some (.dropped k)) →
      k.backend.1 = (afterAll wire y (c :: later)).1 →
      (Site.host (fun z => z.1.isUsable) name t).giveBack t s r s' →
      Site.Scrapped name t k s r s') ∧
    ∀ (config : Pool.Config) (dialect : Dialect) (p₀ p : Pool (Link × σ))
      (log : List (Pool.Event (Link × σ))), Pool.create config dialect = .ok p₀ →
      Pool.Runs (Pool.Supplied fun _ => False) (p₀, []) (p, log) →
      ∀ parked ∈ p.idle, parked.backend.1 ≠ (afterAll wire y (c :: later)).1 := by
  have hgoes := takeTurn_goes wire y c
  have hlost : ((call wire c).on y).2.1.Gone := by
    rcases hgone with rfl | hloses
    · exact hgoes.ends
    · exact hgoes.loses hloses
  obtain ⟨hlast, hfutile⟩ := futile_turns hlost
  have hunusable : (afterAll wire y (c :: later)).1.isUsable = false := hlast.unusable
  refine ⟨hunusable, hfutile, ?_, fun name t s s' p k r hs hheld hk hback => ?_,
    fun config dialect p₀ p log hcreate hruns parked hparked heq => ?_⟩
  · rintro rfl
    exact refused_turns hlost hgoes.close_barren
  · exact Site.giveBack_scrapped hs hheld (by rw [hk]; exact hunusable) hback
  · have husable := ((Pool.Runs.kept hcreate hruns).idle parked hparked).usable
    rw [heq, hunusable] at husable
    exact absurd husable (by simp)

/-- A link whose next trip is given up. -/
def sampleDoomed : Link × (Engine.Files × List (Option Trip)) :=
  afterAll (Engine.wire 0).planned (fresh, samplePlan) [.execute "SELECT 1" .empty, .affected]

/-- The connection is lost when a statement begins its transaction. -/
theorem stays_dead_sampleDoomed :
    (takeTurn (Engine.wire 0).planned sampleDoomed (.execute "SELECT 2" .empty)).Loses ∧
    (afterAll (Engine.wire 0).planned sampleDoomed
      [.execute "SELECT 2" .empty, .rollback, .begin]).1.isUsable = false := by
  have hloses : (takeTurn (Engine.wire 0).planned sampleDoomed
      (.execute "SELECT 2" .empty)).Loses := by
    unfold Turn.Loses
    decide +kernel
  exact ⟨hloses,
    (stays_dead (Engine.wire 0).planned sampleDoomed (.inr hloses) [.rollback, .begin]).1⟩

end Link

end TableGateway
