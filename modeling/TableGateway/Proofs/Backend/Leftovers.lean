import TableGateway.Proofs.Backend.Protocol

/-!
# What a failed statement leaves

A statement that fails empties its link, so that nothing is read afterwards that an earlier one
brought. There is one way to fail that does not get so far: behind a commit the link begins a new
transaction first, and where that fails the link stays as it was, with the rows and the count of the
earlier statement. This module says exactly when something can still be read after a failure, and
that it is then the earlier result.

## Conventions

A link is barren when reading it is refused because of its state. That is so where nothing has been
executed, and also where a commit would have to come first and there is no connection for it. It is
stale when it holds the committed result of a statement before the one that failed, or the rest of
it.

## Main results

* `Link.Goes.barren`, `Link.Goes.refuses`: a barren link stays so until a statement succeeds.
* `Link.Goes.stale`: a stale link becomes barren with the first call that clears it.
* `Link.refused_after_failure_iff`: reading after a failure.
* `Link.not_always_refused`: an earlier result can be read after a failure.
-/

namespace TableGateway

variable {σ : Type} {wire : Wire σ}

namespace Link

variable {l l' : Link} {s : σ} {c : Call} {r : Except Stop Answer} {hops : List (Hop σ)}

/-! ### Any turns -/

/-- What every turn of a kind keeps, some turns of that kind keep. By induction over the calls. -/
theorem turns_keep {P : Link → Prop} {kind : Turn σ → Prop}
    (hstep : ∀ y c, P y.1 → kind (takeTurn wire y c) → P (takeTurn wire y c).after)
    {calls : List Call} {y : Link × σ} (hy : P y.1) (hkind : ∀ t ∈ turns wire y calls, kind t) :
    P (afterAll wire y calls).1 ∧ ∀ t ∈ turns wire y calls, P t.before := by
  induction calls generalizing y with
  | nil => exact ⟨hy, fun t ht => absurd ht List.not_mem_nil⟩
  | cons c calls ih =>
      obtain ⟨hfirst, hrest⟩ := List.forall_mem_cons.mp hkind
      obtain ⟨hafter, hbefore⟩ := ih (hstep y c hy hfirst) hrest
      exact ⟨hafter, List.forall_mem_cons.mpr ⟨hy, hbefore⟩⟩

/-- Every turn is one call on some link. -/
theorem exists_of_mem_turns {t : Turn σ} {calls : List Call} {y : Link × σ}
    (ht : t ∈ turns wire y calls) : ∃ z, ∃ c ∈ calls, t = takeTurn wire z c := by
  induction calls generalizing y with
  | nil => exact absurd ht List.not_mem_nil
  | cons c calls ih =>
      rcases List.mem_cons.mp ht with rfl | ht
      · exact ⟨y, c, List.mem_cons_self, rfl⟩
      · obtain ⟨z, d, hd, rfl⟩ := ih ht
        exact ⟨z, d, List.mem_cons_of_mem c hd, rfl⟩

/-! ### Barren links -/

/-- Nothing has been executed, or a commit would have to come before reading that cannot be
sent. -/
def Barren (l : Link) : Prop := l.executed = false ∨ l.connected = false ∧ l.isOpen = true

/-- A link that is connected is barren only where nothing has been executed. -/
theorem Barren.unexecuted (h : l.Barren) (hl : l.connected = true) : l.executed = false :=
  h.resolve_right fun hlost => by simp [hl] at hlost

/-- A link behind the end of its transaction is barren only where nothing has been executed. -/
theorem Barren.unexecuted_of_closed (h : l.Barren) (ho : l.isOpen = false) : l.executed = false :=
  h.resolve_right fun hlost => by simp [ho] at hlost

/-- A statement that fails in a transaction leaves a barren link. -/
theorem barren_afterStatement {k : Link} {trip : Trip} (hopen : k.isOpen = true)
    (hfails : trip.isAnswered = false) : (k.afterStatement trip).Barren := by
  cases trip with
  | answered rows n => exact absurd hfails (by simp [Trip.isAnswered])
  | refused cause | lost => exact .inl rfl
  | abandoned => exact .inr ⟨rfl, hopen⟩

/-- The answer to a statement is that of its trip. -/
theorem isAnswered_of_not_succeeds {sql : String} {params : Params} {trip : Trip}
    (h : ¬Turn.Succeeds ⟨.execute sql params, l, trip.told.map fun _ => .done, l', hops⟩) :
    trip.isAnswered = false := by
  by_contra hanswered
  refine h ⟨⟨sql, params, rfl⟩, map_told_eq_ok.mpr ⟨?_, rfl⟩⟩
  simpa using hanswered

/-- **Barren links.** They stay barren until a statement succeeds. -/
theorem Goes.barren (h : Goes wire l s c r l' hops) (hl : l.Barren)
    (hnot : ¬Turn.Succeeds ⟨c, l, r, l', hops⟩) : l'.Barren := by
  cases h with
  | misplaced | unsent | unread | unsettled => exact hl
  | dropped => exact .inl rfl
  | closed _ he => exact .inl he
  | @sent _ k hk hconn =>
      have hnone : l.executed = false := hl.unexecuted hconn
      split_ifs
      · cases k with
        | begin | rollback => exact .inl rfl
        | commit | statement | disconnect => exact .inl hnone
      · exact .inl hnone
  | read _ he ho => exact absurd ((hl.unexecuted_of_closed ho).symm.trans he) (by simp)
  | settled _ he _ hconn => exact absurd ((hl.unexecuted hconn).symm.trans he) (by simp)
  | unbegun _ hconn => exact .inl (hl.unexecuted hconn)
  | unlinked =>
      split_ifs
      · exact .inl rfl
      · exact hl
  | ran ho => exact barren_afterStatement ho (isAnswered_of_not_succeeds hnot)
  | began => exact barren_afterStatement rfl (isAnswered_of_not_succeeds hnot)
  | givenUp ho _ htrip => exact .inr ⟨by simp [afterTrip, htrip, Trip.cameBack], ho⟩

/-- What is left behind a call that reads is the end of what was there. -/
theorem leaves_suffix (c : Call) (rows : List Record) : c.leaves rows <:+ rows := by
  cases c with
  | fetchOne | fetchMany n => exact List.drop_suffix _ rows
  | fetchAll => exact List.nil_suffix
  | _ => exact List.suffix_rfl

/-- A barren link cannot be read. -/
theorem Goes.refuses (h : Goes wire l s c r l' hops) (hl : l.Barren) (hc : c.isReading = true) :
    ∃ message, r = .error (.failed (.state message)) := by
  cases h with
  | misplaced | unsent | unread | unsettled => exact ⟨_, rfl⟩
  | dropped hk | sent hk =>
      exact absurd (hk.symm.trans (Call.control_of_isReading hc)) (by simp)
  | read _ he ho => exact absurd ((hl.unexecuted_of_closed ho).symm.trans he) (by simp)
  | settled _ he _ hconn => exact absurd ((hl.unexecuted hconn).symm.trans he) (by simp)
  | unbegun | unlinked | ran | began | givenUp | closed => exact absurd hc Bool.false_ne_true

/-- A statement that fails in an open transaction leaves a barren link. -/
theorem Goes.empties {sql : String} {params : Params}
    (h : Goes wire l s (.execute sql params) r l' hops) (ho : l.isOpen = true)
    (hnot : ¬Turn.Succeeds ⟨.execute sql params, l, r, l', hops⟩) : l'.Barren := by
  cases h with
  | misplaced hk | dropped hk | sent hk | unsent hk => exact absurd hk (by simp [Call.control])
  | unread hc | read hc | settled hc | unsettled hc => exact absurd hc Bool.false_ne_true
  | unbegun hn | began hn => exact absurd (ho.symm.trans hn) (by simp)
  | unlinked => exact .inl (by rw [if_pos ho]; rfl)
  | ran => exact barren_afterStatement ho (isAnswered_of_not_succeeds hnot)

/-! ### Stale links -/

/-- The link still holds the committed result that another one held, or the rest of it. -/
structure Stale (l₀ l : Link) : Prop where
  executed : l.executed = true
  committed : l.transaction = .committed
  rows : l.rows <:+ l₀.rows
  affected : l.affected = l₀.affected

/-- No transaction is open on such a link. -/
theorem Stale.closed {l₀ : Link} (h : Stale l₀ l) : l.isOpen = false := by
  simp [isOpen, h.committed]

/-- **Stale links.** Until a statement succeeds, a call either clears the earlier result or leaves
it, but for the rows that it reads. -/
theorem Goes.stale {l₀ : Link} (h : Goes wire l s c r l' hops) (hl : Stale l₀ l)
    (hnot : ¬Turn.Succeeds ⟨c, l, r, l', hops⟩) :
    Turn.Clears ⟨c, l, r, l', hops⟩ ∧ l'.Barren ∨
      ¬Turn.Clears ⟨c, l, r, l', hops⟩ ∧ Stale l₀ l' := by
  have hclosed : l.isOpen ≠ true := by simp [hl.closed]
  cases h with
  | misplaced hk | unsent hk => exact .inr ⟨fun h => absurd (h.done hk) (by simp), hl⟩
  | dropped hk => exact .inl ⟨Turn.clears_of_rollback hk rfl, .inl rfl⟩
  | @sent _ k hk hconn hfits =>
      obtain rfl : k = .begin := hfits.mpr hl.closed
      obtain rfl : c = .begin := by cases c <;> simp_all [Call.control]
      cases ha : (wire .begin s).1.isAnswered with
      | true => exact .inl ⟨map_told_eq_ok.mpr ⟨ha, rfl⟩, .inl rfl⟩
      | false =>
          have hfailed : (wire .begin s).1.told.map (fun _ => Answer.done) ≠ .ok .done := by
            simp [map_told_eq_ok, ha]
          exact .inr ⟨hfailed, hl.executed, hl.committed, hl.rows, hl.affected⟩
  | unread hc | unsettled hc => exact .inr ⟨Turn.not_clears_of_isReading hc, hl⟩
  | read hc =>
      exact .inr ⟨Turn.not_clears_of_isReading hc, hl.executed, hl.committed,
        (leaves_suffix c _).trans hl.rows, hl.affected⟩
  | settled _ _ ho | ran ho | givenUp ho => exact absurd ho hclosed
  | unbegun =>
      refine .inr ⟨fun h => ?_, hl.executed, hl.committed, hl.rows, hl.affected⟩
      obtain ⟨hop, hmem, hstatement⟩ := h.2
      rw [List.mem_singleton.mp hmem] at hstatement
      exact absurd hstatement (by simp [Wire.hop])
  | unlinked =>
      rw [if_neg hclosed]
      refine .inr ⟨fun h => ?_, hl⟩
      obtain ⟨hop, hmem, -⟩ := h.2
      exact absurd hmem List.not_mem_nil
  | began =>
      refine .inl ⟨⟨fun hdone => hnot ⟨⟨_, _, rfl⟩, hdone⟩, _,
        List.mem_cons_of_mem _ (List.mem_singleton_self _), rfl⟩, ?_⟩
      exact barren_afterStatement rfl (isAnswered_of_not_succeeds hnot)
  | closed _ he => exact .inl ⟨trivial, .inl he⟩

/-- A stale link can be read, without a commit. -/
theorem Goes.reads_of_stale {l₀ : Link} (h : Goes wire l s c r l' hops) (hl : Stale l₀ l)
    (hc : c.isReading = true) : r = .ok (c.reads l) := by
  have hclosed : l.isOpen ≠ true := by simp [hl.closed]
  cases h with
  | misplaced hk | dropped hk | sent hk | unsent hk =>
      exact absurd (hk.symm.trans (Call.control_of_isReading hc)) (by simp)
  | unread _ he => exact absurd (hl.executed.symm.trans he) (by simp)
  | read => rfl
  | settled _ _ ho | unsettled _ ho => exact absurd ho hclosed
  | unbegun | unlinked | ran | began | givenUp | closed => exact absurd hc Bool.false_ne_true

/-! ### Any calls -/

/-- A barren link stays so over any calls among which no statement succeeds. -/
theorem barren_afterAll {calls : List Call} {y : Link × σ} (hy : y.1.Barren)
    (hnot : ∀ t ∈ turns wire y calls, ¬t.Succeeds) : (afterAll wire y calls).1.Barren :=
  (turns_keep (fun y c hl hturn => (takeTurn_goes wire y c).barren hl hturn) hy hnot).1

/-- Over any calls among which no statement succeeds, what a stale link holds is cleared by one of
them, or kept by all of them. -/
theorem stale_afterAll {l₀ : Link} {calls : List Call} {y : Link × σ} (hy : Stale l₀ y.1)
    (hnot : ∀ t ∈ turns wire y calls, ¬t.Succeeds) :
    (∃ t ∈ turns wire y calls, t.Clears) ∧ (afterAll wire y calls).1.Barren ∨
      (∀ t ∈ turns wire y calls, ¬t.Clears) ∧ Stale l₀ (afterAll wire y calls).1 := by
  induction calls generalizing y with
  | nil => exact .inr ⟨fun t ht => absurd ht List.not_mem_nil, hy⟩
  | cons c calls ih =>
      obtain ⟨hfirst, hrest⟩ := List.forall_mem_cons.mp hnot
      rcases (takeTurn_goes wire y c).stale hy hfirst with ⟨hclears, hbarren⟩ | ⟨hkept, hstale⟩
      · exact .inl ⟨⟨_, List.mem_cons_self, hclears⟩,
          barren_afterAll (y := ((call wire c).on y).2) hbarren hrest⟩
      · rcases ih hstale hrest with ⟨⟨t, ht, hclears⟩, hbarren⟩ | ⟨hall, hlast⟩
        · exact .inl ⟨⟨t, List.mem_cons_of_mem _ ht, hclears⟩, hbarren⟩
        · exact .inr ⟨List.forall_mem_cons.mpr ⟨hkept, hall⟩, hlast⟩

/-- What calls on a fresh link leave, over some wire to some engine. -/
def Reachable (wire : Wire σ) (y : Link × σ) : Prop :=
  ∃ s calls, y = afterAll wire (fresh, s) calls

/-- Such a link is coherent. -/
theorem Reachable.coherent {y : Link × σ} (h : Reachable wire y) : y.1.Coherent := by
  obtain ⟨s, calls, rfl⟩ := h
  exact (upholds_turns wire s calls).coherent

/-- A statement that fails, and calls after it among which none succeeds, leave a barren link,
unless what the link held was committed. -/
theorem barren_after_failure {y : Link × σ} (hy : Reachable wire y) {sql : String} {params : Params}
    {later : List Call}
    (hnot : ∀ t ∈ turns wire y (.execute sql params :: later), ¬t.Succeeds)
    (hl : ¬(y.1.executed = true ∧ y.1.transaction = .committed)) :
    (afterAll wire y (.execute sql params :: later)).1.Barren := by
  cases he : y.1.executed with
  | false => exact barren_afterAll (.inl he) hnot
  | true =>
      have hopen : y.1.transaction = .opened := by
        have hbegun := hy.coherent.begun he
        have hcommitted : y.1.transaction ≠ .committed := fun h => hl ⟨he, h⟩
        revert hbegun hcommitted
        cases y.1.transaction <;> simp
      obtain ⟨hfirst, hrest⟩ := List.forall_mem_cons.mp hnot
      have hbarren := (takeTurn_goes wire y _).empties (decide_eq_true hopen) hfirst
      exact barren_afterAll (y := ((call wire _).on y).2) hbarren hrest

/-- **Reading after a failure.** From any state that a link can reach, a statement fails, and no
statement succeeds in the calls after it. Then reading is refused because of the state of the link,
unless the link held a committed result and nothing has cleared it since, the failed statement
included; one that was sent clears it, one whose transaction could not be begun does not. In that
case what is read is the earlier count, or what is left of the earlier rows. -/
theorem refused_after_failure_iff {y : Link × σ} (hy : Reachable wire y) {sql : String}
    {params : Params} {later : List Call} {c : Call}
    (hnot : ∀ t ∈ turns wire y (.execute sql params :: later), ¬t.Succeeds)
    (hc : c.isReading = true) :
    ((∃ message, (takeTurn wire (afterAll wire y (.execute sql params :: later)) c).answer =
        .error (.failed (.state message))) ↔
      ¬((y.1.executed = true ∧ y.1.transaction = .committed) ∧
        ∀ t ∈ turns wire y (.execute sql params :: later), ¬t.Clears)) ∧
    (y.1.executed = true → y.1.transaction = .committed →
      (∀ t ∈ turns wire y (.execute sql params :: later), ¬t.Clears) →
      (takeTurn wire (afterAll wire y (.execute sql params :: later)) c).answer =
          .ok (c.reads (afterAll wire y (.execute sql params :: later)).1) ∧
        (afterAll wire y (.execute sql params :: later)).1.rows <:+ y.1.rows ∧
        (afterAll wire y (.execute sql params :: later)).1.affected = y.1.affected) := by
  set z := afterAll wire y (.execute sql params :: later) with hz
  have hgoes := takeTurn_goes wire z c
  have hrefused : z.1.Barren → ∃ message, (takeTurn wire z c).answer =
      .error (.failed (.state message)) := fun h => hgoes.refuses h hc
  have hread : Stale y.1 z.1 → (takeTurn wire z c).answer = .ok (c.reads z.1) :=
    fun h => hgoes.reads_of_stale h hc
  by_cases hl : y.1.executed = true ∧ y.1.transaction = .committed
  · have hstale : Stale y.1 y.1 := ⟨hl.1, hl.2, List.suffix_rfl, rfl⟩
    rcases stale_afterAll hstale hnot with ⟨⟨t, ht, hclears⟩, hbarren⟩ | ⟨hkept, hlast⟩
    · exact ⟨iff_of_true (hrefused hbarren) fun h => h.2 t ht hclears,
        fun _ _ h => absurd hclears (h t ht)⟩
    · refine ⟨iff_of_false ?_ (not_not_intro ⟨hl, hkept⟩), fun _ _ _ =>
        ⟨hread hlast, hlast.rows, hlast.affected⟩⟩
      rintro ⟨message, hmessage⟩
      rw [hread hlast] at hmessage
      exact absurd hmessage (by simp)
  · exact ⟨iff_of_true (hrefused (barren_after_failure hy hnot hl)) fun h => hl h.1,
      fun he ht _ => absurd ⟨he, ht⟩ hl⟩

end Link

/-! ### A transaction that cannot be begun -/

/-- A wire on which some trips come to what is planned for them, and do not reach the engine. -/
def Wire.planned (wire : Wire σ) : Wire (σ × List (Option Trip)) := fun c (s, plan) =>
  match plan.headD none with
  | some trip => (trip, (s, plan.tail))
  | none => ((wire c s).1, ((wire c s).2, plan.tail))

namespace Link

/-- The fourth trip is given up by whoever waits for it. -/
def samplePlan : Engine.Files × List (Option Trip) :=
  (sampleFiles, [none, none, none, some .abandoned])

/-- A row is left unread, and the connection is lost while the next statement begins its
transaction. -/
def sampleLoss : List Call :=
  [.execute "SELECT 1" .empty, .affected, .execute "SELECT 2" .empty]

/-- The statement that fails behind these calls. -/
def sampleFailure : Call := .execute "SELECT 3" .empty

/-- A statement that fails does not always keep what an earlier one left from being read. -/
theorem not_always_refused :
    (takeTurn (Engine.wire 0).planned (afterAll (Engine.wire 0).planned (fresh, samplePlan)
        sampleLoss) sampleFailure).answer = .error (.failed (.state "connection is closed")) ∧
    (takeTurn (Engine.wire 0).planned (afterAll (Engine.wire 0).planned (fresh, samplePlan)
        (sampleLoss ++ [sampleFailure])) .fetchAll).answer = .ok (.rows [[.integer 1]]) := by
  decide +kernel

/-- Nothing has cleared the earlier result there, so reading it is not refused. -/
theorem refused_after_failure_iff_sampleLoss :
    (∀ t ∈ turns (Engine.wire 0).planned (afterAll (Engine.wire 0).planned (fresh, samplePlan)
      sampleLoss) [sampleFailure], ¬t.Succeeds) ∧
    Call.fetchAll.isReading = true ∧
    ¬∃ message, (takeTurn (Engine.wire 0).planned (afterAll (Engine.wire 0).planned
      (afterAll (Engine.wire 0).planned (fresh, samplePlan) sampleLoss) [sampleFailure])
        .fetchAll).answer = .error (.failed (.state message)) := by
  have hfails : ∀ t ∈ turns (Engine.wire 0).planned (afterAll (Engine.wire 0).planned
      (fresh, samplePlan) sampleLoss) [sampleFailure], ¬t.Succeeds :=
    List.forall_mem_singleton.mpr fun h => absurd h.2 (by decide +kernel)
  have hkept : ∀ t ∈ turns (Engine.wire 0).planned (afterAll (Engine.wire 0).planned
      (fresh, samplePlan) sampleLoss) [sampleFailure], ¬t.Clears := by
    refine List.forall_mem_singleton.mpr fun h => ?_
    obtain ⟨-, hop, hmem, -⟩ := h
    have hquiet : (takeTurn (Engine.wire 0).planned (afterAll (Engine.wire 0).planned
        (fresh, samplePlan) sampleLoss) sampleFailure).hops.isEmpty = true := by
      decide +kernel
    rw [List.isEmpty_iff.mp hquiet] at hmem
    exact absurd hmem List.not_mem_nil
  exact ⟨hfails, rfl, fun h =>
    (refused_after_failure_iff ⟨_, _, rfl⟩ hfails rfl).1.mp h
      ⟨⟨by decide +kernel, by decide +kernel⟩, hkept⟩⟩

end Link

end TableGateway
