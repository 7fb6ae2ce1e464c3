import TableGateway.Proofs.Backend.Leftovers

/-!
# How a result is read

The rows of a statement are handed out in pieces, and before the first of them the transaction is
committed. This module follows a result from the statement that brought it to the last row that is
read of it: whatever the calls and however often the commit fails, no row is lost and none is handed
out twice, and one commit is all that succeeds.

## Conventions

The calls are those that read and the commit itself; only a commit is ever sent by them. A commit
that is refused can be tried again. One whose connection is lost cannot, and what has not been read
stays where it is.

## Main results

* `Link.Goes.served`: what reading and committing can do.
* `Link.Served.careful`, `Link.Served.tallies`: what one such call hands out and sends.
* `Link.delivers`: any such calls behind a statement.
-/

namespace TableGateway

variable {σ : Type} {wire : Wire σ}

/-- A call that reads a result or commits it. -/
def Call.Settles (c : Call) : Prop := c.isReading = true ∨ c = .commit

/-- The rows that a call has handed out. -/
def Turn.delivered (t : Turn σ) : List Record :=
  match t.answer with
  | .ok (.row r) => r.toList
  | .ok (.rows rs) => rs
  | _ => []

/-- The call has succeeded. -/
def Turn.Succeeded (t : Turn σ) : Prop := ∃ a, t.answer = .ok a

/-- The result behind the commit was not reached, and is there as before. -/
structure Turn.Postponed (wire : Wire σ) (t : Turn σ) : Prop where
  failed : ¬t.Succeeded
  opened : t.after.transaction = .opened
  executed : t.after.executed = true
  rows : t.after.rows = t.before.rows
  affected : t.after.affected = t.before.affected
  /-- As long as the connection is there, a later call whose commit is done reads the same. -/
  readable : t.after.connected = true → ∀ (s : σ) (c : Call), c.isReading = true →
    (wire .commit s).1.isAnswered = true →
      (Link.takeTurn wire (t.after, s) c).answer = .ok (c.reads t.before)

/-- A call that neither loses nor repeats a row. -/
structure Turn.Careful (wire : Wire σ) (t : Turn σ) : Prop where
  conserves : t.delivered ++ t.after.rows = t.before.rows
  kept : ¬t.Succeeded → t.after.rows = t.before.rows
  taken : ∀ a, t.answer = .ok a → a = t.call.reads t.before
  many : ∀ n rows, t.call = .fetchMany n → t.answer = .ok (.rows rows) →
    rows.length = min n t.before.rows.length
  one : ∀ r, t.call = .fetchOne → t.answer = .ok (.row r) → (r = none ↔ t.before.rows = [])
  uncommitted : ∀ hop ∈ t.hops, hop.trip.isAnswered = false →
    t.Postponed wire ∧ t.after.connected = hop.trip.cameBack

namespace Link

variable {l l' l₁ : Link} {s : σ} {c : Call} {r : Except Stop Answer} {hops hops' : List (Hop σ)}

/-! ### One call -/

/-- What reading or committing can do on a link that has something to read. -/
inductive Served (wire : Wire σ) (l : Link) (s : σ) (c : Call) :
    Except Stop Answer → Link → List (Hop σ) → Prop where
  /-- It is refused without a trip. -/
  | refused {message : String} : Served wire l s c (.error (.failed (.state message))) l []
  /-- It would have to commit first, and this fails. -/
  | uncommitted {e : Stop} (ho : l.isOpen = true) (he : (wire .commit s).1.told = .error e)
      (ha : (wire .commit s).1.isAnswered = false) :
      Served wire l s c (.error e) (l.afterTrip (wire .commit s).1) [wire.hop .commit s]
  /-- It commits first. -/
  | committed (ho : l.isOpen = true) (ha : (wire .commit s).1.isAnswered = true) :
      Served wire l s c (.ok (c.reads l))
        { l.afterTrip (wire .commit s).1 with
          transaction := .committed, rows := c.leaves l.rows } [wire.hop .commit s]
  /-- It reads behind the commit. -/
  | read (ho : l.isOpen = false) :
      Served wire l s c (.ok (c.reads l)) { l with rows := c.leaves l.rows } []

/-- **Reading and committing.** -/
theorem Goes.served (h : Goes wire l s c r l' hops) (he : l.executed = true) (hc : c.Settles) :
    Served wire l s c r l' hops := by
  have hcommits : ∀ {k}, c.control = some k → c = .commit ∧ k = .commit := by
    rintro k hk
    rcases hc with hc | rfl
    · exact absurd (hk.symm.trans (Call.control_of_isReading hc)) (by simp)
    · exact ⟨rfl, (Option.some.inj hk).symm⟩
  have hnone : ∀ {α : Prop}, ¬Call.Settles c → α := fun hnot => absurd hc hnot
  cases h with
  | misplaced | unsent | unsettled => exact .refused
  | dropped hk => exact absurd (hcommits hk).2 (by simp)
  | @sent _ k hk _ hfits =>
      obtain ⟨rfl, rfl⟩ := hcommits hk
      have hopen : l.isOpen = true := by simpa using hfits
      rcases (wire .commit s).1.told_cases with ⟨ha, a, htold⟩ | ⟨ha, e, htold⟩
      · rw [htold, if_pos ha]
        exact .committed hopen ha
      · rw [htold, if_neg (by simp [ha])]
        exact .uncommitted hopen htold ha
  | unread _ hn => exact absurd (he.symm.trans hn) (by simp)
  | read _ _ ho => exact .read ho
  | settled _ _ ho =>
      rcases (wire .commit s).1.told_cases with ⟨ha, a, htold⟩ | ⟨ha, e, htold⟩
      · rw [htold, if_pos ha]
        exact .committed ho ha
      · rw [htold, if_neg (by simp [ha])]
        exact .uncommitted ho htold ha
  | unbegun | unlinked | ran | began | givenUp | closed =>
      exact hnone (by simp [Call.Settles, Call.isReading])

/-- What a call hands out and what it leaves are together what was there. -/
theorem delivered_append_leaves (c : Call) (l l' : Link) (hops : List (Hop σ)) :
    Turn.delivered ⟨c, l, .ok (c.reads l), l', hops⟩ ++ c.leaves l.rows = l.rows := by
  cases c with
  | fetchOne => cases hrows : l.rows <;> simp [Turn.delivered, Call.reads, Call.leaves, hrows]
  | fetchMany n => exact List.take_append_drop n l.rows
  | fetchAll => exact List.append_nil l.rows
  | _ => rfl

/-- Reading succeeds where its commit does. -/
theorem Goes.reads (h : Goes wire l s c r l' hops) (hc : c.isReading = true)
    (he : l.executed = true) (ho : l.isOpen = true) (hl : l.connected = true)
    (ha : (wire .commit s).1.isAnswered = true) : r = .ok (c.reads l) := by
  cases h with
  | misplaced hk | dropped hk | sent hk | unsent hk =>
      exact absurd (hk.symm.trans (Call.control_of_isReading hc)) (by simp)
  | unread _ hn => exact absurd (he.symm.trans hn) (by simp)
  | read _ _ hn => exact absurd (ho.symm.trans hn) (by simp)
  | settled => exact map_told_eq_ok.mpr ⟨ha, rfl⟩
  | unsettled _ _ hn => exact absurd (hl.symm.trans hn) (by simp)
  | unbegun | unlinked | ran | began | givenUp | closed => exact absurd hc Bool.false_ne_true

/-- A result behind a commit that has failed can still be read. -/
theorem postponed_afterTrip {trip : Trip} {e : Stop} (he : l.executed = true)
    (ho : l.isOpen = true) :
    Turn.Postponed wire ⟨c, l, .error e, l.afterTrip trip, hops⟩ where
  failed := fun ⟨a, ha⟩ => absurd ha (by simp)
  opened := of_decide_eq_true ho
  executed := he
  rows := rfl
  affected := rfl
  readable hl s d hd ha := by
    have hreads : d.reads (l.afterTrip trip) = d.reads l := by cases d <;> rfl
    rw [(takeTurn_goes wire (l.afterTrip trip, s) d).reads hd he ho hl ha, hreads]

/-- **Reading and committing with care.** -/
theorem Served.careful (h : Served wire l s c r l' hops) (he : l.executed = true)
    (hc : c.Settles) : Turn.Careful wire ⟨c, l, r, l', hops⟩ := by
  have hfailed : ∀ {l' : Link} {e : Stop}, l'.rows = l.rows →
      (∀ hop ∈ hops, hop.trip.isAnswered = false →
        Turn.Postponed wire ⟨c, l, .error e, l', hops⟩ ∧ l'.connected = hop.trip.cameBack) →
      Turn.Careful wire ⟨c, l, .error e, l', hops⟩ := fun hrows huncommitted =>
    ⟨hrows, fun _ => hrows, fun _ ha => absurd ha (by simp), fun _ _ _ ha => absurd ha (by simp),
      fun _ _ ha => absurd ha (by simp), huncommitted⟩
  have hserved : ∀ {l' : Link}, l'.rows = c.leaves l.rows →
      (∀ hop ∈ hops, hop.trip.isAnswered = true) →
      Turn.Careful wire ⟨c, l, .ok (c.reads l), l', hops⟩ := by
    intro l' hrows hanswered
    refine ⟨?_, fun hnot => absurd ⟨_, rfl⟩ hnot, fun a ha => (Except.ok.inj ha).symm,
      fun n rows hn ha => ?_, fun r hone ha => ?_, fun hop hmem hn =>
        absurd ((hanswered hop hmem).symm.trans hn) (by simp)⟩
    · have hconserves := delivered_append_leaves c l l' hops
      rwa [← hrows] at hconserves
    · obtain rfl : c = .fetchMany n := hn
      obtain rfl : l.rows.take n = rows := Answer.rows.inj (Except.ok.inj ha)
      exact List.length_take
    · obtain rfl : c = .fetchOne := hone
      obtain rfl : (l.rows.take 1).head? = r := Answer.row.inj (Except.ok.inj ha)
      cases l.rows <;> simp
  cases h with
  | refused => exact hfailed rfl fun _ hmem => absurd hmem List.not_mem_nil
  | uncommitted ho _ ha =>
      refine hfailed rfl fun hop hmem _ => ⟨postponed_afterTrip he ho, ?_⟩
      rw [List.mem_singleton.mp hmem]
      rfl
  | committed ho ha =>
      exact hserved rfl fun hop hmem => List.mem_singleton.mp hmem ▸ ha
  | read => exact hserved rfl fun _ hmem => absurd hmem List.not_mem_nil

/-- The result stays where it is, in a transaction that has not ended without a commit. -/
structure Holding (l : Link) : Prop where
  executed : l.executed = true
  begun : l.transaction ≠ .idle

/-- It is still held behind the call. -/
theorem Served.holding (h : Served wire l s c r l' hops) (hl : l.Holding) : l'.Holding := by
  cases h with
  | refused | uncommitted | read => exact ⟨hl.executed, hl.begun⟩
  | committed => exact ⟨hl.executed, by simp⟩

/-- Commits are all that is sent, none of them behind one that was done, and one is done exactly
where the transaction ends. -/
structure Tallies (l l' : Link) (hops : List (Hop σ)) : Prop where
  commits : ∀ hop ∈ hops, hop.command = .commit
  last : hops.Pairwise fun hop _ => hop.trip.isAnswered = false
  count : hops.countP (·.trip.isAnswered) + l'.isOpen.toNat = l.isOpen.toNat
  quiet : l.isOpen = false → hops = []

/-- A call without a trip. -/
theorem Tallies.quietly (h : l'.isOpen = l.isOpen) : Tallies l l' ([] : List (Hop σ)) :=
  ⟨fun _ hmem => absurd hmem List.not_mem_nil, .nil, by simp [h], fun _ => rfl⟩

/-- A call that sends a commit. -/
theorem Tallies.once (ho : l.isOpen = true)
    (h : l'.isOpen = !(wire .commit s).1.isAnswered) :
    Tallies l l' [wire.hop .commit s] := by
  refine ⟨fun hop hmem => List.mem_singleton.mp hmem ▸ rfl, List.pairwise_singleton _ _, ?_,
    fun hn => absurd (ho.symm.trans hn) (by simp)⟩
  have htrip : (wire.hop .commit s).trip = (wire .commit s).1 := rfl
  cases ha : (wire .commit s).1.isAnswered <;> simp [ho, h, ha, htrip]

/-- **The commits of a call.** -/
theorem Served.tallies (h : Served wire l s c r l' hops) : Tallies l l' hops := by
  cases h with
  | refused | read => exact .quietly rfl
  | uncommitted ho _ ha => exact .once ho (by rw [ha]; exact ho)
  | committed ho ha => exact .once ho (by rw [ha]; rfl)

/-- A call that succeeds leaves no transaction open. -/
theorem Served.closed (h : Served wire l s c r l' hops) (ha : ∃ a, r = .ok a) :
    l'.isOpen = false := by
  cases h with
  | refused | uncommitted => exact absurd ha (by simp)
  | committed => rfl
  | read ho => exact ho

/-! ### Any calls -/

/-- The commits of calls, and of more of them. -/
theorem Tallies.append (h : Tallies l l₁ hops) (h' : Tallies l₁ l' hops') :
    Tallies l l' (hops ++ hops') := by
  have hcount := h.count
  have hcount' := h'.count
  -- Behind a commit that was done there is nothing more.
  have hend : ∀ hop ∈ hops, hop.trip.isAnswered = true → hops' = [] := fun hop hmem ha => by
    have hpos : 0 < hops.countP (·.trip.isAnswered) := List.countP_pos_iff.mpr ⟨hop, hmem, ha⟩
    have hone : l.isOpen.toNat ≤ 1 := Bool.toNat_le _
    refine h'.quiet ?_
    cases hl : l₁.isOpen with
    | false => rfl
    | true =>
        rw [hl, Bool.toNat_true] at hcount
        omega
  refine ⟨List.forall_mem_append.mpr ⟨h.commits, h'.commits⟩, ?_, ?_, fun ho => ?_⟩
  · refine List.pairwise_append.mpr ⟨h.last, h'.last, fun hop hmem hop' hmem' => ?_⟩
    by_contra ha
    rw [hend hop hmem (by simpa using ha)] at hmem'
    exact absurd hmem' List.not_mem_nil
  · rw [List.countP_append]
    omega
  · have hnone : hops = [] := h.quiet ho
    subst hnone
    have hl : l₁.isOpen = false := by
      rw [ho] at hcount
      simpa using hcount
    rw [h'.quiet hl]
    rfl

/-- What becomes of a result over calls that read or commit. -/
structure Delivery (wire : Wire σ) (rows : List Record) (ts : List (Turn σ)) (l : Link) : Prop where
  /-- What was handed out, in order, and what is left. -/
  conserves : ts.flatMap Turn.delivered ++ l.rows = rows
  careful : ∀ t ∈ ts, t.Careful wire
  /-- Only commits are sent. -/
  commits : ∀ hop ∈ ts.flatMap Turn.hops, hop.command = .commit
  /-- None is sent behind one that was done. -/
  last : (ts.flatMap Turn.hops).Pairwise fun hop _ => hop.trip.isAnswered = false
  /-- Once something has been read, exactly one was done. -/
  once : (∃ t ∈ ts, t.call.isReading = true ∧ t.Succeeded) →
    (ts.flatMap Turn.hops).countP (·.trip.isAnswered) = 1

/-- **Any calls.** By induction over them. -/
theorem delivery_of_holding {calls : List Call} (hcalls : ∀ c ∈ calls, c.Settles) {y : Link × σ}
    (hy : y.1.Holding) :
    (turns wire y calls).flatMap Turn.delivered ++ (afterAll wire y calls).1.rows = y.1.rows ∧
    (∀ t ∈ turns wire y calls, t.Careful wire) ∧
    Tallies y.1 (afterAll wire y calls).1 ((turns wire y calls).flatMap Turn.hops) ∧
    ((∃ t ∈ turns wire y calls, t.Succeeded) → (afterAll wire y calls).1.isOpen = false) := by
  induction calls generalizing y with
  | nil =>
      refine ⟨rfl, fun _ ht => absurd ht List.not_mem_nil, .quietly rfl, ?_⟩
      rintro ⟨t, ht, -⟩
      exact absurd ht List.not_mem_nil
  | cons c calls ih =>
      obtain ⟨hc, hrest⟩ := List.forall_mem_cons.mp hcalls
      have hserved := (takeTurn_goes wire y c).served hy.executed hc
      have hcareful : Turn.Careful wire (takeTurn wire y c) := hserved.careful hy.executed hc
      have hafter : (takeTurn wire y c).after.Holding := hserved.holding hy
      obtain ⟨hconserves, hall, htallies, hclosed⟩ :=
        ih hrest (y := ((call wire c).on y).2) hafter
      refine ⟨?_, List.forall_mem_cons.mpr ⟨hcareful, hall⟩, hserved.tallies.append htallies, ?_⟩
      · change ((takeTurn wire y c).delivered ++ _) ++ _ = _
        rw [List.append_assoc]
        exact (congrArg _ hconserves).trans hcareful.conserves
      · rintro ⟨t, ht, hsucceeded⟩
        rcases List.mem_cons.mp ht with rfl | ht
        · have hend := htallies.count
          have hl : ((call wire c).on y).2.1.isOpen = false := hserved.closed hsucceeded
          rw [htallies.quiet hl, hl] at hend
          change (afterAll wire ((call wire c).on y).2 calls).1.isOpen = false
          simpa using hend
        · exact hclosed ⟨t, ht, hsucceeded⟩

/-- The rows that the trip of a statement brought. -/
theorem holding_afterStatement {k : Link} {trip : Trip} (ho : k.isOpen = true)
    (ha : trip.isAnswered = true) :
    (k.afterStatement trip).Holding ∧ (k.afterStatement trip).isOpen = true ∧
      ∃ n, trip = .answered (k.afterStatement trip).rows n := by
  cases trip with
  | answered rows n =>
      have hopen : k.transaction = .opened := of_decide_eq_true ho
      have hbegun : k.transaction ≠ .idle := by
        rw [hopen]
        simp
      exact ⟨⟨rfl, hbegun⟩, ho, n, rfl⟩
  | refused | lost | abandoned => exact absurd ha Bool.false_ne_true

/-- A statement that succeeds leaves the rows that its trip brought, in an open transaction. -/
theorem Goes.brings {sql : String} {params : Params}
    (h : Goes wire l s (.execute sql params) r l' hops) (hr : r = .ok .done) :
    l'.Holding ∧ l'.isOpen = true ∧
      ∃ n, ∃ hop ∈ hops, hop.command = .statement sql params ∧ hop.trip = .answered l'.rows n := by
  cases h with
  | misplaced hk | dropped hk | sent hk | unsent hk => exact absurd hk (by simp [Call.control])
  | unread hc | read hc | settled hc | unsettled hc => exact absurd hc Bool.false_ne_true
  | unbegun _ _ ha => exact absurd ((map_told_eq_ok.mp hr).1.symm.trans ha) (by simp)
  | unlinked => exact absurd hr (by simp)
  | ran ho =>
      obtain ⟨hholding, hopen, n, htrip⟩ := holding_afterStatement ho (map_told_eq_ok.mp hr).1
      exact ⟨hholding, hopen, n, _, List.mem_singleton_self _, rfl, htrip⟩
  | began =>
      obtain ⟨hholding, hopen, n, htrip⟩ := holding_afterStatement (k := cleared .opened
        (l.afterTrip (wire .begin s).1)) rfl (map_told_eq_ok.mp hr).1
      exact ⟨hholding, hopen, n, _, List.mem_cons_of_mem _ (List.mem_singleton_self _), rfl, htrip⟩

/-- **Delivery.** Behind a statement that succeeded, the calls that read or commit hand out the rows
that its trip brought, whichever calls these are and however often their commits fail. -/
theorem delivers (wire : Wire σ) (y : Link × σ) {sql : String} {params : Params}
    (hdone : (takeTurn wire y (.execute sql params)).answer = .ok .done) {later : List Call}
    (hlater : ∀ c ∈ later, c.Settles) :
    ∃ rows n,
      (∃ hop ∈ (takeTurn wire y (.execute sql params)).hops,
        hop.command = .statement sql params ∧ hop.trip = .answered rows n) ∧
      Delivery wire rows (turns wire ((call wire (.execute sql params)).on y).2 later)
        (afterAll wire y (.execute sql params :: later)).1 := by
  obtain ⟨hholding, hopen, n, hbrought⟩ :=
    (takeTurn_goes wire y (.execute sql params)).brings hdone
  obtain ⟨hconserves, hcareful, htallies, hclosed⟩ :=
    delivery_of_holding hlater (y := ((call wire (.execute sql params)).on y).2)
      hholding
  refine ⟨_, n, hbrought, hconserves, hcareful, htallies.commits, htallies.last, ?_⟩
  rintro ⟨t, ht, -, hsucceeded⟩
  have hcount := htallies.count
  have hstart : ((call wire (.execute sql params)).on y).2.1.isOpen = true := hopen
  rw [hclosed ⟨t, ht, hsucceeded⟩, hstart] at hcount
  simpa using hcount

end Link

end TableGateway
