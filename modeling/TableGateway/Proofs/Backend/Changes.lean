import TableGateway.Proofs.Backend.Protocol
import TableGateway.Proofs.Engine.Changes

/-!
# What is told of changed rows

A link is told the count of its connection behind every statement that can write, whether or not the
statement counts. So behind one that writes something else, such as the making of a table, it is
told what an earlier statement changed. This module follows the count over any calls and says when
what is told is what the last statement changed.

## Conventions

A trip that `GoesWell` comes back, and if it brings a statement, the statement succeeds. Beginning,
committing and rolling back may be refused. The engine counts as `Connection.Counts` says.

## Main results

* `Connection.Counts.course`: the count over one call.
* `Connection.Counts.goes`: what one call makes of what is told.
* `Link.told_of_last`: what is told behind any calls.
* `Link.told_of_earlier`: a table is made, and a row that was inserted before is told of.
-/

namespace TableGateway

variable {σ : Type}

namespace Connection.Counts

open Link (Course Goes)

variable {k : Connection σ} {deed : String → Params → σ → Deed} {l l' : Link} {s s' : σ}
  {cs : List Command} {c : Call} {r : Except Stop Answer} {hops : List (Hop σ)}

/-- A begin, a commit or a rollback is no statement. -/
theorem deeds_control {command : Command} (hc : command.isControl = true) (wire : Wire σ) (s : σ) :
    deeds deed [wire.hop command s] = [] := by
  cases command with
  | begin | commit | rollback => rfl
  | statement sql params | disconnect => exact absurd hc Bool.false_ne_true

/-- **The count over one call.** -/
theorem course (h : k.Counts deed) (hcourse : Course k.wire cs l s l' s' hops)
    (hwell : ∀ hop ∈ hops, hop.GoesWell) :
    k.changes s' = (deeds deed hops).foldl Deed.count (k.changes s) := by
  have hhop : ∀ command s, command ≠ .disconnect → (k.wire.hop command s).GoesWell →
      k.changes (k.wire command s).2 =
        (deeds deed [k.wire.hop command s]).foldl Deed.count (k.changes s) := by
    intro command s hne hwell
    cases command with
    | begin | commit | rollback => exact h.kept _ s rfl hwell.back
    | statement sql params => exact h.counted sql params s hwell
    | disconnect => exact absurd rfl hne
  cases hcourse with
  | quiet => rfl
  | trip hi hs => exact hhop _ s hs.notDisconnect (hwell _ (List.mem_singleton_self _))
  | begun hb ha hi hs =>
      have hfirst := hhop .begin s hb.notDisconnect (hwell _ List.mem_cons_self)
      have hsecond := hhop _ (k.wire .begin s).2 hs.notDisconnect
        (hwell _ (List.mem_cons_of_mem _ (List.mem_singleton_self _)))
      rw [hsecond, hfirst]
      rfl

/-- **What one call makes of what is told.** Either it brings no statement, and what can be read
afterwards could be read before; or it brings one, and that is what is told of. -/
theorem goes (h : k.Counts deed) (hgoes : Goes k.wire l s c r l' hops) (hc : c ≠ .close)
    (hwell : ∀ hop ∈ hops, hop.GoesWell) :
    deeds deed hops = [] ∧ (l'.executed = true → l.executed = true ∧ l'.affected = l.affected) ∨
      ∃ d, deeds deed hops = [d] ∧ l'.affected = d.told (d.count (k.changes s)) := by
  have hkept : ∀ trip, (l.afterTrip trip).executed = true →
      l.executed = true ∧ (l.afterTrip trip).affected = l.affected := fun _ he => ⟨he, rfl⟩
  cases hgoes with
  | misplaced | unsent | unread | unsettled | read => exact .inl ⟨rfl, fun he => ⟨he, rfl⟩⟩
  | dropped => exact .inl ⟨rfl, fun he => absurd he Bool.false_ne_true⟩
  | @sent _ command hk =>
      have hcontrol : command.isControl = true := by
        cases c <;> simp only [Call.control, Option.some.injEq, reduceCtorEq] at hk <;>
          exact hk ▸ rfl
      refine .inl ⟨deeds_control hcontrol k.wire s, ?_⟩
      split_ifs
      · cases command with
        | begin | rollback => exact fun he => absurd he Bool.false_ne_true
        | commit => exact hkept (k.wire .commit s).1
        | statement sql params | disconnect => exact absurd hcontrol Bool.false_ne_true
      · exact hkept _
  | settled =>
      refine .inl ⟨rfl, ?_⟩
      split_ifs <;> exact hkept (k.wire .commit s).1
  | unbegun => exact .inl ⟨rfl, hkept _⟩
  | unlinked =>
      refine .inl ⟨rfl, ?_⟩
      split_ifs
      · exact fun he => absurd he Bool.false_ne_true
      · exact fun he => ⟨he, rfl⟩
  | ran =>
      obtain ⟨rows, htrip⟩ := h.told (hwell _ (List.mem_singleton_self _))
      exact .inr ⟨_, rfl, by rw [htrip]; rfl⟩
  | began =>
      have hbegun : k.changes (k.wire .begin s).2 = k.changes s :=
        h.kept .begin s rfl (hwell _ List.mem_cons_self).back
      have hlast := hwell _ (List.mem_cons_of_mem _ (List.mem_singleton_self _))
      obtain ⟨rows, htrip⟩ := h.told (s := (k.wire .begin s).2) hlast
      rw [hbegun] at htrip
      exact .inr ⟨_, rfl, by rw [htrip]; rfl⟩
  | givenUp | closed => exact absurd rfl hc

end Connection.Counts

namespace Link

variable {k : Connection σ} {deed : String → Params → σ → Deed} {s : σ} {calls : List Call}

/-! ### Any calls -/

/-- The trips of a turn are the course of its call. -/
theorem takeTurn_course (wire : Wire σ) (y : Link × σ) {c : Call} (hc : c ≠ .close) :
    Course wire c.commands y.1 y.2 ((call wire c).on y).2.1 ((call wire c).on y).2.2
      (takeTurn wire y c).hops := by
  obtain ⟨hops, hlog, hcourse⟩ := call_course wire c hc y.1 y.2 []
  obtain ⟨log, halike⟩ := call_alike wire c hc y.1 y.2 []
  have hhops : (takeTurn wire y c).hops = hops := hlog
  rw [halike] at hcourse
  exact hhops ▸ hcourse

/-- The trips of some turns. -/
abbrev hopsOf (ts : List (Turn σ)) : List (Hop σ) := ts.flatMap Turn.hops

/-- What holds behind some turns whose trips go well: the count is that of their statements, and
what is told is told of the last one. -/
structure Counted (k : Connection σ) (deed : String → Params → σ → Deed) (y : Link × σ)
    (ds : List Deed) : Prop where
  count : k.changes y.2 = countBehind ds
  last : y.1.executed = true →
    ∃ earlier d, ds = earlier ++ [d] ∧ y.1.affected = d.told (d.count (countBehind earlier))

/-- **One turn.** -/
theorem Counted.step {y : Link × σ} {ds : List Deed} (h : Counted k deed y ds)
    (hcounts : k.Counts deed) {c : Call} (hc : c ≠ .close)
    (hwell : ∀ hop ∈ (takeTurn k.wire y c).hops, hop.GoesWell) :
    Counted k deed ((call k.wire c).on y).2 (ds ++ deeds deed (takeTurn k.wire y c).hops) := by
  have hcount := hcounts.course (takeTurn_course k.wire y hc) hwell
  have hgoes := hcounts.goes (takeTurn_goes k.wire y c) hc hwell
  constructor
  · rw [hcount, h.count]
    exact List.foldl_append.symm
  · intro he
    rcases hgoes with ⟨hnone, hkept⟩ | ⟨d, hone, htold⟩
    · obtain ⟨hbefore, hsame⟩ := hkept he
      obtain ⟨earlier, d, hds, htold⟩ := h.last hbefore
      exact ⟨earlier, d, by rw [hnone, List.append_nil, hds], hsame.trans htold⟩
    · exact ⟨ds, d, by rw [hone], by rw [← h.count]; exact htold⟩

/-- **Any turns.** By induction over the calls. -/
theorem counted_turns (hcounts : k.Counts deed) (hs : k.changes s = 0)
    (hcalls : Call.close ∉ calls)
    (hwell : ∀ hop ∈ hopsOf (turns k.wire (fresh, s) calls), hop.GoesWell) :
    Counted k deed (afterAll k.wire (fresh, s) calls)
      (deeds deed (hopsOf (turns k.wire (fresh, s) calls))) := by
  induction calls using List.reverseRecOn with
  | nil => exact ⟨hs, fun he => absurd he Bool.false_ne_true⟩
  | append_singleton calls c ih =>
      rw [List.mem_append, List.mem_singleton, not_or] at hcalls
      have hhops : hopsOf (turns k.wire (fresh, s) (calls ++ [c])) =
          hopsOf (turns k.wire (fresh, s) calls) ++
            (takeTurn k.wire (afterAll k.wire (fresh, s) calls) c).hops := by
        rw [turns_snoc, hopsOf, List.flatMap_append, List.flatMap_singleton]
      rw [hhops, List.forall_mem_append] at hwell
      rw [hhops, deeds, List.filterMap_append, afterAll_snoc]
      exact (ih hcalls.1 hwell.1).step hcounts (Ne.symm hcalls.2) hwell.2

/-- Reading where there is something to read takes it from the link, if the commit that may come
first is done. -/
theorem Goes.reads_answered {wire : Wire σ} {l l' : Link} {c : Call} {r : Except Stop Answer}
    {hops : List (Hop σ)} (h : Goes wire l s c r l' hops) (hc : c.isReading = true)
    {readable : Prop} (htells : l.Tells readable) (hr : readable)
    (ha : ∀ hop ∈ hops, hop.trip.isAnswered = true) : r = .ok (c.reads l) := by
  have he : l.executed = true := htells.executed.mpr hr
  cases h with
  | misplaced hk | dropped hk | sent hk | unsent hk =>
      exact absurd (hk.symm.trans (Call.control_of_isReading hc)) (by simp)
  | unbegun | unlinked | ran | began | givenUp | closed => exact absurd hc Bool.false_ne_true
  | unread _ hn => exact absurd (he.symm.trans hn) (by simp)
  | unsettled _ ho hconn => simp [isOpen, htells.idle hconn] at ho
  | read => rfl
  | settled => exact map_told_eq_ok.mpr ⟨ha _ (List.mem_singleton_self _), rfl⟩

/-- **What is told.** Behind any calls whose trips go well, and whenever there is something to read,
the last statement is told of, if the commit that may come first is done. What is told is the number
of rows that this statement changed, unless it can write but does not count and an earlier statement
has changed rows; then it is what the last statement that counts changed. -/
theorem told_of_last (hcounts : k.Counts deed) (hs : k.changes s = 0) (hcalls : Call.close ∉ calls)
    (hwell : ∀ hop ∈ hopsOf (turns k.wire (fresh, s) calls), hop.GoesWell)
    (hresult : HasResult (turns k.wire (fresh, s) calls)) :
    ∃ earlier d, deeds deed (hopsOf (turns k.wire (fresh, s) calls)) = earlier ++ [d] ∧
      ((∀ hop ∈ (takeTurn k.wire (afterAll k.wire (fresh, s) calls) .affected).hops,
          hop.trip.isAnswered = true) →
        (takeTurn k.wire (afterAll k.wire (fresh, s) calls) .affected).answer =
          .ok (.count (d.told (d.count (countBehind earlier))))) ∧
      (d.told (d.count (countBehind earlier)) = d.own ↔
        ¬(d = .writes ∧ countBehind earlier ≠ 0)) := by
  have hreturns : ∀ t ∈ turns k.wire (fresh, s) calls, t.Returns := fun t ht hop hhop _ =>
    (hwell hop (List.mem_flatMap.mpr ⟨t, ht, hhop⟩)).back
  have htells := (upholds_turns k.wire s calls).tells hreturns
  have hcounted := counted_turns hcounts hs hcalls hwell
  obtain ⟨earlier, d, hds, haffected⟩ := hcounted.last (htells.executed.mpr hresult)
  refine ⟨earlier, d, hds, fun ha => ?_, d.told_eq_own _⟩
  rw [(takeTurn_goes k.wire _ .affected).reads_answered rfl htells hresult ha, ← haffected]
  rfl

/-! ### A table that is made behind a row -/

/-- A table is made, and two rows are inserted in another transaction. -/
def sampleRows : List Call :=
  [.execute "CREATE TABLE t (x INTEGER)" .empty, .commit] ++
    [.execute "INSERT INTO t VALUES (1), (2)" .empty]

/-- The two rows are told of. -/
theorem told_of_last_sampleRows :
    (Engine.connection 0).Counts (Engine.deed 0) ∧
    (Engine.connection 0).changes sampleFiles = 0 ∧ Call.close ∉ sampleRows ∧
    (∀ hop ∈ hopsOf (turns (Engine.connection 0).wire (fresh, sampleFiles) sampleRows),
      hop.GoesWell) ∧
    HasResult (turns (Engine.connection 0).wire (fresh, sampleFiles) sampleRows) ∧
    (takeTurn (Engine.connection 0).wire (afterAll (Engine.connection 0).wire (fresh, sampleFiles)
      sampleRows) .affected).answer = .ok (.count 2) := by
  have hcounts := Engine.connection_counts 0
  have hclose : Call.close ∉ sampleRows := by decide
  have hwell : ∀ hop ∈ hopsOf (turns (Engine.connection 0).wire (fresh, sampleFiles) sampleRows),
      hop.GoesWell := by decide +kernel
  have hresult : HasResult (turns (Engine.connection 0).wire (fresh, sampleFiles) sampleRows) := by
    rw [sampleRows, turns_snoc, hasResult_snoc]
    exact .inl ⟨⟨_, _, rfl⟩, by decide +kernel⟩
  obtain ⟨earlier, d, hds, htold, -⟩ := told_of_last hcounts rfl hclose hwell hresult
  have hdeeds : deeds (Engine.deed 0) (hopsOf (turns (Engine.connection 0).wire
      (fresh, sampleFiles) sampleRows)) = [.writes] ++ [.changes 2] := by decide +kernel
  obtain ⟨rfl, hlast⟩ := List.append_inj' (hdeeds.symm.trans hds) rfl
  obtain rfl := (List.cons.inj hlast).1
  exact ⟨hcounts, rfl, hclose, hwell, hresult, htold (by decide +kernel)⟩

/-- Behind that, another table is made. -/
def sampleMaking : List Call := sampleRows ++ [.execute "CREATE TABLE u (x INTEGER)" .empty]

/-- **An earlier statement.** The table is made without changing a row, and two rows are told of. -/
theorem told_of_earlier :
    deeds (Engine.deed 0) (hopsOf (turns (Engine.connection 0).wire (fresh, sampleFiles)
      sampleMaking)) = [.writes, .changes 2, .writes] ∧
    (takeTurn (Engine.connection 0).wire (afterAll (Engine.connection 0).wire (fresh, sampleFiles)
      sampleMaking) .affected).answer = .ok (.count 2) := by
  decide +kernel

end Link

end TableGateway
