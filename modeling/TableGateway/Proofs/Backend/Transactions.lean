import Mathlib.Data.List.Induction
import TableGateway.Proofs.Backend.Course
import TableGateway.Proofs.Engine.Transactions

/-!
# Whether a link knows about the transaction of its engine

A link keeps its own record of the transaction, and only the answers to its commands change that
record. This module compares the record with the transaction of the engine behind the wire, over
any calls and any answers.

The engine is trusted only as far as `Wire.Transactional` says: a begin that is answered opens a
transaction, one that is refused does not, and a commit or a rollback that is answered ends it.
Nothing is assumed about statements. So a statement can end the transaction by itself, and so can a
commit or a rollback that is refused; then the link goes on taking it to be open, as
`Hop.Undermines` says, and the statements that follow run in none.

## Conventions

`inTx` says whether the engine has a transaction open. `Link.Agrees` is about links that still have
their connection: where it was lost, there is no engine to agree with.

## Main results

* `Link.Course.agrees_iff`: one call.
* `Link.agreement`: any calls on a fresh link.
* `Link.not_always_agrees`: a link and its engine can disagree.
-/

namespace TableGateway

variable {σ : Type} {wire : Wire σ} {inTx : σ → Prop}

/-- A trip that ends the open transaction, while the link goes on taking one to be open. -/
def Hop.Undermines (inTx : σ → Prop) (h : Hop σ) : Prop :=
  h.trip.cameBack = true ∧ inTx h.before ∧ ¬inTx h.after ∧ h.command.leavesOpen h.trip = true

/-- A statement that runs in no transaction. -/
def Hop.Strays (inTx : σ → Prop) (h : Hop σ) : Prop :=
  (∃ sql params, h.command = .statement sql params) ∧ ¬inTx h.before

namespace Link

variable {cs : List Command} {l l' : Link} {s s' : σ} {hops : List (Hop σ)}

/-- A link takes a transaction to be open exactly when its engine has one open. -/
def Agrees (inTx : σ → Prop) (y : Link × σ) : Prop :=
  y.1.connected = true → (y.1.isOpen = true ↔ inTx y.2)

/-- A link takes a transaction to be open that its engine does not have. -/
def Astray (inTx : σ → Prop) (y : Link × σ) : Prop :=
  y.1.connected = true ∧ y.1.isOpen = true ∧ ¬inTx y.2

/-- Such a link does not agree with its engine. -/
theorem Astray.not_agrees {y : Link × σ} (h : Astray inTx y) : ¬Agrees inTx y :=
  fun hagrees => h.2.2 ((hagrees h.1).mp h.2.1)

/-! ### One trip -/

/-- Where a link takes a transaction to be open after a trip, the engine had one before or has one
after. -/
theorem Sends.inTx_or {c : Command} (h : l.Sends wire s c l') (hwire : wire.Transactional inTx)
    (hagrees : l.isOpen = true ↔ inTx s) (hopen : c.leavesOpen (wire c s).1 = true) :
    inTx s ∨ inTx (wire c s).2 := by
  cases hl : l.isOpen with
  | true => exact .inl (hagrees.mp hl)
  | false =>
      have hc : c = .begin := h.fits.mpr hl
      subst hc
      exact .inr (hwire.begins s hopen)

/-- One trip keeps a link in agreement with its engine, unless it undermines. -/
theorem Sends.agrees_iff {c : Command} (h : l.Sends wire s c l') (hwire : wire.Transactional inTx)
    (hagrees : Agrees inTx (l, s)) :
    Agrees inTx (l', (wire c s).2) ↔ ¬(wire.hop c s).Undermines inTx := by
  have hagrees : l.isOpen = true ↔ inTx s := hagrees h.connected
  unfold Agrees Hop.Undermines Wire.hop
  dsimp only
  rw [h.back, h.opened]
  cases hback : (wire c s).1.cameBack with
  | false => simp
  | true =>
      cases hopen : c.leavesOpen (wire c s).1 with
      | true =>
          have hor : inTx s ∨ inTx (wire c s).2 := h.inTx_or hwire hagrees hopen
          constructor
          · rintro hlinked ⟨-, -, hnone, -⟩
            exact hnone ((hlinked rfl).mp rfl)
          · intro hnot _
            refine iff_of_true rfl (by_contra fun hnone => ?_)
            rcases hor with hbefore | hafter
            · exact hnot ⟨rfl, hbefore, hnone, rfl⟩
            · exact hnone hafter
      | false =>
          have hbefore : l.isOpen = false → ¬inTx s := fun hl => by rw [← hagrees, hl]; simp
          have hnone : ¬inTx (wire c s).2 := h.not_inTx hwire.finishes hbefore hback hopen
          simp [hnone]

/-- A begin undermines nothing. -/
theorem Sends.begin_not_undermines (h : l.Sends wire s .begin l') (hagrees : Agrees inTx (l, s)) :
    ¬(wire.hop .begin s).Undermines inTx := by
  rintro ⟨-, hbefore, -, -⟩
  have hopen : l.isOpen = true := (hagrees h.connected).mpr hbefore
  rw [h.fits.mp rfl] at hopen
  exact absurd hopen (by simp)

/-! ### One call -/

/-- Over one call, a link stays in agreement with its engine exactly when no trip undermines. -/
theorem Course.agrees_iff (h : Course wire cs l s l' s' hops) (hwire : wire.Transactional inTx)
    (hagrees : Agrees inTx (l, s)) :
    Agrees inTx (l', s') ↔ ∀ hop ∈ hops, ¬hop.Undermines inTx := by
  cases h with
  | quiet hc ho =>
      refine iff_of_true (fun hl => ?_) (by simp)
      exact ho ▸ hagrees (hc ▸ hl)
  | trip hi hs => rw [hs.agrees_iff hwire hagrees, List.forall_mem_singleton]
  | @begun l₁ _ sql params hb ha hi hs =>
      have hfirst : ¬(wire.hop .begin s).Undermines inTx := hb.begin_not_undermines hagrees
      have hmiddle : Agrees inTx (l₁, (wire .begin s).2) := (hb.agrees_iff hwire hagrees).mpr hfirst
      rw [hs.agrees_iff hwire hmiddle, List.forall_mem_cons, List.forall_mem_singleton]
      exact (and_iff_right hfirst).symm

/-- A statement of a call strays only if it is sent as it is, where the link takes a transaction to
be open and the engine has none. -/
theorem Course.of_strays (h : Course wire cs l s l' s' hops) (hwire : wire.Transactional inTx)
    {hop : Hop σ} (hmem : hop ∈ hops) (hstrays : hop.Strays inTx) :
    (∃ sql params, .statement sql params ∈ cs) ∧ Astray inTx (l, s) := by
  obtain ⟨⟨sql, params, hc⟩, hnone⟩ := hstrays
  cases h with
  | quiet => exact absurd hmem List.not_mem_nil
  | @trip _ c hi hs =>
      obtain rfl := List.mem_singleton.mp hmem
      have hc : c = .statement sql params := hc
      refine ⟨⟨sql, params, hc ▸ hi⟩, hs.connected, ?_, hnone⟩
      cases hl : l.isOpen with
      | true => rfl
      | false => exact absurd (hc.symm.trans (hs.fits.mpr hl)) (by simp)
  | begun hb ha hi hs =>
      rcases List.mem_pair.mp hmem with rfl | rfl
      · exact absurd hc (by simp [Wire.hop])
      · exact absurd (hwire.begins s ha) hnone

/-! ### Any calls -/

/-- What calls leave, one after another. -/
def afterAll (wire : Wire σ) (y : Link × σ) (calls : List Call) : Link × σ :=
  calls.foldl (fun y c => ((call wire c).on y).2) y

/-- The trips of calls on a fresh link. -/
def trips (wire : Wire σ) (s : σ) (calls : List Call) : List (Hop σ) :=
  (afterAll wire.logged (fresh, (s, [])) calls).2.2

/-- One more call. -/
theorem afterAll_snoc (wire : Wire σ) (y : Link × σ) (calls : List Call) (c : Call) :
    afterAll wire y (calls ++ [c]) = ((call wire c).on (afterAll wire y calls)).2 :=
  List.foldl_append

/-- Logging changes nothing, over any calls but closes. -/
theorem afterAll_logged (wire : Wire σ) (y : Link × σ) (log : List (Hop σ)) {calls : List Call}
    (hcalls : Call.close ∉ calls) :
    ∃ log', afterAll wire.logged (y.1, (y.2, log)) calls =
      ((afterAll wire y calls).1, ((afterAll wire y calls).2, log')) := by
  induction calls using List.reverseRecOn with
  | nil => exact ⟨log, rfl⟩
  | append_singleton calls c ih =>
      rw [List.mem_append, List.mem_singleton, not_or] at hcalls
      obtain ⟨log₁, heq⟩ := ih hcalls.1
      obtain ⟨log₂, hcall⟩ := call_alike wire c (Ne.symm hcalls.2)
        (afterAll wire y calls).1 (afterAll wire y calls).2 log₁
      exact ⟨log₂, by rw [afterAll_snoc, afterAll_snoc, heq, hcall]⟩

/-- The trips of one more call follow those of the calls before it, and are its course. -/
theorem trips_snoc (wire : Wire σ) (s : σ) {calls : List Call} {c : Call}
    (hcalls : Call.close ∉ calls ++ [c]) :
    ∃ hops, trips wire s (calls ++ [c]) = trips wire s calls ++ hops ∧
      Course wire c.commands (afterAll wire (fresh, s) calls).1 (afterAll wire (fresh, s) calls).2
        (afterAll wire (fresh, s) (calls ++ [c])).1 (afterAll wire (fresh, s) (calls ++ [c])).2
        hops := by
  obtain ⟨log', hafter⟩ := afterAll_logged wire (fresh, s) [] hcalls
  rw [List.mem_append, List.mem_singleton, not_or] at hcalls
  obtain ⟨log, hbefore⟩ := afterAll_logged wire (fresh, s) [] hcalls.1
  obtain ⟨hops, hlog, hcourse⟩ := call_course wire c (Ne.symm hcalls.2)
    (afterAll wire (fresh, s) calls).1 (afterAll wire (fresh, s) calls).2 log
  rw [← hbefore, ← afterAll_snoc, hafter] at hlog hcourse
  refine ⟨hops, ?_, hcourse⟩
  unfold trips
  rw [hafter, hbefore]
  exact hlog

/-- Only the execution of a statement sends it. -/
theorem eq_execute_of_mem_commands {c : Call} {sql : String} {params : Params}
    (h : .statement sql params ∈ c.commands) : c = .execute sql params := by
  cases c with
  | execute sql' params' =>
      obtain ⟨rfl, rfl⟩ : sql = sql' ∧ params = params' := by simpa [Call.commands] using h
      rfl
  | _ => simp [Call.commands] at h

/-- The trips of the first calls come first. -/
theorem trips_earlier (wire : Wire σ) (s : σ) {earlier calls : List Call}
    (hcalls : Call.close ∉ calls) (h : earlier <+: calls) :
    trips wire s earlier <+: trips wire s calls := by
  induction calls using List.reverseRecOn with
  | nil => exact List.prefix_nil.mp h ▸ List.prefix_refl _
  | append_singleton calls c ih =>
      rcases List.prefix_concat_iff.mp h with rfl | h
      · exact List.prefix_refl _
      · obtain ⟨hops, htrips, -⟩ := trips_snoc wire s hcalls
        rw [List.mem_append, not_or] at hcalls
        rw [htrips]
        exact (ih hcalls.1 h).trans (List.prefix_append _ _)

/-- A statement that is executed where the link is astray is sent as it is. -/
theorem trips_execute (wire : Wire σ) (s : σ) (sql : String) (params : Params) {calls : List Call}
    (hcalls : Call.close ∉ calls) (h : Astray inTx (afterAll wire (fresh, s) calls)) :
    trips wire s (calls ++ [.execute sql params]) = trips wire s calls ++
      [wire.hop (.statement sql params) (afterAll wire (fresh, s) calls).2] := by
  obtain ⟨hc, ho, -⟩ := h
  obtain ⟨log, hlog⟩ := afterAll_logged wire (fresh, s) [] hcalls
  obtain ⟨l', hsent, -⟩ := sendStatement_sends wire sql params
    (afterAll wire (fresh, s) calls).2 log hc ho
  have hcall : ∀ y, ((call wire.logged (.execute sql params)).on y).2 =
      ((execute wire.logged sql params).on y).2 := by
    intro y
    change ((execute wire.logged sql params >>= fun _ => pure Answer.done).on y).2 = _
    rw [Talk.on_bind]
    rcases (execute wire.logged sql params).on y with ⟨_ | _, z⟩ <;> rfl
  unfold trips
  rw [afterAll_snoc, hcall, hlog, execute_eq, if_pos (of_decide_eq_true ho), hsent]
  rfl

section

variable (hwire : wire.Transactional inTx) (hs : ¬inTx s)

include hwire hs

/-- Over any calls, a link stays in agreement with its engine exactly when no trip undermines. -/
theorem agrees_throughout_iff {calls : List Call} (hcalls : Call.close ∉ calls) :
    (∀ earlier, earlier <+: calls → Agrees inTx (afterAll wire (fresh, s) earlier)) ↔
      ∀ hop ∈ trips wire s calls, ¬hop.Undermines inTx := by
  induction calls using List.reverseRecOn with
  | nil =>
      have hfresh : Agrees inTx (fresh, s) := fun _ => iff_of_false (by simp [fresh, isOpen]) hs
      refine iff_of_true (fun earlier h => ?_) fun _ hmem => absurd hmem List.not_mem_nil
      rw [List.prefix_nil.mp h]
      exact hfresh
  | append_singleton calls c ih =>
      obtain ⟨hops, htrips, hcourse⟩ := trips_snoc wire s hcalls
      rw [List.mem_append, not_or] at hcalls
      rw [htrips, List.forall_mem_append, ← ih hcalls.1]
      constructor
      · intro hall
        have hearlier : ∀ earlier, earlier <+: calls →
            Agrees inTx (afterAll wire (fresh, s) earlier) :=
          fun earlier h => hall earlier (h.trans (List.prefix_append calls [c]))
        refine ⟨hearlier, ?_⟩
        rw [← hcourse.agrees_iff hwire (hearlier calls (List.prefix_refl _))]
        exact hall _ (List.prefix_refl _)
      · rintro ⟨hearlier, hhops⟩ earlier h
        rcases List.prefix_concat_iff.mp h with rfl | h
        · exact (hcourse.agrees_iff hwire (hearlier calls (List.prefix_refl _))).mpr hhops
        · exact hearlier earlier h

omit hs in
/-- A statement strays exactly when it is executed where the link is astray. -/
theorem exists_strays_iff {calls : List Call} (hcalls : Call.close ∉ calls) :
    (∃ hop ∈ trips wire s calls, hop.Strays inTx) ↔
      ∃ earlier sql params, earlier ++ [.execute sql params] <+: calls ∧
        Astray inTx (afterAll wire (fresh, s) earlier) := by
  constructor
  · rintro ⟨hop, hmem, hstrays⟩
    induction calls using List.reverseRecOn with
    | nil => exact absurd hmem List.not_mem_nil
    | append_singleton calls c ih =>
        obtain ⟨hops, htrips, hcourse⟩ := trips_snoc wire s hcalls
        rw [List.mem_append, not_or] at hcalls
        rw [htrips] at hmem
        rcases List.mem_append.mp hmem with hmem | hmem
        · obtain ⟨earlier, sql, params, hfirst, hastray⟩ := ih hcalls.1 hmem
          exact ⟨earlier, sql, params, hfirst.trans (List.prefix_append _ _), hastray⟩
        · obtain ⟨⟨sql, params, hi⟩, hastray⟩ := hcourse.of_strays hwire hmem hstrays
          obtain rfl := eq_execute_of_mem_commands hi
          exact ⟨calls, sql, params, List.prefix_rfl, hastray⟩
  · rintro ⟨earlier, sql, params, hfirst, hastray⟩
    have hearlier : Call.close ∉ earlier := fun hmem =>
      hcalls (hfirst.mem (List.mem_append_left _ hmem))
    refine ⟨wire.hop (.statement sql params) (afterAll wire (fresh, s) earlier).2, ?_,
      ⟨sql, params, rfl⟩, hastray.2.2⟩
    refine (trips_earlier wire s hcalls hfirst).mem ?_
    rw [trips_execute wire s sql params hearlier hastray]
    exact List.mem_append_right _ (List.mem_singleton_self _)

/-- **Agreement.** Over any calls but closes, and any answers of the engine, the link takes a
transaction to be open exactly when the engine has one open, throughout the calls, if and only if no
trip ends the transaction behind the link's back. A statement runs outside a transaction exactly
when it is executed where the link takes one to be open that the engine does not have; so as long as
no trip ends the transaction behind the link's back, none does. -/
theorem agreement {calls : List Call} (hcalls : Call.close ∉ calls) :
    ((∀ earlier, earlier <+: calls → Agrees inTx (afterAll wire (fresh, s) earlier)) ↔
      ∀ hop ∈ trips wire s calls, ¬hop.Undermines inTx) ∧
    ((∃ hop ∈ trips wire s calls, hop.Strays inTx) ↔
      ∃ earlier sql params, earlier ++ [.execute sql params] <+: calls ∧
        Astray inTx (afterAll wire (fresh, s) earlier)) ∧
    ((∀ hop ∈ trips wire s calls, ¬hop.Undermines inTx) →
      ∀ hop ∈ trips wire s calls, ¬hop.Strays inTx) := by
  have hagrees := agrees_throughout_iff hwire hs hcalls
  have hstrays := exists_strays_iff (s := s) hwire hcalls
  refine ⟨hagrees, hstrays, fun hnone hop hmem hstray => ?_⟩
  obtain ⟨earlier, sql, params, hfirst, hastray⟩ := hstrays.mp ⟨hop, hmem, hstray⟩
  have hearlier : earlier <+: calls := (List.prefix_append _ _).trans hfirst
  exact hastray.not_agrees (hagrees.mpr hnone earlier hearlier)

end

/-! ### An engine that ends its transaction by itself -/

/-- One handle, with a database of its own. -/
def sampleFiles : Engine.Files :=
  { Engine.Files.empty [] with handles := Registry.empty.insert 0 { place := none }, next := 1 }

/-- Calls whose last one collides with a row and gives up the transaction. -/
def sampleCalls : List Call :=
  [.execute "CREATE TABLE t (id INTEGER PRIMARY KEY, n INTEGER)" .empty,
    .execute "INSERT INTO t VALUES (1, 10)" .empty, .commit,
    .execute "INSERT OR ROLLBACK INTO t VALUES (1, 20)" .empty]

/-- A link and its handle can disagree, although every command that is answered does to the
transaction what the link takes it to do. -/
theorem not_always_agrees :
    (Engine.wire 0).Transactional (fun fs => fs.inTransaction 0 = true) ∧
    sampleFiles.inTransaction 0 = false ∧ Call.close ∉ sampleCalls ∧
    (∀ hop ∈ trips (Engine.wire 0) sampleFiles sampleCalls, hop.trip.isAnswered = true →
      hop.command.leavesOpen hop.trip = hop.after.inTransaction 0) ∧
    ¬Agrees (fun fs => fs.inTransaction 0 = true)
      (afterAll (Engine.wire 0) (fresh, sampleFiles) sampleCalls) := by
  refine ⟨Engine.wire_transactional 0, by decide, by decide, by decide +kernel, ?_⟩
  unfold Agrees
  decide +kernel

/-- After those calls, the next statement is sent outside a transaction. -/
theorem agreement_sample :
    ∃ hop ∈ trips (Engine.wire 0) sampleFiles
        (sampleCalls ++ [.execute "INSERT INTO t VALUES (2, 30)" .empty]),
      hop.Strays fun fs => fs.inTransaction 0 = true := by
  have hastray : Astray (fun fs => fs.inTransaction 0 = true)
      (afterAll (Engine.wire 0) (fresh, sampleFiles) sampleCalls) := by
    unfold Astray
    decide +kernel
  exact (agreement (Engine.wire_transactional 0) (by decide) (by decide)).2.1.mpr
    ⟨sampleCalls, _, _, List.prefix_rfl, hastray⟩

end Link

end TableGateway
