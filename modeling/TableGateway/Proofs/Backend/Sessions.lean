import TableGateway.Proofs.Backend.Course

/-!
# What a pool may rely on about links

A pool hands a link from one holder to the next. It resets it in between, so the next holder gets a
link as good as new; and where it does not use the link again it closes it. Both rest on one
property that every call keeps: a link takes a transaction to be open whenever its engine has one
open. The converse does not hold, since a statement can end the transaction by itself.

Then there is what each call makes of its trips when it succeeds, and which part of the engine a
call can change at all.

## Conventions

`inTx` says whether the engine has a transaction open, as for `Wire.Finishes`.

## Main results

* `Link.call_aware`: every call keeps the property.
* `Link.reset_fresh`: a reset that succeeds leaves a link as good as new.
* `Link.execute_ok`, `Link.on_commit`, `Link.on_affected`: the calls of a request that writes.
* `Link.call_keeps`: a call changes nothing that its commands do not change.
-/

namespace TableGateway

variable {σ : Type} {wire : Wire σ} {inTx P : σ → Prop}

/-! ### What an operation keeps -/

namespace Talk

variable {α β : Type} {x x' : Talk σ α}

/-- Reading the link and the engine. -/
theorem on_get (y : Link × σ) : (get : Talk σ (Link × σ)).on y = (.ok y, y) := rfl

/-- Replacing the link and the engine. -/
theorem on_set (y z : Link × σ) : (set z : Talk σ PUnit).on y = (.ok ⟨⟩, z) := rfl

/-- An operation that is answered with what another one brought. -/
theorem on_answer (x : Talk σ α) (f : α → β) (y : Link × σ) :
    (x >>= fun a => pure (f a)).on y = ((x.on y).1.map f, (x.on y).2) := by
  rw [on_bind]
  rcases x.on y with ⟨_ | _, z⟩ <;> rfl

/-- An operation keeps a property of the engine. -/
def Keeps (P : σ → Prop) (x : Talk σ α) : Prop := ∀ y, P y.2 → P (x.on y).2.2

namespace Keeps

/-- One operation after another. -/
theorem bind (h : Keeps P x) {f : α → Talk σ β} (hf : ∀ a, Keeps P (f a)) :
    Keeps P (x >>= f) := by
  intro y hy
  have hx : P (x.on y).2.2 := h y hy
  rw [on_bind]
  rcases hxy : x.on y with ⟨_ | a, z⟩
  · rwa [hxy] at hx
  · rw [hxy] at hx
    exact hf a z hx

/-- What is done where an operation stops. -/
theorem tryCatch (h : Keeps P x) {f : Stop → Talk σ α} (hf : ∀ e, Keeps P (f e)) :
    Keeps P (MonadExcept.tryCatch x f) := by
  intro y hy
  have hx : P (x.on y).2.2 := h y hy
  rw [on_tryCatch]
  rcases hxy : x.on y with ⟨e | a, z⟩
  · rw [hxy] at hx
    exact hf e z hx
  · rwa [hxy] at hx

/-- One of two operations. -/
theorem ite {c : Prop} [Decidable c] (h : Keeps P x) (h' : Keeps P x') :
    Keeps P (if c then x else x') := by
  split
  · exact h
  · exact h'

/-- An operation that does not reach the engine. -/
theorem quiet (h : ∀ y, (x.on y).2.2 = y.2) : Keeps P x := fun y hy => (h y).symm ▸ hy

/-- Sending a command. -/
theorem send {c : Command} (h : ∀ s, P s → P (wire c s).2) : Keeps P (Link.send wire c) := by
  intro (l, s) hy
  rw [Link.on_send]
  split
  · exact h s hy
  · exact hy

/-- Sending a command and changing the link. -/
theorem send_update {c : Command} (h : ∀ s, P s → P (wire c s).2) (f : Link → Link) :
    Keeps P (Link.send wire c >>= fun _ => Link.update f) :=
  (send h).bind fun _ => quiet fun _ => rfl

end Keeps

end Talk

namespace Link

open Talk (Keeps)

/-! ### Closing -/

/-- What a close does after it has tried to roll back. -/
def hangUp (wire : Wire σ) (rolledBack : Except Error Unit) : Talk σ Unit := do
  update fun l => { l with rows := [], executed := false, transaction := .idle }
  if (← look).connected then
    let (l, s) ← get
    let (trip, s) := wire .disconnect s
    set ({ l with connected := false }, s)
    match trip with
    | .answered _ _ => pure ()
    | .refused cause => throw (.failed (.engine cause))
    | .lost => throw (.failed .task)
    | .abandoned => throw .abandoned
  match rolledBack with
  | .ok () => return ()
  | .error e => throw (.failed e)

/-- The rollback that a close begins with. -/
def tryRollback (wire : Wire σ) : Talk σ (Except Error Unit) :=
  tryCatch (do rollback wire; return .ok ()) fun
    | .failed e => return .error e
    | .abandoned => throw .abandoned

/-- A close tries to roll back if a transaction is taken to be open. -/
theorem close_eq (wire : Wire σ) (y : Link × σ) :
    (close wire).on y =
      if y.1.transaction = .opened then (tryRollback wire >>= hangUp wire).on y
      else (hangUp wire (.ok ())).on y := by
  unfold close
  rw [Talk.on_bind, Talk.on_look]
  dsimp only
  rw [Talk.on_ite]
  split <;> rfl

/-- After a close there is no connection, and it was ended if it was there. -/
theorem on_hangUp (wire : Wire σ) (r : Except Error Unit) (l : Link) (s : σ) :
    ((hangUp wire r).on (l, s)).2 =
      ({ l with rows := [], executed := false, transaction := .idle, connected := false },
        if l.connected then (wire .disconnect s).2 else s) := by
  obtain ⟨connected, transaction, executed, rows, affected, broken⟩ := l
  unfold hangUp
  rw [Talk.on_bind, Talk.on_update]
  dsimp only
  rw [Talk.on_bind, Talk.on_look]
  cases connected with
  | false => rcases r with e | ⟨⟩ <;> rfl
  | true =>
      dsimp only
      rw [Talk.on_ite, if_pos rfl]
      rw [Talk.on_bind, Talk.on_get]
      dsimp only
      rw [Talk.on_bind, Talk.on_set]
      rcases wire .disconnect s with ⟨_ | _ | _ | _, s'⟩ <;> rcases r with e | ⟨⟩ <;> rfl

/-- A rollback is sent only if a transaction is taken to be open. -/
theorem on_rollback (wire : Wire σ) (y : Link × σ) :
    (rollback wire).on y =
      if y.1.transaction = .opened then
        (send wire .rollback >>= fun _ => update (cleared .idle)).on y
      else (.ok (), (cleared .idle y.1, y.2)) := by
  unfold rollback
  rw [Talk.on_bind, Talk.on_look]
  dsimp only
  rw [Talk.on_ite]
  split <;> rfl

/-- A command that is sent, and a change of the link if it is answered. -/
theorem on_send_then (wire : Wire σ) (c : Command) (f : Link → Link) {l : Link} (s : σ)
    (hl : l.connected = true) :
    (send wire c >>= fun _ => update f).on (l, s) =
      ((wire c s).1.told.map fun _ => (),
        (if (wire c s).1.isAnswered then f (l.afterTrip (wire c s).1)
          else l.afterTrip (wire c s).1, (wire c s).2)) := by
  rw [Talk.on_bind, on_send, if_pos hl]
  rcases wire c s with ⟨_ | _ | _ | _, s'⟩ <;> rfl

/-- Whoever gives up on a rollback has no connection any more. -/
theorem rollback_abandoned {y z : Link × σ} (h : (rollback wire).on y = (.error .abandoned, z)) :
    z.1.connected = false := by
  obtain ⟨l, s⟩ := y
  rw [on_rollback] at h
  split at h
  · cases hl : l.connected with
    | false =>
        rw [Talk.on_bind, on_send, hl] at h
        exact absurd (congrArg Prod.fst h) (by simp)
    | true =>
        rw [on_send_then wire .rollback _ s hl] at h
        obtain ⟨htold, rfl⟩ := Prod.mk.inj h
        cases htrip : (wire .rollback s).1 with
        | answered rows n | refused cause | lost => simp [htrip, Trip.told, Except.map] at htold
        | abandoned => rfl
  · exact absurd (congrArg Prod.fst h) (by simp)

/-- After a close there is no connection. -/
theorem close_disconnected (wire : Wire σ) (y : Link × σ) :
    ((close wire).on y).2.1.connected = false := by
  rw [close_eq]
  split
  · rw [Talk.on_bind]
    unfold tryRollback
    rw [Talk.on_tryCatch, Talk.on_bind]
    rcases hback : (rollback wire).on y with ⟨(e | _) | _, z⟩
    · exact congrArg (·.1.connected) (on_hangUp wire (.error e) z.1 z.2)
    · exact rollback_abandoned hback
    · exact congrArg (·.1.connected) (on_hangUp wire (.ok ()) z.1 z.2)
  · exact congrArg (·.1.connected) (on_hangUp wire (.ok ()) y.1 y.2)

/-! ### Open transactions -/

/-- A link takes a transaction to be open if its engine has one open. -/
def Aware (inTx : σ → Prop) (y : Link × σ) : Prop :=
  y.1.connected = true → y.1.isOpen = false → ¬inTx y.2

/-- A course keeps a link aware. By its trips: one that leaves the link taking none to be open ends
the transaction or finds none. -/
theorem Course.aware {cs : List Command} {l l' : Link} {s s' : σ} {hops : List (Hop σ)}
    (h : Course wire cs l s l' s' hops) (hwire : wire.Finishes inTx)
    (haware : Aware inTx (l, s)) : Aware inTx (l', s') := by
  intro hl ho
  cases h with
  | quiet hc hopen => exact haware (hc ▸ hl) (hopen ▸ ho)
  | trip hi hs =>
      exact hs.not_inTx hwire (haware hs.connected) (hs.back ▸ hl) (hs.opened ▸ ho)
  | begun hb ha hi hs =>
      have hopen : l'.isOpen = true := hs.opened
      exact absurd (hopen.symm.trans ho) (by simp)

/-- Every call but a close has a course, also where nothing writes its trips down. -/
theorem exists_course (wire : Wire σ) {c : Call} (hc : c ≠ .close) {l l' : Link} {s s' : σ}
    {r : Except Stop Answer} (h : (call wire c).on (l, s) = (r, (l', s'))) :
    ∃ hops, Course wire c.commands l s l' s' hops := by
  obtain ⟨log, halike⟩ := call_alike wire c hc l s []
  obtain ⟨hops, -, hcourse⟩ := call_course wire c hc l s []
  rw [halike, h] at hcourse
  exact ⟨hops, hcourse⟩

/-- **Open transactions.** Every call keeps a link aware of an open transaction. -/
theorem call_aware (hwire : wire.Finishes inTx) (c : Call) {y : Link × σ}
    (haware : Aware inTx y) : Aware inTx ((call wire c).on y).2 := by
  obtain ⟨l, s⟩ := y
  by_cases hc : c = .close
  · subst hc
    intro hl
    have hgone : ((call wire .close).on (l, s)).2.1.connected = false := by
      change ((close wire >>= fun _ => pure Answer.done).on (l, s)).2.1.connected = false
      rw [Talk.on_answer]
      exact close_disconnected wire (l, s)
    exact absurd (hl.symm.trans hgone) (by simp)
  · obtain ⟨hops, hcourse⟩ := exists_course wire hc (l := l) (s := s) rfl
    exact hcourse.aware hwire haware

/-- **Resetting.** A reset that succeeds on a link that can be used leaves it as good as new, and
its engine without a transaction. -/
theorem reset_fresh (hwire : wire.Finishes inTx) {l l' : Link} {s s' : σ} {a : Answer}
    (husable : l.isUsable = true) (haware : Aware inTx (l, s))
    (h : (call wire .reset).on (l, s) = (.ok a, (l', s'))) : l' = fresh ∧ ¬inTx s' := by
  obtain ⟨hl, hb⟩ : l.connected = true ∧ l.broken = false := by
    simpa [isUsable] using husable
  change (rollback wire >>= fun _ => pure Answer.done).on (l, s) = _ at h
  rw [Talk.on_answer, on_rollback] at h
  by_cases ho : l.transaction = .opened
  · rw [if_pos ho, on_send_then wire .rollback _ s hl] at h
    cases htrip : (wire .rollback s).1 with
    | answered rows n =>
        have ha : (wire .rollback s).1.isAnswered = true := by rw [htrip]; rfl
        have hnone : ¬inTx (wire .rollback s).2 := hwire.rollsBack s ha
        rw [if_pos ha, htrip] at h
        obtain ⟨rfl, rfl⟩ := Prod.mk.inj (Prod.mk.inj h).2
        exact ⟨rfl, hnone⟩
    | refused cause | lost | abandoned =>
        rw [htrip] at h
        exact absurd (congrArg Prod.fst h) (by simp [Trip.told, Except.map])
  · rw [if_neg ho] at h
    obtain ⟨rfl, rfl⟩ := Prod.mk.inj (Prod.mk.inj h).2
    refine ⟨?_, haware hl (by simp [isOpen, ho])⟩
    rw [cleared, hl, hb]
    rfl

/-! ### The calls of a request that writes -/

/-- Whoever is told of rows sent a command that was done. -/
theorem isAnswered_of_told {trip : Trip} {r : List Record × Nat} (h : trip.told = .ok r) :
    trip.isAnswered = true := by
  cases trip with
  | answered rows n => rfl
  | refused cause | lost | abandoned => exact nomatch h

/-- A begin that succeeds was sent. -/
theorem begin_done {l l' : Link} {s s' : σ} {a : Unit}
    (h : (begin wire).on (l, s) = (.ok a, (l', s'))) :
    (wire .begin s).1.isAnswered = true ∧ s' = (wire .begin s).2 ∧ l'.isOpen = true := by
  rw [begin_eq] at h
  split at h
  · exact absurd (congrArg Prod.fst h) (by simp)
  · cases hl : l.connected with
    | false =>
        rw [Talk.on_bind, on_send, hl] at h
        exact absurd (congrArg Prod.fst h) (by simp)
    | true =>
        rw [on_send_then wire .begin _ s hl] at h
        cases htold : (wire .begin s).1.told with
        | error e =>
            rw [htold] at h
            exact absurd (congrArg Prod.fst h) (by simp [Except.map])
        | ok r =>
            have ha : (wire .begin s).1.isAnswered = true := isAnswered_of_told htold
            rw [if_pos ha] at h
            obtain ⟨rfl, rfl⟩ := Prod.mk.inj (Prod.mk.inj h).2
            exact ⟨ha, rfl, rfl⟩

/-- A statement that succeeds was sent. -/
theorem sendStatement_done {sql : String} {params : Params} {l l' : Link} {s s' : σ} {a : Unit}
    (h : (sendStatement wire sql params).on (l, s) = (.ok a, (l', s'))) :
    (wire (.statement sql params) s).1.isAnswered = true ∧
      s' = (wire (.statement sql params) s).2 ∧
      l'.connected = true ∧ l'.isOpen = l.isOpen ∧ l'.executed = true := by
  unfold sendStatement at h
  rw [Talk.on_bind, Talk.on_tryCatch, on_send] at h
  cases hl : l.connected with
  | false =>
      rw [hl] at h
      exact absurd (congrArg Prod.fst h) nofun
  | true =>
      rw [hl, if_pos rfl] at h
      cases htold : (wire (.statement sql params) s).1.told with
      | error e =>
          rw [htold] at h
          cases e <;> exact absurd (congrArg Prod.fst h) nofun
      | ok r =>
          have ha : (wire (.statement sql params) s).1.isAnswered = true := isAnswered_of_told htold
          rw [htold] at h
          obtain ⟨rfl, rfl⟩ := Prod.mk.inj (Prod.mk.inj h).2
          exact ⟨ha, rfl, Trip.cameBack_of_isAnswered ha, rfl, rfl⟩

/-- **Executing.** A statement that succeeds on a link without an open transaction was sent in a
transaction of its own, which is still open. -/
theorem execute_ok {sql : String} {params : Params} {l l' : Link} {s s' : σ} {a : Answer}
    (ho : l.isOpen = false)
    (h : (call wire (.execute sql params)).on (l, s) = (.ok a, (l', s'))) :
    (wire .begin s).1.isAnswered = true ∧
      (wire (.statement sql params) (wire .begin s).2).1.isAnswered = true ∧
      s' = (wire (.statement sql params) (wire .begin s).2).2 ∧
      l'.connected = true ∧ l'.isOpen = true ∧ l'.executed = true := by
  have ho : l.transaction ≠ .opened := of_decide_eq_false ho
  change (execute wire sql params >>= fun _ => pure Answer.done).on (l, s) = _ at h
  rw [Talk.on_answer, execute_eq, if_neg ho, Talk.on_bind] at h
  rcases hbegin : (begin wire).on (l, s) with ⟨e | _, l₁, s₁⟩
  · rw [hbegin] at h
    exact absurd (congrArg Prod.fst h) nofun
  · obtain ⟨hbegun, rfl, hopen⟩ := begin_done hbegin
    rw [hbegin] at h
    rcases hstatement : (sendStatement wire sql params).on (l₁, (wire .begin s).2) with
      ⟨e | _, l₂, s₂⟩
    · simp only [hstatement] at h
      exact absurd (congrArg Prod.fst h) nofun
    · obtain ⟨hsent, rfl, hl, hstill, hdone⟩ := sendStatement_done hstatement
      simp only [hstatement] at h
      obtain ⟨rfl, rfl⟩ := Prod.mk.inj (Prod.mk.inj h).2
      exact ⟨hbegun, hsent, rfl, hl, hstill.trans hopen, hdone⟩

/-- Whether a statement succeeds or not, on a link without an open transaction it is sent, if at
all, after a begin that was answered. -/
theorem execute_reaches {sql : String} {params : Params} {l l' : Link} {s s' : σ}
    {r : Except Stop Answer} (ho : l.isOpen = false)
    (h : (call wire (.execute sql params)).on (l, s) = (r, (l', s'))) :
    s' = s ∨ s' = (wire .begin s).2 ∨ (wire .begin s).1.isAnswered = true ∧
      s' = (wire (.statement sql params) (wire .begin s).2).2 := by
  obtain ⟨hops, hcourse⟩ := exists_course wire (by simp) h
  cases hcourse with
  | quiet hc hopen => exact .inl rfl
  | trip hi hs =>
      obtain rfl := hs.fits.mpr ho
      exact .inr (.inl rfl)
  | begun hb ha hi hs =>
      obtain ⟨rfl, rfl⟩ : _ ∧ _ := by simpa [Call.commands] using hi
      exact .inr (.inr ⟨ha, rfl⟩)

/-- **Committing.** Where a transaction is taken to be open, a commit is one trip. -/
theorem on_commit (wire : Wire σ) {l : Link} (s : σ) (hl : l.connected = true)
    (ho : l.isOpen = true) :
    (call wire .commit).on (l, s) =
      ((wire .commit s).1.told.map fun _ => Answer.done,
        (if (wire .commit s).1.isAnswered
          then { l.afterTrip (wire .commit s).1 with transaction := .committed }
          else l.afterTrip (wire .commit s).1, (wire .commit s).2)) := by
  have hcommit : (commit wire).on (l, s) = (send wire .commit >>= fun _ =>
      update fun l => { l with transaction := .committed }).on (l, s) := by
    unfold commit
    rw [Talk.on_bind, Talk.on_look]
    dsimp only
    rw [Talk.on_ite, if_neg (not_not_intro (of_decide_eq_true ho))]
  change (commit wire >>= fun _ => pure Answer.done).on (l, s) = _
  rw [Talk.on_answer, hcommit, on_send_then wire .commit _ s hl]
  rcases wire .commit s with ⟨_ | _ | _ | _, s'⟩ <;> rfl

/-- **Counting.** After a commit, the number of changed rows is told without a trip. -/
theorem on_affected (wire : Wire σ) {l : Link} (s : σ) (he : l.executed = true)
    (ho : l.isOpen = false) :
    (call wire .affected).on (l, s) = (.ok (.count l.affected), (l, s)) := by
  have hsettle : (settle wire).on (l, s) = (.ok (), (l, s)) := by
    unfold settle
    rw [Talk.on_bind, Talk.on_look]
    dsimp only
    rw [he, Talk.on_ite, if_neg (by simp), Talk.on_bind, Talk.on_look]
    dsimp only
    rw [Talk.on_ite, if_neg (of_decide_eq_false ho)]
    rfl
  change (changedRows wire >>= fun n => pure (Answer.count n)).on (l, s) = _
  rw [Talk.on_answer, changedRows, Talk.on_bind, hsettle]
  rfl

/-! ### What a call keeps -/

/-- Beginning. -/
theorem begin_keeps (h : ∀ s, P s → P (wire .begin s).2) : Keeps P (begin wire) := by
  intro y hy
  rw [begin_eq]
  split
  · exact hy
  · exact Keeps.send_update h _ y hy

/-- Committing. -/
theorem commit_keeps (h : ∀ s, P s → P (wire .commit s).2) : Keeps P (commit wire) :=
  have rest : Keeps P (do let _ ← send wire .commit
                          update fun l => { l with transaction := .committed }) :=
    .send_update h _
  .bind (.quiet fun _ => rfl) fun _ => .ite (.bind (.quiet fun _ => rfl) fun _ => rest) rest

/-- Rolling back. -/
theorem rollback_keeps (h : ∀ s, P s → P (wire .rollback s).2) : Keeps P (rollback wire) := by
  intro y hy
  rw [on_rollback]
  split
  · exact Keeps.send_update h _ y hy
  · exact hy

/-- Committing before a result is read. -/
theorem settle_keeps (h : ∀ s, P s → P (wire .commit s).2) : Keeps P (settle wire) :=
  have rest : Keeps P (do if (← look).transaction = .opened then commit wire) :=
    .bind (.quiet fun _ => rfl) fun _ => .ite (commit_keeps h) (.quiet fun _ => rfl)
  .bind (.quiet fun _ => rfl) fun _ => .ite (.bind (.quiet fun _ => rfl) fun _ => rest) rest

/-- Reading rows. -/
theorem fetchMany_keeps (h : ∀ s, P s → P (wire .commit s).2) (n : Nat) :
    Keeps P (fetchMany wire n) :=
  .bind (settle_keeps h) fun _ => .quiet fun _ => rfl

/-- Running a statement. -/
theorem execute_keeps {sql : String} {params : Params} (hb : ∀ s, P s → P (wire .begin s).2)
    (h : ∀ s, P s → P (wire (.statement sql params) s).2) : Keeps P (execute wire sql params) := by
  have hsend : Keeps P (sendStatement wire sql params) :=
    .bind (.tryCatch (.send h) fun e => .quiet fun y => by cases e <;> rfl)
      fun _ => .quiet fun _ => rfl
  intro y hy
  rw [execute_eq]
  split
  · exact hsend y hy
  · exact Keeps.bind (begin_keeps hb) (fun _ => hsend) y hy

/-- Closing. -/
theorem close_keeps (hr : ∀ s, P s → P (wire .rollback s).2)
    (hd : ∀ s, P s → P (wire .disconnect s).2) : Keeps P (close wire) := by
  have hhang : ∀ r, Keeps P (hangUp wire r) := by
    intro r (l, s) hy
    rw [on_hangUp]
    dsimp only
    split
    · exact hd s hy
    · exact hy
  have htry : Keeps P (tryRollback wire) :=
    .tryCatch (.bind (rollback_keeps hr) fun _ => .quiet fun _ => rfl)
      fun e => .quiet fun y => by cases e <;> rfl
  intro y hy
  rw [close_eq]
  split
  · exact htry.bind hhang y hy
  · exact hhang (.ok ()) y hy

/-- **What a call keeps.** A call changes nothing that its commands do not change. -/
theorem call_keeps {c : Call} (h : ∀ k ∈ c.commands, ∀ s, P s → P (wire k s).2) :
    Keeps P (call wire c) := by
  have answer : ∀ {α : Type} {x : Talk σ α} {f : α → Answer}, Keeps P x →
      Keeps P (x >>= fun a => pure (f a)) :=
    fun hx => hx.bind fun _ => .quiet fun _ => rfl
  cases c with
  | begin => exact answer (begin_keeps (h _ List.mem_cons_self))
  | commit => exact answer (commit_keeps (h _ List.mem_cons_self))
  | rollback | reset => exact answer (rollback_keeps (h _ List.mem_cons_self))
  | close =>
      have hd := h .disconnect (List.mem_cons_of_mem _ List.mem_cons_self)
      exact answer (close_keeps (h _ List.mem_cons_self) hd)
  | execute sql params =>
      have hs := h (.statement sql params) (List.mem_cons_of_mem _ List.mem_cons_self)
      exact answer (execute_keeps (h _ List.mem_cons_self) hs)
  | fetchOne =>
      exact answer ((fetchMany_keeps (h _ List.mem_cons_self) 1).bind fun _ =>
        .quiet fun _ => rfl)
  | fetchMany n => exact answer (fetchMany_keeps (h _ List.mem_cons_self) n)
  | fetchAll =>
      exact answer ((settle_keeps (h _ List.mem_cons_self)).bind fun _ => .quiet fun _ => rfl)
  | affected =>
      exact answer ((settle_keeps (h _ List.mem_cons_self)).bind fun _ => .quiet fun _ => rfl)

end Link

end TableGateway
