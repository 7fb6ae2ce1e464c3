import TableGateway.Proofs.Backend.Sessions
import TableGateway.Proofs.Backend.Transactions

/-!
# The protocol of a link

A link begins transactions lazily, commits before it reads, and has something to read only behind a
statement that succeeded. This module says what a single call can do, once for every way it can go,
and reads the protocol off it: in which states which commands are sent, in which order they succeed,
and when there is nothing to read.

## Conventions

A `Turn` is one call with the link before and after it, what was answered, and its trips. Any
answers of the engine are allowed, so a trip may succeed, be refused, be lost or be given up by
whoever waits for it. A connection counts as lost when a trip of a call did not bring it back; a
link that was closed has none either, but has not lost it.

## Main results

* `Link.takeTurn_goes`: what one call can do.
* `Link.Goes.coherent`, `Link.Goes.guarded`, `Link.Goes.alternates`, `Link.Goes.tells`: what one
  call keeps.
* `Link.Goes.answers`: what a call that reads is answered.
* `Link.turns_protocol`: any calls on a fresh link.
-/

namespace TableGateway

variable {σ : Type} {wire : Wire σ}

/-! ### Calls by their kind -/

/-- The command that a call is about which ends with it. -/
def Call.control : Call → Option Command
  | .begin => some .begin
  | .commit => some .commit
  | .rollback | .reset => some .rollback
  | _ => none

/-- Whether a call reads the result of a statement. -/
def Call.isReading : Call → Bool
  | .fetchOne | .fetchMany _ | .fetchAll | .affected => true
  | _ => false

/-- A call that reads is not itself about a command. -/
theorem Call.control_of_isReading {c : Call} (h : c.isReading = true) : c.control = none := by
  cases c with
  | fetchOne | fetchMany n | fetchAll | affected => rfl
  | begin | commit | rollback | reset | close | execute sql params =>
      exact absurd h Bool.false_ne_true

/-- What a call that reads takes from the rows. -/
def Call.leaves : Call → List Record → List Record
  | .fetchOne, rows => rows.drop 1
  | .fetchMany n, rows => rows.drop n
  | .fetchAll, _ => []
  | _, rows => rows

/-- What a call that reads is answered. -/
def Call.reads (c : Call) (l : Link) : Answer :=
  match c with
  | .fetchOne => .row (l.rows.take 1).head?
  | .fetchMany n => .rows (l.rows.take n)
  | .fetchAll => .rows l.rows
  | .affected => .count l.affected
  | _ => .done

/-- What a command that was done makes of the link. -/
def Command.effect : Command → Link → Link
  | .begin => Link.cleared .opened
  | .commit => fun l => { l with transaction := .committed }
  | .rollback => Link.cleared .idle
  | _ => id

/-- Whether a command begins or ends a transaction. -/
def Command.isControl : Command → Bool
  | .begin | .commit | .rollback => true
  | _ => false

/-- One call on a link. -/
structure Turn (σ : Type) where
  call : Call
  before : Link
  answer : Except Stop Answer
  after : Link
  hops : List (Hop σ)

namespace Link

variable {l l' : Link} {s : σ} {c : Call} {r : Except Stop Answer} {hops : List (Hop σ)}

/-- The link with nothing to read, as a statement that failed leaves it. -/
def emptied (l : Link) : Link := { l with rows := [], executed := false }

/-- The link after the trip of a statement. -/
def afterStatement (l : Link) (trip : Trip) : Link :=
  match trip with
  | .answered rows affected =>
    { l.afterTrip trip with rows := rows, affected := affected, executed := true }
  | .abandoned => l.afterTrip trip
  | _ => (l.afterTrip trip).emptied

/-- One call on a link. Its trips are those that it makes over the logged wire. -/
def takeTurn (wire : Wire σ) (y : Link × σ) (c : Call) : Turn σ where
  call := c
  before := y.1
  answer := ((call wire c).on y).1
  after := ((call wire c).on y).2.1
  hops := ((call wire.logged c).on (y.1, (y.2, []))).2.2.2

/-- Calls on a link, one after another. -/
def turns (wire : Wire σ) (y : Link × σ) : List Call → List (Turn σ)
  | [] => []
  | c :: calls => takeTurn wire y c :: turns wire ((call wire c).on y).2 calls

/-- The trips of a close: a rollback if a transaction is taken to be open, and the end of the
connection if it is still there. -/
inductive HangsUp (wire : Wire σ) (l : Link) (s : σ) : List (Hop σ) → Prop where
  | unconnected (hl : l.connected = false) : HangsUp wire l s []
  | plain (hl : l.connected = true) (ho : l.isOpen = false) :
      HangsUp wire l s [wire.hop .disconnect s]
  | lost (hl : l.connected = true) (ho : l.isOpen = true)
      (hback : (wire .rollback s).1.cameBack = false) : HangsUp wire l s [wire.hop .rollback s]
  | rolledBack (hl : l.connected = true) (ho : l.isOpen = true) :
      HangsUp wire l s
        [wire.hop .rollback s, wire.hop .disconnect (wire .rollback s).2]

/-- What the call `c` on the link `l` can do: its answer, the link that it leaves, and its trips. -/
inductive Goes (wire : Wire σ) (l : Link) (s : σ) :
    Call → Except Stop Answer → Link → List (Hop σ) → Prop where
  /-- A begin where a transaction is taken to be open, or a commit where none is. -/
  | misplaced {c : Call} {k : Command} {message : String} (hk : c.control = some k)
      (hmis : ¬(k = .begin ↔ l.isOpen = false)) :
      Goes wire l s c (.error (.failed (.state message))) l []
  /-- A rollback where no transaction is taken to be open. -/
  | dropped {c : Call} (hk : c.control = some .rollback) (ho : l.isOpen = false) :
      Goes wire l s c (.ok .done) (l.cleared .idle) []
  /-- A begin, a commit or a rollback that is sent. -/
  | sent {c : Call} {k : Command} (hk : c.control = some k) (hl : l.connected = true)
      (hfits : k = .begin ↔ l.isOpen = false) :
      Goes wire l s c ((wire k s).1.told.map fun _ => .done)
        (if (wire k s).1.isAnswered then k.effect (l.afterTrip (wire k s).1)
          else l.afterTrip (wire k s).1) [wire.hop k s]
  /-- A begin, a commit or a rollback without a connection. -/
  | unsent {c : Call} {k : Command} {message : String} (hk : c.control = some k)
      (hl : l.connected = false) :
      Goes wire l s c (.error (.failed (.state message))) l []
  /-- Reading where there is nothing to read. -/
  | unread {c : Call} {message : String} (hc : c.isReading = true) (he : l.executed = false) :
      Goes wire l s c (.error (.failed (.state message))) l []
  /-- Reading behind a commit. -/
  | read {c : Call} (hc : c.isReading = true) (he : l.executed = true) (ho : l.isOpen = false) :
      Goes wire l s c (.ok (c.reads l)) { l with rows := c.leaves l.rows } []
  /-- Reading that commits first. -/
  | settled {c : Call} (hc : c.isReading = true) (he : l.executed = true) (ho : l.isOpen = true)
      (hl : l.connected = true) :
      Goes wire l s c ((wire .commit s).1.told.map fun _ => c.reads l)
        (if (wire .commit s).1.isAnswered then
          { l.afterTrip (wire .commit s).1 with
            transaction := .committed, rows := c.leaves l.rows }
        else l.afterTrip (wire .commit s).1) [wire.hop .commit s]
  /-- Reading that would commit first, without a connection. -/
  | unsettled {c : Call} {message : String} (hc : c.isReading = true) (ho : l.isOpen = true)
      (hl : l.connected = false) : Goes wire l s c (.error (.failed (.state message))) l []
  /-- A statement whose transaction could not be begun. -/
  | unbegun {sql : String} {params : Params} (ho : l.isOpen = false) (hl : l.connected = true)
      (ha : (wire .begin s).1.isAnswered = false) :
      Goes wire l s (.execute sql params) ((wire .begin s).1.told.map fun _ => .done)
        (l.afterTrip (wire .begin s).1) [wire.hop .begin s]
  /-- A statement without a connection. -/
  | unlinked {sql : String} {params : Params} {message : String} (hl : l.connected = false) :
      Goes wire l s (.execute sql params) (.error (.failed (.state message)))
        (if l.isOpen then l.emptied else l) []
  /-- A statement in an open transaction. -/
  | ran {sql : String} {params : Params} (ho : l.isOpen = true) (hl : l.connected = true) :
      Goes wire l s (.execute sql params)
        ((wire (.statement sql params) s).1.told.map fun _ => .done)
        (l.afterStatement (wire (.statement sql params) s).1)
        [wire.hop (.statement sql params) s]
  /-- A statement in a transaction of its own. -/
  | began {sql : String} {params : Params} (ho : l.isOpen = false) (hl : l.connected = true)
      (ha : (wire .begin s).1.isAnswered = true) :
      Goes wire l s (.execute sql params)
        ((wire (.statement sql params) (wire .begin s).2).1.told.map fun _ => .done)
        ((cleared .opened (l.afterTrip (wire .begin s).1)).afterStatement
          (wire (.statement sql params) (wire .begin s).2).1)
        [wire.hop .begin s, wire.hop (.statement sql params) (wire .begin s).2]
  /-- A close whose rollback is given up. -/
  | givenUp {r : Except Stop Answer} (ho : l.isOpen = true) (hl : l.connected = true)
      (htrip : (wire .rollback s).1 = .abandoned) :
      Goes wire l s .close r (l.afterTrip (wire .rollback s).1) [wire.hop .rollback s]
  /-- A close. -/
  | closed {r : Except Stop Answer} {l' : Link} {hops : List (Hop σ)} (hrows : l'.rows = [])
      (he : l'.executed = false) (ht : l'.transaction = .idle) (hl : l'.connected = false)
      (hhops : HangsUp wire l s hops) : Goes wire l s .close r l' hops

/-! ### What a call can do -/

/-- A command over the logged wire that can be sent, and a change of the link if it is done. -/
theorem on_logged (wire : Wire σ) (k : Command) (f : Link → Link) (l : Link) (s : σ) :
    (send wire.logged k >>= fun _ => update f).on (l, (s, [])) =
      if l.connected then
        ((wire k s).1.told.map fun _ => (),
          (if (wire k s).1.isAnswered then f (l.afterTrip (wire k s).1)
            else l.afterTrip (wire k s).1, ((wire k s).2, [wire.hop k s])))
      else (.error (.failed (.state "connection is closed")), (l, (s, []))) := by
  cases hl : l.connected with
  | true => exact on_send_then wire.logged k f (s, []) hl
  | false =>
      rw [Talk.on_bind, on_send, hl]
      rfl

/-- A commit is sent where a transaction is taken to be open. -/
theorem commit_eq (wire : Wire σ) (y : Link × σ) :
    (commit wire).on y =
      if y.1.transaction = .opened then
        (send wire .commit >>= fun _ => update Command.commit.effect).on y
      else (.error (.failed (.state "no open transaction to commit")), y) := by
  unfold commit
  rw [Talk.on_bind, Talk.on_look]
  dsimp only
  by_cases ho : y.1.transaction = .opened
  · rw [if_neg (not_not_intro ho), if_pos ho]
    rfl
  · rw [if_pos ho, if_neg ho, Talk.on_bind, Talk.on_refuse]

/-- Before a result is read there must be one, and its transaction is committed. -/
theorem settle_eq (wire : Wire σ) (y : Link × σ) :
    (settle wire).on y =
      if y.1.executed = true then
        if y.1.transaction = .opened then (commit wire).on y else (.ok (), y)
      else (.error (.failed (.state "cannot read results before a statement has been executed")),
        y) := by
  unfold settle
  rw [Talk.on_bind, Talk.on_look]
  dsimp only
  cases he : y.1.executed with
  | false => rw [Talk.on_ite, if_pos (by simp), Talk.on_bind, Talk.on_refuse, if_neg (by simp)]
  | true =>
      rw [Talk.on_ite, if_neg (by simp), Talk.on_bind, Talk.on_look, if_pos rfl]
      dsimp only
      rw [Talk.on_ite]
      rfl

/-- What a call that reads does behind the commit. -/
theorem reading_eq (wire : Wire σ) (hc : c.isReading = true) (y : Link × σ) :
    (call wire c).on y = match (settle wire).on y with
      | (.ok _, z) => (.ok (c.reads z.1), ({ z.1 with rows := c.leaves z.1.rows }, z.2))
      | (.error e, z) => (.error e, z) := by
  cases c with
  | fetchOne =>
      change ((fetchMany wire 1 >>= fun rows => pure rows.head?) >>= fun row =>
        pure (Answer.row row)).on y = _
      rw [Talk.on_answer, Talk.on_answer, fetchMany, Talk.on_bind]
      rcases (settle wire).on y with ⟨_ | _, z⟩ <;> rfl
  | fetchMany n =>
      change (fetchMany wire n >>= fun rows => pure (Answer.rows rows)).on y = _
      rw [Talk.on_answer, fetchMany, Talk.on_bind]
      rcases (settle wire).on y with ⟨_ | _, z⟩ <;> rfl
  | fetchAll =>
      change (fetchAll wire >>= fun rows => pure (Answer.rows rows)).on y = _
      rw [Talk.on_answer, fetchAll, Talk.on_bind]
      rcases (settle wire).on y with ⟨_ | _, z⟩ <;> rfl
  | affected =>
      change (changedRows wire >>= fun n => pure (Answer.count n)).on y = _
      rw [Talk.on_answer, changedRows, Talk.on_bind]
      rcases (settle wire).on y with ⟨_ | _, z⟩ <;> rfl
  | begin | commit | rollback | reset | close | execute sql params =>
      exact absurd hc Bool.false_ne_true

section

variable (wire) (l : Link) (s : σ)

/-- What `y` is where a call on `l` ends that can be told from `Goes`. -/
def Reached (c : Call) (z : Except Stop Answer × (Link × (σ × List (Hop σ)))) : Prop :=
  Goes wire l s c z.1 z.2.1 z.2.2.2

variable {wire l s}

/-- A command that fits the state of the link. -/
theorem sent_goes {k : Command} (hk : c.control = some k) (hfits : k = .begin ↔ l.isOpen = false) :
    Reached wire l s c (((send wire.logged k >>= fun _ => update k.effect) >>= fun _ =>
      pure Answer.done).on (l, (s, []))) := by
  rw [Talk.on_answer, on_logged]
  cases hl : l.connected with
  | false => exact .unsent hk hl
  | true =>
      have hmap : ((wire k s).1.told.map fun _ => ()).map (fun _ => Answer.done) =
          (wire k s).1.told.map fun _ => .done := by
        cases (wire k s).1.told <;> rfl
      rw [if_pos rfl]
      dsimp only
      rw [hmap]
      exact .sent hk hl hfits

/-- Reading. -/
theorem reading_goes (hc : c.isReading = true) :
    Reached wire l s c ((call wire.logged c).on (l, (s, []))) := by
  rw [reading_eq wire.logged hc, settle_eq]
  cases he : l.executed with
  | false => exact .unread hc he
  | true =>
      rw [if_pos rfl]
      by_cases ho : l.transaction = .opened
      · rw [if_pos ho, commit_eq, if_pos ho, on_logged]
        cases hl : l.connected with
        | false => exact .unsettled hc (decide_eq_true ho) hl
        | true =>
            have hsettled : Goes wire l s c _ _ _ := .settled hc he (decide_eq_true ho) hl
            have hreads : c.reads (Command.commit.effect (l.afterTrip (wire .commit s).1)) =
                c.reads l := by
              cases c <;> rfl
            rw [if_pos rfl]
            rcases (wire .commit s).1.told_cases with ⟨ha, r, htold⟩ | ⟨ha, e, htold⟩
            · rw [htold, ha, if_pos rfl] at hsettled ⊢
              unfold Reached
              dsimp only [Except.map]
              rw [hreads]
              exact hsettled
            · rw [htold, ha, if_neg Bool.false_ne_true] at hsettled ⊢
              exact hsettled
      · rw [if_neg ho]
        exact .read hc he (decide_eq_false ho)

/-- The trip of a statement. -/
theorem on_sendStatement (wire : Wire σ) (sql : String) (params : Params) (l : Link) (s : σ)
    (log : List (Hop σ)) :
    (sendStatement wire.logged sql params).on (l, (s, log)) =
      if l.connected then
        ((wire (.statement sql params) s).1.told.map fun _ => (),
          (l.afterStatement (wire (.statement sql params) s).1,
            ((wire (.statement sql params) s).2, log ++ [wire.hop (.statement sql params) s])))
      else (.error (.failed (.state "connection is closed")), (l.emptied, (s, log))) := by
  have hlogged : wire.logged (.statement sql params) (s, log) = ((wire (.statement sql params) s).1,
      ((wire (.statement sql params) s).2, log ++ [wire.hop (.statement sql params) s])) := rfl
  unfold sendStatement
  rw [Talk.on_bind, Talk.on_tryCatch, on_send]
  cases hl : l.connected with
  | false => rfl
  | true =>
      rw [if_pos rfl, hlogged]
      cases (wire (.statement sql params) s).1 <;> rfl

/-- The same trip, as a call is answered. -/
theorem on_sendStatement_done (wire : Wire σ) (sql : String) (params : Params) {l : Link} (s : σ)
    (log : List (Hop σ)) (hl : l.connected = true) :
    (sendStatement wire.logged sql params >>= fun _ => pure Answer.done).on (l, (s, log)) =
      ((wire (.statement sql params) s).1.told.map fun _ => .done,
        (l.afterStatement (wire (.statement sql params) s).1,
          ((wire (.statement sql params) s).2, log ++ [wire.hop (.statement sql params) s]))) := by
  rw [Talk.on_answer, on_sendStatement, if_pos hl]
  cases (wire (.statement sql params) s).1.told <;> rfl

/-- Executing a statement. -/
theorem execute_goes {sql : String} {params : Params} :
    Reached wire l s (.execute sql params)
      ((call wire.logged (.execute sql params)).on (l, (s, []))) := by
  have hunlinked : l.connected = false → Goes wire l s (.execute sql params)
      (.error (.failed (.state "connection is closed"))) (if l.isOpen then l.emptied else l) [] :=
    .unlinked
  change Reached wire l s _ ((execute wire.logged sql params >>= fun _ => pure Answer.done).on _)
  by_cases ho : l.transaction = .opened
  · have hopen : l.isOpen = true := decide_eq_true ho
    rw [Talk.on_answer, execute_eq, if_pos ho, ← Talk.on_answer]
    cases hl : l.connected with
    | false =>
        rw [Talk.on_answer, on_sendStatement, if_neg (by simp [hl])]
        rw [if_pos hopen] at hunlinked
        exact hunlinked hl
    | true =>
        rw [on_sendStatement_done wire sql params s [] hl]
        exact .ran hopen hl
  · have hopen : l.isOpen = false := decide_eq_false ho
    rw [Talk.on_answer, execute_eq, if_neg ho, Talk.on_bind, begin_eq, if_neg ho, on_logged]
    cases hl : l.connected with
    | false =>
        rw [if_neg (by simp [hopen])] at hunlinked
        exact hunlinked hl
    | true =>
        rw [if_pos rfl]
        rcases (wire .begin s).1.told_cases with ⟨ha, r, htold⟩ | ⟨ha, e, htold⟩
        · have hback : (cleared .opened (l.afterTrip (wire .begin s).1)).connected = true :=
            Trip.cameBack_of_isAnswered ha
          have hran := on_sendStatement_done wire sql params (wire .begin s).2 [wire.hop .begin s]
            hback
          rw [Talk.on_answer] at hran
          obtain ⟨hanswer, hleft⟩ := Prod.mk.inj hran
          rw [htold, ha, if_pos rfl]
          change Goes wire l s _ (((sendStatement wire.logged sql params).on _).1.map _)
            ((sendStatement wire.logged sql params).on _).2.1
            ((sendStatement wire.logged sql params).on _).2.2.2
          rw [hanswer, hleft]
          exact .began hopen hl ha
        · have hgoes : Goes wire l s (.execute sql params) _ _ _ := .unbegun hopen hl ha
          rw [htold] at hgoes
          rw [htold, ha, if_neg Bool.false_ne_true]
          exact hgoes

/-- The rollback of a close is only waited for. -/
theorem on_tryRollback (wire : Wire σ) (y : Link × σ) :
    (tryRollback wire).on y = match (rollback wire).on y with
      | (.ok _, z) => (.ok (.ok ()), z)
      | (.error (.failed e), z) => (.ok (.error e), z)
      | (.error .abandoned, z) => (.error .abandoned, z) := by
  unfold tryRollback
  rw [Talk.on_tryCatch, Talk.on_bind]
  rcases (rollback wire).on y with ⟨(_ | _) | _, z⟩ <;> rfl

/-- Where a close ends that has not been given up at its rollback. -/
theorem hangUp_goes {rolledBack : Except Error Unit} {k : Link} {s' : σ} {log : List (Hop σ)}
    (h : HangsUp wire l s (log ++ if k.connected then [wire.hop .disconnect s'] else [])) :
    Reached wire l s .close ((hangUp wire.logged rolledBack >>= fun _ => pure Answer.done).on
      (k, (s', log))) := by
  rw [Talk.on_answer]
  unfold Reached
  dsimp only
  rw [on_hangUp]
  refine .closed rfl rfl rfl rfl ?_
  cases hk : k.connected with
  | false =>
      rw [hk, if_neg Bool.false_ne_true, List.append_nil] at h
      exact h
  | true =>
      rw [hk, if_pos rfl] at h
      exact h

/-- Closing. -/
theorem close_goes : Reached wire l s .close ((call wire.logged .close).on (l, (s, []))) := by
  change Reached wire l s _ ((close wire.logged >>= fun _ => pure Answer.done).on _)
  rw [Talk.on_bind, close_eq]
  by_cases ho : l.transaction = .opened
  · have hopen : l.isOpen = true := decide_eq_true ho
    rw [if_pos ho, ← Talk.on_bind, bind_assoc, Talk.on_bind, on_tryRollback, on_rollback,
      if_pos ho, on_logged]
    cases hl : l.connected with
    | false =>
        have hnone : HangsUp wire l s
            ([] ++ if l.connected then [wire.hop .disconnect s] else []) := by
          rw [hl]
          exact .unconnected hl
        exact hangUp_goes hnone
    | true =>
        rw [if_pos rfl]
        cases htrip : (wire .rollback s).1 with
        | answered rows n => exact hangUp_goes (.rolledBack hl hopen)
        | refused cause => exact hangUp_goes (.rolledBack hl hopen)
        | lost => exact hangUp_goes (.lost hl hopen (by rw [htrip]; rfl))
        | abandoned =>
            have hgoes := Goes.givenUp (r := .error .abandoned) hopen hl htrip
            rw [htrip] at hgoes
            exact hgoes
  · rw [if_neg ho, ← Talk.on_bind]
    refine hangUp_goes ?_
    cases hl : l.connected with
    | false => exact .unconnected hl
    | true => exact .plain hl (decide_eq_false ho)

/-- What a close answers once it has tried to roll back. -/
theorem on_hangUp_told (wire : Wire σ) (r : Except Error Unit) (l : Link) (s : σ) :
    ((hangUp wire r).on (l, s)).1 =
      (if l.connected then (wire .disconnect s).1.told.map (fun _ => ()) else .ok ()) >>= fun _ =>
        r.mapError Stop.failed := by
  obtain ⟨connected, transaction, executed, rows, affected, broken⟩ := l
  unfold hangUp
  rw [Talk.on_bind, Talk.on_update]
  dsimp only
  rw [Talk.on_bind, Talk.on_look]
  cases connected with
  | false => rcases r with e | ⟨⟩ <;> rfl
  | true =>
      dsimp only
      rw [Talk.on_ite, if_pos rfl]
      rw [Talk.on_bind, Talk.on_get]
      dsimp only
      rw [Talk.on_bind, Talk.on_set]
      rcases wire .disconnect s with ⟨_ | _ | _ | _, s'⟩ <;> rcases r with e | ⟨⟩ <;> rfl

/-- Logging does not change how a connection is ended. -/
theorem hangUp_alike (wire : Wire σ) (r : Except Error Unit) :
    Alike (hangUp wire.logged r) (hangUp wire r) := by
  intro l s log
  have htold : ((hangUp wire.logged r).on (l, (s, log))).1 = ((hangUp wire r).on (l, s)).1 := by
    rw [on_hangUp_told, on_hangUp_told]
    rfl
  refine ⟨((hangUp wire.logged r).on (l, (s, log))).2.2.2, Prod.ext htold ?_⟩
  dsimp only
  rw [on_hangUp, on_hangUp]
  cases l.connected <;> rfl

/-- Logging changes nothing, closes included. -/
theorem call_alike_logged (wire : Wire σ) (c : Call) :
    Alike (call wire.logged c) (call wire c) := by
  by_cases hc : c = .close
  · subst hc
    have htry : Alike (tryRollback wire.logged) (tryRollback wire) :=
      .tryCatch (.bind (rollback_alike wire) fun _ => .refl_pure _) fun e => by
        cases e with
        | failed e => exact .refl_pure _
        | abandoned => exact .stop _
    have hclose : Alike (close wire.logged) (close wire) := by
      intro l s log
      rw [close_eq, close_eq]
      split_ifs
      · exact htry.bind (hangUp_alike wire) l s log
      · exact hangUp_alike wire (.ok ()) l s log
    exact hclose.bind fun _ => .refl_pure _
  · exact call_alike wire c hc

/-- **One call.** -/
theorem takeTurn_goes (wire : Wire σ) (y : Link × σ) (c : Call) :
    Goes wire y.1 y.2 c (takeTurn wire y c).answer (takeTurn wire y c).after
      (takeTurn wire y c).hops := by
  obtain ⟨l, s⟩ := y
  have hreached : Reached wire l s c ((call wire.logged c).on (l, (s, []))) := by
    cases c with
    | begin =>
        change Reached wire l s _ ((begin wire.logged >>= fun _ => pure Answer.done).on _)
        rw [Talk.on_bind, begin_eq]
        by_cases ho : l.transaction = .opened
        · rw [if_pos ho]
          exact .misplaced rfl (by simp [isOpen, ho])
        · rw [if_neg ho, ← Talk.on_bind]
          exact sent_goes rfl (by simp [isOpen, ho])
    | commit =>
        change Reached wire l s _ ((commit wire.logged >>= fun _ => pure Answer.done).on _)
        rw [Talk.on_bind, commit_eq]
        by_cases ho : l.transaction = .opened
        · rw [if_pos ho, ← Talk.on_bind]
          exact sent_goes rfl (by simp [isOpen, ho])
        · rw [if_neg ho]
          exact .misplaced rfl (by simp [isOpen, ho])
    | rollback | reset =>
        change Reached wire l s _ ((rollback wire.logged >>= fun _ => pure Answer.done).on _)
        rw [Talk.on_bind, on_rollback]
        by_cases ho : l.transaction = .opened
        · rw [if_pos ho, ← Talk.on_bind]
          exact sent_goes rfl (by simp [isOpen, ho])
        · rw [if_neg ho]
          exact .dropped rfl (decide_eq_false ho)
    | close => exact close_goes
    | execute sql params => exact execute_goes
    | fetchOne | fetchMany n | fetchAll | affected => exact reading_goes rfl
  obtain ⟨log, halike⟩ := call_alike_logged wire c l s []
  unfold Reached at hreached
  unfold takeTurn
  rw [halike] at hreached ⊢
  exact hreached

end

/-! ### What a call keeps -/

/-- There are rows only behind a statement that succeeded, and that one was in a transaction which
is still open or has been committed. -/
structure Coherent (l : Link) : Prop where
  executed : l.rows ≠ [] → l.executed = true
  begun : l.executed = true → l.transaction ≠ .idle

/-- Reading leaves rows only where there were some. -/
theorem leaves_ne_nil {rows : List Record} (h : c.leaves rows ≠ []) : rows ≠ [] := by
  rintro rfl
  exact h (by cases c <;> simp [Call.leaves])

/-- **Nothing to read while idle.** -/
theorem Goes.coherent (h : Goes wire l s c r l' hops) (hl : l.Coherent) : l'.Coherent := by
  have hcleared : ∀ t k, Coherent (cleared t k) := fun t k =>
    ⟨fun h => absurd rfl h, fun h => absurd h Bool.false_ne_true⟩
  have hkept : ∀ trip, Coherent (l.afterTrip trip) := fun _ => ⟨hl.executed, hl.begun⟩
  have hstatement : ∀ k : Link, k.isOpen = true → k.Coherent → ∀ trip,
      Coherent (k.afterStatement trip) := by
    intro k hopen hk trip
    have hbegun : k.transaction ≠ .idle := by
      rw [of_decide_eq_true hopen]
      simp
    cases trip with
    | answered rows n => exact ⟨fun _ => rfl, fun _ => hbegun⟩
    | refused cause | lost =>
        exact ⟨fun h => absurd rfl h, fun h => absurd h Bool.false_ne_true⟩
    | abandoned => exact ⟨hk.executed, hk.begun⟩
  cases h with
  | misplaced | unsent | unread | unsettled => exact hl
  | dropped => exact hcleared _ _
  | @sent _ k hk =>
      split_ifs
      · cases k with
        | begin | rollback => exact hcleared _ _
        | commit => exact ⟨hl.executed, fun _ => by simp [Command.effect]⟩
        | statement sql params | disconnect => exact hkept _
      · exact hkept _
  | read => exact ⟨fun h => hl.executed (leaves_ne_nil h), hl.begun⟩
  | settled =>
      split_ifs
      · exact ⟨fun h => hl.executed (leaves_ne_nil h), fun _ => by simp⟩
      · exact hkept _
  | unbegun => exact hkept _
  | unlinked =>
      split_ifs
      · exact ⟨fun h => absurd rfl h, fun h => absurd h Bool.false_ne_true⟩
      · exact hl
  | ran ho => exact hstatement l ho hl _
  | began => exact hstatement _ rfl (hcleared _ _) _
  | givenUp => exact hkept _
  | closed hrows he => exact ⟨fun h => absurd hrows h, fun h => absurd (he.symm.trans h) (by simp)⟩

end Link

/-! ### Which commands are sent -/

/-- The first command of a call fits the link: a begin is sent only where no transaction is taken to
be open, and a commit, a rollback or a statement only where one is. A second one is sent only behind
a begin that was done, and is not a begin again. The end of the connection may always be sent. -/
structure Turn.Guarded (t : Turn σ) : Prop where
  first : ∀ hop ∈ t.hops.head?, hop.command ≠ .disconnect →
    (hop.command = .begin ↔ t.before.isOpen = false)
  second : t.hops.IsChain fun hop next => next.command ≠ .disconnect →
    hop.command = .begin ∧ hop.trip.isAnswered = true ∧ next.command ≠ .begin

/-- The begins, commits and rollbacks that were done. -/
def turned (hops : List (Hop σ)) : List Command :=
  (hops.filter fun hop => hop.trip.isAnswered && hop.command.isControl).map Hop.command

/-- Those of trips in two parts. -/
theorem turned_append (hops hops' : List (Hop σ)) :
    turned (hops ++ hops') = turned hops ++ turned hops' := by
  rw [turned, List.filter_append, List.map_append, turned, turned]

/-- Begins alternate with commits and rollbacks. The first of them is a begin unless a transaction
is open before them. -/
def Alternate : Bool → List Command → Prop
  | _, [] => True
  | isOpen, k :: ks => (k = .begin ↔ isOpen = false) ∧ Alternate (decide (k = .begin)) ks

/-- Whether a transaction is open behind some begins, commits and rollbacks. -/
def openBehind (isOpen : Bool) (ks : List Command) : Bool :=
  ks.foldl (fun _ k => decide (k = .begin)) isOpen

/-- Two parts alternate if the second goes on where the first ends. -/
theorem Alternate.append {isOpen : Bool} {ks ks' : List Command} (h : Alternate isOpen ks)
    (h' : Alternate (openBehind isOpen ks) ks') : Alternate isOpen (ks ++ ks') := by
  induction ks generalizing isOpen with
  | nil => exact h'
  | cons k ks ih => exact ⟨h.1, ih h.2 h'⟩

namespace Link

variable {l l' : Link} {s : σ} {c : Call} {r : Except Stop Answer} {hops : List (Hop σ)}

/-- **Guards.** -/
theorem Goes.guarded (h : Goes wire l s c r l' hops) : Turn.Guarded ⟨c, l, r, l', hops⟩ := by
  have hnone : Turn.Guarded ⟨c, l, r, l', ([] : List (Hop σ))⟩ :=
    ⟨fun _ hmem => absurd hmem (by simp), .nil⟩
  have hone : ∀ k, (k = .begin ↔ l.isOpen = false) →
      Turn.Guarded ⟨c, l, r, l', [wire.hop k s]⟩ := fun k hk =>
    ⟨fun hop hmem _ => Option.some.inj hmem ▸ hk, .singleton _⟩
  have hopen : ∀ k : Command, k ≠ .begin → l.isOpen = true → (k = .begin ↔ l.isOpen = false) :=
    fun k hk ho => by simp [hk, ho]
  cases h with
  | misplaced | dropped | unsent | unread | read | unsettled | unlinked => exact hnone
  | sent hk hl hfits => exact hone _ hfits
  | settled hc he ho => exact hone _ (hopen _ (by simp) ho)
  | unbegun ho => exact hone _ (by simp [ho])
  | ran ho => exact hone _ (hopen _ (by simp) ho)
  | began ho hl ha =>
      exact ⟨fun hop hmem _ => Option.some.inj hmem ▸ by simp [Wire.hop, ho],
        .cons_cons (fun _ => ⟨rfl, ha, by simp [Wire.hop]⟩) (.singleton _)⟩
  | givenUp ho => exact hone _ (hopen _ (by simp) ho)
  | closed _ _ _ _ hhops =>
      cases hhops with
      | unconnected => exact hnone
      | plain => exact ⟨fun hop hmem hne => absurd (Option.some.inj hmem ▸ rfl) hne, .singleton _⟩
      | lost hl ho => exact hone _ (hopen _ (by simp) ho)
      | rolledBack hl ho =>
          exact ⟨fun hop hmem _ => Option.some.inj hmem ▸ hopen _ (by simp [Wire.hop]) ho,
            .cons_cons (fun hne => absurd rfl hne) (.singleton _)⟩

/-- The begins, commits and rollbacks of a call alternate, and as long as the connection is there
the last of them tells what the link takes to be open. -/
structure Alternates (l l' : Link) (hops : List (Hop σ)) : Prop where
  alternate : Alternate l.isOpen (turned hops)
  opened : l'.connected = true → l.connected = true ∧ l'.isOpen = openBehind l.isOpen (turned hops)
  quiet : l.connected = false → hops = []

/-- One trip is a begin, a commit or a rollback that was done, or it is not looked at. -/
theorem turned_singleton (wire : Wire σ) (k : Command) (s : σ) :
    turned [wire.hop k s] = if (wire k s).1.isAnswered && k.isControl then [k] else [] := by
  unfold turned
  rw [List.filter_singleton]
  change List.map _ (bif (wire k s).1.isAnswered && k.isControl then _ else _) = _
  cases (wire k s).1.isAnswered && k.isControl <;> rfl

/-- A call without a trip. -/
theorem Alternates.quietly (hc : l'.connected = true → l.connected = true)
    (ho : l'.connected = true → l'.isOpen = l.isOpen) :
    Alternates l l' ([] : List (Hop σ)) :=
  ⟨trivial, fun hl => ⟨hc hl, ho hl⟩, fun _ => rfl⟩

/-- A call of one trip that was a begin, a commit or a rollback and was done. -/
theorem Alternates.done {k : Command} (hl : l.connected = true) (hk : k.isControl = true)
    (ha : (wire k s).1.isAnswered = true) (hfits : k = .begin ↔ l.isOpen = false)
    (ho : l'.connected = true → l'.isOpen = decide (k = .begin)) :
    Alternates l l' [wire.hop k s] := by
  have hturned : turned [wire.hop k s] = [k] := by
    rw [turned_singleton, ha, hk]
    rfl
  refine ⟨?_, fun hl' => ⟨hl, ?_⟩, fun hn => absurd (hl.symm.trans hn) (by simp)⟩
  · rw [hturned]
    exact ⟨hfits, trivial⟩
  · rw [hturned, ho hl']
    rfl

/-- A call of one trip that was something else or was not done. -/
theorem Alternates.other {k : Command} (hl : l.connected = true)
    (hk : ((wire k s).1.isAnswered && k.isControl) = false)
    (ho : l'.connected = true → l'.isOpen = l.isOpen) : Alternates l l' [wire.hop k s] := by
  have hturned : turned [wire.hop k s] = [] := by
    rw [turned_singleton, hk]
    rfl
  refine ⟨?_, fun hl' => ⟨hl, ?_⟩, fun hn => absurd (hl.symm.trans hn) (by simp)⟩
  · rw [hturned]
    trivial
  · rw [hturned, ho hl']
    rfl

/-- A statement does not change what a link takes to be open. -/
theorem isOpen_afterStatement (k : Link) (trip : Trip) :
    (k.afterStatement trip).isOpen = k.isOpen := by
  cases trip <;> rfl

/-- **Alternation.** -/
theorem Goes.alternates (h : Goes wire l s c r l' hops) : Alternates l l' hops := by
  cases h with
  | misplaced | unsent | unread | read | unsettled =>
      exact .quietly id fun _ => rfl
  | dropped hk ho => exact .quietly id fun _ => ho.symm
  | unlinked hl =>
      split_ifs
      · exact .quietly id fun _ => rfl
      · exact .quietly id fun _ => rfl
  | @sent _ k hk hl hfits =>
      have hcontrol : k.isControl = true := by
        cases c <;> simp only [Call.control, Option.some.injEq, reduceCtorEq] at hk <;>
          exact hk ▸ rfl
      cases ha : (wire k s).1.isAnswered with
      | true =>
          refine .done hl hcontrol ha hfits fun _ => ?_
          cases k <;> first | rfl | exact absurd hcontrol Bool.false_ne_true
      | false => exact .other hl (by rw [ha]; rfl) fun _ => rfl
  | settled hc he ho hl =>
      cases ha : (wire .commit s).1.isAnswered with
      | true => exact .done hl rfl ha (by simp [ho]) fun _ => rfl
      | false => exact .other hl (by rw [ha]; rfl) fun _ => rfl
  | unbegun ho hl ha => exact .other hl (by rw [ha]; rfl) fun _ => rfl
  | ran ho hl => exact .other hl (by simp [Command.isControl]) fun _ => isOpen_afterStatement l _
  | @began sql params ho hl ha =>
      have hturned :
          turned [wire.hop .begin s, wire.hop (.statement sql params) (wire .begin s).2] =
            [.begin] := by
        rw [← List.singleton_append, turned_append, turned_singleton, turned_singleton, ha]
        simp [Command.isControl]
      refine ⟨?_, fun _ => ⟨hl, ?_⟩, fun hn => absurd (hl.symm.trans hn) (by simp)⟩
      · rw [hturned, ho]
        exact ⟨by simp, trivial⟩
      · rw [hturned, isOpen_afterStatement]
        rfl
  | givenUp ho hl htrip =>
      exact .other hl (by rw [htrip]; rfl) fun hl' =>
        absurd hl' (by simp [afterTrip, htrip, Trip.cameBack])
  | closed _ _ _ hl' hhops =>
      have hgone : l'.connected ≠ true := by simp [hl']
      cases hhops with
      | unconnected => exact .quietly (fun h => absurd h hgone) fun h => absurd h hgone
      | plain hl => exact .other hl (by simp [Command.isControl]) fun h => absurd h hgone
      | lost hl ho hback =>
          refine .other hl ?_ fun h => absurd h hgone
          cases htrip : (wire .rollback s).1 with
          | answered | refused => simp [htrip, Trip.cameBack] at hback
          | lost | abandoned => rfl
      | rolledBack hl ho =>
          have hturned : turned [wire.hop .rollback s, wire.hop .disconnect (wire .rollback s).2] =
              turned [wire.hop .rollback s] := by
            rw [← List.singleton_append, turned_append, turned_singleton wire .disconnect]
            simp [Command.isControl]
          refine ⟨?_, fun h => absurd h hgone, fun hn => absurd (hl.symm.trans hn) (by simp)⟩
          rw [hturned, turned_singleton]
          split_ifs
          · exact ⟨by simp [ho], trivial⟩
          · trivial

end Link

/-! ### What there is to read -/

/-- A statement has succeeded. -/
def Turn.Succeeds (t : Turn σ) : Prop :=
  (∃ sql params, t.call = .execute sql params) ∧ t.answer = .ok .done

/-- There is nothing to read any more: a begin, a rollback or a reset has succeeded, the link was
closed, or a statement was sent and has failed. -/
def Turn.Clears (t : Turn σ) : Prop :=
  match t.call with
  | .begin | .rollback | .reset => t.answer = .ok .done
  | .close => True
  | .execute sql params =>
    t.answer ≠ .ok .done ∧ ∃ hop ∈ t.hops, hop.command = .statement sql params
  | _ => False

/-- What is about a command clears only if it is done. -/
theorem Turn.Clears.done {t : Turn σ} {k : Command} (h : t.Clears)
    (hk : t.call.control = some k) : t.answer = .ok .done := by
  obtain ⟨c, l, r, l', hops⟩ := t
  cases c with
  | begin | rollback | reset => exact h
  | commit => exact h.elim
  | fetchOne | fetchMany n | fetchAll | affected | close | execute sql params =>
      exact absurd hk (by simp [Call.control])

/-- A rollback that is done clears. -/
theorem Turn.clears_of_rollback {t : Turn σ} (hk : t.call.control = some .rollback)
    (hdone : t.answer = .ok .done) : t.Clears := by
  obtain ⟨c, l, r, l', hops⟩ := t
  cases c with
  | rollback | reset => exact hdone
  | fetchOne | fetchMany n | fetchAll | affected | close | execute sql params | begin | commit =>
      exact absurd hk (by simp [Call.control])

/-- Reading does not clear. -/
theorem Turn.not_clears_of_isReading {t : Turn σ} (h : t.call.isReading = true) : ¬t.Clears := by
  obtain ⟨c, l, r, l', hops⟩ := t
  cases c with
  | fetchOne | fetchMany n | fetchAll | affected => exact id
  | begin | commit | rollback | reset | close | execute sql params =>
      exact absurd h Bool.false_ne_true

/-- What reads or is about a command is no statement. -/
theorem Turn.Succeeds.control {t : Turn σ} (h : t.Succeeds) :
    t.call.control = none ∧ t.call.isReading = false := by
  obtain ⟨⟨sql, params, hc⟩, -⟩ := h
  rw [hc]
  exact ⟨rfl, rfl⟩

/-- A statement has succeeded, and since then nothing has cleared what it left to read. -/
def HasResult (ts : List (Turn σ)) : Prop :=
  ∃ before t after, ts = before ++ t :: after ∧ t.Succeeds ∧ ∀ u ∈ after, ¬u.Clears

/-- Every trip has brought the connection back, but for its end. -/
def Turn.Returns (t : Turn σ) : Prop :=
  ∀ hop ∈ t.hops, hop.command ≠ .disconnect → hop.trip.cameBack = true

/-- After one more call. -/
theorem hasResult_snoc (ts : List (Turn σ)) (t : Turn σ) :
    HasResult (ts ++ [t]) ↔ t.Succeeds ∨ HasResult ts ∧ ¬t.Clears := by
  constructor
  · rintro ⟨before, u, after, heq, hu, hafter⟩
    rcases List.eq_nil_or_concat' after with rfl | ⟨after, v, rfl⟩
    · obtain ⟨-, heq⟩ := List.append_inj' heq rfl
      exact .inl ((List.cons.inj heq).1 ▸ hu)
    · rw [← List.cons_append, ← List.append_assoc] at heq
      obtain ⟨rfl, hv⟩ := List.append_inj' heq rfl
      obtain rfl := (List.cons.inj hv).1
      exact .inr ⟨⟨before, u, after, rfl, hu, fun w hw => hafter w (by simp [hw])⟩,
        hafter t (by simp)⟩
  · rintro (ht | ⟨⟨before, u, after, rfl, hu, hafter⟩, ht⟩)
    · exact ⟨ts, t, [], rfl, ht, by simp⟩
    · refine ⟨before, u, after ++ [t], by simp, hu, ?_⟩
      exact List.forall_mem_append.mpr ⟨hafter, by simpa using ht⟩

namespace Link

variable {l l' : Link} {s : σ} {c : Call} {r : Except Stop Answer} {hops : List (Hop σ)}

/-- A trip that is told as done was done. -/
theorem map_told_eq_ok {trip : Trip} {α : Type} {a b : α} :
    trip.told.map (fun _ => a) = .ok b ↔ trip.isAnswered = true ∧ a = b := by
  cases trip <;> simp [Trip.told, Trip.isAnswered, Except.map]

/-- As long as no connection was lost, a link without one is idle, and there is something to read
exactly behind a statement that has succeeded and was not cleared. -/
structure Tells (l : Link) (readable : Prop) : Prop where
  idle : l.connected = false → l.transaction = .idle
  executed : l.executed = true ↔ readable

namespace Tells

variable {readable succeeds clears : Prop}

/-- A call that neither brings nor clears anything. -/
theorem kept (h : l.Tells readable) (hidle : l'.connected = false → l'.transaction = .idle)
    (he : l'.executed = l.executed) (hs : ¬succeeds) (hc : ¬clears) :
    l'.Tells (succeeds ∨ readable ∧ ¬clears) := by
  refine ⟨hidle, ?_⟩
  rw [he, h.executed]
  simp [hs, hc]

/-- A call that clears. -/
theorem cleared (hidle : l'.connected = false → l'.transaction = .idle)
    (he : l'.executed = false) (hs : ¬succeeds) (hc : clears) :
    l'.Tells (succeeds ∨ readable ∧ ¬clears) :=
  ⟨hidle, by simp [he, hs, hc]⟩

end Tells

/-- A statement whose trip came back. -/
theorem tells_afterStatement {k : Link} {trip : Trip} {sql : String} {params : Params}
    {readable : Prop} (hback : trip.cameBack = true)
    (hsent : ∃ hop ∈ hops, hop.command = .statement sql params) :
    (k.afterStatement trip).Tells
      (Turn.Succeeds ⟨.execute sql params, l, trip.told.map fun _ => .done, l', hops⟩ ∨
        readable ∧
          ¬Turn.Clears ⟨.execute sql params, l, trip.told.map fun _ => .done, l', hops⟩) := by
  cases trip with
  | answered rows n =>
      refine ⟨fun hn => absurd hn (by simp [afterStatement, afterTrip, Trip.cameBack]), ?_⟩
      exact iff_of_true rfl (.inl ⟨⟨sql, params, rfl⟩, rfl⟩)
  | refused cause =>
      have hfailed : (Trip.refused cause).told.map (fun _ => Answer.done) ≠ .ok .done := by
        simp [map_told_eq_ok, Trip.isAnswered]
      exact .cleared (fun hn =>
        absurd hn (by simp [afterStatement, emptied, afterTrip, Trip.cameBack]))
        rfl (fun h => hfailed h.2) ⟨hfailed, hsent⟩
  | lost | abandoned => exact absurd hback Bool.false_ne_true

/-- **What there is to read.** -/
theorem Goes.tells (h : Goes wire l s c r l' hops) {readable : Prop} (hl : l.Tells readable)
    (hreturns : Turn.Returns ⟨c, l, r, l', hops⟩) :
    l'.Tells (Turn.Succeeds ⟨c, l, r, l', hops⟩ ∨
      readable ∧ ¬Turn.Clears ⟨c, l, r, l', hops⟩) := by
  have hback : ∀ k, wire.hop k s ∈ hops → k ≠ .disconnect → (wire k s).1.cameBack = true :=
    fun k hk hne => hreturns _ hk hne
  cases h with
  | misplaced hk | unsent hk =>
      exact hl.kept hl.idle rfl (fun h => absurd h.2 (by simp)) fun h =>
        absurd (h.done hk) (by simp)
  | dropped hk =>
      exact .cleared (fun _ => rfl) rfl (fun h => absurd (hk.symm.trans h.control.1) (by simp))
        (Turn.clears_of_rollback hk rfl)
  | @sent _ k hk hconn hfits =>
      have hne : k ≠ .disconnect := by
        rintro rfl
        cases c <;> simp [Call.control] at hk
      have hback := hback k (List.mem_singleton_self _) hne
      cases ha : (wire k s).1.isAnswered with
      | true =>
          have htold : (wire k s).1.told.map (fun _ => Answer.done) = .ok .done :=
            map_told_eq_ok.mpr ⟨ha, rfl⟩
          rw [htold, if_pos rfl]
          cases c with
          | begin | rollback | reset =>
              obtain rfl := Option.some.inj hk
              exact .cleared (by simp [Command.effect, Link.cleared, afterTrip, hback]) rfl
                (fun h => absurd h.1 (by simp)) rfl
          | commit =>
              obtain rfl := Option.some.inj hk
              exact hl.kept (by simp [Command.effect, afterTrip, hback]) rfl
                (fun h => absurd h.1 (by simp)) id
          | _ => exact absurd hk (by simp [Call.control])
      | false =>
          have htold : (wire k s).1.told.map (fun _ => Answer.done) ≠ .ok .done := fun h => by
            simp [map_told_eq_ok, ha] at h
          rw [if_neg Bool.false_ne_true]
          exact hl.kept (by simp [afterTrip, hback]) rfl (fun h => htold h.2) fun h =>
            htold (h.done hk)
  | unread hc | read hc | unsettled hc =>
      exact hl.kept hl.idle rfl (fun h => absurd (hc.symm.trans h.control.2) (by simp))
        (Turn.not_clears_of_isReading hc)
  | settled hc he ho hconn =>
      have hback := hback .commit (List.mem_singleton_self _) (by simp)
      refine hl.kept ?_ ?_ (fun h => absurd (hc.symm.trans h.control.2) (by simp))
        (Turn.not_clears_of_isReading hc)
      · split_ifs <;> simp [afterTrip, hback]
      · split_ifs <;> rfl
  | unbegun ho hconn ha =>
      have hback := hback .begin (List.mem_singleton_self _) (by simp)
      refine hl.kept (by simp [afterTrip, hback]) rfl (fun h => ?_) fun h => ?_
      · have hdone := h.2
        simp [map_told_eq_ok, ha] at hdone
      · obtain ⟨hop, hmem, hstatement⟩ := h.2
        rw [List.mem_singleton.mp hmem] at hstatement
        exact absurd hstatement (by simp [Wire.hop])
  | unlinked hconn =>
      have hopen : l.isOpen = false := by simp [isOpen, hl.idle hconn]
      rw [if_neg (by simp [hopen])]
      refine hl.kept hl.idle rfl (fun h => absurd h.2 (by simp)) fun h => ?_
      obtain ⟨hop, hmem, -⟩ := h.2
      exact absurd hmem List.not_mem_nil
  | ran ho hconn =>
      exact tells_afterStatement (hback _ (List.mem_singleton_self _) (by simp))
        ⟨_, List.mem_singleton_self _, rfl⟩
  | began ho hconn ha =>
      exact tells_afterStatement
        (hreturns _ (List.mem_cons_of_mem _ (List.mem_singleton_self _)) (by simp [Wire.hop]))
        ⟨_, List.mem_cons_of_mem _ (List.mem_singleton_self _), rfl⟩
  | givenUp ho hconn htrip =>
      have hback := hback .rollback (List.mem_singleton_self _) (by simp)
      rw [htrip] at hback
      exact absurd hback Bool.false_ne_true
  | closed hrows he ht => exact .cleared (fun _ => ht) he (fun h => absurd h.1 (by simp)) trivial

/-- What reading answers: a failure because of the state of the link exactly where there is nothing
to read, and then without a trip. Otherwise the transaction is committed if it is still open, and an
answer that is no failure takes what it says from the rows of a link that is committed. -/
structure Answers (t : Turn σ) (readable : Prop) : Prop where
  refused : (∃ message, t.answer = .error (.failed (.state message))) ↔ ¬readable
  quiet : ¬readable → t.hops = []
  committed : ∀ a, t.answer = .ok a → t.after.transaction = .committed ∧
    (t.before.transaction = .committed ∧ t.hops = [] ∨ t.before.transaction = .opened ∧
      ∃ hop, t.hops = [hop] ∧ hop.command = .commit ∧ hop.trip.isAnswered = true)
  taken : ∀ a, t.answer = .ok a →
    a = t.call.reads t.before ∧ t.after.rows = t.call.leaves t.before.rows

/-- **Reading.** -/
theorem Goes.answers (h : Goes wire l s c r l' hops) (hc : c.isReading = true) (hl : l.Coherent)
    {readable : Prop} (htells : l.Tells readable) : Answers ⟨c, l, r, l', hops⟩ readable := by
  cases h with
  | misplaced hk | dropped hk | sent hk | unsent hk =>
      exact absurd (hk.symm.trans (Call.control_of_isReading hc)) (by simp)
  | unbegun | unlinked | ran | began | givenUp | closed => exact absurd hc Bool.false_ne_true
  | unread _ he =>
      have hnot : ¬readable := fun hr => by simp [htells.executed.mpr hr] at he
      exact ⟨iff_of_true ⟨_, rfl⟩ hnot, fun _ => rfl, fun _ ha => absurd ha (by simp),
        fun _ ha => absurd ha (by simp)⟩
  | unsettled _ ho hconn => simp [isOpen, htells.idle hconn] at ho
  | read _ he ho =>
      have hr : readable := htells.executed.mp he
      have hcommitted : l.transaction = .committed := by
        have hbegun := hl.begun he
        have hclosed := of_decide_eq_false ho
        revert hbegun hclosed
        cases l.transaction <;> simp
      exact ⟨iff_of_false (by simp) (not_not_intro hr), fun hn => absurd hr hn,
        fun _ _ => ⟨hcommitted, .inl ⟨hcommitted, rfl⟩⟩,
        fun _ ha => ⟨(Except.ok.inj ha).symm, rfl⟩⟩
  | settled _ he ho hconn =>
      have hr : readable := htells.executed.mp he
      have hopen : l.transaction = .opened := of_decide_eq_true ho
      refine ⟨iff_of_false ?_ (not_not_intro hr), fun hn => absurd hr hn, fun a ha => ?_,
        fun a ha => ?_⟩
      · rintro ⟨message, hmessage⟩
        cases htrip : (wire .commit s).1 <;> simp [htrip, Trip.told, Except.map] at hmessage
      · obtain ⟨hdone, rfl⟩ := map_told_eq_ok.mp ha
        refine ⟨?_, .inr ⟨hopen, _, rfl, rfl, hdone⟩⟩
        dsimp only
        rw [if_pos hdone]
      · obtain ⟨hdone, rfl⟩ := map_told_eq_ok.mp ha
        dsimp only
        rw [if_pos hdone]
        exact ⟨rfl, rfl⟩

/-! ### Any calls -/

/-- One more turn. -/
theorem turns_snoc (wire : Wire σ) (y : Link × σ) (calls : List Call) (c : Call) :
    turns wire y (calls ++ [c]) =
      turns wire y calls ++ [takeTurn wire (afterAll wire y calls) c] := by
  induction calls generalizing y with
  | nil => rfl
  | cons d calls ih => exact congrArg (takeTurn wire y d :: ·) (ih _)

/-- What holds of a link behind some turns. -/
structure Upholds (l : Link) (ts : List (Turn σ)) : Prop where
  coherent : l.Coherent
  guarded : ∀ t ∈ ts, t.Guarded
  alternate : Alternate false (turned (ts.flatMap Turn.hops))
  opened : l.connected = true → l.isOpen = openBehind false (turned (ts.flatMap Turn.hops))
  tells : (∀ t ∈ ts, t.Returns) → l.Tells (HasResult ts)

/-- A fresh link. -/
theorem upholds_fresh : Upholds fresh ([] : List (Turn σ)) where
  coherent := ⟨fun h => absurd rfl h, fun h => absurd h Bool.false_ne_true⟩
  guarded _ ht := absurd ht List.not_mem_nil
  alternate := trivial
  opened _ := rfl
  tells _ := ⟨fun _ => rfl, iff_of_false Bool.false_ne_true (by simp [HasResult])⟩

/-- **One turn.** -/
theorem Upholds.step {ts : List (Turn σ)} (h : Upholds l ts) (hgoes : Goes wire l s c r l' hops) :
    Upholds l' (ts ++ [⟨c, l, r, l', hops⟩]) := by
  have hhops : (ts ++ [(⟨c, l, r, l', hops⟩ : Turn σ)]).flatMap Turn.hops =
      ts.flatMap Turn.hops ++ hops := by
    simp
  have halternates := hgoes.alternates
  refine ⟨hgoes.coherent h.coherent, ?_, ?_, fun hl' => ?_, fun hreturns => ?_⟩
  · exact List.forall_mem_append.mpr ⟨h.guarded, by simpa using hgoes.guarded⟩
  · rw [hhops, turned_append]
    cases hl : l.connected with
    | true => exact h.alternate.append (h.opened hl ▸ halternates.alternate)
    | false =>
        rw [halternates.quiet hl]
        exact h.alternate.append trivial
  · obtain ⟨hl, hopen⟩ := halternates.opened hl'
    rw [hhops, turned_append, hopen, h.opened hl]
    exact List.foldl_append.symm
  · obtain ⟨hbefore, hlast⟩ := List.forall_mem_append.mp hreturns
    rw [hasResult_snoc]
    exact hgoes.tells (h.tells hbefore) (hlast _ (List.mem_singleton_self _))

/-- **Any turns.** -/
theorem upholds_turns (wire : Wire σ) (s : σ) (calls : List Call) :
    Upholds (afterAll wire (fresh, s) calls).1 (turns wire (fresh, s) calls) := by
  induction calls using List.reverseRecOn with
  | nil => exact upholds_fresh
  | append_singleton calls c ih =>
      rw [turns_snoc, afterAll_snoc]
      exact ih.step (takeTurn_goes wire _ c)

/-- **The protocol.** After any calls on a fresh link, whatever the engine answers: there are rows
only behind a statement that succeeded, in a transaction that is open or committed. Begins were sent
only where none was open, and commits, rollbacks and statements only where one was. Those that
succeeded alternate. As long as no connection was lost, reading then fails because of the state of
the link exactly where no statement has succeeded or what it left was cleared since, and without a
trip; what it reads otherwise was committed. -/
theorem turns_protocol (wire : Wire σ) (s : σ) (calls : List Call) :
    Coherent (afterAll wire (fresh, s) calls).1 ∧
    (∀ t ∈ turns wire (fresh, s) calls, t.Guarded) ∧
    Alternate false (turned ((turns wire (fresh, s) calls).flatMap Turn.hops)) ∧
    ∀ c : Call, c.isReading = true → (∀ t ∈ turns wire (fresh, s) calls, t.Returns) →
      Answers (takeTurn wire (afterAll wire (fresh, s) calls) c)
        (HasResult (turns wire (fresh, s) calls)) := by
  have h := upholds_turns wire s calls
  exact ⟨h.coherent, h.guarded, h.alternate, fun c hc hreturns =>
    (takeTurn_goes wire _ c).answers hc h.coherent (h.tells hreturns)⟩

/-- A statement that collides with a row has failed, so what the one before it left is gone. -/
theorem turns_protocol_sample :
    (∀ t ∈ turns (Engine.wire 0) (fresh, sampleFiles) sampleCalls, t.Returns) ∧
    Call.fetchAll.isReading = true ∧
    ¬HasResult (turns (Engine.wire 0) (fresh, sampleFiles) sampleCalls) := by
  have hreturns : ∀ t ∈ turns (Engine.wire 0) (fresh, sampleFiles) sampleCalls, t.Returns := by
    unfold Turn.Returns
    decide +kernel
  have hanswer : (takeTurn (Engine.wire 0)
      (afterAll (Engine.wire 0) (fresh, sampleFiles) sampleCalls) .fetchAll).answer =
      .error (.failed (.state "cannot read results before a statement has been executed")) := by
    decide +kernel
  exact ⟨hreturns, rfl, ((turns_protocol (Engine.wire 0) sampleFiles sampleCalls).2.2.2 .fetchAll
    rfl hreturns).refused.mp ⟨_, hanswer⟩⟩

end Link

end TableGateway
