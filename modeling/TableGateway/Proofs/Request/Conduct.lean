import TableGateway.Proofs.Request.Return

/-!
# How requests treat their connection

A request gets one connection of its pool, makes its calls on it up to the first that fails, and
gives it back, whatever happened. A request that is given up at a wait leaves behind an errand that
has nothing once it is lost, or a connection whose return is left to a task and ends in the same
way.

## Main results

* `Site.acquire_run`: an errand gets a connection, or is denied one.
* `Site.fulfil_run`: what a request does with its connection.
* `Site.request_conduct`: any request, on any pools that new ones become.
-/

namespace TableGateway

variable {β : Type}

namespace Site

variable {usable : β → Bool} {name : String} {t : Ticket} {s s' : Site β} {p : Pool β}
  {k : Checkout β}

/-! ### Getting the connection -/

/-- Where an errand stands that wants a connection, by how far it got. A connection that it gets is
not flagged. -/
def Reached (p : Pool β) (t : Ticket) : Pool.Progress → Prop
  | .refused => p.closed = true ∧ p.stage? t = none
  | .waits => p.stage? t = some .queued
  | .connected => ∃ k, p.stage? t = some (.out k) ∧ k.broken = false
  | .opens => p.stage? t = some .opening

/-- An errand that holds a permit goes on with it. -/
theorem proceed_reached (p : Pool β) (t : Ticket) :
    Reached (p.proceed t).1 t (p.proceed t).2 := by
  unfold Pool.proceed
  split
  · exact ⟨_, Pool.stage?_setStage_self _ t _, rfl⟩
  · exact Pool.stage?_setStage_self _ t _

/-- A new errand asks. -/
theorem ask_reached (hnew : p.stage? t = none) : Reached (p.ask t).1 t (p.ask t).2 := by
  unfold Pool.ask
  split_ifs with hclosed
  · exact ⟨hclosed, hnew⟩
  · exact Pool.stage?_setStage_self _ t _
  · exact proceed_reached _ t

/-- An errand looks again that waits for a permit or has been granted one. -/
theorem resume_reached (hp : p.Sound)
    (ht : p.stage? t = some .queued ∨ p.stage? t = some .granted) :
    Reached (p.resume t).1 t (p.resume t).2.1 := by
  unfold Pool.resume
  rcases ht with ht | ht <;> rw [ht] <;> dsimp only <;> split_ifs with hclosed
  · exact ⟨hclosed, Pool.stage?_of_erase rfl⟩
  · exact ht
  · exact ⟨(Pool.putPermit_closed _).trans hclosed, Pool.stage?_leave hp ht Nat.one_pos rfl rfl⟩
  · exact proceed_reached p t

/-- Why an errand is denied a connection, and what was done for it. -/
inductive Denied (name : String) (s : Site β) : Error → List (Note β) → Prop where
  | unknown {e : Error} (hfind : s.pools.find name = .error e) : Denied name s e []
  | closed {p : Pool β} (hs : s.Has name p) (hclosed : p.closed = true) :
      Denied name s (.state "pool is closed") []
  | failed (e : Error) : Denied name s e [.connect (.error e)]

/-- How an errand came to the connection `k`: it was idle, or it has been opened. -/
inductive Opened (k : Checkout β) : List (Note β) → Prop where
  | idle : Opened k []
  | new (p : Option (Pool β)) : Opened k [.connect (.ok k.backend), .clock k.created p]

/-- An errand that wanted a connection was denied it, or has got one, or was given up before that.
`log` is what had been done before. -/
inductive Acquires (name : String) (t : Ticket) (log : List (Note β)) :
    Option (Except Error Unit) → Site β → Prop where
  | denied {s : Site β} {e : Error} {notes : List (Note β)} (hdenied : Denied name s e notes)
      (hlog : s.log = log ++ notes)
      (hgone : ∀ p, s.pools.get? name = some p → p.stage? t = none) :
      Acquires name t log (some (.error e)) s
  | given {s : Site β} {p : Pool β} {k : Checkout β} {notes : List (Note β)}
      (hopened : Opened k notes) (hlog : s.log = log ++ notes) (hs : s.Has name p)
      (ht : p.stage? t = some (.out k)) (hsound : k.broken = false) :
      Acquires name t log (some (.ok ())) s
  | givenUp {s : Site β} {p : Pool β} {stage : Stage β} (hlog : s.log = log) (hs : s.Has name p)
      (ht : p.stage? t = some stage)
      (hstage : stage = .queued ∨ stage = .granted ∨ stage = .opening) :
      Acquires name t log none s

/-- An opening has ended. -/
theorem opened_run (hs : s.Has name p) (ht : p.stage? t = some .opening)
    {connected : Except Error β} {log : List (Note β)} (hlog : s.log = log ++ [.connect connected])
    {r : Option (Except Error Unit)} (h : (host usable name t).opened t connected s r s') :
    Acquires name t log r s' := by
  cases connected with
  | ok x =>
      obtain ⟨now, h⟩ := (bind_now _ _).mp h
      obtain ⟨rfl, rfl⟩ := (bind_onPool _ _ _).mp h
      have hwhole : s.log ++ [.clock now (s.pools.get? name)] =
          log ++ [.connect (.ok x), .clock now (s.pools.get? name)] := by
        rw [hlog, List.append_assoc]
        rfl
      exact .given (k := ⟨x, now, false⟩) (.new _) hwhole
        (Has.change (s := { s with log := s.log ++ [.clock now (s.pools.get? name)] }) hs
          (hs.2.opened x now).accounted) (Pool.stage?_opened ht x now) rfl
  | error e =>
      obtain ⟨rfl, rfl⟩ := (bind_onPoolWaking _ _ _).mp h
      have hs' := hs.change (f := fun p => (p.openFailed t).1) hs.2.openFailed.accounted
      refine .denied (.failed e) hlog fun p' hp' => ?_
      obtain rfl := Option.some.inj (hs'.1.symm.trans hp')
      exact ((Pool.Departs.openFailed ht).givesBack hs.2).ended

/-- Going on with an errand as far as it got. -/
theorem enter_run (hs : s.Has name p) {progress : Pool.Progress} (hreached : Reached p t progress)
    {wait : Attempt (Site β) (Except Error Unit)} {r : Option (Except Error Unit)}
    (hwait : progress = .waits → wait s r s' → Acquires name t s.log r s')
    (h : (host usable name t).enter t wait progress s r s') : Acquires name t s.log r s' := by
  cases progress with
  | refused =>
      obtain ⟨rfl, rfl⟩ := h
      exact .denied (.closed hs hreached.1) (List.append_nil _).symm fun p' hp' =>
        Option.some.inj (hs.1.symm.trans hp') ▸ hreached.2
  | waits => exact hwait rfl h
  | connected =>
      obtain ⟨rfl, rfl⟩ := h
      obtain ⟨k, ht, hsound⟩ := hreached
      exact .given .idle (List.append_nil _).symm hs ht hsound
  | opens =>
      rcases h with ⟨connected, s₁, ⟨d, hothers, hcases⟩, h⟩ | ⟨rfl, d, hothers, hcases⟩
      · obtain ⟨answer, heq, rfl⟩ := hcases.resolve_right fun hnone => absurd hnone.1 (by simp)
        obtain rfl := Option.some.inj heq
        obtain ⟨p₁, hs₁, ht₁⟩ :=
          hs.others_at hreached (by simp) (s.log ++ [.connect connected]) hothers
        exact opened_run hs₁ ht₁ rfl h
      · obtain ⟨-, rfl⟩ := hcases.resolve_left fun ⟨_, hsome, _⟩ => absurd hsome (by simp)
        obtain ⟨p₁, hs₁, ht₁⟩ := hs.others_at hreached (by simp) s.log hothers
        exact .givenUp rfl hs₁ ht₁ (.inr (.inr rfl))

/-- Whoever waited for a permit waits on or was granted one, after others went on. -/
theorem Has.others_waiting (hs : s.Has name p)
    (ht : p.stage? t = some .queued ∨ p.stage? t = some .granted) {d : Databases β}
    (log : List (Note β)) (h : Databases.Others name t s.pools d) :
    ∃ p', Has name ⟨d, log⟩ p' ∧ (p'.stage? t = some .queued ∨ p'.stage? t = some .granted) := by
  obtain ⟨p', hs', hsame | ⟨-, hgranted⟩⟩ := hs.others log h
  · exact ⟨p', hs', ht.imp hsame.trans hsame.trans⟩
  · exact ⟨p', hs', .inr hgranted⟩

/-- **Waiting.** By induction over the times that the errand looks again. -/
theorem Waits.acquires {r : Option (Except Error Unit)} (h : Waits usable name t s r s')
    (hs : s.Has name p) (ht : p.stage? t = some .queued ∨ p.stage? t = some .granted) :
    Acquires name t s.log r s' := by
  induction h generalizing p with
  | @givenUp s d hothers =>
      obtain ⟨p', hs', ht'⟩ := hs.others_waiting ht s.log hothers
      rcases ht' with ht' | ht'
      · exact .givenUp rfl hs' ht' (.inl rfl)
      · exact .givenUp rfl hs' ht' (.inr (.inl rfl))
  | @again s s' d p₁ p' next r hothers hp hresume h ih =>
      obtain ⟨p₂, hs₂, ht₂⟩ := hs.others_waiting ht s.log hothers
      obtain rfl := Option.some.inj (hs₂.1.symm.trans hp)
      have hreached := resume_reached hs₂.2.sound ht₂
      have hbooks := (hs₂.2.resume (t := t)).accounted
      rw [hresume] at hreached hbooks
      exact ih (hs₂.change (f := fun _ => p') hbooks) (.inl hreached)
  | @done s s' d p₁ p' progress next r hothers hp hresume hprogress h =>
      obtain ⟨p₂, hs₂, ht₂⟩ := hs.others_waiting ht s.log hothers
      obtain rfl := Option.some.inj (hs₂.1.symm.trans hp)
      have hreached := resume_reached hs₂.2.sound ht₂
      have hbooks := (hs₂.2.resume (t := t)).accounted
      rw [hresume] at hreached hbooks
      exact enter_run (hs₂.change (f := fun _ => p') hbooks) hreached
        (fun hwaits => absurd hwaits hprogress) h

/-- **Getting a connection.** A new errand is denied a connection and has nothing, or it gets one
that is not flagged, or it was given up before; it makes no call meanwhile. -/
theorem acquire_run
    (hnew : ∀ p, s.pools.get? name = some p → p.Accounted ∧ p.stage? t = none)
    {r : Option (Except Error Unit)}
    (h : (host usable name t).acquire t (Waits usable name t) s r s') :
    Acquires name t s.log r s' := by
  have hlook : ∀ r s', (host usable name t).find s r s' ↔
      r = some (s.pools.find name) ∧ s' = s := fun _ _ => .rfl
  replace h := (Attempt.bind_at_once hlook _ r).mp h
  cases hget : s.pools.get? name with
  | none =>
      have hunknown : s.pools.find name = .error (.unknownPool name) := by
        rw [Databases.find, hget]
      rw [hunknown] at h
      obtain ⟨rfl, rfl⟩ := h
      exact .denied (.unknown hunknown) (List.append_nil _).symm fun p hp =>
        absurd (hget.symm.trans hp) (by simp)
  | some p =>
      rw [Databases.find, hget] at h
      obtain ⟨hbooks, hnone⟩ := hnew p hget
      have hreached := ask_reached hnone
      have hs : (s.change name fun _ => (p.ask t).1).Has name (p.ask t).1 :=
        Has.change (f := fun _ => (p.ask t).1) ⟨hget, hbooks⟩ (hbooks.ask hnone).accounted
      refine enter_run hs hreached (fun hwaits hwait => ?_) ((bind_onPool _ _ _).mp h)
      rw [hwaits] at hreached
      exact hwait.acquires hs (.inl hreached)

/-! ### What is done with it -/

/-- A connection is flagged when a call failed in a way after which it must not be used again. -/
def flagged (k : Checkout β) (answer : Except Error Answer) : Checkout β :=
  match answer with
  | .ok _ => k
  | .error e => { k with broken := k.broken || e.spoilsConnection }

/-- What is made of the answer to the last call: a number of changed rows, rows wrapped under the
names that are selected, or the number in the first column of the first row, which is zero if there
is none. -/
inductive Yields (q : Query) : Verb → Answer → Outcome → Prop where
  | changed (n : Nat) : Yields q .execute (.count n) (.changed n)
  | rows (records : List Record) : Yields q .all (.rows records)
      (.rows (records.map (Row.fetched q.table q.selection.names)))
  | row (record : Option Record) : Yields q .one (.row record)
      (.row (record.map (Row.fetched q.table q.selection.names)))
  | total (n : Int64) {v : Value} {rest : Record} (hv : v.asInteger? = some n) :
      Yields q .count (.row (some (v :: rest))) (.total n)
  | nothing {record : Option Record}
      (hnone : ∀ v rest, record = some (v :: rest) → v.asInteger? = none) :
      Yields q .count (.row record) (.total 0)

/-- The result of a request, by how its last call ended: the same failure, or what is made of the
answer. -/
inductive Results (q : Query) (verb : Verb) :
    Except Error Answer → Except Error Outcome → Prop where
  | failed (e : Error) : Results q verb (.error e) (.error e)
  | answered {a : Answer} {o : Outcome} (h : Yields q verb a o) : Results q verb (.ok a) (.ok o)

/-- The errand holds the connection `k` and can be lost at any time. A task of its own then gives
the connection back, after others went on; where there can be no task, its slot is free at once. -/
structure Saved (usable : β → Bool) (name : String) (t : Ticket) (k : Checkout β) (s : Site β)
    (p : Pool β) : Prop where
  dropped : (p.cancel t).1.stage? t = some (.dropped k)
  returns : ∀ d r s', Databases.Others name t (s.change name fun p => (p.cancel t).1).pools d →
    (host usable name t).giveBack t ⟨d, s.log⟩ r s' → GoesOn usable name t k [] ⟨d, s.log⟩ r s'
  discarded : Lost t (.out k) p (p.discard t).1

/-- What a request that is written as `st` does with the connection `k` that it got. `log` is what
had been done before. -/
inductive Served (usable : β → Bool) (name : String) (t : Ticket) (verb : Verb) (q : Query)
    (st : Statement) (k : Checkout β) (log : List (Note β)) :
    Option (Except Error Outcome) → Site β → Prop where
  /-- The calls have ended, and the connection has been given back. -/
  | ended {k' : Checkout β} {made back : List (Note β)} {answer : Except Error Answer}
      {result : Except Error Outcome} {p : Pool β} {s : Site β}
      (hcarried : Carried t (.execute st.sql st.params :: verb.followUp) .done k made answer k')
      (hresult : Results q verb answer result) (hback : Fate usable t (flagged k' answer) back p)
      (hs : s.Has name p) (hlog : s.log = log ++ made ++ back) :
      Served usable name t verb q st k log (some result) s
  /-- The calls have ended, and the return of the connection was given up. -/
  | leftInReturn {k' : Checkout β} {made back : List (Note β)} {answer : Except Error Answer}
      {stage : Stage β} {p : Pool β} {s : Site β}
      (hcarried : Carried t (.execute st.sql st.params :: verb.followUp) .done k made answer k')
      (hback : Abandoned usable t (flagged k' answer) back stage)
      (ht : p.stage? t = some stage) (hlost : Lost t stage p (p.cancel t).1) (hs : s.Has name p)
      (hlog : s.log = log ++ made ++ back) : Served usable name t verb q st k log none s
  /-- A call was given up. -/
  | leftInCall {k' : Checkout β} {made : List (Note β)} {p : Pool β} {s : Site β}
      (hleft : LeftOff t (.execute st.sql st.params :: verb.followUp) k made k')
      (ht : p.stage? t = some (.out k')) (hsaved : Saved usable name t k' s p)
      (hs : s.Has name p) (hlog : s.log = log ++ made) :
      Served usable name t verb q st k log none s

/-- The answer to the last of the calls is of the kind that it asks for. By induction over the
calls. -/
theorem Carried.last_fits {calls : List Call} {prior : Answer} {k' : Checkout β}
    {notes : List (Note β)} {r : Except Error Answer} (h : Carried t calls prior k notes r k')
    {a : Answer} (hr : r = .ok a) {c : Call} (hc : calls.getLast? = some c) : c.Fits a := by
  induction h with
  | done => exact absurd hc (by simp)
  | failed => exact absurd hr (by simp)
  | @next c' rest prior a' k k' x p notes r hheld hfits h ih =>
      cases rest with
      | nil =>
          cases h
          obtain rfl := Except.ok.inj hr
          obtain rfl := Option.some.inj hc
          exact hfits
      | cons c'' rest => exact ih hr (List.getLast?_cons_cons ▸ hc)

/-- The number of rows is read off the first row, if there is one. -/
theorem yields_total (q : Query) (record : Option Record) :
    Yields q .count (.row record) (Verb.outcome .count q (.row record)) := by
  cases record with
  | none => exact .nothing (by simp)
  | some values =>
      cases values with
      | nil => exact .nothing (by simp)
      | cons v rest =>
          have hnumber : Verb.outcome .count q (.row (some (v :: rest))) =
              .total (v.asInteger?.getD 0) := rfl
          rw [hnumber]
          cases hv : v.asInteger? with
          | some n => exact .total n hv
          | none =>
              refine .nothing fun v' rest' heq => ?_
              obtain ⟨rfl, -⟩ := List.cons.inj (Option.some.inj heq)
              exact hv

/-- An answer that fits the last call is made into the result of the request. -/
theorem yields_outcome (q : Query) {verb : Verb} {c : Call} (hc : verb.followUp.getLast? = some c)
    {a : Answer} (hfits : c.Fits a) : Yields q verb a (verb.outcome q a) := by
  cases verb <;> obtain rfl := Option.some.inj hc
  case execute =>
    cases a with
    | count n => exact .changed n
    | _ => exact absurd hfits id
  case all =>
    cases a with
    | rows records => exact .rows records
    | _ => exact absurd hfits id
  case one =>
    cases a with
    | row record => cases record <;> exact .row _
    | _ => exact absurd hfits id
  case count =>
    cases a with
    | row record => exact yields_total q record
    | _ => exact absurd hfits id

/-- What the calls of a request end with is made into its result. -/
theorem Carried.results {verb : Verb} {c : Call} {prior : Answer} {k' : Checkout β}
    {notes : List (Note β)} {answer : Except Error Answer}
    (h : Carried t (c :: verb.followUp) prior k notes answer k') (q : Query) :
    Results q verb answer (answer.map (verb.outcome q)) := by
  cases hanswer : answer with
  | error e => exact .failed e
  | ok a =>
      obtain ⟨last, hlast⟩ : ∃ last, verb.followUp.getLast? = some last := by
        cases verb <;> exact ⟨_, rfl⟩
      have hwhole : (c :: verb.followUp).getLast? = some last := by
        rw [List.getLast?_cons, hlast]
        rfl
      exact .answered (yields_outcome q hlast (h.last_fits hanswer hwhole))

/-- Whoever holds a connection can be lost. -/
theorem Has.saved (hs : s.Has name p) (ht : p.stage? t = some (.out k)) :
    Saved usable name t k s p := by
  have hpossible : p.Possible (.cancel t) := fun stage hstage =>
    Option.some.inj (ht.symm.trans hstage) ▸ trivial
  have hcancelled := hs.change (f := fun p => (p.cancel t).1) (hs.2.work hpossible).accounted
  have hdropped : (p.cancel t).1.stage? t = some (.dropped k) := by
    rw [Pool.cancel, ht]
    exact Pool.stage?_drop ht
  have hdiscarded : p.GivesBack t 1 (p.discard t).1 := (Pool.Departs.discarded ht).givesBack hs.2
  refine ⟨hdropped, fun d r s' hothers hback => ?_, hdiscarded.ended, hdiscarded.slots, ?_⟩
  · obtain ⟨p', hs', ht'⟩ := hcancelled.others_at hdropped (by simp) s.log hothers
    exact giveBack_run hs' (.inr ht') hback
  · rw [Pool.discard, ht]
    exact Pool.putPermit_idle _

end Site

/-! ### Requests -/

namespace Host

variable {m : Type → Type} [Monad m] (host : Host m β) (t : Ticket) (verb : Verb) (q : Query)

/-- What follows the calls of a request. -/
def settle : Except Error Answer → m (Except Error Outcome)
  | .ok answer => do
    host.giveBack t
    return .ok (verb.outcome q answer)
  | .error e => do
    if e.spoilsConnection then host.onPool fun p => p.condemn t
    host.giveBack t
    return .error e

/-- What follows a call that failed. -/
theorem settle_error (e : Error) :
    host.settle t verb q (.error e) =
      if e.spoilsConnection then do
        host.onPool fun p => p.condemn t
        host.giveBack t
        return .error e
      else do
        host.giveBack t
        return .error e :=
  rfl

/-- A request makes its statement and the calls that follow it, and then ends. -/
theorem fulfil_eq (st : Statement) :
    host.fulfil t verb q st = host.callOn t (.execute st.sql st.params) >>= fun executed =>
      host.proceed t verb executed >>= host.settle t verb q :=
  rfl

/-- The statement and the calls that follow it are made in order. -/
theorem callOn_proceed (c : Call) (prior : Answer) :
    host.callOn t c >>= host.proceed t verb = converse (host.callOn t) (c :: verb.followUp) prior :=
  rfl

end Host

namespace Site

variable {usable : β → Bool} {name : String} {t : Ticket} {s s' : Site β} {p : Pool β}
  {k : Checkout β}

/-- Giving back, and then answering. -/
theorem giveBack_return {o : Except Error Outcome} {r : Option (Except Error Outcome)}
    (h : (do (host usable name t).giveBack t
             return o : Attempt (Site β) (Except Error Outcome)) s r s') :
    ∃ r', (host usable name t).giveBack t s r' s' ∧ r = r'.map fun _ => o := by
  rcases h with ⟨⟨⟩, s₁, hback, rfl, rfl⟩ | ⟨rfl, hback⟩
  · exact ⟨_, hback, rfl⟩
  · exact ⟨_, hback, rfl⟩

/-- **The end of a request.** The connection is flagged if it must not be used again, and is given
back. -/
theorem settle_run (hs : s.Has name p) (ht : p.stage? t = some (.out k)) {verb : Verb} {q : Query}
    {answer : Except Error Answer} {r : Option (Except Error Outcome)}
    (h : (host usable name t).settle t verb q answer s r s') :
    ∃ r', r = r'.map (fun _ => answer.map (verb.outcome q)) ∧
      GoesOn usable name t (flagged k answer) [] s r' s' := by
  cases answer with
  | ok a =>
      obtain ⟨r', hback, rfl⟩ := giveBack_return h
      exact ⟨r', rfl, giveBack_run hs (.inl ht) hback⟩
  | error e =>
      cases hspoils : e.spoilsConnection with
      | true =>
          have hs₁ : (s.change name fun p => p.condemn t).Has name (p.condemn t) :=
            hs.change (hs.2.work (e := .condemn t) trivial).accounted
          rw [Host.settle_error, if_pos hspoils] at h
          obtain ⟨r', hback, rfl⟩ := giveBack_return ((bind_onPool _ _ _).mp h)
          have hflagged : flagged k (.error e) = { k with broken := true } := by
            rw [flagged, hspoils, Bool.or_true]
          rw [hflagged]
          exact ⟨r', rfl, giveBack_run hs₁ (.inl (Pool.stage?_condemn ht)) hback⟩
      | false =>
          rw [Host.settle_error, if_neg (by simp [hspoils])] at h
          obtain ⟨r', hback, rfl⟩ := giveBack_return h
          have hflagged : flagged k (.error e) = k := by
            rw [flagged, hspoils, Bool.or_false]
          rw [hflagged]
          exact ⟨r', rfl, giveBack_run hs (.inl ht) hback⟩

/-- **Using a connection.** -/
theorem fulfil_run (hs : s.Has name p) (ht : p.stage? t = some (.out k)) {verb : Verb} {q : Query}
    {st : Statement} {r : Option (Except Error Outcome)}
    (h : (host usable name t).fulfil t verb q st s r s') :
    Served usable name t verb q st k s.log r s' := by
  rw [Host.fulfil_eq] at h
  -- The statement is the first of the calls, so all of them are one conversation.
  have hwhole := (Attempt.bind_assoc _ _ _ _).mpr h
  rw [Host.callOn_proceed _ _ _ _ .done] at hwhole
  rcases hwhole with ⟨answer, s₁, hcalls, hend⟩ | ⟨rfl, hcalls⟩
  · obtain ⟨p₁, k', made, hs₁, ht₁, hlog₁, ⟨answer', heq, hcarried⟩ | ⟨hnone, -⟩⟩ :=
      converse_run hs ht hcalls
    · obtain rfl := Option.some.inj heq
      obtain ⟨r', rfl, back, p', hlog, hs', ⟨rfl, hback⟩ | ⟨stage, rfl, hback, ht', hlost⟩⟩ :=
        settle_run hs₁ ht₁ hend
      · exact .ended hcarried (hcarried.results q) hback hs'
          (hlog.trans (congrArg (· ++ back) hlog₁))
      · exact .leftInReturn hcarried hback ht' hlost hs' (hlog.trans (congrArg (· ++ back) hlog₁))
    · exact absurd hnone (by simp)
  · obtain ⟨p', k', made, hs', ht', hlog, ⟨_, heq, -⟩ | ⟨-, hleft⟩⟩ := converse_run hs ht hcalls
    · exact absurd heq (by simp)
    · exact .leftInCall hleft ht' (hs'.saved ht') hs' hlog

/-- What a request may do that wants `verb` of the query `q`, as a new errand `t` of its pool. It
begins at the site `s`. -/
inductive Conducted (usable : β → Bool) (name : String) (t : Ticket) (verb : Verb) (q : Query)
    (dialects : Query.Dialects) (s : Site β) : Option (Except Error Outcome) → Site β → Prop where
  /-- It cannot be written as a statement. -/
  | unwritten {e : Error} (hwritten : verb.statement dialects q = .error e) :
      Conducted usable name t verb q dialects s (some (.error e)) s
  /-- It was denied a connection. -/
  | denied {st : Statement} {e : Error} {notes : List (Note β)} {s' : Site β}
      (hwritten : verb.statement dialects q = .ok st) (hdenied : Denied name s' e notes)
      (hlog : s'.log = s.log ++ notes)
      (hgone : ∀ p, s'.pools.get? name = some p → p.stage? t = none) :
      Conducted usable name t verb q dialects s (some (.error e)) s'
  /-- It got the connection `k`. -/
  | served {st : Statement} {k : Checkout β} {notes : List (Note β)}
      {r : Option (Except Error Outcome)} {s' : Site β}
      (hwritten : verb.statement dialects q = .ok st) (hopened : Opened k notes)
      (hsound : k.broken = false)
      (h : Served usable name t verb q st k (s.log ++ notes) r s') :
      Conducted usable name t verb q dialects s r s'
  /-- It was given up before it had a connection. -/
  | leftEarly {st : Statement} {stage : Stage β} {p : Pool β} {s' : Site β}
      (hwritten : verb.statement dialects q = .ok st) (hlog : s'.log = s.log)
      (ht : p.stage? t = some stage)
      (hstage : stage = .queued ∨ stage = .granted ∨ stage = .opening)
      (hlost : Lost t stage p (p.cancel t).1) (hs : s'.Has name p) :
      Conducted usable name t verb q dialects s none s'

/-- **One connection, once, and always given back.** A request that runs as a new errand of its
pool, in any state that new pools reach, while others do anything and calls end in any way, does
one of four things. It cannot be written, or is denied a connection: then it makes no call, has
nothing, and its result is that failure. Or it gets one connection: it makes its calls on it in
order up to the first that fails, the result is that failure or is read off the last answer, and
the connection is given back, closed with its slot free if something keeps it from being used again
and otherwise reset and the last of the idle ones. Or it is given up at a wait: then its loss frees
what it holds, and a connection that is out is given back by a task. -/
theorem request_conduct {start : Databases β} (hfresh : start.Fresh) {verb : Verb} {q : Query}
    {dialects : Query.Dialects} {t : Ticket} {s s' : Site β} (hreached : start.Reaches s.pools)
    (hnew : ∀ p, s.pools.get? (q.table.poolOf verb.mode) = some p → p.stage? t = none)
    {r : Option (Except Error Outcome)}
    (h : (host usable (q.table.poolOf verb.mode) t).request t verb q dialects
      (Waits usable (q.table.poolOf verb.mode) t) s r s') :
    Conducted usable (q.table.poolOf verb.mode) t verb q dialects s r s' := by
  unfold Host.request at h
  cases hwritten : verb.statement dialects q with
  | error e =>
      rw [hwritten] at h
      obtain ⟨rfl, rfl⟩ := h
      exact .unwritten hwritten
  | ok st =>
      rw [hwritten] at h
      have hbooks : ∀ p, s.pools.get? (q.table.poolOf verb.mode) = some p →
          p.Accounted ∧ p.stage? t = none := fun p hp =>
        ⟨(Databases.accounted_of_reaches hfresh hreached hp).1, hnew p hp⟩
      rcases h with ⟨granted, s₁, hacquire, h⟩ | ⟨rfl, hacquire⟩
      · cases acquire_run hbooks hacquire with
        | denied hdenied hlog hgone =>
            obtain ⟨rfl, rfl⟩ := h
            exact .denied hwritten hdenied hlog hgone
        | given hopened hlog hs ht hsound =>
            have hserved := fulfil_run hs ht h
            rw [hlog] at hserved
            exact .served hwritten hopened hsound hserved
      · cases acquire_run hbooks hacquire with
        | givenUp hlog hs ht hstage =>
            -- None of these stages holds a connection that is left to a task.
            have hlost : Lost t _ _ _ := cancel_lost hs.2 ht
              (by rcases hstage with rfl | rfl | rfl <;> trivial)
              (by rcases hstage with rfl | rfl | rfl <;> simp)
            exact .leftEarly hwritten hlog ht hstage hlost hs

/-! ### A commit that fails -/

/-- An errand can look where it stands. -/
theorem stage?_runs (hp : s.pools.get? name = some p) {stage : Option (Stage β)}
    (ht : p.stage? t = stage) : (host usable name t).stage? t s (some stage) s :=
  .inl ⟨.ok p, s, ⟨by rw [Databases.find, hp], rfl⟩, congrArg some ht.symm, rfl⟩

/-- A call can end at once, with any answer that fits. -/
theorem call_runs (hp : s.pools.get? name = some p) {c : Call} {answer : Except Error Answer}
    (hfits : ∀ a, answer = .ok a → c.Fits a) (x x' : β) :
    (host usable name t).call c x s (some (answer, x'))
      ⟨s.pools, s.log ++ [.made c x answer x' (some p)]⟩ :=
  ⟨s.pools, .refl, .inl ⟨answer, x', hfits, rfl, by rw [hp]⟩⟩

/-- It can also end so on the connection of the errand. -/
theorem callOn_runs (hp : s.pools.get? name = some p) (ht : p.stage? t = some (.out k)) {c : Call}
    {answer : Except Error Answer} (hfits : ∀ a, answer = .ok a → c.Fits a) (x : β) :
    (host usable name t).callOn t c s (some answer)
      (change name ⟨s.pools, s.log ++ [.made c k.backend answer x (some p)]⟩
        fun p => p.setBackend t x) :=
  .inl ⟨some (.out k), s, stage?_runs hp ht, .inl ⟨(answer, x), _, call_runs hp hfits k.backend x,
    .inl ⟨(), _, ⟨rfl, rfl⟩, rfl, rfl⟩⟩⟩

/-- A table with nothing but a key, in the sample pool. -/
def logins : Table where
  name := "logins"
  columns := ["day"]
  primaryKey := "day"
  readPool := "main"
  writePool := "main"
  key_mem := List.mem_cons_self

/-- The sample pool while its first errand holds a connection. -/
def samplePool : Pool Unit := ((Pool.new { size := 1 } Sqlite.dialect).ask 0).1.opened 0 () 0

/-- The pool when that connection has come back. -/
def sampleBack : Pool Unit := ((samplePool.startReturn 0 0 true).resetDone 0 () true).1

/-- Such a pool, beside a log. -/
def sampleSite (p : Pool Unit) (log : List (Note Unit)) : Site Unit :=
  ⟨.insert .empty "main" p, log⟩

/-- An insert whose commit fails, on a pool without connections and beside others that rest: its
connection becomes idle. -/
theorem sampleInsert_runs :
    ∃ log, (host (fun _ => true) "main" 0).request 0 .execute (Query.new logins .insert)
      (fun _ => .ok Sqlite.dialect) (Waits (fun _ => true) "main" 0) ⟨Databases.samplePools, []⟩
      (some (.error (.state "locked")))
      (sampleSite sampleBack log) := by
  have hstatement :
      Verb.execute.statement (fun _ => .ok Sqlite.dialect) (Query.new logins .insert) =
        .ok ⟨"INSERT INTO logins DEFAULT VALUES", .empty⟩ := by
    decide +kernel
  have hacquire : ∃ log, (host (fun _ => true) "main" 0).acquire 0 (Waits (fun _ => true) "main" 0)
      ⟨Databases.samplePools, []⟩ (some (.ok ())) (sampleSite samplePool log) :=
    ⟨_, .inl ⟨_, _, ⟨rfl, rfl⟩, .inl ⟨(), _, ⟨rfl, rfl⟩, .inl ⟨.ok (), _,
      ⟨_, .refl, .inl ⟨.ok (), rfl, rfl⟩⟩, .inl ⟨0, _, ⟨0, rfl, rfl⟩, .inl ⟨(), _, ⟨rfl, rfl⟩, rfl,
        rfl⟩⟩⟩⟩⟩⟩
  have hcall : ∀ (log : List (Note Unit)) (c : Call) (answer : Except Error Answer),
      (∀ a, answer = .ok a → c.Fits a) → ∃ log', (host (fun _ => true) "main" 0).callOn 0 c
        (sampleSite samplePool log) (some answer) (sampleSite samplePool log') :=
    fun log c answer hfits =>
      ⟨_, callOn_runs (s := sampleSite samplePool log) (k := ⟨(), 0, false⟩) rfl rfl hfits ()⟩
  have hback : ∀ log : List (Note Unit), ∃ log', (host (fun _ => true) "main" 0).giveBack 0
      (sampleSite samplePool log) (some ()) (sampleSite sampleBack log') := fun log => by
    have hreset : ∀ log : List (Note Unit), ∃ log', (host (fun _ => true) "main" 0).resetReturned 0
        (sampleSite (samplePool.startReturn 0 0 true) log) (some ()) (sampleSite sampleBack log') :=
      fun log => ⟨_, .inl ⟨some (.resetting ⟨(), 0, false⟩), _, stage?_runs rfl rfl,
        .inl ⟨(.ok .done, ()), _, call_runs
          (s := sampleSite (samplePool.startReturn 0 0 true) log) rfl
          (fun a ha => Except.ok.inj ha ▸ trivial) () (), rfl, rfl⟩⟩⟩
    have hclose : ∀ log : List (Note Unit), (host (fun _ => true) "main" 0).closeReturned 0
        (sampleSite sampleBack log) (some ()) (sampleSite sampleBack log) :=
      fun log => .inl ⟨none, _, stage?_runs rfl rfl, rfl, rfl⟩
    obtain ⟨log', hreset⟩ := hreset (log ++ [.clock 0 (some samplePool)])
    exact ⟨log', .inl ⟨some (.out ⟨(), 0, false⟩), _, stage?_runs rfl rfl,
      .inl ⟨true, _, ⟨rfl, rfl⟩, .inl ⟨0, _, ⟨0, rfl, rfl⟩, .inl ⟨(), _, ⟨rfl, rfl⟩,
        .inl ⟨(), _, hreset, hclose log'⟩⟩⟩⟩⟩⟩
  obtain ⟨log₁, hacquire⟩ := hacquire
  obtain ⟨log₂, hexecute⟩ := hcall log₁ (.execute "INSERT INTO logins DEFAULT VALUES" .empty)
    (.ok .done) fun a ha => Except.ok.inj ha ▸ trivial
  obtain ⟨log₃, hcommit⟩ := hcall log₂ .commit (.error (.state "locked")) (by simp)
  obtain ⟨log₄, hback⟩ := hback log₃
  refine ⟨log₄, ?_⟩
  unfold Host.request
  rw [hstatement]
  exact .inl ⟨.ok (), _, hacquire, .inl ⟨.ok .done, _, hexecute, .inl ⟨.error (.state "locked"), _,
    .inl ⟨.error (.state "locked"), _, hcommit, rfl, rfl⟩, .inl ⟨(), _, hback, rfl, rfl⟩⟩⟩⟩

/-- The failure is the result, and the connection is idle. -/
theorem request_conduct_sampleInsert :
    Databases.samplePools.Fresh ∧ Databases.samplePools.Reaches Databases.samplePools ∧
      ∃ s' p, Conducted (fun _ => true) "main" 0 .execute (Query.new logins .insert)
          (fun _ => .ok Sqlite.dialect) ⟨Databases.samplePools, []⟩
          (some (.error (.state "locked"))) s' ∧
        s'.pools.get? "main" = some p ∧ p.stage? 0 = none ∧ p.live = 1 ∧ p.idle = [⟨(), 0⟩] := by
  obtain ⟨log, hruns⟩ := sampleInsert_runs
  have hnew : ∀ p, Databases.samplePools.get? (logins.poolOf Verb.execute.mode) = some p →
      p.stage? 0 = none := fun p hp => Option.some.inj hp ▸ rfl
  have hconduct : Conducted (fun _ => true) (logins.poolOf Verb.execute.mode) 0 .execute
      (Query.new logins .insert) (fun _ => .ok Sqlite.dialect) ⟨Databases.samplePools, []⟩
      (some (.error (.state "locked")))
      (sampleSite sampleBack log) :=
    request_conduct (q := Query.new logins .insert) Databases.samplePools_fresh .refl hnew hruns
  exact ⟨Databases.samplePools_fresh, .refl, _, _, hconduct, rfl, rfl, rfl, rfl⟩

end Site

end TableGateway
