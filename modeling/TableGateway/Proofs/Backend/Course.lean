import TableGateway.Proofs.Backend.Talk

/-!
# The course of a call

What a call on a link does to the engine is a matter of its trips. This module writes the trips of
a call down and shows which there can be: none, one, or a begin that is followed by a statement.
A begin is sent only when the link takes no transaction to be open, and every other command only
when it takes one to be open; and what the link takes to be open afterwards is told by the last
command and whether it was answered.

## Conventions

`Wire.logged` does what a wire does and adds each trip to a log beside the engine, so the same
operations run over it. `cs` are the commands that a call can send. Closing a link is not a course:
it ends the connection.

## Main results

* `Link.call_course`: the course of any call but a close.
* `Link.call_alike`: such a call does the same over the logged wire.
-/

namespace TableGateway

variable {σ : Type}

/-- One trip to the engine, with the engine before and after it. -/
structure Hop (σ : Type) where
  command : Command
  trip : Trip
  before : σ
  after : σ

/-- The trip of a command. -/
def Wire.hop (wire : Wire σ) (c : Command) (s : σ) : Hop σ := ⟨c, (wire c s).1, s, (wire c s).2⟩

/-- The wire that writes its trips down. -/
def Wire.logged (wire : Wire σ) : Wire (σ × List (Hop σ)) := fun c (s, log) =>
  ((wire c s).1, (wire c s).2, log ++ [wire.hop c s])

/-- Whether a command was done. -/
def Trip.isAnswered : Trip → Bool
  | .answered _ _ => true
  | _ => false

/-- Whoever sent a command is told of rows exactly when it was done. -/
theorem Trip.told_cases (trip : Trip) :
    (trip.isAnswered = true ∧ ∃ r, trip.told = .ok r) ∨
      (trip.isAnswered = false ∧ ∃ e, trip.told = .error e) := by
  cases trip with
  | answered rows n => exact .inl ⟨rfl, _, rfl⟩
  | refused | lost | abandoned => exact .inr ⟨rfl, _, rfl⟩

/-- The connection comes back with every answer. -/
theorem Trip.cameBack_of_isAnswered {trip : Trip} (h : trip.isAnswered = true) :
    trip.cameBack = true := by
  cases trip with
  | answered rows n => rfl
  | refused | lost | abandoned => exact absurd h (by simp [isAnswered])

/-- A trip that came back and was not answered was refused. -/
theorem Trip.eq_refused {trip : Trip} (hb : trip.cameBack = true) (ha : trip.isAnswered = false) :
    ∃ cause, trip = .refused cause := by
  cases trip with
  | answered rows n => exact absurd ha (by simp [isAnswered])
  | refused cause => exact ⟨cause, rfl⟩
  | lost | abandoned => exact absurd hb (by simp [cameBack])

/-- What an engine is trusted with about transactions. -/
structure Wire.Transactional (wire : Wire σ) (inTx : σ → Prop) : Prop where
  begins : ∀ s, (wire .begin s).1.isAnswered = true → inTx (wire .begin s).2
  declines : ∀ s cause, (wire .begin s).1 = .refused cause → ¬inTx s → ¬inTx (wire .begin s).2
  commits : ∀ s, (wire .commit s).1.isAnswered = true → ¬inTx (wire .commit s).2
  rollsBack : ∀ s, (wire .rollback s).1.isAnswered = true → ¬inTx (wire .rollback s).2

/-- The part of it that tells when no transaction is open. -/
structure Wire.Finishes (wire : Wire σ) (inTx : σ → Prop) : Prop where
  declines : ∀ s cause, (wire .begin s).1 = .refused cause → ¬inTx s → ¬inTx (wire .begin s).2
  commits : ∀ s, (wire .commit s).1.isAnswered = true → ¬inTx (wire .commit s).2
  rollsBack : ∀ s, (wire .rollback s).1.isAnswered = true → ¬inTx (wire .rollback s).2

/-- An engine that keeps its transactions finishes them. -/
theorem Wire.Transactional.finishes {wire : Wire σ} {inTx : σ → Prop}
    (h : wire.Transactional inTx) : wire.Finishes inTx :=
  ⟨h.declines, h.commits, h.rollsBack⟩

/-- Whether a link takes a transaction to be open after a trip of a command. -/
def Command.leavesOpen : Command → Trip → Bool
  | .begin, trip => trip.isAnswered
  | .commit, trip | .rollback, trip => !trip.isAnswered
  | .statement _ _, _ => true
  | .disconnect, _ => false

/-- Whether a link takes a transaction to be open. -/
def Link.isOpen (l : Link) : Bool := l.transaction = .opened

/-- On its link, a command can be sent, and the trip leads to the link `l'`. -/
structure Link.Sends (wire : Wire σ) (l : Link) (s : σ) (c : Command) (l' : Link) : Prop where
  connected : l.connected = true
  notDisconnect : c ≠ .disconnect
  fits : c = .begin ↔ l.isOpen = false
  back : l'.connected = (wire c s).1.cameBack
  opened : l'.isOpen = c.leavesOpen (wire c s).1

/-- A link that takes a transaction to be open wherever there is one does so after a trip, too. -/
theorem Link.Sends.not_inTx {wire : Wire σ} {inTx : σ → Prop} {l l' : Link} {s : σ} {c : Command}
    (h : l.Sends wire s c l') (hwire : wire.Finishes inTx)
    (hnone : l.isOpen = false → ¬inTx s) (hback : (wire c s).1.cameBack = true)
    (hopen : c.leavesOpen (wire c s).1 = false) : ¬inTx (wire c s).2 := by
  cases c with
  | begin =>
      obtain ⟨cause, htrip⟩ := Trip.eq_refused hback hopen
      exact hwire.declines s cause htrip (hnone (h.fits.mp rfl))
  | commit => exact hwire.commits s (by simpa [Command.leavesOpen] using hopen)
  | rollback => exact hwire.rollsBack s (by simpa [Command.leavesOpen] using hopen)
  | statement sql params => exact absurd hopen (by simp [Command.leavesOpen])
  | disconnect => exact absurd rfl h.notDisconnect

/-- The commands that a call can send. -/
def Call.commands : Call → List Command
  | .begin => [.begin]
  | .commit | .fetchOne | .fetchMany _ | .fetchAll | .affected => [.commit]
  | .rollback | .reset => [.rollback]
  | .execute sql params => [.begin, .statement sql params]
  | .close => [.rollback, .disconnect]

/-- What a call does that can send the commands `cs`: it leads from `l` and `s` to `l'` and `s'`
over some trips. -/
inductive Link.Course (wire : Wire σ) (cs : List Command) (l : Link) (s : σ) :
    Link → σ → List (Hop σ) → Prop where
  /-- No trip. -/
  | quiet {l' : Link} (hc : l'.connected = l.connected) (ho : l'.isOpen = l.isOpen) :
      Course wire cs l s l' s []
  /-- One trip. -/
  | trip {l' : Link} {c : Command} (hi : c ∈ cs) (h : l.Sends wire s c l') :
      Course wire cs l s l' (wire c s).2 [wire.hop c s]
  /-- A begin that was answered, and a statement. -/
  | begun {l₁ l' : Link} {sql : String} {params : Params} (hb : l.Sends wire s .begin l₁)
      (ha : (wire .begin s).1.isAnswered = true) (hi : .statement sql params ∈ cs)
      (h : l₁.Sends wire (wire .begin s).2 (.statement sql params) l') :
      Course wire cs l s l' (wire (.statement sql params) (wire .begin s).2).2
        [wire.hop .begin s, wire.hop (.statement sql params) (wire .begin s).2]

namespace Link

variable {wire : Wire σ} {cs : List Command} {l : Link} {s : σ} {log : List (Hop σ)}

/-- Over the logged wire, `y` is where a course from `l` and `s` ends. -/
def Ends (wire : Wire σ) (cs : List Command) (l : Link) (s : σ) (log : List (Hop σ))
    (y : Link × (σ × List (Hop σ))) : Prop :=
  ∃ hops, y.2.2 = log ++ hops ∧ Course wire cs l s y.1 y.2.1 hops

/-- A call without a trip. -/
theorem Ends.quiet {l' : Link} (hc : l'.connected = l.connected) (ho : l'.isOpen = l.isOpen) :
    Ends wire cs l s log (l', (s, log)) :=
  ⟨[], (List.append_nil log).symm, .quiet hc ho⟩

/-- A call of one trip. -/
theorem Ends.trip {l' : Link} {c : Command} (hi : c ∈ cs) (h : l.Sends wire s c l') :
    Ends wire cs l s log (l', wire.logged c (s, log) |>.2) :=
  ⟨[wire.hop c s], rfl, .trip hi h⟩

/-- What a call changes on the link besides does not matter. -/
theorem Ends.touch {y : Link × (σ × List (Hop σ))} (h : Ends wire cs l s log y) (f : Link → Link)
    (hc : (f y.1).connected = y.1.connected) (ho : (f y.1).isOpen = y.1.isOpen) :
    Ends wire cs l s log (f y.1, y.2) := by
  obtain ⟨l', s', log'⟩ := y
  obtain ⟨hops, hlog, hcourse⟩ := h
  refine ⟨hops, hlog, ?_⟩
  cases hcourse with
  | quiet hc' ho' => exact .quiet (hc.trans hc') (ho.trans ho')
  | trip hi hs =>
      exact .trip hi { hs with back := hc.trans hs.back, opened := ho.trans hs.opened }
  | begun hb ha hi hs =>
      exact .begun hb ha hi { hs with back := hc.trans hs.back, opened := ho.trans hs.opened }

/-- A command that is not answered leaves open what was open. -/
theorem leavesOpen_of_not_answered {c : Command} {trip : Trip} (hn : c ≠ .disconnect)
    (hfits : c = .begin ↔ l.isOpen = false) (ha : trip.isAnswered = false) :
    l.isOpen = c.leavesOpen trip := by
  cases c with
  | begin => rw [hfits.mp rfl, Command.leavesOpen, ha]
  | commit | rollback =>
      rw [Command.leavesOpen, ha]
      cases ho : l.isOpen with
      | true => rfl
      | false => exact absurd (hfits.mpr ho) (by simp)
  | statement sql params =>
      rw [Command.leavesOpen]
      cases ho : l.isOpen with
      | true => rfl
      | false => exact absurd (hfits.mpr ho) (by simp)
  | disconnect => exact absurd rfl hn

/-- A command over the logged wire, and a change of the link if it is answered. -/
theorem on_send_update (wire : Wire σ) (c : Command) (f : Link → Link) (s : σ)
    (log : List (Hop σ)) (hl : l.connected = true) :
    ∃ r : Except Stop Unit, (r = .ok () → (wire c s).1.isAnswered = true) ∧
      (send wire.logged c >>= fun _ => update f).on (l, (s, log)) =
        (r, (if (wire c s).1.isAnswered then f (l.afterTrip (wire c s).1)
          else l.afterTrip (wire c s).1, (wire.logged c (s, log)).2)) := by
  have hlogged : (wire.logged c (s, log)).1 = (wire c s).1 := rfl
  rw [Talk.on_bind, on_send, hl, if_pos rfl, hlogged]
  rcases (wire c s).1.told_cases with ⟨ha, r, htold⟩ | ⟨ha, e, htold⟩
  · rw [htold, ha, if_pos rfl]
    exact ⟨.ok (), fun _ => rfl, rfl⟩
  · rw [htold, ha, if_neg Bool.false_ne_true]
    exact ⟨.error e, by simp, rfl⟩

/-- Over such a command, the link ends where a trip leads to, if the change is the one that the
command is sent for. -/
theorem send_ends {c : Command} {f : Link → Link} (hi : c ∈ cs) (hn : c ≠ .disconnect)
    (hfits : c = .begin ↔ l.isOpen = false) (hc : ∀ k, (f k).connected = k.connected)
    (ho : ∀ k trip, trip.isAnswered = true → (f k).isOpen = c.leavesOpen trip) :
    Ends wire cs l s log ((send wire.logged c >>= fun _ => update f).on (l, (s, log))).2 := by
  cases hl : l.connected with
  | false =>
      rw [Talk.on_bind, on_send, hl]
      exact .quiet rfl rfl
  | true =>
      obtain ⟨r, -, heq⟩ := on_send_update wire c f s log hl
      rw [heq]
      cases ha : (wire c s).1.isAnswered with
      | true => exact .trip hi ⟨hl, hn, hfits, hc _, ho _ _ ha⟩
      | false => exact .trip hi ⟨hl, hn, hfits, rfl, leavesOpen_of_not_answered hn hfits ha⟩

/-- A begin is sent unless a transaction is taken to be open. -/
theorem begin_eq (wire : Wire σ) (l : Link) (s : σ) :
    (begin wire).on (l, s) =
      if l.transaction = .opened then
        (.error (.failed (.state "a transaction is already open")), (l, s))
      else (send wire .begin >>= fun _ => update (cleared .opened)).on (l, s) := by
  unfold begin
  rw [Talk.on_bind, Talk.on_look]
  dsimp only
  rw [Talk.on_ite, Talk.on_bind, Talk.on_refuse]

/-- Beginning. -/
theorem begin_ends (wire : Wire σ) (hi : .begin ∈ cs) (l : Link) (s : σ) (log : List (Hop σ)) :
    Ends wire cs l s log ((begin wire.logged).on (l, (s, log))).2 := by
  rw [begin_eq]
  by_cases ho : l.transaction = .opened
  · rw [if_pos ho]
    exact .quiet rfl rfl
  · rw [if_neg ho]
    exact send_ends hi (by simp) (by simp [isOpen, ho]) (fun _ => rfl) fun _ _ ha => ha.symm

/-- Beginning, where it succeeds: the begin was sent and answered. -/
theorem begin_ok {z : Link × (σ × List (Hop σ))}
    (h : (begin wire.logged).on (l, (s, log)) = (.ok (), z)) :
    ∃ l', z = (l', wire.logged .begin (s, log) |>.2) ∧ l.Sends wire s .begin l' ∧
      (wire .begin s).1.isAnswered = true ∧ l'.connected = true ∧ l'.isOpen = true := by
  rw [begin_eq] at h
  by_cases ho : l.transaction = .opened
  · rw [if_pos ho] at h
    exact absurd (congrArg Prod.fst h) (by simp)
  · rw [if_neg ho] at h
    cases hl : l.connected with
    | false =>
        rw [Talk.on_bind, on_send, hl] at h
        exact absurd (congrArg Prod.fst h) (by simp)
    | true =>
        obtain ⟨r, hr, heq⟩ := on_send_update wire .begin (cleared .opened) s log hl
        rw [heq] at h
        obtain ⟨hok, rfl⟩ := Prod.mk.inj h
        have ha : (wire .begin s).1.isAnswered = true := hr hok
        rw [if_pos ha]
        have hfits : Command.begin = .begin ↔ l.isOpen = false := by simp [isOpen, ho]
        exact ⟨_, rfl, ⟨hl, by simp, hfits, rfl, ha.symm⟩, ha, Trip.cameBack_of_isAnswered ha, rfl⟩

/-- Committing. -/
theorem commit_ends (wire : Wire σ) (hi : .commit ∈ cs) (l : Link) (s : σ) (log : List (Hop σ)) :
    Ends wire cs l s log ((commit wire.logged).on (l, (s, log))).2 := by
  unfold commit
  rw [Talk.on_bind, Talk.on_look]
  dsimp only
  by_cases ho : l.transaction = .opened
  · rw [if_neg (not_not_intro ho)]
    exact send_ends hi (by simp) (by simp [isOpen, ho]) (fun _ => rfl) fun _ _ ha => by
      simp [isOpen, Command.leavesOpen, ha]
  · rw [if_pos ho, Talk.on_bind, Talk.on_refuse]
    exact .quiet rfl rfl

/-- Rolling back. -/
theorem rollback_ends (wire : Wire σ) (hi : .rollback ∈ cs) (l : Link) (s : σ)
    (log : List (Hop σ)) :
    Ends wire cs l s log ((rollback wire.logged).on (l, (s, log))).2 := by
  unfold rollback
  rw [Talk.on_bind, Talk.on_look]
  dsimp only
  by_cases ho : l.transaction = .opened
  · rw [if_pos ho]
    exact send_ends hi (by simp) (by simp [isOpen, ho]) (fun _ => rfl) fun _ _ ha => by
      simp [isOpen, cleared, Command.leavesOpen, ha]
  · rw [if_neg ho, Talk.on_update]
    exact .quiet rfl (by simp [isOpen, cleared, ho])

/-- What follows a call without sending anything more. -/
theorem Ends.bind {α β : Type} {x : Talk (σ × List (Hop σ)) α} {y : Link × (σ × List (Hop σ))}
    (h : Ends wire cs l s log (x.on y).2) (g : α → Talk (σ × List (Hop σ)) β)
    (hg : ∀ a z, ∃ f : Link → Link, ((g a).on z).2 = (f z.1, z.2) ∧
      ∀ k, (f k).connected = k.connected ∧ (f k).isOpen = k.isOpen) :
    Ends wire cs l s log ((x >>= g).on y).2 := by
  rw [Talk.on_bind]
  rcases hx : x.on y with ⟨r, z⟩
  rw [hx] at h
  cases r with
  | error e => exact h
  | ok a =>
      obtain ⟨f, hf, hsame⟩ := hg a z
      change Ends wire cs l s log ((g a).on z).2
      rw [hf]
      exact h.touch f (hsame z.1).1 (hsame z.1).2

/-- A call that answers what an operation brought. -/
theorem Ends.answer {α β : Type} {x : Talk (σ × List (Hop σ)) α}
    {y : Link × (σ × List (Hop σ))} (h : Ends wire cs l s log (x.on y).2) (f : α → β) :
    Ends wire cs l s log ((x >>= fun a => pure (f a)).on y).2 :=
  h.bind _ fun _ _ => ⟨id, rfl, fun _ => ⟨rfl, rfl⟩⟩

/-- Committing before a result is read. -/
theorem settle_ends (wire : Wire σ) (hi : .commit ∈ cs) (l : Link) (s : σ) (log : List (Hop σ)) :
    Ends wire cs l s log ((settle wire.logged).on (l, (s, log))).2 := by
  unfold settle
  rw [Talk.on_bind, Talk.on_look]
  dsimp only
  rw [Talk.on_ite, Talk.on_bind, Talk.on_refuse]
  split
  · exact .quiet rfl rfl
  · rw [Talk.on_bind, Talk.on_look]
    dsimp only
    rw [Talk.on_ite]
    split
    · exact commit_ends wire hi l s log
    · exact .quiet rfl rfl

/-- Reading rows. -/
theorem fetchMany_ends (wire : Wire σ) (n : Nat) (hi : .commit ∈ cs) (l : Link) (s : σ)
    (log : List (Hop σ)) :
    Ends wire cs l s log ((fetchMany wire.logged n).on (l, (s, log))).2 :=
  (settle_ends wire hi l s log).bind _ fun _ z =>
    ⟨fun k => { k with rows := z.1.rows.drop n }, rfl, fun _ => ⟨rfl, rfl⟩⟩

/-- Reading all rows. -/
theorem fetchAll_ends (wire : Wire σ) (hi : .commit ∈ cs) (l : Link) (s : σ)
    (log : List (Hop σ)) :
    Ends wire cs l s log ((fetchAll wire.logged).on (l, (s, log))).2 :=
  (settle_ends wire hi l s log).bind _ fun _ _ =>
    ⟨fun k => { k with rows := [] }, rfl, fun _ => ⟨rfl, rfl⟩⟩

/-- Asking how many rows were changed. -/
theorem changedRows_ends (wire : Wire σ) (hi : .commit ∈ cs) (l : Link) (s : σ)
    (log : List (Hop σ)) :
    Ends wire cs l s log ((changedRows wire.logged).on (l, (s, log))).2 :=
  (settle_ends wire hi l s log).bind _ fun _ _ => ⟨id, rfl, fun _ => ⟨rfl, rfl⟩⟩

/-- Sending a statement and keeping what it brought. -/
def sendStatement (wire : Wire σ) (sql : String) (params : Params) : Talk σ Unit := do
  let (rows, affected) ← tryCatch (send wire (.statement sql params)) fun
    | .failed e => do
      update fun l => { l with rows := [], executed := false }
      throw (.failed e)
    | .abandoned => throw .abandoned
  update fun l => { l with rows := rows, affected := affected, executed := true }

/-- A statement is sent in an open transaction, or in one of its own. -/
theorem execute_eq (wire : Wire σ) (sql : String) (params : Params) (l : Link) (s : σ) :
    (execute wire sql params).on (l, s) =
      if l.transaction = .opened then (sendStatement wire sql params).on (l, s)
      else (begin wire >>= fun _ => sendStatement wire sql params).on (l, s) := by
  unfold execute
  rw [Talk.on_bind, Talk.on_look]
  dsimp only
  rw [Talk.on_ite]
  by_cases ho : l.transaction = .opened
  · rw [if_neg (not_not_intro ho), if_pos ho]
    rfl
  · rw [if_pos ho, if_neg ho]
    rfl

/-- A statement that is sent in an open transaction leaves the link taking it to be open. -/
theorem sendStatement_sends (wire : Wire σ) (sql : String) (params : Params) (s : σ)
    (log : List (Hop σ)) (hl : l.connected = true) (ho : l.isOpen = true) :
    ∃ l', ((sendStatement wire.logged sql params).on (l, (s, log))).2 =
        (l', wire.logged (.statement sql params) (s, log) |>.2) ∧
      l.Sends wire s (.statement sql params) l' := by
  have hsends : ∀ l', l'.connected = (wire (.statement sql params) s).1.cameBack →
      l'.isOpen = l.isOpen → l.Sends wire s (.statement sql params) l' := fun l' hc ho' =>
    ⟨hl, by simp, by simp [ho], hc, by rw [ho', ho]; rfl⟩
  have hlogged : (wire.logged (.statement sql params) (s, log)).1 =
    (wire (.statement sql params) s).1 := rfl
  unfold sendStatement
  rw [Talk.on_bind, Talk.on_tryCatch, on_send, hl, if_pos rfl, hlogged]
  cases htold : (wire (.statement sql params) s).1.told with
  | ok r => exact ⟨_, rfl, hsends _ rfl rfl⟩
  | error e =>
      cases e with
      | failed e => exact ⟨_, rfl, hsends _ rfl rfl⟩
      | abandoned => exact ⟨_, rfl, hsends _ rfl rfl⟩

/-- Running a statement. -/
theorem execute_ends (wire : Wire σ) (sql : String) (params : Params) (l : Link) (s : σ)
    (log : List (Hop σ)) :
    Ends wire (Call.commands (.execute sql params)) l s log
      ((execute wire.logged sql params).on (l, (s, log))).2 := by
  have hb : .begin ∈ Call.commands (.execute sql params) := List.mem_cons_self
  have hi : .statement sql params ∈ Call.commands (.execute sql params) := by simp [Call.commands]
  rw [execute_eq]
  by_cases ho : l.transaction = .opened
  · rw [if_pos ho]
    cases hl : l.connected with
    | true =>
        obtain ⟨l', heq, hsends⟩ :=
          sendStatement_sends wire sql params s log hl (decide_eq_true ho)
        rw [heq]
        exact .trip hi hsends
    | false =>
        unfold sendStatement
        rw [Talk.on_bind, Talk.on_tryCatch, on_send, hl]
        exact .quiet rfl rfl
  · have hends := begin_ends wire hb l s log
    rw [if_neg ho, Talk.on_bind]
    rcases hbegin : (begin wire.logged).on (l, (s, log)) with ⟨_ | _, z⟩
    · rw [hbegin] at hends
      exact hends
    · obtain ⟨l₁, rfl, hsends, ha, hl₁, ho₁⟩ := begin_ok hbegin
      obtain ⟨l', heq, hstatement⟩ := sendStatement_sends wire sql params (wire .begin s).2
        (log ++ [wire.hop .begin s]) hl₁ ho₁
      change Ends wire _ l s log ((sendStatement wire.logged sql params).on
        (l₁, (wire .begin s).2, log ++ [wire.hop .begin s])).2
      rw [heq]
      exact ⟨[wire.hop .begin s, wire.hop (.statement sql params) (wire .begin s).2],
        List.append_assoc .., .begun hsends ha hi hstatement⟩

/-- **The course of a call.** Every call but a close has a course. -/
theorem call_course (wire : Wire σ) (c : Call) (hc : c ≠ .close) (l : Link) (s : σ)
    (log : List (Hop σ)) :
    Ends wire c.commands l s log ((call wire.logged c).on (l, (s, log))).2 := by
  cases c with
  | begin => exact (begin_ends wire List.mem_cons_self l s log).answer fun _ => Answer.done
  | commit => exact (commit_ends wire List.mem_cons_self l s log).answer fun _ => Answer.done
  | rollback | reset =>
      exact (rollback_ends wire List.mem_cons_self l s log).answer fun _ => Answer.done
  | close => exact absurd rfl hc
  | execute sql params => exact (execute_ends wire sql params l s log).answer fun _ => Answer.done
  | fetchOne =>
      exact ((fetchMany_ends wire 1 List.mem_cons_self l s log).answer List.head?).answer Answer.row
  | fetchMany n => exact (fetchMany_ends wire n List.mem_cons_self l s log).answer Answer.rows
  | fetchAll => exact (fetchAll_ends wire List.mem_cons_self l s log).answer Answer.rows
  | affected => exact (changedRows_ends wire List.mem_cons_self l s log).answer Answer.count

/-! ### Logging changes nothing -/

/-- An operation over the logged wire does what another one does, and besides only writes down. -/
def Alike {α : Type} (x : Talk (σ × List (Hop σ)) α) (x' : Talk σ α) : Prop :=
  ∀ l s log, ∃ log', x.on (l, (s, log)) =
    ((x'.on (l, s)).1, (x'.on (l, s)).2.1, ((x'.on (l, s)).2.2, log'))

namespace Alike

variable {α β : Type} {x : Talk (σ × List (Hop σ)) α} {x' : Talk σ α}

/-- An operation that does not look at the engine. -/
theorem refl_pure (a : α) : Alike (pure a : Talk (σ × List (Hop σ)) α) (pure a) :=
  fun _ _ log => ⟨log, rfl⟩

/-- One operation after another. -/
theorem bind (h : Alike x x') {f : α → Talk (σ × List (Hop σ)) β} {f' : α → Talk σ β}
    (hf : ∀ a, Alike (f a) (f' a)) : Alike (x >>= f) (x' >>= f') := by
  intro l s log
  obtain ⟨log', heq⟩ := h l s log
  rw [Talk.on_bind, Talk.on_bind, heq]
  rcases x'.on (l, s) with ⟨_ | a, l', s'⟩
  · exact ⟨log', rfl⟩
  · exact hf a l' s' log'

/-- What is done where an operation stops. -/
theorem tryCatch (h : Alike x x') {f : Stop → Talk (σ × List (Hop σ)) α} {f' : Stop → Talk σ α}
    (hf : ∀ e, Alike (f e) (f' e)) :
    Alike (MonadExcept.tryCatch x f) (MonadExcept.tryCatch x' f') := by
  intro l s log
  obtain ⟨log', heq⟩ := h l s log
  rw [Talk.on_tryCatch, Talk.on_tryCatch, heq]
  rcases x'.on (l, s) with ⟨e | a, l', s'⟩
  · exact hf e l' s' log'
  · exact ⟨log', rfl⟩

/-- One of two operations. -/
theorem ite {c : Prop} [Decidable c] {y : Talk (σ × List (Hop σ)) α} {y' : Talk σ α}
    (h : Alike x x') (h' : Alike y y') :
    Alike (if c then x else y) (if c then x' else y') := by
  split
  · exact h
  · exact h'

/-- Looking at the link. -/
theorem look : Alike (Link.look : Talk (σ × List (Hop σ)) Link) Link.look :=
  fun _ _ log => ⟨log, rfl⟩

/-- Changing the link. -/
theorem update (f : Link → Link) : Alike (Link.update f : Talk (σ × List (Hop σ)) Unit)
    (Link.update f) :=
  fun _ _ log => ⟨log, rfl⟩

/-- Stopping. -/
theorem stop (e : Stop) : Alike (throw e : Talk (σ × List (Hop σ)) α) (throw e) :=
  fun _ _ log => ⟨log, rfl⟩

/-- Sending a command. -/
theorem send (wire : Wire σ) (c : Command) :
    Alike (Link.send wire.logged c) (Link.send wire c) := by
  intro l s log
  rw [on_send, on_send]
  split
  · exact ⟨log ++ [wire.hop c s], rfl⟩
  · exact ⟨log, rfl⟩

end Alike

/-- Beginning. -/
theorem begin_alike (wire : Wire σ) : Alike (begin wire.logged) (begin wire) :=
  .bind .look fun _ => .ite (.bind (.stop _) fun _ => .bind (.send wire _) fun _ => .update _)
    (.bind (.send wire _) fun _ => .update _)

/-- Committing. -/
theorem commit_alike (wire : Wire σ) : Alike (commit wire.logged) (commit wire) :=
  .bind .look fun _ => .ite (.bind (.stop _) fun _ => .bind (.send wire _) fun _ => .update _)
    (.bind (.send wire _) fun _ => .update _)

/-- Rolling back. -/
theorem rollback_alike (wire : Wire σ) : Alike (rollback wire.logged) (rollback wire) :=
  .bind .look fun _ => .ite (.bind (.send wire _) fun _ => .update _) (.update _)

/-- Committing before a result is read. -/
theorem settle_alike (wire : Wire σ) : Alike (settle wire.logged) (settle wire) :=
  have rest : Alike (do if (← look).transaction = .opened then commit wire.logged)
      (do if (← look).transaction = .opened then commit wire) :=
    .bind .look fun _ => .ite (commit_alike wire) (.refl_pure _)
  .bind .look fun _ => .ite (.bind (.stop _) fun _ => rest) rest

/-- Reading rows. -/
theorem fetchMany_alike (wire : Wire σ) (n : Nat) :
    Alike (fetchMany wire.logged n) (fetchMany wire n) :=
  .bind (settle_alike wire) fun _ => .bind .look fun _ => .bind (.update _) fun _ => .refl_pure _

/-- Reading all rows. -/
theorem fetchAll_alike (wire : Wire σ) : Alike (fetchAll wire.logged) (fetchAll wire) :=
  .bind (settle_alike wire) fun _ => .bind .look fun _ => .bind (.update _) fun _ => .refl_pure _

/-- Asking how many rows were changed. -/
theorem changedRows_alike (wire : Wire σ) : Alike (changedRows wire.logged) (changedRows wire) :=
  .bind (settle_alike wire) fun _ => .bind .look fun _ => .refl_pure _

/-- Sending a statement. -/
theorem sendStatement_alike (wire : Wire σ) (sql : String) (params : Params) :
    Alike (sendStatement wire.logged sql params) (sendStatement wire sql params) := by
  refine .bind (.tryCatch (.send wire _) fun e => ?_) fun _ => .update _
  cases e with
  | failed e => exact .bind (.update _) fun _ => .stop _
  | abandoned => exact .stop _

/-- Running a statement. -/
theorem execute_alike (wire : Wire σ) (sql : String) (params : Params) :
    Alike (execute wire.logged sql params) (execute wire sql params) :=
  .bind .look fun _ =>
    .ite (.bind (begin_alike wire) fun _ => sendStatement_alike wire sql params)
      (sendStatement_alike wire sql params)

/-- **Logging changes nothing.** Every call but a close answers and leaves over the logged wire
what it answers and leaves over the plain one. -/
theorem call_alike (wire : Wire σ) (c : Call) (hc : c ≠ .close) :
    Alike (call wire.logged c) (call wire c) := by
  cases c with
  | begin => exact .bind (begin_alike wire) fun _ => .refl_pure _
  | commit => exact .bind (commit_alike wire) fun _ => .refl_pure _
  | rollback | reset => exact .bind (rollback_alike wire) fun _ => .refl_pure _
  | close => exact absurd rfl hc
  | execute sql params => exact .bind (execute_alike wire sql params) fun _ => .refl_pure _
  | fetchOne =>
      exact .bind (.bind (fetchMany_alike wire 1) fun _ => .refl_pure _) fun _ => .refl_pure _
  | fetchMany n => exact .bind (fetchMany_alike wire n) fun _ => .refl_pure _
  | fetchAll => exact .bind (fetchAll_alike wire) fun _ => .refl_pure _
  | affected => exact .bind (changedRows_alike wire) fun _ => .refl_pure _

end Link

end TableGateway
