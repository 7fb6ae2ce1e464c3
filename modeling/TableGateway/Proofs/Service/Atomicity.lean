import TableGateway.Proofs.Query.Numbering
import TableGateway.Proofs.Service.Running
import TableGateway.Request

/-!
# Requests that write are atomic

A request that writes gets a connection of its pool, executes its statement, commits, asks for the
number of changed rows, and returns the connection, which is reset or closed. Each of these can
fail, and leaves the next one with whatever it left. Whatever fails, the committed data are in the
end either the old ones, and the request reports an error, or the old ones with the statement
applied once, and it reports none.

## Conventions

Nobody else changes the committed data while the request runs. A link begins its transaction before
the statement, so the committed data change at one trip only, the commit.

## Main results

* `Service.execute_run`, `Service.commit_run`: the two calls that matter.
* `Service.request_atomic`: a request that writes.
-/

namespace TableGateway

namespace Service

variable {δ : Type} {effect : String → Params → δ → δ} {t : Ticket} {s s' : Service δ}

/-! ### Running the statement -/

/-- What an errand holds whose statement has succeeded on the data `data`: a connection with an open
transaction, and in it a copy of the data with the statement applied. -/
structure Prepared (effect : String → Params → δ → δ) (st : Statement) (data : δ) (x : Session δ) :
    Prop where
  connected : x.1.connected = true
  isOpen : x.1.isOpen = true
  executed : x.1.executed = true
  copy : x.2 = some (effect st.sql st.params data)

/-- **Executing.** The statement changes no committed data. If it succeeds on a new connection, it
has been applied once to a copy of them. -/
theorem execute_run (hs : s.Sane) {k : Checkout (Session δ)} (ht : s.pool.stage? t = some (.out k))
    (hfresh : k.backend = .fresh) {st : Statement} (hsql : Sqlite.IsDataStatement st.sql)
    {r : Except Error Answer} (h : (host effect t).callOn t (.execute st.sql st.params) s r s') :
    s'.Sane ∧ s'.data = s.data ∧ ∃ k', s'.pool.stage? t = some (.out k') ∧
      ∀ a, r = .ok a → Prepared effect st s.data k'.backend := by
  obtain ⟨wire, r', l, copy, s₁, hwire, hcall, rfl, hs', hdata, ht'⟩ := callOn_run hs ht h
  rw [hfresh] at hcall
  have hbegin := hwire.serves .begin (y := (none, s)) hs
  have hbegun := (hwire.stays (c := .begin) (y := (none, s)) (by simp) hs ht).1
  have hkept : (wire .begin (none, s)).2.2.data = s.data := hbegin.kept nofun nofun
  have hstatement := hwire.serves (.statement st.sql st.params) hbegun
  have hcopied : (wire .begin (none, s)).1.isAnswered = true →
      (wire .begin (none, s)).2.1 = some s.data := hbegin.begin_answered
  have hold : (wire .begin (none, s)).1.isAnswered = true →
      (wire (.statement st.sql st.params) (wire .begin (none, s)).2).2.2.data = s.data := by
    intro ha
    rw [hcopied ha] at hstatement
    exact (hstatement.statement_kept hsql (by simp)).trans hkept
  refine ⟨hs', ?_, _, ht', fun a ha => ?_⟩
  · rw [hdata]
    rcases Link.execute_reaches rfl hcall with hnone | hone | ⟨ha, htwo⟩
    · exact congrArg (·.2.data) hnone
    · exact (congrArg (·.2.data) hone).trans hkept
    · exact (congrArg (·.2.data) htwo).trans (hold ha)
  · cases r' with
    | error e => cases e <;> exact nomatch ha
    | ok a' =>
        obtain ⟨ha, hsent, hend, hl, hopen, hdone⟩ := Link.execute_ok rfl hcall
        refine ⟨hl, hopen, hdone, (congrArg Prod.fst hend).trans ?_⟩
        rw [hcopied ha, hkept] at hstatement
        exact hstatement.statement_answered hsql hsent

/-- Committing publishes the copy and succeeds, or it publishes nothing and fails. -/
theorem commit_run (hs : s.Sane) {k : Checkout (Session δ)} (ht : s.pool.stage? t = some (.out k))
    {st : Statement} {data : δ} (hdata : s.data = data)
    (hprepared : Prepared effect st data k.backend) {r : Except Error Answer}
    (h : (host effect t).callOn t .commit s r s') :
    s'.Sane ∧ ∃ k', s'.pool.stage? t = some (.out k') ∧
      ((∃ a, r = .ok a) ∧ s'.data = effect st.sql st.params data ∧
          k'.backend.1.executed = true ∧ k'.backend.1.isOpen = false ∨
        (∃ e, r = .error e) ∧ s'.data = data) := by
  obtain ⟨wire, r', l, copy, s₁, hwire, hcall, rfl, hs', hdata', ht'⟩ := callOn_run hs ht h
  have hserves := hwire.serves .commit (y := (k.backend.2, s)) hs
  have hwaits : (wire .commit (k.backend.2, s)).1 ≠ .abandoned := (hwire _ _).1
  rw [Link.on_commit wire _ hprepared.connected hprepared.isOpen] at hcall
  obtain ⟨hr, hlink⟩ := Prod.mk.inj hcall
  obtain ⟨rfl, hend⟩ := Prod.mk.inj hlink
  have hs₁ : (wire .commit (k.backend.2, s)).2.2 = s₁ := congrArg Prod.snd hend
  rw [← hdata, hdata', ← hs₁]
  refine ⟨hs', _, ht', ?_⟩
  cases htrip : (wire .commit (k.backend.2, s)).1 with
  | answered rows n =>
      have ha : (wire .commit (k.backend.2, s)).1.isAnswered = true := by rw [htrip]; rfl
      have hcopy := hprepared.copy.symm.trans (hserves.commit_answered ha).1
      rw [htrip] at hr
      subst hr
      refine .inl ⟨⟨_, rfl⟩, ?_, hprepared.executed, rfl⟩
      rw [hdata]
      exact (Option.some.inj hcopy).symm
  | refused cause | lost =>
      have ha : (wire .commit (k.backend.2, s)).1.isAnswered = false := by rw [htrip]; rfl
      rw [htrip] at hr
      subst hr
      exact .inr ⟨⟨_, rfl⟩, hserves.commit_kept ha hwaits⟩
  | abandoned => exact absurd htrip hwaits

/-- **What follows the statement.** The calls after it publish its copy and succeed, or they publish
nothing and fail. -/
theorem followUp_run (hs : s.Sane) {k : Checkout (Session δ)} (ht : s.pool.stage? t = some (.out k))
    {st : Statement} {data : δ} (hdata : s.data = data)
    (hprepared : Prepared effect st data k.backend) (a : Answer) {r : Except Error Answer}
    (h : converse ((host effect t).callOn t) Verb.execute.followUp a s r s') :
    s'.Sane ∧ (∃ k', s'.pool.stage? t = some (.out k')) ∧
      (∀ a, r = .ok a → s'.data = effect st.sql st.params data) ∧
      (∀ e, r = .error e → s'.data = data) := by
  obtain ⟨r₁, s₁, hcommit, h⟩ := h
  obtain ⟨hs₁, k₁, ht₁, ⟨⟨a₁, rfl⟩, hdata₁, hdone, hended⟩ | ⟨⟨e, rfl⟩, hdata₁⟩⟩ :=
    commit_run hs ht hdata hprepared hcommit
  · obtain ⟨r₂, s₂, haffected, h⟩ := h
    obtain ⟨wire, r', l, copy, s₃, -, hcall, rfl, hs₂, hdata₂, ht₂⟩ := callOn_run hs₁ ht₁ haffected
    rw [Link.on_affected wire _ hdone hended] at hcall
    obtain ⟨rfl, hlink⟩ := Prod.mk.inj hcall
    obtain ⟨-, hend⟩ := Prod.mk.inj hlink
    obtain ⟨rfl, rfl⟩ := h
    have hs₃ : s₁ = s₃ := congrArg Prod.snd hend
    refine ⟨hs₂, ⟨_, ht₂⟩, fun _ _ => ?_, nofun⟩
    rw [hdata₂, ← hs₃, hdata₁]
  · obtain ⟨rfl, rfl⟩ := h
    exact ⟨hs₁, ⟨k₁, ht₁⟩, nofun, fun _ _ => hdata₁⟩

/-- **On a connection.** A request that writes applies its statement once to the committed data and
succeeds, or it leaves them as they were and fails; either way its connection comes back. -/
theorem fulfil_run (hs : s.Sane) {k : Checkout (Session δ)} (ht : s.pool.stage? t = some (.out k))
    (hfresh : k.backend = .fresh) {q : Query} {st : Statement}
    (hsql : Sqlite.IsDataStatement st.sql) {r : Except Error Outcome}
    (h : (host effect t).fulfil t .execute q st s r s') :
    s'.Sane ∧ (∀ o, r = .ok o → s'.data = effect st.sql st.params s.data) ∧
      (∀ e, r = .error e → s'.data = s.data) := by
  obtain ⟨r₁, s₁, hexecute, r₂, s₂, hproceed, h⟩ := h
  obtain ⟨hs₁, hdata₁, k₁, ht₁, hprepared⟩ := execute_run hs ht hfresh hsql hexecute
  have hproceeded : s₂.Sane ∧ (∃ k', s₂.pool.stage? t = some (.out k')) ∧
      (∀ a, r₂ = .ok a → s₂.data = effect st.sql st.params s.data) ∧
      (∀ e, r₂ = .error e → s₂.data = s.data) := by
    cases r₁ with
    | ok a => exact followUp_run hs₁ ht₁ hdata₁ (hprepared a rfl) a hproceed
    | error e =>
        obtain ⟨rfl, rfl⟩ := hproceed
        exact ⟨hs₁, ⟨k₁, ht₁⟩, nofun, fun _ _ => hdata₁⟩
  obtain ⟨hs₂, ⟨k₂, ht₂⟩, hok, herror⟩ := hproceeded
  cases r₂ with
  | ok a =>
      obtain ⟨_, s₃, hback, rfl, rfl⟩ := h
      obtain ⟨hs₃, hdata₃⟩ := giveBack_run hs₂ hback
      exact ⟨hs₃, fun _ _ => hdata₃.trans (hok a rfl), nofun⟩
  | error e =>
      have hold : s₂.data = s.data := herror e rfl
      dsimp only at h
      split_ifs at h with hspoils
      · obtain ⟨_, _, rfl, _, s₃, hback, rfl, rfl⟩ := h
        have hflagged := (hs₂.work (e := .condemn t) trivial trivial s₂.data).1
        obtain ⟨hs₃, hdata₃⟩ := giveBack_run hflagged hback
        exact ⟨hs₃, nofun, fun _ _ => hdata₃.trans hold⟩
      · obtain ⟨_, s₃, hback, rfl, rfl⟩ := h
        obtain ⟨hs₃, hdata₃⟩ := giveBack_run hs₂ hback
        exact ⟨hs₃, nofun, fun _ _ => hdata₃.trans hold⟩

/-! ### Requests -/

/-- A request that is written in the SQLite dialect is a data statement. -/
theorem isDataStatement_of_query {dialects : Query.Dialects} {q : Query} {st : Statement}
    (hdialect : ∀ d, dialects (q.table.poolOf q.mode) = .ok d → d = Sqlite.dialect)
    (h : q.statement dialects = .ok st) : Sqlite.IsDataStatement st.sql := by
  unfold Query.statement at h
  obtain ⟨d, hd, hst⟩ := bind_eq_ok h
  obtain rfl := hdialect d hd
  rw [Query.statementIn_eq] at hst
  obtain ⟨sql, hsql, hpure⟩ := bind_eq_ok hst
  obtain rfl := Except.ok.inj hpure
  rw [Query.text_eq] at hsql
  obtain ⟨c, -, hc⟩ := bind_eq_ok hsql
  exact Sqlite.isDataStatement_of_statement hc

/-- **Atomicity.** Take any state that a new service reaches, and let a new errand run a request
that writes, in the SQLite dialect, while nobody else changes the committed data. If it succeeds,
its statement has been applied to the committed data once; if it fails, they are what they were;
and in the end no idle connection has a transaction open. -/
theorem request_atomic {config : Pool.Config} {data : δ}
    (hreached : Reaches effect (new config data) s) (hnew : s.pool.stage? t = none)
    {dialects : Query.Dialects} {q : Query}
    (hdialect : ∀ d, dialects (q.table.poolOf q.mode) = .ok d → d = Sqlite.dialect)
    {r : Except Error Outcome}
    (h : (host effect t).request t .execute q dialects (Waits effect t) s r s') :
    (∀ o, r = .ok o → ∃ st, q.statement dialects = .ok st ∧
        s'.data = effect st.sql st.params s.data) ∧
      (∀ e, r = .error e → s'.data = s.data) ∧
      ∀ c ∈ s'.pool.idle, c.backend.2 = none := by
  have hs : s.Sane := hreached.sane (.new config data)
  have idle : s'.Sane → ∀ c ∈ s'.pool.idle, c.backend.2 = none := fun hs' c hc =>
    congrArg Prod.snd (hs'.holds.idle c hc)
  unfold Host.request at h
  have hwritten : Verb.execute.statement dialects q = q.statement dialects := rfl
  rw [hwritten] at h
  cases hst : q.statement dialects with
  | error e =>
      rw [hst] at h
      obtain ⟨rfl, rfl⟩ := h
      exact ⟨nofun, fun _ _ => rfl, idle hs⟩
  | ok st =>
      rw [hst] at h
      obtain ⟨r₁, s₁, hacquire, h⟩ := h
      have hacquired := acquire_run hs hnew hacquire
      cases r₁ with
      | error e =>
          obtain ⟨rfl, rfl⟩ := h
          exact ⟨nofun, fun _ _ => hacquired.data, idle hacquired.sane⟩
      | ok a =>
          obtain ⟨k, ht, hfresh⟩ := hacquired.out rfl
          have hsql : Sqlite.IsDataStatement st.sql := isDataStatement_of_query hdialect hst
          obtain ⟨hs', hok, herror⟩ := fulfil_run hacquired.sane ht hfresh hsql h
          refine ⟨fun o ho => ⟨st, rfl, ?_⟩, fun e he => ?_, idle hs'⟩
          · rw [hok o ho, hacquired.data]
          · rw [herror e he, hacquired.data]

/-! ### A request that succeeds -/

/-- An engine that does every command that can be done, at once. -/
def promptWire (effect : String → Params → δ → δ) : Wire (Option δ × Service δ)
  | .begin, (none, s) => (.answered [] 0, some s.data, s)
  | .commit, (some copy, s) => (.answered [] 0, none, { s with data := copy })
  | .rollback, (some _, s) => (.answered [] 0, none, s)
  | .statement sql params, (some copy, s) =>
    (.answered [] 1, some (effect sql params copy), s)
  | .disconnect, (_, s) => (.answered [] 0, none, s)
  | _, (copy, s) => (.refused (.failure 1 "not possible now"), copy, s)

/-- It is an engine with committed data. -/
theorem promptWire_serves (effect : String → Params → δ → δ) (c : Command) (copy : Option δ)
    (s : Service δ) :
    Serves effect c copy s.data (promptWire effect c (copy, s)).1
      (promptWire effect c (copy, s)).2.1 (promptWire effect c (copy, s)).2.2.data := by
  cases c with
  | begin =>
      cases copy with
      | none => exact .begun
      | some d => exact .refused (.inl rfl)
  | commit =>
      cases copy with
      | none => exact .refused (.inl rfl)
      | some d => exact .committed
  | rollback =>
      cases copy with
      | none => exact .refused (.inl rfl)
      | some d => exact .rolledBack
  | statement sql params =>
      cases copy with
      | none => exact .refused (.inl rfl)
      | some d => exact .applied
  | disconnect => exact .ended

/-- It serves any errand. -/
theorem promptWire_serving (effect : String → Params → δ → δ) (t : Ticket) :
    Serving effect t (promptWire effect) := by
  rintro c ⟨copy, s⟩
  refine ⟨?_, s, _, .refl, ?_, promptWire_serves effect c copy s, .refl⟩
  · cases c <;> cases copy <;> simp [promptWire]
  · cases c <;> cases copy <;> rfl

/-- A table whose rows have nothing but a key. -/
def visits : Table where
  name := "visits"
  columns := ["id"]
  primaryKey := "id"
  readPool := defaultPool
  writePool := defaultPool
  key_mem := List.mem_cons_self

/-- One row more, where the data are the number of rows. -/
def oneMore (_ : String) (_ : Params) (n : Nat) : Nat := n + 1

/-- A service that had no connections, while its first errand holds the connection `x`. -/
def sampleService (x : Session Nat) (n : Nat) : Service Nat :=
  ⟨((Pool.new {} Sqlite.dialect).ask 0).1.opened 0 x 0, n⟩

/-- A call on that connection. -/
theorem sampleService_callOn {effect : String → Params → Nat → Nat} {c : Call} {x x' : Session Nat}
    {n n' : Nat} {r : Except Stop Answer}
    (h : (Link.call (promptWire effect) c).on (x.1, (x.2, sampleService x n)) =
      (r, (x'.1, (x'.2, sampleService x n')))) :
    (host effect 0).callOn 0 c (sampleService x n) (Link.told r) (sampleService x' n') :=
  ⟨some (.out ⟨x, 0, false⟩), _, ⟨_, _, ⟨rfl, rfl⟩, rfl, rfl⟩, (Link.told r, x'),
    sampleService x n', ⟨_, promptWire_serving effect 0, r, h, rfl⟩, (), _, rfl, rfl, rfl⟩

/-- An insert into an empty table, on a service without connections and an engine that does
everything at once. -/
theorem sampleInsert_runs :
    ∃ s', (host oneMore 0).request 0 .execute (Query.new visits .insert)
      (fun _ => .ok Sqlite.dialect) (Waits oneMore 0) (new {} 0) (.ok (.changed 1)) s' := by
  let done : Link := ⟨true, .committed, true, [], 1, false⟩
  let ended : Service Nat :=
    ⟨(((sampleService (done, none) 1).pool.startReturn 0 0 true).resetDone 0 .fresh true).1, 1⟩
  have hstatement :
      Verb.execute.statement (fun _ => .ok Sqlite.dialect) (Query.new visits .insert) =
        .ok ⟨"INSERT INTO visits DEFAULT VALUES", .empty⟩ := by
    decide +kernel
  have hacquire : (host oneMore 0).acquire 0 (Waits oneMore 0) (new {} 0) (.ok ())
      (sampleService .fresh 0) :=
    ⟨_, _, ⟨rfl, rfl⟩, (), _, rfl, .ok .fresh, _, ⟨.refl, .inl rfl⟩, 0, _, rfl, (), _, rfl, rfl,
      rfl⟩
  have hexecute : (host oneMore 0).callOn 0
      (.execute "INSERT INTO visits DEFAULT VALUES" .empty) (sampleService .fresh 0) (.ok .done)
      (sampleService (⟨true, .opened, true, [], 1, false⟩, some 1) 0) :=
    sampleService_callOn (r := .ok .done) rfl
  have hcommit : (host oneMore 0).callOn 0 .commit
      (sampleService (⟨true, .opened, true, [], 1, false⟩, some 1) 0) (.ok .done)
      (sampleService (done, none) 1) :=
    sampleService_callOn (r := .ok .done) rfl
  have haffected : (host oneMore 0).callOn 0 .affected (sampleService (done, none) 1)
      (.ok (.count 1)) (sampleService (done, none) 1) :=
    sampleService_callOn (r := .ok (.count 1)) rfl
  have hback : (host oneMore 0).giveBack 0 (sampleService (done, none) 1) () ended := by
    refine ⟨some (.out ⟨(done, none), 0, false⟩), _, ⟨_, _, ⟨rfl, rfl⟩, rfl, rfl⟩, true, _,
      ⟨rfl, rfl⟩, 0, _, rfl, (), _, rfl, (), ended, ?_, ?_⟩
    · exact ⟨some (.resetting ⟨(done, none), 0, false⟩), _, ⟨_, _, ⟨rfl, rfl⟩, rfl, rfl⟩,
        (.ok .done, .fresh), _, ⟨_, promptWire_serving oneMore 0, .ok .done, rfl, rfl⟩, rfl⟩
    · exact ⟨none, _, ⟨_, _, ⟨rfl, rfl⟩, rfl, rfl⟩, rfl, rfl⟩
  refine ⟨ended, ?_⟩
  unfold Host.request
  rw [hstatement]
  exact ⟨_, _, hacquire, _, _, hexecute, _, _, ⟨_, _, hcommit, _, _, haffected, rfl, rfl⟩, (), _,
    hback, rfl, rfl⟩

/-- The row is there once, and the connection is idle without a transaction. -/
theorem request_atomic_sample :
    Reaches oneMore (new {} 0) (new {} 0) ∧ (new {} 0 : Service Nat).pool.stage? 0 = none ∧
      ∃ s', (host oneMore 0).request 0 .execute (Query.new visits .insert)
          (fun _ => .ok Sqlite.dialect) (Waits oneMore 0) (new {} 0) (.ok (.changed 1)) s' ∧
        s'.data = 1 ∧ ∀ c ∈ s'.pool.idle, c.backend.2 = none := by
  obtain ⟨s', hruns⟩ := sampleInsert_runs
  obtain ⟨hok, -, hidle⟩ :=
    request_atomic .refl rfl (fun d hd => (Except.ok.inj hd).symm) hruns
  obtain ⟨st, -, hdata⟩ := hok _ rfl
  exact ⟨.refl, rfl, s', hruns, hdata, hidle⟩

end Service

end TableGateway
