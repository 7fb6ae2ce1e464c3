import TableGateway.Dialect.Tagged
import TableGateway.Proofs.Query.Numbering
import TableGateway.Proofs.Request.Conduct

/-!
# The dialect of a statement and the pool it runs on

A request is written in the dialect of one pool and runs on a connection of one pool. The first is
chosen by the action of the request and the second by what is wanted of it, and they are the same
unless a select is executed as a write.

## Conventions

A statement is written in a dialect if it is what comes out when all pools speak that dialect. No
pool ever changes its dialect, so it is the one that the pool was made with.

## Main results

* `Pool.work_dialect`, `Databases.Reaches.dialect`: pools keep their dialects.
* `Verb.written`: a statement is written in the dialect of one pool, nested selects included.
* `Site.request_dialect`: any request, on any pools that new ones become.
-/

namespace TableGateway

variable {β : Type}

/-! ### Pools keep their dialects -/

namespace Pool

/-- A permit that comes back does not change how the pool speaks. -/
theorem putPermit_dialect (q : Pool β) : q.putPermit.1.dialect = q.dialect := by
  unfold Pool.putPermit
  split <;> rfl

/-- An errand with a permit in hand is one of the same pool. -/
theorem InHand.dialect {p q : Pool β} {t : Ticket} {news : List (Event β)}
    (h : p.InHand t q news) : q.dialect = p.dialect := by
  cases h <;> rfl

/-- What a piece of work can make of a pool speaks as the pool does. -/
theorem Effect.dialect {ι : Type} {name : β → ι} {p p' : Pool β} {t : Ticket}
    {news : List (Event β)} (h : Effect name p t p' news) : p'.dialect = p.dialect := by
  cases h with
  | reuses _ hand => exact hand.dialect
  | opens _ hand => exact hand.dialect
  | parks | leaves => exact putPermit_dialect _
  | nothing | queues | moves | withdraws | refused | shuts | shutsIdle | drains | drained => rfl

/-- **A piece of work.** -/
theorem work_dialect {p : Pool β} {e : Piece β} (he : p.Possible e) :
    (p.work e).dialect = p.dialect :=
  (work_effect he (keepsNames_unnamed p e)).dialect

end Pool

namespace Databases

/-- The dialect of a pool that is there. -/
theorem dialect_of_get? {databases : Databases β} {name : String} {p : Pool β}
    (hp : databases.get? name = some p) : databases.dialect name = .ok p.dialect := by
  rw [dialect, find, hp]
  rfl

/-- Only what the pools speak matters for the dialects. -/
theorem dialect_congr {databases databases' : Databases β} {name : String}
    (h : (databases'.get? name).map Pool.dialect = (databases.get? name).map Pool.dialect) :
    databases'.dialect name = databases.dialect name := by
  unfold dialect find
  cases hget : databases.get? name with
  | none =>
      rw [hget, Option.map_none, Option.map_eq_none_iff] at h
      rw [h]
  | some p =>
      rw [hget] at h
      obtain ⟨p', hp', heq⟩ := Option.map_eq_some_iff.mp h
      rw [hp']
      exact congrArg Except.ok heq

/-- One move. -/
theorem move_dialect {databases : Databases β} {m : Move β} (hm : databases.Possible m)
    (name : String) : (databases.move m).dialect name = databases.dialect name := by
  refine dialect_congr ?_
  cases m with
  | work pool e =>
      rw [move, Registry.get?_modify]
      split_ifs with hname
      · subst hname
        cases hp : databases.get? name with
        | none => rfl
        | some p => exact congrArg some (Pool.work_dialect (hm p hp))
      · rfl
  | releaseForeign own u target =>
      rw [move, Registry.get?_modify]
      split_ifs with hname
      · subst hname
        cases databases.get? name with
        | none => rfl
        | some p =>
            exact congrArg some (Pool.work_dialect (e := .drop u) trivial)
      · rfl

/-- **Any moves.** By induction over them. -/
theorem Reaches.dialect {start databases : Databases β} (h : start.Reaches databases)
    (name : String) : databases.dialect name = start.dialect name := by
  induction h with
  | refl => rfl
  | move h m hm ih => exact (move_dialect hm name).trans ih

end Databases

/-! ### How requests are written -/

namespace Verb

variable {verb : Verb} {q : Query} {dialects : Query.Dialects} {st : Statement}

/-- Rows can only be wanted of a select, which reads. -/
theorem mode_of_written (h : verb.statement dialects q = .ok st) (hverb : verb ≠ .execute) :
    q.action = .select := by
  by_contra hnot
  have hrefused : ∀ f : Unit → Except Error Statement,
      (q.expectRows >>= f) ≠ .ok st := fun f => by
    rw [Query.expectRows, if_neg hnot]
    exact fun h => absurd h (by simp [bind, Except.bind])
  cases verb with
  | execute => exact hverb rfl
  | all | one | count => exact hrefused _ h

/-- What is written of a select. -/
theorem statement_of_select (hselect : q.action = .select) :
    verb.statement dialects q =
      if verb = .count then q.countStatement dialects else q.statement dialects := by
  have hrows : q.expectRows = .ok () := if_pos hselect
  cases verb <;> unfold statement <;> first | rfl | (rw [hrows]; rfl)

/-- **One dialect.** A statement is written in the dialect of the pool that the action of the
request goes to, whatever the pools of the tables of nested selects speak. -/
theorem written (h : verb.statement dialects q = .ok st) :
    ∃ d, dialects (q.table.poolOf q.mode) = .ok d ∧ verb.statement (fun _ => .ok d) q = .ok st := by
  by_cases hverb : verb = .execute
  · subst hverb
    obtain ⟨d, hd, h⟩ := bind_eq_ok h
    exact ⟨d, hd, h⟩
  · have hselect := mode_of_written h hverb
    have hmode : q.mode = .read := if_pos hselect
    rw [statement_of_select hselect] at h
    by_cases hcount : verb = .count
    · rw [if_pos hcount] at h
      obtain ⟨d, hd, h⟩ := bind_eq_ok h
      refine ⟨d, hmode ▸ hd, ?_⟩
      rw [statement_of_select hselect, if_pos hcount]
      exact h
    · rw [if_neg hcount] at h
      obtain ⟨d, hd, h⟩ := bind_eq_ok h
      refine ⟨d, hd, ?_⟩
      rw [statement_of_select hselect, if_neg hcount]
      exact h

/-- The pool whose dialect a request is written in and the pool that it runs on have one name unless
a select is executed as a write. -/
theorem poolOf_mode (h : verb.statement dialects q = .ok st)
    (hnot : ¬(verb = .execute ∧ q.action = .select)) :
    q.table.poolOf q.mode = q.table.poolOf verb.mode := by
  by_cases hverb : verb = .execute
  · have hselect : q.action ≠ .select := fun hselect => hnot ⟨hverb, hselect⟩
    rw [Query.mode, if_neg hselect, hverb]
    rfl
  · rw [Query.mode, if_pos (mode_of_written h hverb)]
    cases verb with
    | execute => exact absurd rfl hverb
    | all | one | count => rfl

end Verb

namespace Row

/-- Saving or deleting a row is no select. -/
theorem action_ne_select {row : Row} {q : Query}
    (h : row.saveRequest = .ok q ∨ row.deleteRequest = .ok q) : q.action ≠ .select := by
  rcases h with h | h
  · obtain ⟨key, -, h⟩ := bind_eq_ok h
    rw [← Except.ok.inj h]
    simp [keyed, Query.new, Query.apply]
  · obtain ⟨key, -, h⟩ := bind_eq_ok h
    rw [← Except.ok.inj h]
    simp [keyed, Query.new, Query.apply]

end Row

/-! ### What is executed -/

/-- The call that a note is about, ended or given up. -/
def Note.call? : Note β → Option Call
  | .made c _ _ _ _ | .left c _ => some c
  | .connect _ | .clock _ _ => none

namespace Site

variable {usable : β → Bool} {name : String} {t : Ticket} {s s' : Site β} {k k' : Checkout β}
  {calls : List Call} {prior : Answer} {notes : List (Note β)}

/-- Calls that are made are among those that are to be made. By induction over the calls. -/
theorem Carried.mem {r : Except Error Answer} (h : Carried t calls prior k notes r k') :
    ∀ note ∈ notes, ∀ c, note.call? = some c → c ∈ calls := by
  induction h with
  | done => exact fun _ hmem => absurd hmem List.not_mem_nil
  | failed hheld =>
      intro note hmem c hc
      obtain rfl := List.mem_singleton.mp hmem
      exact Option.some.inj hc ▸ List.mem_cons_self
  | next hheld hfits h ih =>
      intro note hmem c hc
      rcases List.mem_cons.mp hmem with rfl | hmem
      · exact Option.some.inj hc ▸ List.mem_cons_self
      · exact List.mem_cons_of_mem _ (ih note hmem c hc)

/-- So are calls of which one is given up. -/
theorem LeftOff.mem (h : LeftOff t calls k notes k') :
    ∀ note ∈ notes, ∀ c, note.call? = some c → c ∈ calls := by
  induction h with
  | here =>
      intro note hmem c hc
      obtain rfl := List.mem_singleton.mp hmem
      exact Option.some.inj hc ▸ List.mem_cons_self
  | later hheld h ih =>
      intro note hmem c hc
      rcases List.mem_cons.mp hmem with rfl | hmem
      · exact Option.some.inj hc ▸ List.mem_cons_self
      · exact List.mem_cons_of_mem _ (ih note hmem c hc)

/-- A note of no execution of a statement. -/
def Idles (note : Note β) : Prop := ∀ sql params, note.call? ≠ some (.execute sql params)

/-- Nothing is executed while a connection is given back. -/
theorem Fate.idles {p : Pool β} (h : Fate usable t k notes p) : ∀ note ∈ notes, Idles note := by
  cases h <;> simp [Idles, Note.call?]

/-- Nor where this is given up. -/
theorem Abandoned.idles {stage : Stage β} (h : Abandoned usable t k notes stage) :
    ∀ note ∈ notes, Idles note := by
  cases h <;> simp [Idles, Note.call?]

/-- Nothing is executed before there is a connection. -/
theorem Opened.idles (h : Opened k notes) : ∀ note ∈ notes, Idles note := by
  cases h <;> simp [Idles, Note.call?]

/-- Nor where there is none. -/
theorem Denied.idles {e : Error} (h : Denied name s e notes) : ∀ note ∈ notes, Idles note := by
  cases h <;> simp [Idles, Note.call?]

/-- Only the statement itself is executed by a request that is written as `st`. `log` is what had
been done before. -/
def Executes (st : Statement) (log : List (Note β)) (s : Site β) : Prop :=
  ∃ notes, s.log = log ++ notes ∧ ∀ note ∈ notes, ∀ sql params,
    note.call? = some (.execute sql params) → st = ⟨sql, params⟩

/-- The calls of a request execute one statement. -/
theorem execute_of_mem {verb : Verb} {st : Statement} {sql : String} {params : Params}
    (h : .execute sql params ∈ Call.execute st.sql st.params :: verb.followUp) :
    st = ⟨sql, params⟩ := by
  rcases List.mem_cons.mp h with h | h
  · obtain ⟨rfl, rfl⟩ := Call.execute.inj h
    rfl
  · cases verb <;> simp [Verb.followUp] at h

/-- **Using a connection.** -/
theorem Served.executes {verb : Verb} {q : Query} {st : Statement} {log : List (Note β)}
    {r : Option (Except Error Outcome)} (h : Served usable name t verb q st k log r s) :
    Executes st log s := by
  have hparts : ∀ made back : List (Note β),
      (∀ note ∈ made, ∀ c, note.call? = some c →
        c ∈ Call.execute st.sql st.params :: verb.followUp) →
      (∀ note ∈ back, Idles note) → s.log = log ++ made ++ back → Executes st log s :=
    fun made back hmade hback hlog => by
      refine ⟨made ++ back, hlog.trans (List.append_assoc _ _ _),
        fun note hmem sql params hcall => ?_⟩
      rcases List.mem_append.mp hmem with hmem | hmem
      · exact execute_of_mem (hmade note hmem _ hcall)
      · exact absurd hcall (hback note hmem sql params)
  cases h with
  | ended hcarried _ hback _ hlog => exact hparts _ _ hcarried.mem hback.idles hlog
  | leftInReturn hcarried hback _ _ _ hlog => exact hparts _ _ hcarried.mem hback.idles hlog
  | leftInCall hleft _ _ _ hlog =>
      exact hparts _ [] hleft.mem (fun _ hmem => absurd hmem List.not_mem_nil)
        (hlog.trans (List.append_nil _).symm)

/-- An errand that gets a connection gets it from a pool that is there. -/
theorem find_of_acquired {wait : Attempt (Site β) (Except Error Unit)}
    (h : (host usable name t).acquire t wait s (some (.ok ())) s') :
    ∃ p, s.pools.get? name = some p := by
  have hlook : ∀ r s', (host usable name t).find s r s' ↔
      r = some (s.pools.find name) ∧ s' = s := fun _ _ => .rfl
  replace h := (Attempt.bind_at_once hlook _ _).mp h
  cases hget : s.pools.get? name with
  | some p => exact ⟨p, rfl⟩
  | none =>
      rw [Databases.find, hget] at h
      exact absurd h.1 (by simp)

/-- **A request.** It executes nothing but its statement, and this on a connection of a pool that is
there. -/
theorem request_executes {start : Databases β} (hfresh : start.Fresh) {verb : Verb} {q : Query}
    {dialects : Query.Dialects} (hreached : start.Reaches s.pools)
    (hnew : ∀ p, s.pools.get? name = some p → p.stage? t = none)
    {r : Option (Except Error Outcome)}
    (h : (host usable name t).request t verb q dialects (Waits usable name t) s r s') :
    (∃ notes, s'.log = s.log ++ notes ∧ ∀ note ∈ notes, Idles note) ∨
      ∃ st p, verb.statement dialects q = .ok st ∧ s.pools.get? name = some p ∧
        Executes st s.log s' := by
  unfold Host.request at h
  cases hwritten : verb.statement dialects q with
  | error e =>
      rw [hwritten] at h
      obtain ⟨-, rfl⟩ := h
      exact .inl ⟨[], (List.append_nil _).symm, fun _ hmem => absurd hmem List.not_mem_nil⟩
  | ok st =>
      rw [hwritten] at h
      have hbooks : ∀ p, s.pools.get? name = some p → p.Accounted ∧ p.stage? t = none :=
        fun p hp => ⟨(Databases.accounted_of_reaches hfresh hreached hp).1, hnew p hp⟩
      rcases h with ⟨granted, s₁, hacquire, h⟩ | ⟨rfl, hacquire⟩
      · cases acquire_run hbooks hacquire with
        | denied hdenied hlog hgone =>
            obtain ⟨-, rfl⟩ := h
            exact .inl ⟨_, hlog, hdenied.idles⟩
        | @given _ _ _ early hopened hlog hs ht hsound =>
            obtain ⟨p, hp⟩ := find_of_acquired hacquire
            obtain ⟨notes, hlog', hexecutes⟩ := (fulfil_run hs ht h).executes
            refine .inr ⟨st, p, rfl, hp, early ++ notes, ?_, fun note hmem sql params hcall => ?_⟩
            · rw [hlog', hlog, List.append_assoc]
            · rcases List.mem_append.mp hmem with hmem | hmem
              · exact absurd hcall (hopened.idles note hmem sql params)
              · exact hexecutes note hmem sql params hcall
      · cases acquire_run hbooks hacquire with
        | givenUp hlog hs ht hstage =>
            exact .inl ⟨[], hlog.trans (List.append_nil _).symm,
              fun _ hmem => absurd hmem List.not_mem_nil⟩

/-- **Dialects of what is executed.** Of a request that runs in any state that new pools reach,
while others do anything and calls end in any way: every text that is executed, with its
parameters, is the request written in the dialect of the pool that its action goes to, on a
connection of the pool that goes with what is wanted of it. Unless a select is executed as a write,
which saving or deleting a row never is, both are the same pool. -/
theorem request_dialect {start : Databases β} (hfresh : start.Fresh) {verb : Verb} {q : Query}
    (hreached : start.Reaches s.pools)
    (hnew : ∀ p, s.pools.get? (q.table.poolOf verb.mode) = some p → p.stage? t = none)
    {r : Option (Except Error Outcome)}
    (h : (host usable (q.table.poolOf verb.mode) t).request t verb q s.pools.dialect
      (Waits usable (q.table.poolOf verb.mode) t) s r s') :
    ∃ notes, s'.log = s.log ++ notes ∧ ∀ note ∈ notes, ∀ sql params,
      note.call? = some (.execute sql params) →
      ∃ written issuing, start.dialect (q.table.poolOf q.mode) = .ok written ∧
        start.dialect (q.table.poolOf verb.mode) = .ok issuing ∧
        verb.statement (fun _ => .ok written) q = .ok ⟨sql, params⟩ ∧
        (¬(verb = .execute ∧ q.action = .select) →
          q.table.poolOf q.mode = q.table.poolOf verb.mode ∧ written = issuing) ∧
        ∀ row : Row, row.saveRequest = .ok q ∨ row.deleteRequest = .ok q → written = issuing := by
  rcases request_executes hfresh hreached hnew h with ⟨notes, hlog, hidles⟩ |
    ⟨st, p, hst, hp, notes, hlog, hexecutes⟩
  · exact ⟨notes, hlog, fun note hmem sql params hcall =>
      absurd hcall (hidles note hmem sql params)⟩
  · refine ⟨notes, hlog, fun note hmem sql params hcall => ?_⟩
    obtain rfl := hexecutes note hmem sql params hcall
    obtain ⟨written, hwritten, hstatement⟩ := verb.written hst
    have hissuing := Databases.dialect_of_get? hp
    rw [hreached.dialect] at hwritten hissuing
    have hsame : ¬(verb = .execute ∧ q.action = .select) →
        q.table.poolOf q.mode = q.table.poolOf verb.mode ∧ written = p.dialect := fun hnot => by
      have hpool := Verb.poolOf_mode hst hnot
      rw [hpool, hissuing] at hwritten
      exact ⟨hpool, (Except.ok.inj hwritten).symm⟩
    exact ⟨written, p.dialect, hwritten, hissuing, hstatement, hsame,
      fun row hrow => (hsame fun hselect => Row.action_ne_select hrow hselect.2).2⟩

/-! ### A select that is executed as a write -/

/-- A pool to write to and a pool to read from, which speak two dialects. -/
def sampleTongues : Databases Unit :=
  Databases.samplePools.insert "reads" (Pool.new { size := 1 } Tagged.dialect)

/-- Both are new. -/
theorem sampleTongues_fresh : sampleTongues.Fresh := by
  intro name p hp
  rw [sampleTongues, Registry.get?_insert] at hp
  split at hp
  · exact ⟨_, _, (Option.some.inj hp).symm⟩
  · exact Databases.samplePools_fresh name p hp

/-- The table of the sample, read from one of them and written to the other. -/
def audits : Table := { logins with name := "audits", readPool := "reads" }

/-- A select on it, in the dialect of the pool to read from. -/
def auditsText : String :=
  "<SELECT audits;cols=day:day;joins=;set=;where=-;group=;having=-;order=;limit=-;offset=0>"

/-- The pools while an errand holds a connection of the one to write to. -/
def sampleOut (log : List (Note Unit)) : Site Unit :=
  ⟨sampleTongues.modify "main" fun _ => samplePool, log⟩

/-- The select can be executed as a write on a new connection, and the commit behind it given up. -/
theorem sampleMisplaced_runs :
    ∃ s', (host (fun _ => true) "main" 0).request 0 .execute (Query.new audits .select)
        sampleTongues.dialect (Waits (fun _ => true) "main" 0) ⟨sampleTongues, []⟩ none s' ∧
      .made (.execute auditsText .empty) () (.ok .done) () (some samplePool) ∈ s'.log := by
  have hstatement : Verb.execute.statement sampleTongues.dialect (Query.new audits .select) =
      .ok ⟨auditsText, .empty⟩ := by
    decide +kernel
  have hacquire : ∃ log, (host (fun _ => true) "main" 0).acquire 0
      (Waits (fun _ => true) "main" 0) ⟨sampleTongues, []⟩ (some (.ok ())) (sampleOut log) :=
    ⟨_, .inl ⟨_, _, ⟨rfl, rfl⟩, .inl ⟨(), _, ⟨rfl, rfl⟩, .inl ⟨.ok (), _,
      ⟨_, .refl, .inl ⟨.ok (), rfl, rfl⟩⟩, .inl ⟨0, _, ⟨0, rfl, rfl⟩, .inl ⟨(), _, ⟨rfl, rfl⟩, rfl,
        rfl⟩⟩⟩⟩⟩⟩
  have hcommit : ∀ log : List (Note Unit), ∃ s', (host (fun _ => true) "main" 0).callOn 0 .commit
      (sampleOut log) none s' ∧ s'.log = log ++ [.left .commit ()] := fun log =>
    ⟨_, .inl ⟨some (.out ⟨(), 0, false⟩), _, stage?_runs rfl rfl,
      .inr ⟨rfl, _, .refl, .inr ⟨(), rfl, rfl⟩⟩⟩, rfl⟩
  obtain ⟨log, hacquire⟩ := hacquire
  have hexecute : (host (fun _ => true) "main" 0).callOn 0 (.execute auditsText .empty)
      (sampleOut log) (some (.ok .done)) (sampleOut
        (log ++ [.made (.execute auditsText .empty) () (.ok .done) () (some samplePool)])) :=
    callOn_runs (s := sampleOut log) (k := ⟨(), 0, false⟩) rfl rfl
      (fun a ha => Except.ok.inj ha ▸ trivial) ()
  obtain ⟨s', hcommit, hlog⟩ := hcommit
    (log ++ [.made (.execute auditsText .empty) () (.ok .done) () (some samplePool)])
  refine ⟨s', ?_, by simp [hlog]⟩
  unfold Host.request
  rw [hstatement]
  exact .inl ⟨.ok (), _, hacquire, .inl ⟨.ok .done, _, hexecute, .inr ⟨rfl, .inr ⟨rfl, hcommit⟩⟩⟩⟩

/-- What is then executed is written in the one dialect and is on a connection of a pool that speaks
the other, where the same select would be another text. -/
theorem not_always_issuing :
    ∃ s' sql params, (host (fun _ => true) "main" 0).request 0 .execute (Query.new audits .select)
        sampleTongues.dialect (Waits (fun _ => true) "main" 0) ⟨sampleTongues, []⟩ none s' ∧
      (∃ note ∈ s'.log, note.call? = some (.execute sql params)) ∧
      sampleTongues.dialect (audits.poolOf Verb.execute.mode) = .ok Sqlite.dialect ∧
      ∀ st,
        Verb.execute.statement (fun _ => .ok Sqlite.dialect) (Query.new audits .select) = .ok st →
        st.sql ≠ sql := by
  obtain ⟨s', hruns, hmade⟩ := sampleMisplaced_runs
  refine ⟨s', auditsText, .empty, hruns, ⟨_, hmade, rfl⟩, rfl, fun st hst => ?_⟩
  have hsqlite : Verb.execute.statement (fun _ => .ok Sqlite.dialect) (Query.new audits .select) =
      .ok ⟨"SELECT day FROM audits", .empty⟩ := by
    decide +kernel
  rw [hsqlite] at hst
  rw [← Except.ok.inj hst]
  decide

/-- It is the dialect of the pool to read from. -/
theorem request_dialect_misplaced :
    sampleTongues.Fresh ∧ sampleTongues.Reaches sampleTongues ∧
      ∃ s', (host (fun _ => true) "main" 0).request 0 .execute (Query.new audits .select)
          sampleTongues.dialect (Waits (fun _ => true) "main" 0) ⟨sampleTongues, []⟩ none s' ∧
        ∃ note ∈ s'.log, ∃ sql params written, note.call? = some (.execute sql params) ∧
          sampleTongues.dialect "reads" = .ok written ∧
          Verb.execute.statement (fun _ => .ok written) (Query.new audits .select) =
            .ok ⟨sql, params⟩ := by
  obtain ⟨s', hruns, hmade⟩ := sampleMisplaced_runs
  have hnew : ∀ p, sampleTongues.get? (audits.poolOf Verb.execute.mode) = some p →
      p.stage? 0 = none := fun p hp => Option.some.inj hp ▸ rfl
  obtain ⟨notes, hlog, hall⟩ := request_dialect (q := Query.new audits .select)
    (s := ⟨sampleTongues, []⟩) sampleTongues_fresh .refl hnew hruns
  rw [List.nil_append] at hlog
  obtain ⟨written, -, hwritten, -, hstatement, -, -⟩ := hall _ (hlog ▸ hmade) _ _ rfl
  exact ⟨sampleTongues_fresh, .refl, s', hruns, _, hmade, _, _, written, rfl, hwritten, hstatement⟩

end Site

end TableGateway
