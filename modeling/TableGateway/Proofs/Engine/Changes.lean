import TableGateway.Proofs.Backend.Deeds
import TableGateway.Proofs.Engine.Transactions

/-!
# The count of a handle

A handle of the engine counts changed rows as a link trusts it to: a statement that inserts, updates
or deletes and succeeds sets its count to the number of rows that it changed, and everything else
leaves the count as it is. Taking holds and locking tables, learning what tables there are, and
beginning and ending transactions all change the handle, but not its count, nor the database that it
sees.

## Main results

* `Engine.changes_run`: the count behind a statement.
* `Engine.connection_counts`: a handle counts as it is trusted to.
-/

namespace TableGateway.Engine

/-- What a handle keeps of its database and its count. -/
structure Handle.Retains (h g : Handle) : Prop where
  place : g.place = h.place
  memory : g.memory = h.memory
  uncommitted : g.uncommitted = h.uncommitted
  changes : g.changes = h.changes

namespace Handle.Retains

variable {h g h' : Handle}

/-- A handle keeps what it has. -/
theorem refl (h : Handle) : h.Retains h := ⟨rfl, rfl, rfl, rfl⟩

/-- What is kept twice is kept. -/
theorem trans (hg : h.Retains g) (hh : g.Retains h') : h.Retains h' :=
  ⟨hh.place.trans hg.place, hh.memory.trans hg.memory, hh.uncommitted.trans hg.uncommitted,
    hh.changes.trans hg.changes⟩

end Handle.Retains

/-- How many rows a planned instruction changes, if it counts them and succeeds. -/
def changedBy? (db : Database) (bound : String → Datum) (i : Instruction Slot) : Option Nat :=
  (i.change db bound).toOption.bind Effect.changed

/-- A failure is no success. -/
theorem error_ne_ok {α : Type} {e : EngineError} {a : α} {p : Prop}
    (hok : (Except.error e : Except EngineError α) = .ok a) : p :=
  absurd hok (by simp)

/-- A failure is no success, whatever it leaves. -/
theorem failed_ne_ok {e : EngineError} {fs fs' : Files} {rows : Files.Rows} {p : Prop}
    (hok : ((.error e, fs) : Files.Outcome Files.Rows) = (.ok rows, fs')) : p :=
  error_ne_ok (congrArg Prod.fst hok)

namespace Files

variable {fs fs' : Files} {id : Nat} {h g : Handle} {db : Database} {bound : String → Datum}
  {rows : Rows}

/-- The count of a handle. -/
def changes (id : Nat) (fs : Files) : Nat := (fs.handles.get? id).elim 0 Handle.changes

/-- The count of a changed handle is that of its new state. -/
theorem changes_update (fs : Files) (id : Nat) (h : Handle) :
    (fs.update id h).changes id = h.changes := by
  unfold update changes
  dsimp only
  rw [Registry.get?_mapped, Registry.get?_insert, if_pos rfl]
  dsimp only [Option.map_some, Option.elim_some]
  split <;> rfl

/-- What a handle sees is in what it keeps. -/
theorem sees_retains (hg : h.Retains g) (hfs : fs'.content = fs.content) :
    fs'.sees g = fs.sees h := by
  unfold sees
  rw [hg.place, hg.memory, hg.uncommitted, hfs]

/-! ### Holds -/

/-- A handle that is answered together with what it sees. -/
theorem eq_of_seen {x : Except EngineError Database} (hok : (do return (h, ← x)) = .ok (g, db)) :
    h = g ∧ x = .ok db := by
  cases x with
  | error e => exact error_ne_ok hok
  | ok db' =>
      obtain ⟨rfl, rfl⟩ := Prod.mk.inj (Except.ok.inj hok)
      exact ⟨rfl, rfl⟩

/-- Taking a share. -/
theorem share_retains (hok : fs.share id h = .ok (g, db)) : h.Retains g := by
  unfold share at hok
  split_ifs at hok
  · exact (eq_of_seen hok).1 ▸ .refl h
  · exact (eq_of_seen hok).1 ▸ ⟨rfl, rfl, rfl, rfl⟩

/-- Taking the right to change the file. -/
theorem reserve_retains (hok : fs.reserve id h = .ok g) : h.Retains g := by
  unfold reserve at hok
  by_cases hwriting : h.isWriting = true
  · rw [if_pos hwriting] at hok
    exact Except.ok.inj hok ▸ .refl h
  rw [if_neg hwriting] at hok
  by_cases hreadOnly : h.isReadOnly = true
  · rw [if_pos hreadOnly] at hok
    exact error_ne_ok hok
  rw [if_neg hreadOnly] at hok
  by_cases hout : fs.isKeptOut id h .reserve = true
  · rw [if_pos hout] at hok
    exact error_ne_ok hok
  rw [if_neg hout] at hok
  cases hshare : fs.share id h with
  | error e =>
      rw [hshare] at hok
      exact error_ne_ok hok
  | ok taken =>
      rw [hshare] at hok
      change (if fs.canTake id taken.1 .reserve then _ else _) = _ at hok
      by_cases htake : fs.canTake id taken.1 .reserve = true
      · rw [if_pos htake] at hok
        exact (share_retains hshare).trans (Except.ok.inj hok ▸ ⟨rfl, rfl, rfl, rfl⟩)
      · rw [if_neg htake] at hok
        exact error_ne_ok hok

/-- Taking the whole file. -/
theorem claim_retains (fs : Files) (id : Nat) (h : Handle) : h.Retains (fs.claim id h).2 := by
  unfold claim
  by_cases hout : fs.isKeptOut id h .claim = true
  · rw [if_pos hout]
    exact .refl h
  · rw [if_neg hout]
    cases hreserve : fs.reserve id h with
    | error e => exact .refl h
    | ok reserved =>
        dsimp only
        split_ifs
        · exact (reserve_retains hreserve).trans ⟨rfl, rfl, rfl, rfl⟩
        · exact .refl h
        · exact ⟨rfl, rfl, rfl, rfl⟩

/-- Taking a share, and no more. -/
theorem shareOnly_retains (hok : (fs.share id h).map Prod.fst = .ok g) : h.Retains g := by
  cases hshare : fs.share id h with
  | error e =>
      rw [hshare] at hok
      exact error_ne_ok hok
  | ok taken =>
      rw [hshare] at hok
      exact Except.ok.inj hok ▸ share_retains hshare

/-- Going on with what was taken, or as before. -/
theorem orAsBefore_retains {taken : Except EngineError Handle}
    (htaken : ∀ g, taken = .ok g → h.Retains g) : h.Retains (orAsBefore h taken).2 := by
  cases taken with
  | error e => exact .refl h
  | ok g => exact htaken g rfl

/-- Taking what a transaction demands. -/
theorem acquire_retains (fs : Files) (id : Nat) (h : Handle) (demand : Demand) :
    h.Retains (fs.acquire id h demand).2 := by
  unfold acquire
  split_ifs
  · exact .refl h
  · exact orAsBefore_retains fun g hg => shareOnly_retains hg
  · exact orAsBefore_retains fun g hg => reserve_retains hg
  · exact claim_retains fs id h

/-- Locking tables. -/
theorem lockTables_retains (fs : Files) (id : Nat) (h : Handle) (reads : List String)
    (target : Option String) (isMaking : Bool) :
    h.Retains (fs.lockTables id h reads target isMaking).2 := by
  unfold lockTables
  dsimp only
  split_ifs <;> exact ⟨rfl, rfl, rfl, rfl⟩

/-! ### Transactions -/

/-- Settling a transaction. -/
theorem changes_settle (fs : Files) (id : Nat) (h : Handle) :
    (fs.settle id h).2.changes id = h.changes := by
  unfold settle
  split_ifs
  · exact changes_update fs id _
  · rcases h.uncommitted with _ | db
    · exact changes_update fs id (ended h)
    · rcases h.place with _ | place
      · exact changes_update fs id { ended h with memory := some db }
      · exact changes_update fs id (ended h)

/-- Beginning a transaction. -/
theorem changes_begin (fs : Files) (id : Nat) (h : Handle) (demand : Demand) :
    (fs.begin id h demand).2.changes id = h.changes := by
  have hacquire : (fs.acquire id h demand).2.changes = h.changes :=
    (acquire_retains fs id h demand).changes
  unfold begin
  revert hacquire
  rcases fs.acquire id h demand with ⟨e | ⟨⟩, g⟩
  · exact fun hacquire => (changes_update fs id g).trans hacquire
  · intro hacquire
    dsimp only
    split_ifs
    · exact (changes_update fs id g).trans hacquire
    · exact (changes_update fs id { g with inTransaction := true }).trans hacquire

/-- Committing a transaction. -/
theorem changes_commit {fs : Files} {id : Nat} {h : Handle} (hh : fs.handles.get? id = some h) :
    (fs.commit id h).2.changes id = h.changes := by
  unfold commit
  split_ifs
  · exact changes_settle fs id h
  · simp [changes, hh]

/-- Rolling a transaction back. -/
theorem changes_rollback {fs : Files} {id : Nat} {h : Handle} (hh : fs.handles.get? id = some h) :
    (fs.rollback id h).2.changes id = h.changes := by
  unfold rollback
  split_ifs
  · exact changes_update fs id (fs.undone h)
  · simp [changes, hh]

/-! ### Statements -/

/-- Changing a database. -/
theorem changes_change {i : Instruction Slot}
    (hok : fs.change id h db bound i = (.ok rows, fs')) :
    fs'.changes id = (changedBy? db bound i).getD h.changes := by
  unfold change at hok
  unfold changedBy?
  cases heffect : i.change db bound with
  | error e =>
      rw [heffect] at hok
      exact failed_ne_ok hok
  | ok effect =>
      simp only [heffect] at hok
      change fs'.changes id = effect.changed.getD h.changes
      split_ifs at hok
      · exact (Prod.mk.inj hok).2 ▸ changes_update fs id _
      · set changed : Handle := { h with
          changes := effect.changed.getD h.changes
          known := some effect.database
          uncommitted := some effect.database } with hchanged
        have hsettle := changes_settle fs id changed
        rcases hresult : fs.settle id changed with ⟨e | ⟨⟩, fs₁⟩
        · rw [hresult] at hok
          exact failed_ne_ok hok
        · rw [hresult] at hok hsettle
          exact (Prod.mk.inj hok).2 ▸ hsettle

/-- The handle after an instruction. -/
theorem changes_kept (h : Handle) : (kept h).changes = h.changes := by
  unfold kept
  split_ifs <;> rfl

/-- Running a planned instruction over a database. -/
theorem changes_carryOut {p : Instruction Slot}
    (hok : fs.carryOut id h db bound p = (.ok rows, fs')) :
    fs'.changes id = (changedBy? db bound p).getD h.changes := by
  have hkept : (fs.update id (kept h)).changes id = h.changes :=
    (changes_update fs id _).trans (changes_kept h)
  unfold carryOut at hok
  split at hok
  · exact (Prod.mk.inj hok).2 ▸ hkept
  · exact (Prod.mk.inj hok).2 ▸ hkept
  · exact changes_change hok

/-- Running an instruction that is planned for a handle. -/
theorem changes_runPlanned {i : Instruction ColumnName} {planned : Instruction Slot}
    (hok : fs.runPlanned id h bound i planned = (.ok rows, fs')) :
    ∃ db p, fs.sees h = .ok db ∧ i.plan db = some p ∧
      fs'.changes id = (changedBy? db bound p).getD h.changes := by
  unfold runPlanned at hok
  set taken := if makesTable planned || counts planned then fs.reserve id h
    else (fs.share id h).map Prod.fst with htaken
  cases hg : taken with
  | error e =>
      rw [hg] at hok
      exact failed_ne_ok hok
  | ok g =>
      have hretains : h.Retains g := by
        rw [hg] at htaken
        split_ifs at htaken
        · exact reserve_retains htaken.symm
        · exact shareOnly_retains htaken.symm
      rw [hg] at hok
      dsimp only at hok
      split at hok
      · exact failed_ne_ok hok
      · exact failed_ne_ok hok
      · next held db hlock hsees =>
        have hheld : held.changes = h.changes := by
          have hretained := lockTables_retains fs id g (i.tables.map Reading.fold)
            (i.target?.map Reading.fold) (makesTable planned)
          rw [hlock] at hretained
          exact hretained.changes.trans hretains.changes
        refine ⟨db, ?_⟩
        rw [sees_retains hretains rfl] at hsees
        cases hp : i.plan db with
        | none =>
            rw [hp] at hok
            exact failed_ne_ok hok
        | some p =>
            rw [hp] at hok
            dsimp only at hok
            exact ⟨p, hsees, rfl, by rw [changes_carryOut hok, hheld]⟩

/-- Planning an instruction. -/
theorem plan_retains {i : Instruction ColumnName} {planned : Option (Instruction Slot)}
    (hok : fs.plan id h i = .ok (planned, g)) : h.Retains g := by
  unfold plan at hok
  dsimp only at hok
  split at hok
  · exact error_ne_ok hok
  · exact (Prod.mk.inj (Except.ok.inj hok)).2 ▸ ⟨rfl, rfl, rfl, rfl⟩
  · split at hok
    · exact (Prod.mk.inj (Except.ok.inj hok)).2 ▸ ⟨rfl, rfl, rfl, rfl⟩
    · exact (Prod.mk.inj (Except.ok.inj hok)).2 ▸ .refl h

/-- Running an instruction about tables. -/
theorem changes_runOnTables {i : Instruction ColumnName} {tokens : List Token} {params : Params}
    (hok : fs.runOnTables id h tokens bound params i = (.ok rows, fs')) :
    ∃ db p, fs.sees h = .ok db ∧ i.plan db = some p ∧
      fs'.changes id = (changedBy? db bound p).getD h.changes := by
  unfold runOnTables at hok
  cases hplan : fs.plan id h i with
  | error e =>
      rw [hplan] at hok
      exact failed_ne_ok hok
  | ok found =>
      obtain ⟨planned, g⟩ := found
      have hretains : h.Retains g := plan_retains hplan
      rw [hplan] at hok
      dsimp only at hok
      split at hok
      · exact failed_ne_ok hok
      · exact failed_ne_ok hok
      · obtain ⟨db, p, hsees, hp, hchanges⟩ := changes_runPlanned hok
        rw [sees_retains hretains rfl] at hsees
        exact ⟨db, p, hsees, hp, hretains.changes ▸ hchanges⟩

/-- An instruction that does not count changed rows has none, however it is planned. -/
theorem changedBy?_eq_none {i : Instruction ColumnName} {p : Instruction Slot}
    (hi : counts i = false) (hp : i.plan db = some p) : changedBy? db bound p = none := by
  unfold Instruction.plan at hp
  split_ifs at hp
  cases i with
  | select q =>
      have hselect : (Instruction.select q).planModest db =
          (q.plan db.columns [] >>= fun found => pure (.select found.1)) := rfl
      rw [hselect] at hp
      cases hq : q.plan db.columns [] with
      | none =>
          rw [hq] at hp
          exact absurd hp (by simp)
      | some found =>
          rw [hq] at hp
          exact Option.some.inj hp ▸ rfl
  | create table unlessPresent columns =>
      have hnone : ∀ columns, changedBy? db bound (.create table unlessPresent columns) = none := by
        intro columns
        unfold changedBy? Instruction.change
        dsimp only
        split_ifs <;> rfl
      simp only [Instruction.planModest] at hp
      split_ifs at hp with _ hpresent
      · exact Option.some.inj hp ▸ hpresent ▸ hnone []
      · exact Option.some.inj hp ▸ hnone columns
  | begin | commit | rollback => exact Option.some.inj hp ▸ rfl
  | insert | update | delete => exact absurd hi (by simp [counts])

/-- How many rows the instruction in a text changes, if it counts them and succeeds. -/
def changed? (fs : Files) (id : Nat) (tokens : List Token) (params : Params)
    (i : Instruction ColumnName) : Option Nat := do
  let h ← fs.handles.get? id
  let numbers ← Token.paramNumbers? (Token.params tokens)
  let db ← (fs.sees h).toOption
  let planned ← i.plan db
  changedBy? db (bindings numbers params) planned

/-- An instruction that does not count changed rows. -/
theorem changed?_eq_none {i : Instruction ColumnName} {tokens : List Token} {params : Params}
    (hi : counts i = false) : fs.changed? id tokens params i = none := by
  simp only [changed?, Option.bind_eq_bind, Option.bind_eq_none_iff]
  exact fun _ _ numbers _ db _ p hp => changedBy?_eq_none hi hp

/-- What succeeds only if every bound parameter is named. -/
theorem of_checked {tokens : List Token} {params : Params} {run : Outcome Rows}
    (hok : fs.checked tokens params run = (.ok rows, fs')) : run = (.ok rows, fs') := by
  unfold checked at hok
  cases hbound : checkBound tokens params with
  | error e =>
      rw [hbound] at hok
      exact failed_ne_ok hok
  | ok u => rwa [hbound] at hok

/-- **The count behind an instruction.** -/
theorem changes_runInstruction {i : Instruction ColumnName} {tokens : List Token} {params : Params}
    {numbers : List (String × Nat)} (hh : fs.handles.get? id = some h)
    (hnumbers : Token.paramNumbers? (Token.params tokens) = some numbers)
    (hok : fs.runInstruction id h tokens (bindings numbers params) params i = (.ok rows, fs')) :
    fs'.changes id = (fs.changed? id tokens params i).getD h.changes := by
  have htables : ∀ i : Instruction ColumnName,
      fs.runOnTables id h tokens (bindings numbers params) params i = (.ok rows, fs') →
        fs'.changes id = (fs.changed? id tokens params i).getD h.changes := by
    intro i hrun
    obtain ⟨db, p, hsees, hp, hchanges⟩ := changes_runOnTables hrun
    simp [changed?, hh, hnumbers, hsees, hp, hchanges, Except.toOption]
  cases i with
  | begin demand =>
      obtain ⟨-, rfl⟩ := Prod.mk.inj (of_checked hok)
      rw [changed?_eq_none rfl]
      exact changes_begin fs id h demand
  | commit =>
      obtain ⟨-, rfl⟩ := Prod.mk.inj (of_checked hok)
      rw [changed?_eq_none rfl]
      exact changes_commit hh
  | rollback =>
      obtain ⟨-, rfl⟩ := Prod.mk.inj (of_checked hok)
      rw [changed?_eq_none rfl]
      exact changes_rollback hh
  | select q =>
      unfold runInstruction at hok
      dsimp only at hok
      split_ifs at hok
      · exact htables _ hok
      · cases hp : (Instruction.select q).plan .empty with
        | none =>
            rw [hp] at hok
            exact failed_ne_ok hok
        | some p =>
            rw [hp] at hok
            cases p with
            | select q =>
                obtain ⟨-, rfl⟩ := Prod.mk.inj (of_checked hok)
                rw [changed?_eq_none rfl]
                simp [changes, hh]
            | insert | update | delete | create | begin | commit | rollback =>
                exact failed_ne_ok hok
  | insert | update | delete | create => exact htables _ hok

end Files

/-! ### Over the wire -/

/-- What the first statement of a text does. -/
def deed (id : Nat) (text : String) (params : Params) (fs : Files) : Deed :=
  let tokens := Token.firstStatement (Token.ofText text)
  match Instruction.ofTokens? tokens with
  | none => .writes
  | some i =>
    if isReadOnly i then .reads else (fs.changed? id tokens params i).elim .writes .changes

/-- What an instruction that cannot write changes: no rows. -/
theorem counts_of_isReadOnly {i : Instruction ColumnName} (hi : isReadOnly i = true) :
    Files.counts i = false := by
  cases i with
  | select | commit | rollback | begin => rfl
  | insert | update | delete | create => exact absurd hi Bool.false_ne_true

/-- The count behind the statement in a text. -/
theorem changes_run {id : Nat} {fs fs' : Files} {h : Handle} {text : String} {params : Params}
    {rows : Files.Rows} (hh : fs.handles.get? id = some h)
    (hok : fs.run id h text params = (.ok rows, fs')) :
    fs'.changes id = (deed id text params fs).count h.changes := by
  unfold Files.run at hok
  unfold deed
  dsimp only at hok ⊢
  generalize Token.firstStatement (Token.ofText text) = tokens at hok ⊢
  split_ifs at hok
  · cases hbound : Files.checkBound tokens params with
    | error e | ok u =>
        rw [hbound] at hok
        exact failed_ne_ok hok
  · cases hi : Instruction.ofTokens? tokens with
    | none =>
        rw [hi] at hok
        exact failed_ne_ok hok
    | some i =>
        cases hnumbers : Token.paramNumbers? (Token.params tokens) with
        | none =>
            rw [hi, hnumbers] at hok
            exact failed_ne_ok hok
        | some numbers =>
            rw [hi, hnumbers] at hok
            rw [Files.changes_runInstruction hh hnumbers hok]
            cases hreads : isReadOnly i with
            | true =>
                rw [Files.changed?_eq_none (counts_of_isReadOnly hreads)]
                simp [Deed.count, hreads]
            | false =>
                cases hchanged : fs.changed? id tokens params i <;>
                  simp [Deed.count, hreads, hchanged]

/-- A statement that succeeds was run. -/
theorem run_of_answered {id : Nat} {fs : Files} {text : String} {params : Params}
    (ha : (wire id (.statement text params) fs).1.isAnswered = true) :
    ∃ h rows, fs.handles.get? id = some h ∧
      fs.run id h text params = (.ok rows, (wire id (.statement text params) fs).2) := by
  have hrun : (connection id).run = serve id := rfl
  revert ha
  unfold wire Connection.wire
  rw [hrun]
  unfold serve
  cases hh : fs.handles.get? id with
  | none => exact fun ha => absurd ha Bool.false_ne_true
  | some h =>
      dsimp only
      by_cases hshut : fs.isShutOut id h = true
      · rw [if_pos hshut]
        exact fun ha => absurd ha Bool.false_ne_true
      · rw [if_neg hshut]
        rcases hresult : fs.run id h text params with ⟨e | rows, fs'⟩
        · exact fun ha => absurd ha Bool.false_ne_true
        · exact fun _ => ⟨h, rows, rfl, hresult⟩

/-- A command that leaves the count of the handle on which it runs leaves the count. -/
theorem changes_turn {id : Nat} {fs : Files} {run : Handle → Files.Outcome Unit}
    (hrun : ∀ h, fs.handles.get? id = some h → (run h).2.changes id = h.changes) :
    (turn id fs run).2.changes id = fs.changes id := by
  unfold turn
  cases hh : fs.handles.get? id with
  | none => rfl
  | some h =>
      dsimp only
      split_ifs
      · rfl
      · rw [hrun h hh, Files.changes, hh]
        rfl

/-- **A handle counts as it is trusted to.** -/
theorem connection_counts (id : Nat) : (connection id).Counts (deed id) where
  readOnly text params fs := by
    unfold connection deed
    dsimp only
    generalize Token.firstStatement (Token.ofText text) = tokens
    cases Instruction.ofTokens? tokens with
    | none => simp
    | some i =>
        cases hi : isReadOnly i with
        | true => simp [hi]
        | false => cases hchanged : fs.changed? id tokens params i <;> simp [hi, hchanged]
  counted text params fs ha := by
    obtain ⟨h, rows, hh, hrun⟩ := run_of_answered ha
    have hbefore : (connection id).changes fs = h.changes := by
      unfold connection
      dsimp only
      rw [hh]
      rfl
    rw [hbefore]
    exact changes_run hh hrun
  kept c fs hc _ := by
    change (wire id c fs).2.changes id = fs.changes id
    cases c with
    | begin =>
        rw [wire_begin]
        exact changes_turn fun h _ => Files.changes_begin fs id h .nothing
    | commit =>
        rw [wire_commit]
        exact changes_turn fun h hh => Files.changes_commit hh
    | rollback =>
        rw [wire_rollback]
        exact changes_turn fun h hh => Files.changes_rollback hh
    | statement sql params | disconnect => exact absurd hc Bool.false_ne_true

end TableGateway.Engine
