import TableGateway.Proofs.Backend.Transactions
import TableGateway.Proofs.Dialect.Paging
import TableGateway.Proofs.Query.Counting

/-!
# Paging

A request asks for a page by two unsigned numbers of 64 bits, and the SQLite dialect hands them to
an engine that reads signed ones. This module follows them to each place where the select may stand:
on its own, in a condition, behind an assignment and in the statement that counts its rows. At every
one of them the page is that of the rows the select would yield without paging, as long as the
engine can read both numbers, and an error otherwise.

## Conventions

An `Answering` is an engine of which nothing is known but what `Answering.Takes` says about a select
and the tails behind it. The rows may come in several orders, so what it answers is a relation.

## Main results

* `Query.lower_paged`: a request is written as without paging, with a tail behind it.
* `Query.paging_exact`: which rows are left, wherever the select stands.
* `Query.everyone_refused`: a limit that the engine does not read.
-/

namespace TableGateway

/-! ### Engines -/

/-- What an engine answers to a select. -/
abbrev Reply := Except EngineError (List Record)

/-- What an engine makes of the texts in which a select stands. `σ` is what stands around them: the
values that are bound, and the rows of the selects around. An expression amounts to some `ω`. -/
structure Answering (σ ω : Type) where
  /-- What may be answered to a select. -/
  Answers : σ → String → Reply → Prop
  /-- What an expression may amount to. -/
  Amounts : σ → String → ω → Prop
  /-- A column compared with the rows of a select. -/
  among : σ → String → Reply → ω
  /-- The value that a select yields. -/
  single : σ → Reply → ω
  /-- How many rows to skip is not looked at where none are asked for. -/
  hurried : Bool

/-- The answer of a select that counts. -/
def numberOf (rows : List Record) : List Record := [[.integer (Int64.ofNat rows.length)]]

namespace Answering

variable {σ ω : Type}

/-- A select that does not fail. -/
def Sure (e : Answering σ ω) (around : σ) (body : String) : Prop :=
  ∀ reply, e.Answers around body reply → reply.isOk

/-- The engine takes a text for a select that ends before its tail. -/
structure Takes (e : Answering σ ω) (body : String) : Prop where
  /-- Behind a select that does not fail, a tail cuts a page out of its rows. -/
  paged : ∀ around, e.Sure around body → ∀ tail reply,
    e.Answers around (body ++ Sqlite.tailText tail) reply ↔
      ∃ rows, e.Answers around body (.ok rows) ∧ reply = Sqlite.cut e.hurried tail rows
  /-- The rows are counted. -/
  counted : ∀ around tail reply,
    e.Answers around (Sqlite.dialect.count (body ++ Sqlite.tailText tail)) reply ↔
      ∃ inner, e.Answers around (body ++ Sqlite.tailText tail) inner ∧ reply = inner.map numberOf
  /-- A column is compared with the rows. -/
  compared : ∀ around column tail o,
    e.Amounts around (Sqlite.leaf column (.subquery (body ++ Sqlite.tailText tail))) o ↔
      ∃ inner, e.Answers around (body ++ Sqlite.tailText tail) inner ∧
        o = e.among around column inner
  /-- A column is given the value. -/
  assigned : ∀ around tail o,
    e.Amounts around ("(" ++ (body ++ Sqlite.tailText tail) ++ ")") o ↔
      ∃ inner, e.Answers around (body ++ Sqlite.tailText tail) inner ∧ o = e.single around inner

/-- What may come of a text is found from the rows that a select which does not fail may yield. -/
def Follows {τ : Type} (e : Answering σ ω) (body : String) (may : σ → τ → Prop)
    (found : σ → List Record → τ) : Prop :=
  ∀ around, e.Sure around body → ∀ o,
    may around o ↔ ∃ rows, e.Answers around body (.ok rows) ∧ o = found around rows

namespace Takes

variable {e : Answering σ ω} {body : String}

/-- What is made of the answer to a select with a tail is made of the rows that the tail leaves. -/
theorem follows {τ : Type} {may : σ → τ → Prop} (h : e.Takes body) (use : σ → Reply → τ)
    (tail : Option Sqlite.Tail)
    (hmay : ∀ around o, may around o ↔
      ∃ inner, e.Answers around (body ++ Sqlite.tailText tail) inner ∧ o = use around inner) :
    e.Follows body may fun around rows => use around (Sqlite.cut e.hurried tail rows) := by
  intro around hsure o
  rw [hmay]
  constructor
  · rintro ⟨inner, hinner, rfl⟩
    obtain ⟨rows, hrows, rfl⟩ := (h.paged around hsure tail inner).mp hinner
    exact ⟨rows, hrows, rfl⟩
  · rintro ⟨rows, hrows, rfl⟩
    exact ⟨_, (h.paged around hsure tail _).mpr ⟨rows, hrows, rfl⟩, rfl⟩

end Takes

end Answering

namespace Query

variable {d : Dialect} {q : Query} {inline : Inliner} {t t' : Tally} {st : Statement}

/-! ### Requests without paging -/

/-- The request without paging. -/
def unpaged (q : Query) : Query := { q with limit := none, offset := 0 }

/-- What is answered where a select without paging yields these rows. -/
def reply (hurried : Bool) (q : Query) (rows : List Record) : Reply :=
  if Sqlite.Pageable hurried q.limit q.offset then .ok (Sqlite.page q.limit q.offset rows)
  else .error Engine.mismatch

/-- Paging is not walked. -/
theorem walk_unpaged (q : Query) : q.unpaged.walk = q.walk := by
  obtain ⟨table, action, projection, assignments, joins, filter, having, groupBy, orderBy, limit,
    offset⟩ := q
  cases action <;> rfl

/-- The clauses of a select without paging. -/
theorem clauses_unpaged (hselect : q.action = .select) :
    q.unpaged.clauses d inline t =
      q.clauses d inline t >>= fun c => pure { c with limit := none, offset := 0 } := by
  obtain ⟨table, action, _, assignments, joins, filter, having, groupBy, orderBy, limit,
    offset⟩ := q
  obtain rfl : action = .select := hselect
  rw [unpaged, clauses, clauses, bind_assoc]
  refine bind_congr fun filterText => ?_
  rw [bind_assoc]
  rfl

/-- The tail stands behind everything else. -/
theorem selectText_paged (c : Clauses) :
    Sqlite.selectText c = Sqlite.selectText { c with limit := none, offset := 0 } ++
      Sqlite.paging c.limit c.offset := by
  have hnone : Sqlite.paging none 0 = "" := rfl
  simp only [Sqlite.selectText, Sqlite.selectTail, hnone, String.append_empty, String.append_assoc]
  rfl

/-- The text of a select is that without paging, with a tail behind it. -/
theorem text_paged (hselect : q.action = .select) (t : Tally) :
    q.text Sqlite.dialect t = q.unpaged.text Sqlite.dialect t >>= fun body =>
      pure (body ++ Sqlite.paging q.limit q.offset) := by
  rw [text_eq, text_eq, clauses_unpaged hselect]
  cases hc : q.clauses Sqlite.dialect (Query.text Sqlite.dialect) t with
  | error e => rfl
  | ok c =>
      obtain ⟨haction, -, -, -, hlimit, hoffset⟩ := clauses_select hselect hc
      have hbody : Sqlite.statement { c with limit := none, offset := 0 } =
          .ok (Sqlite.selectText { c with limit := none, offset := 0 }) :=
        Sqlite.statement_select haction
      change Sqlite.statement c = (Sqlite.statement { c with limit := none, offset := 0 } >>= _)
      rw [Sqlite.statement_select haction, hbody, selectText_paged, hlimit, hoffset]
      rfl

/-- **Writing a page.** With the same counters, a select compiles to what it would be without
paging, with a tail behind it. -/
theorem lower_paged (hselect : q.action = .select)
    (h : q.lower Sqlite.dialect t = .ok (st, t')) :
    ∃ body, q.unpaged.lower Sqlite.dialect t = .ok (⟨body, st.params⟩, t') ∧
      st.sql = body ++ Sqlite.tailText (Sqlite.tail? q.limit q.offset) := by
  rw [lowers, text_paged hselect] at h
  obtain ⟨sql, hsql, h⟩ := bind_eq_ok h
  obtain ⟨body, hbody, hsql⟩ := bind_eq_ok hsql
  obtain ⟨rfl, rfl⟩ := Prod.mk.inj (Except.ok.inj h)
  obtain rfl := Except.ok.inj hsql
  refine ⟨body, ?_, by rw [Sqlite.paging_eq_tailText]⟩
  rw [lowers, hbody, walk_unpaged]
  rfl

/-- A request of its own is compiled with fresh counters. -/
theorem lower_of_statementIn (h : q.statementIn d = .ok st) :
    ∃ t', q.lower d .start = .ok (st, t') := by
  obtain ⟨⟨st, t'⟩, hlower, h⟩ := bind_eq_ok (x := q.lower d .start) h
  exact ⟨t', Except.ok.inj h ▸ hlower⟩

/-- A request that is compiled with fresh counters is one of its own. -/
theorem statementIn_of_lower (h : q.lower d .start = .ok (st, t')) :
    q.statementIn d = .ok st := by
  change (q.lower d .start >>= _) = _
  rw [h]
  rfl

/-- A nested select that has been written: its parameters are taken over. -/
theorem result_of_merge {bag own params : Params} {t₁ : Tally} {text text' : String}
    (h : ((liftM (bag.merge own) : Numbering Params) >>= fun params => pure (text, params)) t₁ =
      .ok ((text', params), t')) : text = text' ∧ t₁ = t' := by
  rw [Numbering.bind_liftM] at h
  obtain ⟨params, -, h⟩ := bind_eq_ok h
  obtain ⟨htext, rfl⟩ := Prod.mk.inj (Except.ok.inj h)
  exact ⟨(Prod.mk.inj htext).1, rfl⟩

/-- The select that is counted from outside. -/
theorem inner_of_countStatement {dialects : Dialects}
    (hd : dialects (q.table.poolOf .read) = .ok d) (hreshapes : q.reshapes = true)
    (h : q.countStatement dialects = .ok st) :
    ∃ inner, { q with orderBy := [] }.statementIn d = .ok inner ∧
      st.sql = d.count inner.sql ∧ inner.params = st.params := by
  rw [countStatement, hd] at h
  change (if q.reshapes then _ else _) = _ at h
  rw [if_pos hreshapes] at h
  obtain ⟨inner, hinner, h⟩ := bind_eq_ok h
  obtain rfl := Except.ok.inj h
  exact ⟨inner, hinner, rfl, rfl⟩

/-! ### Pages -/

/-- **Paging.** Wherever a select stands, the rows that are left are the page of those that it would
yield without paging, with the same parameters and counters, exactly if the engine can read both
numbers; otherwise it fails. This holds of the select alone, in a condition, behind an assignment,
and where its rows are counted. -/
theorem paging_exact {σ ω : Type} (e : Answering σ ω) (hselect : q.action = .select)
    {dialects : Dialects} (hd : dialects (q.table.poolOf .read) = .ok Sqlite.dialect) :
    (∀ st, q.statementIn Sqlite.dialect = .ok st →
      ∃ body, q.unpaged.statementIn Sqlite.dialect = .ok ⟨body, st.params⟩ ∧
        (e.Takes body → e.Follows body (fun around => e.Answers around st.sql)
          fun _ rows => q.reply e.hurried rows)) ∧
    (∀ t column text params t',
      (Operand.subquery q).lower Sqlite.dialect column t = .ok ((text, params), t') →
      ∃ body own, q.unpaged.lower Sqlite.dialect t = .ok (⟨body, own⟩, t') ∧
        (e.Takes body → e.Follows body (fun around => e.Amounts around text)
          fun around rows => e.among around column (q.reply e.hurried rows))) ∧
    (∀ t before text params t',
      (Assigned.subquery q).lower Sqlite.dialect before t = .ok ((text, params), t') →
      ∃ body own, q.unpaged.lower Sqlite.dialect t = .ok (⟨body, own⟩, t') ∧
        (e.Takes body → e.Follows body (fun around => e.Amounts around text)
          fun around rows => e.single around (q.reply e.hurried rows))) ∧
    (∀ st, q.reshapes = true → q.countStatement dialects = .ok st →
      ∃ body, { q.unpaged with orderBy := [] }.statementIn Sqlite.dialect =
          .ok ⟨body, st.params⟩ ∧
        (e.Takes body → e.Follows body (fun around => e.Answers around st.sql)
          fun _ rows => (q.reply e.hurried rows).map numberOf)) := by
  have hcut : ∀ rows : List Record,
      Sqlite.cut e.hurried (Sqlite.tail? q.limit q.offset) rows = q.reply e.hurried rows :=
    Sqlite.cut_tail? e.hurried q.limit q.offset
  refine ⟨fun st hst => ?_, fun t column text params t' h => ?_,
    fun t before text params t' h => ?_, fun st hreshapes hst => ?_⟩
  · obtain ⟨t', hlower⟩ := lower_of_statementIn hst
    obtain ⟨body, hbody, hsql⟩ := lower_paged hselect hlower
    refine ⟨body, statementIn_of_lower hbody, fun htakes => ?_⟩
    simp only [← hcut]
    exact htakes.follows (fun _ inner => inner) _ fun around o => by simp [hsql]
  · obtain ⟨⟨nested, t₁⟩, hlower, h⟩ := bind_eq_ok (x := q.lower Sqlite.dialect t) h
    obtain ⟨body, hbody, hsql⟩ := lower_paged hselect hlower
    obtain ⟨rfl, rfl⟩ := result_of_merge h
    refine ⟨body, nested.params, hbody, fun htakes => ?_⟩
    simp only [← hcut, hsql]
    exact htakes.follows (fun around => e.among around column) _ fun around o =>
      htakes.compared around column _ o
  · obtain ⟨⟨nested, t₁⟩, hlower, h⟩ := bind_eq_ok (x := q.lower Sqlite.dialect t) h
    obtain ⟨body, hbody, hsql⟩ := lower_paged hselect hlower
    obtain ⟨rfl, rfl⟩ := result_of_merge h
    refine ⟨body, nested.params, hbody, fun htakes => ?_⟩
    simp only [← hcut, hsql]
    exact htakes.follows e.single _ fun around o => htakes.assigned around _ o
  · obtain ⟨inner, hinner, hsql, hparams⟩ := inner_of_countStatement hd hreshapes hst
    obtain ⟨t', hlower⟩ := lower_of_statementIn hinner
    obtain ⟨body, hbody, hinner⟩ := lower_paged (q := { q with orderBy := [] }) hselect hlower
    refine ⟨body, hparams ▸ statementIn_of_lower hbody, fun htakes => ?_⟩
    simp only [← hcut, hsql, hinner]
    exact htakes.follows (fun _ inner => inner.map numberOf) _ fun around o =>
      htakes.counted around _ o

/-! ### Two people -/

/-- A select of the ages of all people. -/
def agesBody : String := "SELECT age FROM people"

/-- What it yields. -/
def agesRows : List Record := [[.integer 30], [.integer 40]]

/-- What stands between the last parentheses of a text that ends with one. -/
def inside (text : String) : String :=
  .ofList ((text.toList.reverse.drop 1).takeWhile (· ≠ '(')).reverse

/-- A text without a parenthesis is found between them. -/
theorem inside_eq (before text : String) (h : '(' ∉ text.toList) :
    inside (before ++ "(" ++ text ++ ")") = text := by
  have hnone : ∀ c ∈ text.toList.reverse, decide (c ≠ '(') = true := fun c hc =>
    decide_eq_true fun heq => h (heq ▸ List.mem_reverse.mp hc)
  have hrest : ∀ rest, ('(' :: rest).takeWhile (· ≠ '(') = [] := fun _ => rfl
  simp only [inside, String.toList_append, List.reverse_append]
  change String.ofList ((text.toList.reverse ++ ('(' :: _)).takeWhile _).reverse = _
  rw [List.takeWhile_append_of_pos hnone, hrest, List.append_nil, List.reverse_reverse,
    String.ofList_toList]

/-- An engine that knows this select, with any tail. -/
def sampleAnswering : Answering Unit Reply where
  Answers _ sql reply := ∃ tail,
    sql = agesBody ++ Sqlite.tailText tail ∧ reply = Sqlite.cut true tail agesRows ∨
    sql = Sqlite.dialect.count (agesBody ++ Sqlite.tailText tail) ∧
      reply = (Sqlite.cut true tail agesRows).map numberOf
  Amounts _ text o := ∃ tail,
    inside text = agesBody ++ Sqlite.tailText tail ∧ o = Sqlite.cut true tail agesRows
  among _ _ inner := inner
  single _ inner := inner
  hurried := true

section

variable (around : Unit) (tail : Option Sqlite.Tail) {reply : Reply}

/-- The letters of a statement that counts. -/
theorem toList_count (sql : String) :
    (Sqlite.dialect.count sql).toList =
      "SELECT COUNT(*) FROM (".toList ++ (sql.toList ++ ") AS counted".toList) := by
  rw [← List.append_assoc, ← String.toList_append, ← String.toList_append]
  rfl

/-- What is counted can be told. -/
theorem count_inj {sql sql' : String}
    (h : Sqlite.dialect.count sql = Sqlite.dialect.count sql') : sql = sql' := by
  have hlist := congrArg String.toList h
  rw [toList_count, toList_count] at hlist
  exact String.toList_inj.mp (List.append_cancel_right (List.append_cancel_left hlist))

/-- A tail behind this select can be told. -/
theorem tail_of_agesBody {tail tail' : Option Sqlite.Tail}
    (h : agesBody ++ Sqlite.tailText tail = agesBody ++ Sqlite.tailText tail') : tail = tail' := by
  have hlist := congrArg String.toList h
  rw [String.toList_append, String.toList_append] at hlist
  exact Sqlite.tailText_inj (String.toList_inj.mp (List.append_cancel_left hlist))

/-- This select does not count. -/
theorem agesBody_ne_count (tail tail' : Option Sqlite.Tail) :
    agesBody ++ Sqlite.tailText tail ≠
      Sqlite.dialect.count (agesBody ++ Sqlite.tailText tail') := by
  intro h
  have hlist := congrArg String.toList h
  rw [toList_count, String.toList_append] at hlist
  simp [agesBody] at hlist

/-- What is answered to this select with a tail. -/
theorem answers_ages :
    sampleAnswering.Answers around (agesBody ++ Sqlite.tailText tail) reply ↔
      reply = Sqlite.cut true tail agesRows := by
  constructor
  · rintro ⟨tail', ⟨htail, rfl⟩ | ⟨hcount, -⟩⟩
    · rw [tail_of_agesBody htail]
    · exact absurd hcount (agesBody_ne_count tail tail')
  · rintro rfl
    exact ⟨tail, .inl ⟨rfl, rfl⟩⟩

/-- What an expression around this select with a tail amounts to. -/
theorem amounts_ages (before : String) :
    sampleAnswering.Amounts around
        (before ++ "(" ++ (agesBody ++ Sqlite.tailText tail) ++ ")") reply ↔
      reply = Sqlite.cut true tail agesRows := by
  have hinside := inside_eq before (agesBody ++ Sqlite.tailText tail) (by
    rw [String.toList_append, List.mem_append, not_or]
    exact ⟨by decide, Sqlite.parenthesis_notMem_tailText tail⟩)
  constructor
  · rintro ⟨tail', htail, rfl⟩
    rw [hinside] at htail
    rw [tail_of_agesBody htail]
  · rintro rfl
    exact ⟨tail, hinside, rfl⟩

end

/-- The engine takes the select for what it is. -/
theorem takes_agesBody : sampleAnswering.Takes agesBody where
  paged _ _ tail reply := by
    have hrows : ∀ inner, sampleAnswering.Answers () agesBody inner ↔ inner = .ok agesRows :=
      fun inner => answers_ages () none
    rw [answers_ages () tail]
    constructor
    · rintro rfl
      exact ⟨agesRows, (hrows _).mpr rfl, rfl⟩
    · rintro ⟨rows, hinner, rfl⟩
      rw [Except.ok.inj ((hrows _).mp hinner)]
      rfl
  counted _ tail reply := by
    constructor
    · rintro ⟨tail', ⟨htail, -⟩ | ⟨hcount, rfl⟩⟩
      · exact absurd htail.symm (agesBody_ne_count tail' tail)
      · exact ⟨_, (answers_ages () tail).mpr rfl, by rw [tail_of_agesBody (count_inj hcount)]⟩
    · rintro ⟨inner, hinner, rfl⟩
      exact ⟨tail, .inr ⟨rfl, by rw [(answers_ages () tail).mp hinner]⟩⟩
  compared around column tail o := by
    have hleaf : Sqlite.leaf column (.subquery (agesBody ++ Sqlite.tailText tail)) =
        (column ++ " IN ") ++ "(" ++ (agesBody ++ Sqlite.tailText tail) ++ ")" := by
      simp only [Sqlite.leaf, String.append_assoc]
      rfl
    rw [hleaf, amounts_ages]
    simp only [answers_ages, exists_eq_left]
    rfl
  assigned around tail o := by
    have hvalue : sampleAnswering.Amounts around
        ("" ++ "(" ++ (agesBody ++ Sqlite.tailText tail) ++ ")") o ↔ _ :=
      amounts_ages around tail ""
    rw [String.empty_append] at hvalue
    rw [hvalue]
    simp only [answers_ages, exists_eq_left]
    rfl

/-- The second person of these. -/
def second : Query := { ages with limit := some 1, offset := 1 }

/-- The page of one person behind the first one is the second person, and one person is counted. -/
theorem paging_exact_second :
    (∃ st, second.statementIn Sqlite.dialect = .ok st ∧
      st.sql = "SELECT age FROM people LIMIT 1 OFFSET 1" ∧ sampleAnswering.Sure () agesBody ∧
      ∀ reply, sampleAnswering.Answers () st.sql reply ↔ reply = .ok [[.integer 40]]) ∧
    ∃ st, second.countStatement (fun _ => .ok Sqlite.dialect) = .ok st ∧
      st.sql = "SELECT COUNT(*) FROM (SELECT age FROM people LIMIT 1 OFFSET 1) AS counted" ∧
      ∀ reply, sampleAnswering.Answers () st.sql reply ↔ reply = .ok [[.integer 1]] := by
  have hrows : ∀ inner, sampleAnswering.Answers () agesBody inner ↔ inner = .ok agesRows :=
    fun inner => answers_ages () none
  have hsure : sampleAnswering.Sure () agesBody := fun inner hinner => by
    rw [(hrows inner).mp hinner]
    rfl
  have hfound : ∀ (reply : Reply) (found : List Record → Reply),
      (∃ rows, sampleAnswering.Answers () agesBody (.ok rows) ∧ reply = found rows) ↔
        reply = found agesRows :=
    fun reply found => ⟨fun ⟨rows, hinner, heq⟩ => Except.ok.inj ((hrows _).mp hinner) ▸ heq,
      fun heq => ⟨agesRows, (hrows _).mpr rfl, heq⟩⟩
  have hpage : second.reply true agesRows = .ok [[.integer 40]] := by decide +kernel
  have hnumber : (second.reply true agesRows).map numberOf = .ok [[.integer 1]] := by
    rw [hpage]
    rfl
  have hages : second.unpaged.statementIn Sqlite.dialect = .ok ⟨agesBody, .empty⟩ := rfl
  obtain ⟨halone, -, -, hcounted⟩ :=
    @paging_exact second _ _ sampleAnswering rfl (fun _ => .ok Sqlite.dialect) rfl
  constructor
  · refine ⟨⟨_, .empty⟩, rfl, rfl, hsure, fun reply => ?_⟩
    obtain ⟨body, hbody, hfollows⟩ := halone _ rfl
    obtain rfl : agesBody = body :=
      congrArg Statement.sql (Except.ok.inj (hages.symm.trans hbody))
    rw [← hpage]
    exact (hfollows takes_agesBody () hsure reply).trans (hfound reply (second.reply true))
  · refine ⟨⟨_, .empty⟩, rfl, rfl, fun reply => ?_⟩
    obtain ⟨body, hbody, hfollows⟩ := hcounted _ rfl rfl
    obtain rfl : agesBody = body :=
      congrArg Statement.sql (Except.ok.inj (hages.symm.trans hbody))
    rw [← hnumber]
    exact (hfollows takes_agesBody () hsure reply).trans
      (hfound reply fun rows => (second.reply true rows).map numberOf)

/-- Everyone, as long as there are no more than a number of 64 bits with a sign can tell. -/
def everyone : Query := { ages with limit := some 0x8000000000000000 }

/-- A database with one person. -/
def personFiles : Engine.Files :=
  ["CREATE TABLE people (id INTEGER PRIMARY KEY, age INTEGER)",
    "INSERT INTO people VALUES (1, 30)"].foldl
    (fun fs text => (Engine.wire 0 (.statement text .empty) fs).2) Link.sampleFiles

/-- **A limit that the engine does not read.** One person is found, and where at most
9223372036854775808 are asked for, none. -/
theorem everyone_refused :
    everyone.unpaged.statementIn Sqlite.dialect = .ok ⟨"SELECT age FROM people", .empty⟩ ∧
      (Engine.wire 0 (.statement "SELECT age FROM people" .empty) personFiles).1 =
        .answered [[.integer 30]] 0 ∧
      Sqlite.page everyone.limit everyone.offset [[Value.integer 30]] = [[.integer 30]] ∧
      everyone.statementIn Sqlite.dialect =
        .ok ⟨"SELECT age FROM people LIMIT 9223372036854775808", .empty⟩ ∧
      (Engine.wire 0 (.statement "SELECT age FROM people LIMIT 9223372036854775808" .empty)
        personFiles).1 = .refused Engine.mismatch := by
  refine ⟨rfl, ?_, rfl, ?_, ?_⟩
  · decide +kernel
  · decide +kernel
  · decide +kernel

end Query

end TableGateway
