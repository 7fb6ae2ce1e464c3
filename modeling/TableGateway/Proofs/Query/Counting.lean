import TableGateway.Proofs.Dialect.Spelling
import TableGateway.Proofs.Query.Selecting
import TableGateway.Proofs.Request.Dialects

/-!
# Counting the rows of a select

The rows of a select are counted by another statement. Where grouping, a condition on groups or
paging shapes the result, the whole select is counted from outside; otherwise its select list is
replaced by the count. Both bind the same values. The first always tells how many rows the select
yields, in whatever way its texts are understood. The second tells how many rows were kept before
anything was shown, and these are as many unless the select list aggregates or asks for distinct
rows.

## Main results

* `Query.countStatement_eq`: what the counting statement is.
* `Query.count_agrees_iff`: when it counts the rows of the select.
* `Query.oldest_miscounted`: a maximum is one row, but all rows that it is taken of are counted.
-/

namespace TableGateway

/-- What a statement asks of a select: its rows, or how many these are. -/
inductive Ask where
  | rows (c : Clauses)
  | number (c : Clauses)

namespace Ask

/-- How it is written. -/
def written (d : Dialect) : Ask → Except Error String
  | rows c => d.statement c
  | number c => do
    let sql ← d.statement c
    return d.count sql

end Ask

/-- What may be answered. -/
def Sense.Answers {ρ : Type} (sense : Sense ρ) : Ask → List Record → Prop
  | .rows c, answer => sense.Yields c answer
  | .number c, answer =>
    ∃ rows, sense.Yields c rows ∧ answer = [[.integer (Int64.ofNat rows.length)]]

namespace Query

variable {d : Dialect} {q : Query} {c : Clauses} {dialects : Dialects} {inline : Inliner}
  {t : Tally}

/-- What the counting statement asks of a select with the clauses `c`. -/
def countAsk (q : Query) (c : Clauses) : Ask :=
  if q.reshapes then .number { c with orderBy := [] }
  else .rows { c with orderBy := [], columns := rowCount.columns }

/-! ### The counting statement -/

/-- The clauses of a select with another select list and without its ordering. -/
theorem clauses_counted (hselect : q.action = .select) (projection : Option Projection) :
    clauses d inline t { q with orderBy := [], projection := projection } =
      q.clauses d inline t >>= fun c => pure { c with
        orderBy := [], columns := (Projection.selected q.table projection q.joins).columns } := by
  obtain ⟨table, action, _, assignments, joins, filter, having, groupBy, orderBy, limit,
    offset⟩ := q
  obtain rfl : action = .select := hselect
  rw [clauses, clauses, bind_assoc]
  refine bind_congr fun filterText => ?_
  rw [bind_assoc]
  rfl

/-- A condition has a text where there is one. -/
theorem writeFilter_isSome {f : Option Condition} {text : Option String}
    (h : writeFilter d inline t f = .ok text) : text.isSome = f.isSome := by
  cases f with
  | none => exact Except.ok.inj h ▸ rfl
  | some c =>
      obtain ⟨text, -, h⟩ := bind_eq_ok h
      exact Except.ok.inj h ▸ rfl

/-- What of the clauses of a select is the request's own. -/
theorem clauses_select (hselect : q.action = .select) (h : q.clauses d inline t = .ok c) :
    c.action = .select ∧ c.columns = q.selection.columns ∧ c.groupBy = q.groupBy ∧
      c.having.isSome = q.having.isSome ∧ c.limit = q.limit ∧ c.offset = q.offset := by
  have hc := clauses_asWritten hselect h
  exact ⟨hc.action, hc.columns, hc.groupBy, writeFilter_isSome hc.having, hc.limit, hc.offset⟩

/-- The statement of a request with certain clauses. -/
theorem statementIn_of_clauses (h : q.clauses d (Query.text d) .start = .ok c) :
    q.statementIn d = d.statement c >>= fun sql => pure ⟨sql, bag 0 q.walk⟩ := by
  rw [statementIn_eq, text_eq, h]
  rfl

/-- **The counting statement.** It binds what the request binds. -/
theorem countStatement_eq (hd : dialects (q.table.poolOf .read) = .ok d)
    (hselect : q.action = .select) (h : q.clauses d (Query.text d) .start = .ok c) :
    q.countStatement dialects =
      (q.countAsk c).written d >>= fun sql => pure ⟨sql, bag 0 q.walk⟩ := by
  have hcounted : ∀ projection, statementIn d { q with orderBy := [], projection := projection } =
      d.statement { c with
        orderBy := [], columns := (Projection.selected q.table projection q.joins).columns } >>=
        fun sql => pure ⟨sql, bag 0 q.walk⟩ := fun projection => by
    rw [← walk_counted q projection]
    refine statementIn_of_clauses ?_
    rw [clauses_counted hselect, h]
    rfl
  rw [countStatement, hd]
  change (if q.reshapes then _ else _) = _
  unfold countAsk
  split_ifs
  · have hcolumns : c.columns = (Projection.selected q.table q.projection q.joins).columns :=
      (clauses_select hselect h).2.1
    rw [hcounted q.projection, ← hcolumns, Ask.written, bind_assoc, bind_assoc]
    rfl
  · exact hcounted (some rowCount)

/-! ### What is counted -/

/-- Small numbers are told apart as 64-bit integers. -/
theorem ofNat_inj {m n : Nat} (hm : m < 2 ^ 63) (hn : n < 2 ^ 63) :
    Int64.ofNat m = Int64.ofNat n ↔ m = n := by
  refine ⟨fun h => ?_, congrArg _⟩
  have hint := congrArg Int64.toInt h
  rw [Int64.toInt_ofNat_of_lt hm, Int64.toInt_ofNat_of_lt hn] at hint
  exact Int.ofNat.inj hint

/-- What does not shape the result of a request. -/
theorem of_not_reshapes (h : q.reshapes = false) :
    q.groupBy = [] ∧ q.having = none ∧ q.limit = none ∧ q.offset = 0 := by
  simp only [reshapes, Bool.or_eq_false_iff, Bool.not_eq_false', List.isEmpty_iff,
    Option.isSome_eq_false_iff, Option.isNone_iff_eq_none, decide_eq_false_iff_not] at h
  obtain ⟨⟨⟨hgroup, hhaving⟩, hlimit⟩, hoffset⟩ := h
  exact ⟨hgroup, hhaving, hlimit,
    by simpa [UInt64.lt_iff_toNat_lt, ← UInt64.toNat_inj] using hoffset⟩

variable {ρ : Type} {sense : Sense ρ} {rows counted : List Record}

/-- **Counted from outside.** The number is that of the rows. -/
theorem counted_of_reshapes (h : q.reshapes = true) (hrows : sense.Yields c rows)
    (hcounted : sense.Answers (q.countAsk c) counted) :
    counted = [[.integer (Int64.ofNat rows.length)]] := by
  rw [countAsk, if_pos h] at hcounted
  obtain ⟨inner, hinner, rfl⟩ := hcounted
  rw [hrows.length_eq, hinner.length_eq]
  rfl

/-- **Counted by its select list.** The number is that of the rows that were kept, and it is that of
the rows of the select exactly if these are separate. -/
theorem counted_of_not_reshapes (h : q.reshapes = false) (hselect : q.action = .select)
    (hc : q.clauses d inline t = .ok c) (hrows : sense.Yields c rows)
    (hcounted : sense.Answers (q.countAsk c) counted) (hsmall : (sense.kept c).length < 2 ^ 63) :
    counted = [[.integer (Int64.ofNat (sense.kept c).length)]] ∧
      (Int64.ofNat (sense.kept c).length = Int64.ofNat rows.length ↔ sense.Separate c) := by
  obtain ⟨hgroup, hhaving, hlimit, hoffset⟩ := of_not_reshapes h
  obtain ⟨-, -, hgroup', hhaving', hlimit', hoffset'⟩ := clauses_select hselect hc
  rw [hgroup] at hgroup'
  rw [hhaving, Option.isSome_none, Option.isSome_eq_false_iff, Option.isNone_iff_eq_none]
    at hhaving'
  rw [hlimit] at hlimit'
  rw [hoffset] at hoffset'
  rw [countAsk, if_neg (by simp [h])] at hcounted
  refine ⟨Sense.Yields.eq_number (c := { c with orderBy := [], columns := rowCount.columns }) rfl
    hgroup' hhaving' hlimit' hoffset' hcounted, ?_⟩
  have hlength : rows.length = sense.size c := by
    rw [hrows.length_eq, Sense.pageSize_all hlimit' hoffset']
  have hsize : sense.size c < 2 ^ 63 :=
    (Sense.size_le hgroup' hhaving').trans_lt (max_lt (by decide) hsmall)
  rw [hlength, ofNat_inj hsmall hsize, eq_comm]
  exact Sense.size_eq_kept_iff hgroup' hhaving'

/-- **When the rows are counted.** Of every select that can be written, in any dialect: the counting
statement is written from the same clauses and binds the same values. Whatever the texts mean on
whatever the database holds, and whichever rows the select and the counting statement are answered,
the number is that of the rows exactly if the select is counted from outside, or else if one row is
shown for every kept one. -/
theorem count_agrees_iff {st : Statement} (hall : Verb.all.statement dialects q = .ok st) :
    ∃ d c, dialects (q.table.poolOf .read) = .ok d ∧
      q.clauses d (Query.text d) .start = .ok c ∧ d.statement c = .ok st.sql ∧
      Verb.count.statement dialects q =
        ((q.countAsk c).written d >>= fun sql => pure ⟨sql, st.params⟩) ∧
      ∀ st', Verb.count.statement dialects q = .ok st' → st'.params = st.params ∧
        ∀ (ρ : Type) (senses : Params → Sense ρ) (rows counted : List Record),
          (senses st.params).Yields c rows →
          (senses st'.params).Answers (q.countAsk c) counted →
          (q.reshapes = false → ((senses st.params).kept c).length < 2 ^ 63) →
          ∃ rs n, Verb.all.outcome q (.rows rows) = .rows rs ∧
            Verb.count.outcome q (.row counted.head?) = .total n ∧
            (n = Int64.ofNat rs.length ↔
              q.reshapes = true ∨ (senses st.params).Separate c) := by
  have hselect := Verb.mode_of_written hall (by simp)
  have hmode : q.mode = .read := if_pos hselect
  rw [Verb.statement_of_select hselect, if_neg (by simp)] at hall
  obtain ⟨d, hd, hst⟩ := bind_eq_ok hall
  rw [hmode] at hd
  rw [statementIn_eq, text_eq] at hst
  obtain ⟨sql, hsql, hst⟩ := bind_eq_ok hst
  obtain ⟨c, hc, hsql⟩ := bind_eq_ok hsql
  obtain rfl := Except.ok.inj hst
  have hcount : Verb.count.statement dialects q =
      ((q.countAsk c).written d >>= fun sql => pure ⟨sql, bag 0 q.walk⟩) := by
    rw [Verb.statement_of_select hselect, if_pos rfl]
    exact countStatement_eq hd hselect hc
  refine ⟨d, c, hd, hc, hsql, hcount, fun st' hst' => ?_⟩
  rw [hcount] at hst'
  obtain ⟨sql', -, hst'⟩ := bind_eq_ok hst'
  obtain rfl := Except.ok.inj hst'
  refine ⟨rfl, fun ρ senses rows counted hrows hcounted hsmall => ?_⟩
  cases hreshapes : q.reshapes with
  | true =>
      obtain rfl := counted_of_reshapes hreshapes hrows hcounted
      exact ⟨_, _, rfl, rfl, iff_of_true (by rw [List.length_map]; rfl) (.inl rfl)⟩
  | false =>
      obtain ⟨rfl, hseparate⟩ := counted_of_not_reshapes hreshapes hselect hc hrows hcounted
        (hsmall hreshapes)
      refine ⟨_, _, rfl, rfl, ?_⟩
      rw [List.length_map]
      exact hseparate.trans (by simp)

/-! ### A maximum -/

/-- A table of people. -/
def persons : Table where
  name := "people"
  columns := ["id", "age"]
  primaryKey := "id"
  readPool := "default"
  writePool := "default"
  key_mem := List.mem_cons_self

/-- What texts mean where two people are 30 and 40 years old. Every expression but the number of
rows is the greatest age. -/
def sampleSense : Sense Nat where
  content _ _ := [30, 40]
  unknown := 0
  beside age _ := age
  value e group :=
    if e = "COUNT(*)" then .integer (Int64.ofNat group.length)
    else .integer (Int64.ofNat (group.foldl max 0))
  whole group := group.map fun age => .integer (Int64.ofNat age)
  holds _ _ := true
  equal a b := decide (a = b)
  less _ _ := false
  face := id
  aggregates e := e == "COUNT(*)" || e == "MAX(age)"
  distinct _ := false
  aggregates_count := rfl
  distinct_count := rfl
  value_count _ := rfl

/-- The ages of these people. -/
def ages : Query := { Query.new persons .select with projection := some (.plain ["age"]) }

/-- Two ages are two rows, and two are counted. -/
theorem count_agrees_iff_ages :
    ∃ st st' c rows counted rs n,
      Verb.all.statement (fun _ => .ok Sqlite.dialect) ages = .ok st ∧
      Verb.count.statement (fun _ => .ok Sqlite.dialect) ages = .ok st' ∧
      sampleSense.Yields c rows ∧ sampleSense.Answers (ages.countAsk c) counted ∧
      Verb.all.outcome ages (.rows rows) = .rows rs ∧ rs.length = 2 ∧
      Verb.count.outcome ages (.row counted.head?) = .total n ∧ n = Int64.ofNat rs.length := by
  obtain ⟨st, hst⟩ : ∃ st, Verb.all.statement (fun _ => .ok Sqlite.dialect) ages = .ok st :=
    ⟨_, rfl⟩
  obtain ⟨st', hst'⟩ : ∃ st, Verb.count.statement (fun _ => .ok Sqlite.dialect) ages = .ok st :=
    ⟨_, rfl⟩
  obtain ⟨d, c, hd, hc, -, -, hall⟩ := count_agrees_iff hst
  obtain rfl := Except.ok.inj hd
  obtain rfl : { action := .select, table := "people", columns := [⟨"age", "age"⟩] } = c :=
    Except.ok.inj hc
  have hyields : sampleSense.Yields
      { action := .select, table := "people", columns := [⟨"age", "age"⟩] }
      [[.integer 30], [.integer 40]] :=
    ⟨[[30], [40]], .refl _, by simp [Sense.mayPrecede], rfl⟩
  have hanswers : sampleSense.Answers (ages.countAsk
      { action := .select, table := "people", columns := [⟨"age", "age"⟩] }) [[.integer 2]] :=
    ⟨[[30, 40]], .refl _, by simp, rfl⟩
  obtain ⟨rs, n, hrs, hn, hiff⟩ := (hall st' hst').2 Nat (fun _ => sampleSense) _ _ hyields hanswers
    fun _ => by decide
  have hagrees := hiff.mpr (.inr (Sense.separate_of_plain rfl (by decide)))
  refine ⟨st, st', _, _, _, rs, n, hst, hst', hyields, hanswers, hrs, ?_, hn, hagrees⟩
  exact Outcome.rows.inj hrs ▸ rfl

/-- The age of the oldest of them. -/
def oldest : Query :=
  { Query.new persons .select with projection := some (.renamed [("m", "MAX(age)")]) }

/-- **A maximum is one row.** The counting statement tells how many people there are. -/
theorem oldest_miscounted :
    ∃ st st' c rows counted n,
      Verb.all.statement (fun _ => .ok Sqlite.dialect) oldest = .ok st ∧
      Verb.count.statement (fun _ => .ok Sqlite.dialect) oldest = .ok st' ∧
      oldest.clauses Sqlite.dialect (Query.text Sqlite.dialect) .start = .ok c ∧
      (Ask.rows c).written Sqlite.dialect = .ok st.sql ∧
      (oldest.countAsk c).written Sqlite.dialect = .ok st'.sql ∧
      sampleSense.Yields c rows ∧ sampleSense.Answers (oldest.countAsk c) counted ∧
      Verb.count.outcome oldest (.row counted.head?) = .total n ∧
      n ≠ Int64.ofNat rows.length :=
  ⟨_, _, _, [[.integer 40]], [[.integer 2]], 2, rfl, rfl, rfl, rfl, rfl,
    ⟨[[30, 40]], .refl _, by simp, rfl⟩, ⟨[[30, 40]], .refl _, by simp, rfl⟩, rfl, by decide⟩

end Query

end TableGateway
