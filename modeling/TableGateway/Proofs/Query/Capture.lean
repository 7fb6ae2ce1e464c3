import TableGateway.Proofs.Dialect.Spelling
import TableGateway.Proofs.Query.Embedding
import TableGateway.Proofs.Query.Inlining

/-!
# Aliases of embedded selects

The `k`-th table that a select joins is called `j<k>` as long as nothing was joined before, and
the columns of a select are written by its author under that assumption. Inside a request that
joined `m` tables before it, the table is called `j<m + k>`, while the columns stay as they are
written. This module says exactly when that shows in the SQLite text of an embedded select: as soon
as there is a join before it and a join in it. And that text is the one that gets into the statement
of the request around it.

## Main results

* `AlikeUpTo.eq`: two texts that part at a number are different when the numbers are.
* `Query.text_parts`: the texts of a select that joins anything part at the first alias.
* `Query.embedded_text_iff`: an embedded select is its text on its own up to parameter numbers
  exactly when no table is joined before it or none is joined in it.
* `Query.embedded_select_exact`: what is written of an embedded select, and how it gets into the
  statement around it.
-/

namespace TableGateway

open TableGateway.Numbering

/-! ### Texts that part at a number -/

/-- Two texts that begin alike, up to the number `m` in one and `m'` in the other. -/
def AlikeUpTo (m m' : Nat) (s s' : String) : Prop :=
  ∃ pre rest rest' : List Char,
    s.toList = pre ++ (Nat.toDigits 10 m ++ rest) ∧
    s'.toList = pre ++ (Nat.toDigits 10 m' ++ rest') ∧ EndsNumber rest ∧ EndsNumber rest'

namespace AlikeUpTo

variable {m m' : Nat} {s s' : String}

/-- A text parts from itself at equal numbers only. -/
theorem eq (h : AlikeUpTo m m' s s) : m = m' := by
  obtain ⟨pre, rest, rest', hs, hs', hrest, hrest'⟩ := h
  rw [hs] at hs'
  exact eq_of_digits_append hrest hrest' (List.append_cancel_left hs')

/-- Two texts still part at the number when both are written behind the same text and nothing that
follows goes on with a digit. -/
theorem within (h : AlikeUpTo m m' s s') (before : String) {after after' : String}
    (ha : EndsNumber after.toList) (ha' : EndsNumber after'.toList) :
    AlikeUpTo m m' (before ++ s ++ after) (before ++ s' ++ after') := by
  obtain ⟨pre, rest, rest', hs, hs', hrest, hrest'⟩ := h
  refine ⟨before.toList ++ pre, rest ++ after.toList, rest' ++ after'.toList, ?_, ?_,
    hrest.append ha, hrest'.append ha'⟩
  · simp only [String.toList_append, hs, List.append_assoc]
  · simp only [String.toList_append, hs', List.append_assoc]

end AlikeUpTo

/-! ### Conditions and clauses -/

/-- Two texts in parentheses with a word between them part where the left ones do, or where the
right ones do behind equal left ones. -/
theorem AlikeUpTo.sides {m m' : Nat} {l l' r r' mid : String} (hmid : StartsWith ')' mid)
    (h : AlikeUpTo m m' l l' ∨ l = l' ∧ AlikeUpTo m m' r r') :
    AlikeUpTo m m' ("(" ++ l ++ mid ++ r ++ ")") ("(" ++ l' ++ mid ++ r' ++ ")") := by
  have hclose : EndsNumber ")".toList := endsNumber_cons (by decide) []
  rcases h with hl | ⟨rfl, hr⟩
  · have hafter : ∀ s : String, EndsNumber (mid ++ s ++ ")").toList := fun s =>
      (((hmid.append s).append ")").endsName (by decide)).endsNumber
    simpa only [String.append_assoc] using hl.within "(" (hafter r) (hafter r')
  · exact hr.within ("(" ++ l ++ mid) hclose hclose

namespace Sqlite

/-- One joined table under two aliases. -/
theorem joinClause_alike (j : Join) (source : String) (m m' : Nat) :
    AlikeUpTo m m' (joinClause (j.entry source (aliasName m)))
      (joinClause (j.entry source (aliasName m'))) := by
  have hon : ∀ entry : JoinEntry, EndsNumber (if entry.pairs.isEmpty then "" else " ON " ++
      joinWith " AND " (entry.pairs.map fun p => p.1 ++ " = " ++ p.2)).toList := by
    intro entry
    have hblank : StartsWith ' ' " ON " := ⟨_, rfl⟩
    split
    · exact endsNumber_nil
    · exact (hblank.append _).endsName_blank.endsNumber
  have hname : AlikeUpTo m m' (aliasName m) (aliasName m') :=
    ⟨['j'], [], [], by simp [toList_aliasName], by simp [toList_aliasName], endsNumber_nil,
      endsNumber_nil⟩
  exact hname.within (" " ++ j.kind.keyword ++ " JOIN " ++ j.table.name ++ " AS ") (hon _) (hon _)

section

variable {c c' : Clauses} {m m' : Nat}

/-- Two selects that join a table first, under different aliases. -/
theorem selectText_alike_join {j : Join} {source : String} {joins joins' : List JoinEntry}
    (htable : c.table = c'.table) (hcolumns : c.columns = c'.columns)
    (hj : c.joins = j.entry source (aliasName m) :: joins)
    (hj' : c'.joins = j.entry source (aliasName m') :: joins') :
    AlikeUpTo m m' (selectText c) (selectText c') := by
  have hafter : ∀ (rest : List JoinEntry) (c : Clauses),
      EndsNumber (joinWith "" (rest.map joinClause) ++ conditionClause "WHERE" c.filter ++
        selectTail c).toList := fun rest c =>
    (endsName_append (endsName_append (endsName_joins rest) (endsName_conditionClause _ _))
      (endsName_selectTail c)).endsNumber
  have halike := (joinClause_alike j source m m').within
    ("SELECT " ++ selectList c'.columns ++ " FROM " ++ c'.table) (hafter joins c)
    (hafter joins' c')
  simpa only [selectText, selectHead, htable, hcolumns, hj, hj', joinWith_joinClause,
    String.append_assoc] using halike

/-- Two selects that part in their conditions on rows. -/
theorem selectText_alike_filter {f f' : String} (hhead : selectHead c = selectHead c')
    (hf : c.filter = some f) (hf' : c'.filter = some f') (h : AlikeUpTo m m' f f') :
    AlikeUpTo m m' (selectText c) (selectText c') := by
  have halike := h.within (selectHead c' ++ " " ++ "WHERE" ++ " ")
    (endsName_selectTail c).endsNumber (endsName_selectTail c').endsNumber
  simpa only [selectText, conditionClause, hhead, hf, hf', String.append_assoc] using halike

/-- Two selects that part in their conditions on groups. -/
theorem selectText_alike_having {g g' : String} (hhead : selectHead c = selectHead c')
    (hfilter : c.filter = c'.filter) (hgroup : c.groupBy = c'.groupBy) (hg : c.having = some g)
    (hg' : c'.having = some g') (h : AlikeUpTo m m' g g') :
    AlikeUpTo m m' (selectText c) (selectText c') := by
  have hafter : ∀ c : Clauses, EndsNumber (listClause "ORDER BY"
      (c.orderBy.map fun p => p.1 ++ " " ++ p.2.keyword) ++
        paging c.limit c.offset).toList := fun c =>
    (endsName_append (endsName_listClause _ _) (endsName_paging _ _)).endsNumber
  have halike := h.within (selectHead c' ++ conditionClause "WHERE" c'.filter ++
    listClause "GROUP BY" c'.groupBy ++ " " ++ "HAVING" ++ " ") (hafter c) (hafter c')
  rw [selectText, selectText, selectTail, selectTail, hhead, hfilter, hgroup, hg, hg']
  simpa only [conditionClause, String.append_assoc] using halike

end

end Sqlite

/-! ### Selects that nest selects -/

/-- A select in which only selects are nested, as every operand and assigned value that is built
from a request is one. -/
structure Query.SelectsOnly (q : Query) : Prop where
  self : q.action = .select
  nested : ∀ r, .select r ∈ q.walk → r.action = .select

namespace Query

/-- A select that is nested in such a select is one too. -/
theorem SelectsOnly.of_nested {q r : Query} (h : q.SelectsOnly) (hr : .select r ∈ q.walk) :
    r.SelectsOnly :=
  ⟨h.nested r hr, fun p hp => h.nested p (mem_walk_of_nested hr hp)⟩

/-- The clauses of a request have its action and read its table under the table's name. -/
theorem clauses_head {d : Dialect} {inline : Inliner} {q : Query} {t : Tally} {c : Clauses}
    (h : q.clauses d inline t = .ok c) : c.action = q.action ∧ c.table = q.table.name := by
  obtain ⟨table, action, projection, assignments, joins, filter, having, groupBy, orderBy, limit,
    offset⟩ := q
  cases action with
  | select | update =>
      obtain ⟨_, -, h⟩ := bind_eq_ok h
      obtain ⟨_, -, h⟩ := bind_eq_ok h
      rw [← Except.ok.inj h]
      exact ⟨rfl, rfl⟩
  | insert | delete =>
      obtain ⟨_, -, h⟩ := bind_eq_ok h
      rw [← Except.ok.inj h]
      exact ⟨rfl, rfl⟩

/-- Such a select compiles to SQLite: an error would be the dialect's answer to a select. -/
theorem SelectsOnly.compiles {q : Query} (h : q.SelectsOnly) (t : Tally) :
    ∃ sql, q.text Sqlite.dialect t = .ok sql := by
  cases htext : q.text Sqlite.dialect t with
  | ok sql => exact ⟨sql, rfl⟩
  | error e =>
      obtain ⟨r, u, c, hwrites, hc, hd⟩ := text_error htext
      have hr : r.action = .select := by
        rcases hwrites with ⟨rfl, -⟩ | hmeets
        · exact h.self
        · exact h.nested r hmeets.mem
      have hselect := Sqlite.statement_select ((clauses_head hc).1.trans hr)
      exact absurd (hselect.symm.trans hd) pure_ne_error

end Query

/-! ### Where nothing is joined -/

section

variable {d : Dialect} {t t' : Tally}

/-- Without joins the aliases stay where they are. -/
theorem Tally.after_aliases_of_unjoined {w : List Met} (h : ∀ j, .join j ∉ w) (t : Tally) :
    (t.after w).aliases = t.aliases := by
  have hcount : w.countP Met.isJoin = 0 := by
    refine List.countP_eq_zero.mpr fun x hx => ?_
    cases x with
    | join j => exact absurd hx (h j)
    | value v | list vs | select q => simp [Met.isJoin]
  rw [Tally.after_aliases, hcount, Nat.add_zero]

/-- Nested selects have the text that they have from raised counters. -/
theorem Query.text_agree (d : Dialect) (n : Nat) (w : List Met) :
    Inliner.Agree n (Query.text d) (Query.text (d.raised n)) w :=
  fun _ _ _ _ h => Query.text_raised d h

/-- A condition without joins has one text for all counters of joined tables. -/
theorem Condition.write_unjoined {c : Condition} (hp : t.params = t'.params)
    (h : ∀ j, .join j ∉ c.walk) :
    c.write d (Query.text d) t = c.write d (Query.text d) t' := by
  have hraised : Raised 0 c.walk t t' := ⟨by omega, .inr h⟩
  have hsame : Raised 0 c.walk t' t' := ⟨by omega, .inl rfl⟩
  rw [Condition.write_raised (Query.text_agree d 0 c.walk) hraised,
    Condition.write_raised (Query.text_agree d 0 c.walk) hsame]

/-- The same for a condition that may be missing. -/
theorem writeFilter_unjoined {f : Option Condition} (hp : t.params = t'.params)
    (h : ∀ j, .join j ∉ walkFilter f) :
    writeFilter d (Query.text d) t f = writeFilter d (Query.text d) t' f := by
  cases f with
  | none => rfl
  | some c => rw [writeFilter, writeFilter, Condition.write_unjoined hp h]

end

/-! ### Where something is joined -/

/-- From counters of the same parameters, the two texts of `q` part at its first alias. -/
def Query.Parts (q : Query) : Prop :=
  ∀ t t' s s', t.params = t'.params → q.text Sqlite.dialect t = .ok s →
    q.text Sqlite.dialect t' = .ok s' → AlikeUpTo (t.aliases + 1) (t'.aliases + 1) s s'

section

variable {t t' : Tally}

/-- A condition that joins something. What stands before the first alias is written alike, since
nothing there is joined. -/
theorem Condition.write_alike {c : Condition}
    (hin : ∀ r, .select r ∈ c.walk → (∃ j, .join j ∈ r.walk) → r.Parts)
    (hp : t.params = t'.params) (hj : ∃ j, .join j ∈ c.walk) {s s' : String}
    (hs : c.write Sqlite.dialect (Query.text Sqlite.dialect) t = .ok s)
    (hs' : c.write Sqlite.dialect (Query.text Sqlite.dialect) t' = .ok s') :
    AlikeUpTo (t.aliases + 1) (t'.aliases + 1) s s' := by
  induction c using Condition.induction generalizing t t' s s' with
  | leaf column operand =>
      obtain ⟨j, hj⟩ := hj
      cases operand with
      | scalar v | list vs | null => simp [Condition.walk, Operand.walk] at hj
      | subquery q =>
          obtain ⟨sql, hq, hs⟩ := bind_eq_ok hs
          obtain ⟨sql', hq', hs'⟩ := bind_eq_ok hs'
          obtain rfl := Except.ok.inj hs
          obtain rfl := Except.ok.inj hs'
          have hjq : .join j ∈ q.walk := by simpa [Condition.walk, Operand.walk] using hj
          have hparts := hin q (List.mem_cons_self ..) ⟨j, hjq⟩ t t' sql sql' hp hq hq'
          exact hparts.within (column ++ " IN (") (endsNumber_cons (by decide) _)
            (endsNumber_cons (by decide) _)
  | conj left right ihl ihr | disj left right ihl ihr =>
      obtain ⟨l, hl, hs⟩ := bind_eq_ok hs
      obtain ⟨r, hr, hs⟩ := bind_eq_ok hs
      obtain ⟨l', hl', hs'⟩ := bind_eq_ok hs'
      obtain ⟨r', hr', hs'⟩ := bind_eq_ok hs'
      obtain rfl := Except.ok.inj hs
      obtain rfl := Except.ok.inj hs'
      refine AlikeUpTo.sides ⟨_, rfl⟩ ?_
      by_cases hjl : ∃ j, .join j ∈ left.walk
      · exact .inl (ihl (fun r hr => hin r (List.mem_append_left _ hr)) hp hjl hl hl')
      · have hnone : ∀ j, .join j ∉ left.walk := not_exists.mp hjl
        have hleft := Condition.write_unjoined (d := Sqlite.dialect) hp hnone
        have hjr : ∃ j, .join j ∈ right.walk :=
          hj.imp fun j hj => (List.mem_append.mp hj).resolve_left (hnone j)
        have hafter : (t.after left.walk).params = (t'.after left.walk).params := by
          rw [Tally.after_params, Tally.after_params, hp]
        have hright := ihr (fun r hr => hin r (List.mem_append_right _ hr)) hafter hjr hr hr'
        rw [Tally.after_aliases_of_unjoined hnone, Tally.after_aliases_of_unjoined hnone] at hright
        exact .inr ⟨Except.ok.inj (hl.symm.trans (hleft.trans hl')), hright⟩

/-- A condition that joins something and may be missing: then it is there. -/
theorem writeFilter_alike {f : Option Condition}
    (hin : ∀ r, .select r ∈ walkFilter f → (∃ j, .join j ∈ r.walk) → r.Parts)
    (hp : t.params = t'.params) (hj : ∃ j, .join j ∈ walkFilter f) {o o' : Option String}
    (ho : writeFilter Sqlite.dialect (Query.text Sqlite.dialect) t f = .ok o)
    (ho' : writeFilter Sqlite.dialect (Query.text Sqlite.dialect) t' f = .ok o') :
    ∃ s s', o = some s ∧ o' = some s' ∧ AlikeUpTo (t.aliases + 1) (t'.aliases + 1) s s' := by
  cases f with
  | none =>
      obtain ⟨j, hj⟩ := hj
      simp [walkFilter] at hj
  | some c =>
      obtain ⟨s, hs, ho⟩ := bind_eq_ok ho
      obtain ⟨s', hs', ho'⟩ := bind_eq_ok ho'
      exact ⟨s, s', (Except.ok.inj ho).symm, (Except.ok.inj ho').symm,
        Condition.write_alike hin hp hj hs hs'⟩

/-- One level of a select: the first alias is one of its own joins, or of its condition on rows, or
of its condition on groups. -/
theorem Query.parts_of_nested {q : Query} (hq : q.SelectsOnly)
    (hin : ∀ r, .select r ∈ q.walk → (∃ j, .join j ∈ r.walk) → r.Parts)
    (hj : ∃ j, .join j ∈ q.walk) : q.Parts := by
  intro t t' s s' hp hs hs'
  rw [Query.text_eq] at hs hs'
  obtain ⟨c, hc, hs⟩ := bind_eq_ok hs
  obtain ⟨c', hc', hs'⟩ := bind_eq_ok hs'
  have hsql := (Sqlite.statement_select ((clauses_head hc).1.trans hq.self)).symm.trans hs
  have hsql' := (Sqlite.statement_select ((clauses_head hc').1.trans hq.self)).symm.trans hs'
  obtain rfl := Except.ok.inj hsql
  obtain rfl := Except.ok.inj hsql'
  obtain ⟨table, action, projection, assignments, joins, filter, having, groupBy, orderBy, limit,
    offset⟩ := q
  obtain rfl : action = .select := hq.self
  obtain ⟨o, ho, hc⟩ := bind_eq_ok hc
  obtain ⟨g, hg, hc⟩ := bind_eq_ok hc
  obtain ⟨o', ho', hc'⟩ := bind_eq_ok hc'
  obtain ⟨g', hg', hc'⟩ := bind_eq_ok hc'
  obtain rfl := Except.ok.inj hc
  obtain rfl := Except.ok.inj hc'
  have hinf : ∀ r, .select r ∈ walkFilter filter → (∃ j, .join j ∈ r.walk) → r.Parts :=
    fun r hr => hin r (List.mem_append_right _ (List.mem_append_left _ hr))
  have hinh : ∀ r, .select r ∈ walkFilter having → (∃ j, .join j ∈ r.walk) → r.Parts :=
    fun r hr => hin r (List.mem_append_right _ (List.mem_append_right _ hr))
  cases joins with
  | cons j joins => exact Sqlite.selectText_alike_join rfl rfl rfl rfl
  | nil =>
      by_cases hjf : ∃ j, .join j ∈ walkFilter filter
      · obtain ⟨f, f', rfl, rfl, halike⟩ := writeFilter_alike hinf hp hjf ho ho'
        exact Sqlite.selectText_alike_filter rfl rfl rfl halike
      · have hnone : ∀ j, .join j ∉ walkFilter filter := not_exists.mp hjf
        have hjh : ∃ j, .join j ∈ walkFilter having :=
          hj.imp fun j hj => (List.mem_append.mp hj).resolve_left (hnone j)
        have hafter : (t.after (walkFilter filter)).params =
            (t'.after (walkFilter filter)).params := by
          rw [Tally.after_params, Tally.after_params, hp]
        obtain rfl := Except.ok.inj (ho.symm.trans ((writeFilter_unjoined hp hnone).trans ho'))
        obtain ⟨g, g', rfl, rfl, halike⟩ := writeFilter_alike hinh hafter hjh hg hg'
        rw [Tally.after_aliases_of_unjoined hnone, Tally.after_aliases_of_unjoined hnone] at halike
        exact Sqlite.selectText_alike_having rfl rfl rfl rfl rfl halike

end

/-- **Parting.** The texts of a select that joins anything, itself or in a nested select, part at
its first alias. By induction over nesting. -/
theorem Query.text_parts {q : Query} (hq : q.SelectsOnly) (hj : ∃ j, .join j ∈ q.walk) :
    q.Parts := by
  induction q using Query.nested_induction with
  | step q ih =>
      exact Query.parts_of_nested hq (fun r hr hjr => ih r hr (hq.of_nested hr) hjr) hj

/-! ### Embedded and stand-alone texts -/

namespace Query

/-- The text of a request of its own is its text from fresh counters. -/
theorem text_start (d : Dialect) (q : Query) :
    q.text d .start = (q.statementIn d).map Statement.sql := by
  rw [statementIn_eq]
  cases q.text d .start <;> rfl

/-- With the counter of the joined tables at zero, a text is the one of the request on its own, up
to parameter numbers. -/
theorem text_of_aliases_zero (d : Dialect) {q : Query} {t : Tally}
    (h : t.aliases = 0 ∨ ∀ j, .join j ∉ q.walk) :
    q.text d t = (q.statementIn (d.raised t.params)).map Statement.sql := by
  rw [← text_start]
  exact text_raised d ⟨rfl, h⟩

/-- **Embedding.** In SQLite, the text of a select from any counters is its text on its own, up to
parameter numbers, exactly when no table has been joined before or none is joined in it. -/
theorem embedded_text_iff {q : Query} (hq : q.SelectsOnly) (t : Tally) :
    q.text Sqlite.dialect t =
        (q.statementIn (Sqlite.dialect.raised t.params)).map Statement.sql ↔
      t.aliases = 0 ∨ ∀ j, .join j ∉ q.walk := by
  refine ⟨fun h => ?_, text_of_aliases_zero Sqlite.dialect⟩
  by_cases hj : ∃ j, .join j ∈ q.walk
  · refine .inl ?_
    obtain ⟨s, hs⟩ := hq.compiles t
    have hzero : q.text Sqlite.dialect ⟨t.params, 0⟩ = .ok s := by
      rw [text_of_aliases_zero Sqlite.dialect (.inl rfl), ← h, hs]
    have heq : t.aliases + 1 = 0 + 1 := (text_parts hq hj t ⟨t.params, 0⟩ s s rfl hs hzero).eq
    omega
  · exact .inr (not_exists.mp hj)

/-- The names of numbered joins. -/
theorem namedJoins_names (source : String) (m : Nat) (joins : List Join) :
    (namedJoins source m joins).map JoinEntry.name =
      (List.range' (m + 1) joins.length).map aliasName := by
  induction joins generalizing m with
  | nil => rfl
  | cons j joins ih =>
      rw [List.length_cons, List.range'_succ, List.map_cons, ← ih (m + 1)]
      rfl

/-- How the text of the select `r`, written from the counters `u`, gets into the statement of the
request `q`. -/
structure Embeds (q r : Query) (u : Tally) : Prop where
  /-- The statement is the text of the request from fresh counters. -/
  fresh : ∀ d, (q.statementIn d).map Statement.sql = q.text d .start
  /-- On the way from the request down to the select, as everywhere, a text is made of clauses, and
  these of the texts of the selects that are nested next. -/
  made : ∀ (d : Dialect) (p : Query) (v : Tally),
    p.text d v = p.clauses d (Query.text d) v >>= d.statement
  /-- What the select says of its own columns stays as it is. -/
  written : ∀ d c, r.clauses d (Query.text d) u = .ok c → c.AsWritten d (Query.text d) u r
  /-- In every dialect, the text of the select in parentheses is related to the statement by any
  relation between a text and what the dialect makes of it. -/
  carried : ∀ d into, d.Carries into → ∀ s, q.statementIn d = .ok s → Inlines d into r u s.sql
  /-- If the request has a statement, the select has a text. -/
  compiles : ∀ d s, q.statementIn d = .ok s → ∃ sql, r.text d u = .ok sql
  /-- In SQLite the text of the select stands in the statement, in parentheses. -/
  stands : ∀ s, q.statementIn Sqlite.dialect = .ok s →
    ∃ sql, r.text Sqlite.dialect u = .ok sql ∧ StandsIn ("(" ++ sql ++ ")") s.sql

/-- Whatever a request meets gets into its statement. -/
theorem embeds_of_meets {q r : Query} {u : Tally} (hselect : r.action = .select)
    (hmeets : Meets .start q.walk r u) : q.Embeds r u := by
  have hcarried : ∀ d into, d.Carries into → ∀ s, q.statementIn d = .ok s →
      Inlines d into r u s.sql := by
    intro d into hd s hs
    have htext : q.text d .start = .ok s.sql := by rw [text_start, hs]; rfl
    exact text_inlines hd q .start s.sql r u htext hmeets
  exact {
    fresh := fun d => (text_start d q).symm
    made := fun d p v => text_eq d p v
    written := fun d c hc => clauses_asWritten hselect hc
    carried := hcarried
    compiles := fun d s hs =>
      (hcarried d _ d.carries_any s hs).imp fun _ h => h.1
    stands := fun s hs => hcarried Sqlite.dialect _ Sqlite.carries s hs }

/-- **Embedded selects.** A select `r` that stands behind the walk `pre` in another request is
written with the numbers of its parameters and of its joined tables raised by what stands in `pre`,
in every dialect. So its own joins are called `j<m + 1>`, `j<m + 2>`, … where `m` joins stand in
`pre`, and its text there is its text on its own up to parameter numbers if `pre` joins nothing or
`r` joins nothing. In SQLite it is so only then: its columns, which are written for `j1`, `j2`, …,
otherwise refer to joined tables of the request around it. It is that text that gets into the
statement of the request. -/
theorem embedded_select_exact {q r : Query} {pre post : List Met} (hr : r.SelectsOnly)
    (hmet : q.walk = pre ++ .select r :: post) :
    Query.Writes .start q r (Tally.start.after pre) ∧
    (∀ d, r.text d (Tally.start.after pre) =
      r.text (d.raised (pre.countP Met.isNumbered)) ⟨0, pre.countP Met.isJoin⟩) ∧
    (∀ d c, r.clauses d (Query.text d) (Tally.start.after pre) = .ok c →
      c.joins.map JoinEntry.name =
        (List.range' (pre.countP Met.isJoin + 1) r.joins.length).map aliasName) ∧
    (∀ d, ((∀ j, .join j ∉ pre) ∨ ∀ j, .join j ∉ r.walk) →
      r.text d (Tally.start.after pre) =
        (r.statementIn (d.raised (pre.countP Met.isNumbered))).map Statement.sql) ∧
    (r.text Sqlite.dialect (Tally.start.after pre) =
        (r.statementIn (Sqlite.dialect.raised (pre.countP Met.isNumbered))).map Statement.sql →
      (∀ j, .join j ∉ pre) ∨ ∀ j, .join j ∉ r.walk) ∧
    q.Embeds r (Tally.start.after pre) := by
  have hmeets : Meets .start q.walk r (Tally.start.after pre) := ⟨pre, post, hmet, rfl⟩
  have hparams : (Tally.start.after pre).params = pre.countP Met.isNumbered := Nat.zero_add _
  have haliases : (Tally.start.after pre).aliases = pre.countP Met.isJoin := Nat.zero_add _
  refine ⟨.inr hmeets, fun d => ?_, fun d c hc => ?_, fun d h => ?_, fun h => ?_,
    embeds_of_meets hr.self hmeets⟩
  · exact text_raised d ⟨hparams, .inl haliases⟩
  · rw [clauses_joins hc, namedJoins_names, haliases, writtenJoins, if_pos hr.self]
  · rw [text_of_aliases_zero d (h.imp_left fun hnone =>
      Tally.after_aliases_of_unjoined hnone .start), hparams]
  · rw [← hparams] at h
    refine ((embedded_text_iff hr _).mp h).imp_left fun hzero j hj => ?_
    rw [haliases] at hzero
    exact List.countP_eq_zero.mp hzero _ hj rfl

/-! ### A captured column -/

/-- A table with a key and one more column. -/
def sampleTable (name column : String) : Table where
  name := name
  columns := ["id", column]
  primaryKey := "id"
  readPool := defaultPool
  writePool := defaultPool
  key_mem := List.mem_cons_self

/-- A join of such a table. -/
def sampleJoin (name column own : String) : Join := ⟨sampleTable name column, .inner, [("id", own)]⟩

/-- A select of a column of its first joined table. -/
def sampleInner : Query :=
  { Query.new (sampleTable "u" "z") .select with
    projection := some (.renamed [("w", "j1.w")]), joins := [sampleJoin "v" "w" "z"] }

/-- A select that joins another table and compares a column with that select. -/
def sampleOuter : Query :=
  { Query.new (sampleTable "a" "x") .select with
    projection := some (.renamed [("id", "a.id")]), joins := [sampleJoin "b" "y" "x"]
    filter := some (.leaf "a.x" (.subquery sampleInner)) }

/-- The inner select nests nothing. -/
theorem sampleInner_selectsOnly : sampleInner.SelectsOnly :=
  ⟨rfl, fun r hr => by simp [sampleInner, Query.new, Query.walk, walkFilter] at hr⟩

/-- The outer select meets the inner one behind its join. -/
theorem sampleOuter_walk : sampleOuter.walk =
    [.join (sampleJoin "b" "y" "x")] ++ .select sampleInner :: [.join (sampleJoin "v" "w" "z")] :=
  rfl

/-- The inner select has a text on its own, in the outer one it is joined under another alias, and
its column is then one of the outer select's table. -/
theorem sampleInner_captured :
    (sampleInner.statementIn Sqlite.dialect).map Statement.sql =
        .ok "SELECT j1.w AS w FROM u INNER JOIN v AS j1 ON j1.id = u.z" ∧
      (sampleOuter.statementIn Sqlite.dialect).map Statement.sql =
        .ok ("SELECT a.id AS id FROM a INNER JOIN b AS j1 ON j1.id = a.x " ++
          "WHERE a.x IN (SELECT j1.w AS w FROM u INNER JOIN v AS j2 ON j2.id = u.z)") ∧
      sampleInner.text Sqlite.dialect (Tally.start.after [.join (sampleJoin "b" "y" "x")]) ≠
        (sampleInner.statementIn (Sqlite.dialect.raised 0)).map Statement.sql := by
  refine ⟨by decide +kernel, by decide +kernel, by decide +kernel⟩

/-- The general statement says the same of the two: the inner text is not the one it has on its own,
and it is the one that stands in the outer statement. -/
theorem sampleInner_not_alike :
    sampleInner.SelectsOnly ∧
      sampleOuter.walk = [.join (sampleJoin "b" "y" "x")] ++
        .select sampleInner :: [.join (sampleJoin "v" "w" "z")] ∧
      ¬ sampleInner.text Sqlite.dialect (Tally.start.after [.join (sampleJoin "b" "y" "x")]) =
        (sampleInner.statementIn (Sqlite.dialect.raised 0)).map Statement.sql ∧
      ∃ s, sampleOuter.statementIn Sqlite.dialect = .ok s ∧
        StandsIn "(SELECT j1.w AS w FROM u INNER JOIN v AS j2 ON j2.id = u.z)" s.sql := by
  obtain ⟨-, -, -, -, hiff, hembeds⟩ :=
    embedded_select_exact sampleInner_selectsOnly sampleOuter_walk
  refine ⟨sampleInner_selectsOnly, sampleOuter_walk, fun h => ?_, ?_⟩
  · rcases hiff h with hpre | hinner
    · exact hpre _ List.mem_cons_self
    · exact hinner (sampleJoin "v" "w" "z") List.mem_cons_self
  · have houter : sampleOuter.statementIn Sqlite.dialect = .ok
        ⟨"SELECT a.id AS id FROM a INNER JOIN b AS j1 ON j1.id = a.x " ++
          "WHERE a.x IN (SELECT j1.w AS w FROM u INNER JOIN v AS j2 ON j2.id = u.z)", .empty⟩ := by
      decide +kernel
    have hinner : sampleInner.text Sqlite.dialect
        (Tally.start.after [.join (sampleJoin "b" "y" "x")]) =
        .ok "SELECT j1.w AS w FROM u INNER JOIN v AS j2 ON j2.id = u.z" := by
      decide +kernel
    obtain ⟨sql, htext, hstands⟩ := hembeds.stands _ houter
    obtain rfl := Except.ok.inj (hinner.symm.trans htext)
    exact ⟨_, houter, hstands⟩

end Query

end TableGateway
