import TableGateway.Proofs.Dialect.Spelling
import TableGateway.Proofs.Query.Numbering

/-!
# How requests are spelled in SQLite

The text of a request is spelled from the request's own words and the placeholders of its walk, and
the placeholders stand in the text in the order of the walk. A nested select goes on with the
numbers of the request around it, so the same is said of it with the counters where it is met.

## Wording convention

`Query.wording` lists what the author of a request has written in it: names of tables, columns,
expressions and the names they are given. What a nested select holds is not listed, so that
`Query.Worded P` speaks about the request and every select nested in it, one by one.

## Main results

* `boundNames_append`: the names that a walk in two parts binds.
* `Condition.write_spelled`: a condition.
* `Query.text_spelled`: a request from any counters.
-/

namespace TableGateway

open TableGateway.Numbering

/-! ### Words of a request -/

/-- The columns of a condition, from left to right. -/
def Condition.columns : Condition → List String
  | .leaf column _ => [column]
  | .conj left right => left.columns ++ right.columns
  | .disj left right => left.columns ++ right.columns

/-- The columns of a condition that may be missing. -/
def columnsOf (f : Option Condition) : List String := f.elim [] Condition.columns

/-- What is written in a join. -/
def Join.wording (j : Join) : List String :=
  j.table.name :: j.pairs.flatMap fun p => [p.1, p.2]

/-- What is written in a select list; without one all columns of the table are. -/
def Query.selectWording (q : Query) : List String :=
  match q.projection with
  | some p => p.columns.flatMap fun e => [e.expr, e.name]
  | none => q.table.columns

/-- What is written in a request itself. -/
def Query.wording (q : Query) : List String :=
  q.table.name :: (q.selectWording ++ q.joins.flatMap Join.wording ++ q.assignments.map Prod.fst ++
    columnsOf q.filter ++ columnsOf q.having ++ q.groupBy ++ q.orderBy.map Prod.fst)

/-- A request in which every word has the property `P`, nested selects included. -/
structure Query.Worded (P : String → Prop) (q : Query) : Prop where
  own : ∀ s ∈ q.wording, P s
  nested : ∀ r, .select r ∈ q.walk → ∀ s ∈ r.wording, P s

/-- A select that is nested in such a request is one too. -/
theorem Query.Worded.of_nested {P : String → Prop} {q r : Query} (h : q.Worded P)
    (hr : .select r ∈ q.walk) : r.Worded P :=
  ⟨h.nested r hr, fun p hp => h.nested p (Query.mem_walk_of_nested hr hp)⟩

/-! ### Names of a walk -/

/-- The names that a walk binds which begins with the counters `t`. -/
def boundNames (t : Tally) (w : List Met) : List String := (bindingsFrom t.params w).map Prod.fst

/-- A walk in two parts. -/
theorem boundNames_append (t : Tally) (v w : List Met) :
    boundNames t (v ++ w) = boundNames t v ++ boundNames (t.after v) w := by
  rw [boundNames, bindingsFrom_append, List.map_append, boundNames, boundNames, Tally.after_params]

/-- Joins bind no names. -/
theorem boundNames_joins (t : Tally) (joins : List Join) : boundNames t (joins.map .join) = [] := by
  rw [boundNames, bindingsFrom_joins, List.map_nil]

/-- A list binds the names of its elements. -/
theorem boundNames_list (t : Tally) (vs : List Value) :
    boundNames t [.list vs] = elementNames (t.params + 1) 0 vs := by
  simp [boundNames, bindingsFrom, elementNames]

/-! ### Texts of a request -/

/-- From any counters, the text of a request is spelled with the names that its walk binds. -/
def Query.TextSpelled (P : String → Prop) (q : Query) : Prop :=
  ∀ t sql, q.text Sqlite.dialect t = .ok sql → Spelled P sql (boundNames t q.walk)

section

variable {P : String → Prop} {t : Tally}

/-- A leaf. -/
theorem Operand.write_spelled {column : String} {o : Operand} {s : String} (hcolumn : P column)
    (hin : ∀ r, .select r ∈ o.walk → r.TextSpelled P)
    (hs : o.write Sqlite.dialect (Query.text Sqlite.dialect) t column = .ok s) :
    Spelled P s (boundNames t o.walk) := by
  have hword : Bare P column := .word hcolumn
  cases o with
  | scalar v =>
      obtain rfl := Except.ok.inj hs
      exact Sqlite.spelled_leaf_equality hword (.inl rfl)
  | list vs =>
      obtain rfl := Except.ok.inj hs
      rw [Operand.walk, boundNames_list]
      refine Sqlite.spelled_leaf_list (n := t.params + 1) hword fun name hname => ?_
      obtain ⟨⟨v, i⟩, -, rfl⟩ := List.mem_map.mp hname
      exact .inr ⟨i, rfl⟩
  | null =>
      obtain rfl := Except.ok.inj hs
      exact Sqlite.spelled_leaf_isNull hword
  | subquery q =>
      obtain ⟨sql, hq, hs⟩ := bind_eq_ok hs
      obtain rfl := Except.ok.inj hs
      exact Sqlite.spelled_leaf_subquery hword (hin q List.mem_cons_self t sql hq)

/-- A condition. -/
theorem Condition.write_spelled {c : Condition} {s : String} (hwords : ∀ s ∈ c.columns, P s)
    (hin : ∀ r, .select r ∈ c.walk → r.TextSpelled P)
    (hs : c.write Sqlite.dialect (Query.text Sqlite.dialect) t = .ok s) :
    Spelled P s (boundNames t c.walk) := by
  induction c using Condition.induction generalizing t s with
  | leaf column operand =>
      exact Operand.write_spelled (hwords column List.mem_cons_self) hin hs
  | conj left right ihl ihr | disj left right ihl ihr =>
      obtain ⟨l, hl, hs⟩ := bind_eq_ok hs
      obtain ⟨r, hr, hs⟩ := bind_eq_ok hs
      obtain rfl := Except.ok.inj hs
      have hleft := ihl (fun s hs => hwords s (List.mem_append_left _ hs))
        (fun r hr => hin r (List.mem_append_left _ hr)) hl
      have hright := ihr (fun s hs => hwords s (List.mem_append_right _ hs))
        (fun r hr => hin r (List.mem_append_right _ hr)) hr
      rw [Condition.walk, boundNames_append]
      first
        | exact Sqlite.spelled_conj hleft hright
        | exact Sqlite.spelled_disj hleft hright

/-- A condition that may be missing. -/
theorem writeFilter_spelled {f : Option Condition} {o : Option String}
    (hwords : ∀ s ∈ columnsOf f, P s) (hin : ∀ r, .select r ∈ walkFilter f → r.TextSpelled P)
    (ho : writeFilter Sqlite.dialect (Query.text Sqlite.dialect) t f = .ok o) :
    SpelledIfAny P o (boundNames t (walkFilter f)) := by
  cases f with
  | none =>
      obtain rfl := Except.ok.inj ho
      rfl
  | some c =>
      obtain ⟨s, hs, ho⟩ := bind_eq_ok ho
      obtain rfl := Except.ok.inj ho
      exact Condition.write_spelled hwords hin hs

/-- An assigned value. -/
theorem Assigned.write_spelled {a : Assigned} {s : String}
    (hin : ∀ r, .select r ∈ a.walk → r.TextSpelled P)
    (hs : a.write Sqlite.dialect (Query.text Sqlite.dialect) t = .ok s) :
    Spelled P s (boundNames t a.walk) := by
  cases a with
  | value v =>
      obtain rfl := Except.ok.inj hs
      exact .placeholder (n := t.params + 1) (.inl rfl)
  | subquery q =>
      obtain ⟨sql, hq, hs⟩ := bind_eq_ok hs
      obtain rfl := Except.ok.inj hs
      exact .paren (hin q List.mem_cons_self t sql hq)

/-- Assignments: each has its share of the names. -/
theorem writeAssignments_spelled {as : List (String × Assigned)} {entries : List (String × String)}
    (hwords : ∀ s ∈ as.map Prod.fst, P s)
    (hin : ∀ r, .select r ∈ walkAssignments as → r.TextSpelled P)
    (hs : writeAssignments Sqlite.dialect (Query.text Sqlite.dialect) t as = .ok entries) :
    ∃ namess, List.Forall₂ (fun e names => Bare P e.1 ∧ Spelled P e.2 names) entries namess ∧
      namess.flatten = boundNames t (walkAssignments as) := by
  induction as generalizing t entries with
  | nil =>
      obtain rfl := Except.ok.inj hs
      exact ⟨[], .nil, rfl⟩
  | cons entry rest ih =>
      obtain ⟨column, assigned⟩ := entry
      obtain ⟨text, htext, hs⟩ := bind_eq_ok hs
      obtain ⟨others, hothers, hs⟩ := bind_eq_ok hs
      obtain rfl := Except.ok.inj hs
      have hcolumn : P column := hwords column List.mem_cons_self
      have hvalue := Assigned.write_spelled (fun r hr => hin r (List.mem_append_left _ hr)) htext
      obtain ⟨namess, hrest, hnames⟩ := ih (fun s hs => hwords s (List.mem_cons_of_mem _ hs))
        (fun r hr => hin r (List.mem_append_right _ hr)) hothers
      refine ⟨_ :: namess, .cons ⟨.word hcolumn, hvalue⟩ hrest, ?_⟩
      rw [List.flatten_cons, hnames, walkAssignments, walkAssignment, boundNames_append]

/-- The selected columns of a request: its words, qualified where other tables are joined. -/
theorem Query.forall_selection {q : Query} (hdot : ∀ a b, P a → P b → P (a ++ "." ++ b))
    (htable : P q.table.name) (h : ∀ s ∈ q.selectWording, P s) :
    ∀ e ∈ q.selection.columns, P e.expr ∧ P e.name := by
  intro e he
  unfold Query.selection Projection.selected at he
  unfold Query.selectWording at h
  split at he
  · next p hp =>
      rw [hp] at h
      exact ⟨h _ (List.mem_flatMap.mpr ⟨e, he, by simp⟩),
        h _ (List.mem_flatMap.mpr ⟨e, he, by simp⟩)⟩
  · next hp =>
      rw [hp] at h
      split at he
      · obtain ⟨column, hcolumn, rfl⟩ := List.mem_map.mp he
        exact ⟨h column hcolumn, h column hcolumn⟩
      · obtain ⟨_, hpair, rfl⟩ := List.mem_map.mp he
        obtain ⟨column, hcolumn, rfl⟩ := List.mem_map.mp hpair
        exact ⟨hdot _ _ htable (h column hcolumn), h column hcolumn⟩

/-- The joins of a request: columns of the request without a qualifier get its table's name. -/
theorem forall_namedJoins {source : String} {joins : List Join} {m : Nat}
    (hdot : ∀ a b, P a → P b → P (a ++ "." ++ b)) (halias : ∀ n, P (aliasName n))
    (hsource : P source) (h : ∀ s ∈ joins.flatMap Join.wording, P s) :
    ∀ j ∈ namedJoins source m joins, P j.table ∧ P j.name ∧ ∀ p ∈ j.pairs, P p.1 ∧ P p.2 := by
  induction joins generalizing m with
  | nil => simp [namedJoins, aliasesFrom]
  | cons join joins ih =>
      rw [namedJoins, List.map_cons, aliasesFrom, List.map_cons]
      refine List.forall_mem_cons.mpr
        ⟨?_, ih fun s hs => h s (List.mem_append_right _ hs)⟩
      have hwords : ∀ s ∈ join.wording, P s := fun s hs => h s (List.mem_append_left _ hs)
      refine ⟨hwords _ List.mem_cons_self, halias _, fun p hp => ?_⟩
      obtain ⟨⟨target, column⟩, hpair, rfl⟩ := List.mem_map.mp hp
      have htarget : P target :=
        hwords _ (List.mem_cons_of_mem _ (List.mem_flatMap.mpr ⟨_, hpair, by simp⟩))
      have hcolumn : P column :=
        hwords _ (List.mem_cons_of_mem _ (List.mem_flatMap.mpr ⟨_, hpair, by simp⟩))
      refine ⟨hdot _ _ (halias _) htarget, ?_⟩
      dsimp only
      split
      · exact hcolumn
      · exact hdot _ _ hsource hcolumn

/-- A qualified name has no placeholders. -/
theorem bare_qualified (a b : String) (ha : Bare P a) (hb : Bare P b) : Bare P (a ++ "." ++ b) :=
  (ha.behind (.fixed (by decide))).behind hb

/-- The name of a joined table has no placeholders. -/
theorem bare_aliasName (n : Nat) : Bare P (aliasName n) :=
  (Spelled.fixed (by decide)).behind (.fixed (Sqlite.plain_toString n))

/-- One level of a request, when the texts of nested selects are known to be spelled. -/
theorem Query.text_spelled_of_nested {q : Query} (hwords : ∀ s ∈ q.wording, P s)
    (hin : ∀ r, .select r ∈ q.walk → r.TextSpelled P) : q.TextSpelled P := by
  intro t sql htext
  rw [Query.text_eq] at htext
  obtain ⟨c, hc, hsql⟩ := bind_eq_ok htext
  simp only [Query.wording, List.forall_mem_cons, List.forall_mem_append] at hwords
  obtain ⟨htable, ⟨⟨⟨⟨⟨hselected, hjoined⟩, hset⟩, hrows⟩, hgroups⟩, hgroup⟩, horder⟩ := hwords
  have hcolumns := Query.forall_selection bare_qualified (.word htable) fun s hs =>
    .word (hselected s hs)
  obtain ⟨table, action, projection, assignments, joins, filter, having, groupBy, orderBy, limit,
    offset⟩ := q
  cases action with
  | select =>
      obtain ⟨f, hf, hc⟩ := bind_eq_ok hc
      obtain ⟨g, hg, hc⟩ := bind_eq_ok hc
      have haction : c.action = .select := by rw [← Except.ok.inj hc]
      obtain rfl := Except.ok.inj ((Sqlite.statement_select haction).symm.trans hsql)
      obtain rfl := Except.ok.inj hc
      have hfilter := writeFilter_spelled hrows
        (fun r hr => hin r (List.mem_append_right _ (List.mem_append_left _ hr))) hf
      have hhaving := writeFilter_spelled hgroups
        (fun r hr => hin r (List.mem_append_right _ (List.mem_append_right _ hr))) hg
      rw [Query.walk, boundNames_append, boundNames_joins, List.nil_append, boundNames_append]
      refine Sqlite.spelled_select ?_ hfilter (Sqlite.spelled_selectTail ?_ ?_ hhaving)
      · exact Sqlite.bare_selectHead (.word htable) hcolumns
          (forall_namedJoins bare_qualified bare_aliasName (.word htable) fun s hs =>
            .word (hjoined s hs))
      · exact fun s hs => .word (hgroup s hs)
      · exact fun e he => .word (horder e.1 (List.mem_map_of_mem he))
  | insert =>
      obtain ⟨entries, ha, hc⟩ := bind_eq_ok hc
      obtain rfl := Except.ok.inj hc
      obtain ⟨namess, hentries, hnames⟩ := writeAssignments_spelled hset hin ha
      rw [Query.walk, ← hnames]
      exact Sqlite.spelled_insert (.word htable) hentries hsql
  | update =>
      obtain ⟨entries, ha, hc⟩ := bind_eq_ok hc
      obtain ⟨f, hf, hc⟩ := bind_eq_ok hc
      obtain rfl := Except.ok.inj hc
      obtain ⟨namess, hentries, hnames⟩ := writeAssignments_spelled hset
        (fun r hr => hin r (List.mem_append_left _ hr)) ha
      have hfilter := writeFilter_spelled hrows
        (fun r hr => hin r (List.mem_append_right _ hr)) hf
      rw [Query.walk, boundNames_append, ← hnames]
      exact Sqlite.spelled_update (.word htable) hentries hfilter hsql
  | delete =>
      obtain ⟨f, hf, hc⟩ := bind_eq_ok hc
      obtain rfl := Except.ok.inj hc
      exact Sqlite.spelled_delete (.word htable) (writeFilter_spelled hrows hin hf) hsql

/-- **Spelling.** From any counters, the text of a request is spelled from its own words and with
the names that its walk binds. By induction over nesting. -/
theorem Query.text_spelled {q : Query} (h : q.Worded P) : q.TextSpelled P := by
  induction q using Query.nested_induction with
  | step q ih => exact Query.text_spelled_of_nested h.own fun r hr => ih r hr (h.of_nested hr)

end

end TableGateway
