import TableGateway.Proofs.Query.Writing

/-!
# Numbering is total and exact

Compiling a request never meets a name twice: what it binds is the reference bag of the walk
through the request, and its joined tables have the reference aliases. The only errors are the
dialect's, for the clauses of the request or of a select nested in it.

## Main results

* `Query.statementIn_eq`: a compiled request is the text of its clauses with the bag of its walk.
* `Query.text_error`: the error of a compilation is the dialect's answer to some clauses.
* `Query.aliases_segment`: the joins of a nested select have the next aliases of the whole walk.
* `Query.statementIn_exact`: all of it in one statement.
-/

namespace TableGateway

open TableGateway.Numbering

/-- With the counters `t`, compiling `q` writes the request `r` with the counters `u`: `r` is `q`
itself or a select nested in it. -/
def Query.Writes (t : Tally) (q : Query) (r : Query) (u : Tally) : Prop :=
  r = q ∧ u = t ∨ Meets t q.walk r u

/-- The joins that a request writes; only a select writes any. -/
def Query.writtenJoins (q : Query) : List Join := if q.action = .select then q.joins else []

/-! ### Errors -/

/-- A sequence of two computations fails where one of them does. -/
theorem bind_eq_error {ε α β : Type} {x : Except ε α} {f : α → Except ε β} {e : ε}
    (h : x >>= f = .error e) : x = .error e ∨ ∃ a, x = .ok a ∧ f a = .error e := by
  cases x with
  | error e' => exact .inl (congrArg _ (Except.error.inj h))
  | ok a => exact .inr ⟨a, rfl, h⟩

/-- A sequence of two computations succeeds where both of them do. -/
theorem bind_eq_ok {ε α β : Type} {x : Except ε α} {f : α → Except ε β} {b : β}
    (h : x >>= f = .ok b) : ∃ a, x = .ok a ∧ f a = .ok b := by
  cases x with
  | error e => exact nomatch h
  | ok a => exact ⟨a, rfl, h⟩

/-- What cannot fail has no error. -/
theorem pure_ne_error {ε α : Type} {a : α} {e : ε} : (pure a : Except ε α) ≠ .error e := nofun

section

variable {d : Dialect} {inline : Inliner} {e : Error}

/-- Writing a condition fails only where a nested select does. -/
theorem Condition.write_error {c : Condition} {t : Tally}
    (h : c.write d inline t = .error e) : ∃ r u, Meets t c.walk r u ∧ inline u r = .error e := by
  induction c using Condition.induction generalizing t with
  | leaf column operand =>
      cases operand with
      | scalar v | list vs | null => exact absurd h pure_ne_error
      | subquery q =>
          rcases bind_eq_error h with hq | ⟨sql, -, hsql⟩
          · exact ⟨q, t, .head t q q.walk, hq⟩
          · exact absurd hsql pure_ne_error
  | conj left right ihl ihr | disj left right ihl ihr =>
      rcases bind_eq_error h with hl | ⟨l, -, h⟩
      · obtain ⟨r, u, hmeets, hr⟩ := ihl hl
        exact ⟨r, u, hmeets.append_left right.walk, hr⟩
      · rcases bind_eq_error h with hr | ⟨sql, -, hsql⟩
        · obtain ⟨r, u, hmeets, hr⟩ := ihr hr
          exact ⟨r, u, hmeets.append_right left.walk, hr⟩
        · exact absurd hsql pure_ne_error

/-- The same for a condition that may be missing. -/
theorem writeFilter_error {f : Option Condition} {t : Tally}
    (h : writeFilter d inline t f = .error e) :
    ∃ r u, Meets t (walkFilter f) r u ∧ inline u r = .error e := by
  cases f with
  | none => exact absurd h pure_ne_error
  | some c =>
      rcases bind_eq_error h with hc | ⟨sql, -, hsql⟩
      · exact Condition.write_error hc
      · exact absurd hsql pure_ne_error

/-- The same for assignments. -/
theorem writeAssignments_error {as : List (String × Assigned)} {t : Tally}
    (h : writeAssignments d inline t as = .error e) :
    ∃ r u, Meets t (walkAssignments as) r u ∧ inline u r = .error e := by
  induction as generalizing t with
  | nil => exact absurd h pure_ne_error
  | cons entry rest ih =>
      obtain ⟨column, assigned⟩ := entry
      rcases bind_eq_error h with ha | ⟨text, -, h⟩
      · cases assigned with
        | value v => exact absurd ha pure_ne_error
        | subquery q =>
            rcases bind_eq_error ha with hq | ⟨sql, -, hsql⟩
            · exact ⟨q, t, .head t q _, hq⟩
            · exact absurd hsql pure_ne_error
      · rcases bind_eq_error h with hr | ⟨others, -, hothers⟩
        · obtain ⟨r, u, hmeets, hr⟩ := ih hr
          exact ⟨r, u, hmeets.append_right assigned.walk, hr⟩
        · exact absurd hothers pure_ne_error

/-- Finding the clauses of a request fails only where a nested select does. -/
theorem Query.clauses_error {q : Query} {t : Tally} (h : q.clauses d inline t = .error e) :
    ∃ r u, Meets t q.walk r u ∧ inline u r = .error e := by
  obtain ⟨table, action, projection, assignments, joins, filter, having, groupBy, orderBy, limit,
    offset⟩ := q
  cases action with
  | select =>
      rcases bind_eq_error h with hf | ⟨filterText, -, h⟩
      · obtain ⟨r, u, hmeets, hr⟩ := writeFilter_error hf
        exact ⟨r, u, (hmeets.append_left _).append_right _, hr⟩
      · rcases bind_eq_error h with hh | ⟨havingText, -, h⟩
        · obtain ⟨r, u, hmeets, hr⟩ := writeFilter_error hh
          exact ⟨r, u, (hmeets.append_right _).append_right _, hr⟩
        · exact absurd h pure_ne_error
  | insert =>
      rcases bind_eq_error h with ha | ⟨entries, -, h⟩
      · exact writeAssignments_error ha
      · exact absurd h pure_ne_error
  | update =>
      rcases bind_eq_error h with ha | ⟨entries, -, h⟩
      · obtain ⟨r, u, hmeets, hr⟩ := writeAssignments_error ha
        exact ⟨r, u, hmeets.append_left _, hr⟩
      · rcases bind_eq_error h with hf | ⟨filterText, -, h⟩
        · obtain ⟨r, u, hmeets, hr⟩ := writeFilter_error hf
          exact ⟨r, u, hmeets.append_right _, hr⟩
        · exact absurd h pure_ne_error
  | delete =>
      rcases bind_eq_error h with hf | ⟨filterText, -, h⟩
      · exact writeFilter_error hf
      · exact absurd h pure_ne_error

end

/-- **Errors.** The error of a compilation is the dialect's answer to the clauses of the request or
of a nested select. By induction over nesting: an error of a nested select is one of the select's
own clauses or of a select nested deeper, which the request meets too. -/
theorem Query.text_error {d : Dialect} {q : Query} {t : Tally} {e : Error}
    (h : q.text d t = .error e) :
    ∃ r u c, Query.Writes t q r u ∧ r.clauses d (Query.text d) u = .ok c ∧
      d.statement c = .error e := by
  induction q using Query.nested_induction generalizing t with
  | step q ih =>
      rw [Query.text_eq] at h
      rcases bind_eq_error h with hc | ⟨c, hc, hd⟩
      · obtain ⟨r, u, hmeets, hr⟩ := Query.clauses_error hc
        obtain ⟨p, v, c, hwrites, hpc, hp⟩ := ih r hmeets.mem hr
        refine ⟨p, v, c, .inr ?_, hpc, hp⟩
        rcases hwrites with ⟨rfl, rfl⟩ | hnested
        · exact hmeets
        · exact hmeets.trans hnested
      · exact ⟨q, t, c, .inl ⟨rfl, rfl⟩, hc, hd⟩

/-! ### Success -/

/-- A compiled request is the text of its clauses with the bag of its walk. -/
theorem Query.statementIn_eq (d : Dialect) (q : Query) :
    q.statementIn d = q.text d .start >>= fun sql => pure ⟨sql, bag 0 q.walk⟩ := by
  rw [Query.statementIn, StateT.run'_eq, StateT.run, Query.lowers d q .start]
  cases q.text d .start <;> rfl

/-- What a compiled request binds. -/
theorem Query.statementIn_params {d : Dialect} {q : Query} {s : Statement}
    (h : q.statementIn d = .ok s) : s.params = bag 0 q.walk := by
  rw [Query.statementIn_eq] at h
  obtain ⟨sql, -, hsql⟩ := bind_eq_ok h
  rw [← Except.ok.inj hsql]

/-- The clauses of a request name its joins from the counter on. -/
theorem Query.clauses_joins {d : Dialect} {inline : Inliner} {q : Query} {t : Tally}
    {c : Clauses} (h : q.clauses d inline t = .ok c) :
    c.joins = namedJoins q.table.name t.aliases q.writtenJoins := by
  obtain ⟨table, action, projection, assignments, joins, filter, having, groupBy, orderBy, limit,
    offset⟩ := q
  cases action with
  | select | update =>
      obtain ⟨_, -, h⟩ := bind_eq_ok h
      obtain ⟨_, -, h⟩ := bind_eq_ok h
      rw [← Except.ok.inj h]
      rfl
  | insert | delete =>
      obtain ⟨_, -, h⟩ := bind_eq_ok h
      rw [← Except.ok.inj h]
      rfl

/-- The clauses of a select, written from the counters `t`. Its columns, its grouping, its ordering
and its paging stay as they are, its joins are named from the counter on, and its conditions are
written behind them. -/
structure Clauses.AsWritten (d : Dialect) (inline : Inliner) (t : Tally) (q : Query) (c : Clauses) :
    Prop where
  action : c.action = .select
  table : c.table = q.table.name
  columns : c.columns = q.selection.columns
  joins : c.joins = namedJoins q.table.name t.aliases q.joins
  filter : writeFilter d inline (t.after (q.joins.map .join)) q.filter = .ok c.filter
  having : writeFilter d inline ((t.after (q.joins.map .join)).after (walkFilter q.filter))
    q.having = .ok c.having
  groupBy : c.groupBy = q.groupBy
  orderBy : c.orderBy = q.orderBy
  limit : c.limit = q.limit
  offset : c.offset = q.offset

/-- The clauses of a select are these. -/
theorem Query.clauses_asWritten {d : Dialect} {inline : Inliner} {q : Query} {t : Tally}
    {c : Clauses} (hselect : q.action = .select) (h : q.clauses d inline t = .ok c) :
    c.AsWritten d inline t q := by
  obtain ⟨table, action, projection, assignments, joins, filter, having, groupBy, orderBy, limit,
    offset⟩ := q
  obtain rfl : action = .select := hselect
  obtain ⟨filterText, hfilter, h⟩ := bind_eq_ok h
  obtain ⟨havingText, hhaving, h⟩ := bind_eq_ok h
  obtain rfl := Except.ok.inj h
  exact ⟨rfl, rfl, rfl, rfl, hfilter, hhaving, rfl, rfl, rfl, rfl⟩

/-- The walk through a request begins with the joins it writes. -/
theorem Query.joins_prefix (q : Query) : q.writtenJoins.map .join <+: q.walk := by
  obtain ⟨table, action, projection, assignments, joins, filter, having, groupBy, orderBy, limit,
    offset⟩ := q
  cases action with
  | select => exact List.prefix_append ..
  | insert | update | delete => exact List.nil_prefix

/-- A walk has as many aliases as joins. -/
theorem aliasesFrom_length (m : Nat) (w : List Met) :
    (aliasesFrom m w).length = w.countP Met.isJoin := by
  induction w generalizing m with
  | nil => rfl
  | cons x w ih => cases x <;> simp [aliasesFrom, ih, List.countP_cons, Met.isJoin]

/-- What begins like a walk has aliases that begin like the walk's. -/
theorem aliasesFrom_prefix (m : Nat) {v w : List Met} (h : v <+: w) :
    aliasesFrom m v <+: aliasesFrom m w := by
  obtain ⟨rest, rfl⟩ := h
  rw [aliasesFrom_append]
  exact List.prefix_append ..

/-- **Aliases.** The joins of a request that is written have the aliases that they have in the
numbering of the whole walk. -/
theorem Query.aliases_segment {q r : Query} {u : Tally} (h : Query.Writes .start q r u) :
    ∃ before after, aliasesFrom 0 q.walk =
        before ++ aliasesFrom u.aliases (r.writtenJoins.map .join) ++ after ∧
      before.length = u.aliases := by
  rcases h with ⟨rfl, rfl⟩ | ⟨pre, post, hq, rfl⟩
  · obtain ⟨after, hafter⟩ := aliasesFrom_prefix 0 r.joins_prefix
    exact ⟨[], after, hafter.symm, rfl⟩
  · have hpre : (Tally.start.after pre).aliases = 0 + pre.countP Met.isJoin := rfl
    obtain ⟨after, hafter⟩ := aliasesFrom_prefix (0 + pre.countP Met.isJoin)
      (r.joins_prefix.trans (q.complete pre r post hq))
    refine ⟨aliasesFrom 0 pre, after, ?_, ?_⟩
    · rw [hq, aliasesFrom_append, aliasesFrom, hpre, ← hafter, List.append_assoc]
    · rw [hpre, aliasesFrom_length, Nat.zero_add]

/-- **Numbering is total and exact.** In every dialect, the only errors of compiling a request are
those of the dialect for the clauses of the request or of a nested select. If it compiles, it has
the text that the dialect makes of its clauses and binds exactly the reference bag of its walk.
Every request that is written on the way has its text made of its own clauses, at the counters of
the walk before it, and its joins have the aliases they have in the numbering of the whole walk.
All names of the bag are distinct, and so are all aliases. -/
theorem Query.statementIn_exact (d : Dialect) (q : Query) :
    (∀ e, q.statementIn d = .error e →
      ∃ r u c, Query.Writes .start q r u ∧ r.clauses d (Query.text d) u = .ok c ∧
        d.statement c = .error e) ∧
    (∀ s, q.statementIn d = .ok s →
      q.text d .start = .ok s.sql ∧ s.params.entries = bindingsFrom 0 q.walk) ∧
    (∀ r u, Query.Writes .start q r u →
      r.text d u = r.clauses d (Query.text d) u >>= d.statement ∧
      (∀ c, r.clauses d (Query.text d) u = .ok c →
        c.joins = (aliasesFrom u.aliases (r.writtenJoins.map .join)).map fun (name, j) =>
          j.entry r.table.name name) ∧
      ∃ before after, aliasesFrom 0 q.walk =
          before ++ aliasesFrom u.aliases (r.writtenJoins.map .join) ++ after ∧
        before.length = u.aliases) ∧
    ((bindingsFrom 0 q.walk).map Prod.fst).Nodup ∧
    ((aliasesFrom 0 q.walk).map Prod.fst).Nodup := by
  refine ⟨fun e he => ?_, fun s hs => ?_, fun r u hwrites => ⟨Query.text_eq d r u, ?_, ?_⟩,
    bindingsFrom_names_nodup 0 q.walk, aliasesFrom_names_nodup 0 q.walk⟩
  · rw [Query.statementIn_eq] at he
    rcases bind_eq_error he with htext | ⟨sql, -, hsql⟩
    · exact Query.text_error htext
    · exact absurd hsql pure_ne_error
  · rw [Query.statementIn_eq] at hs
    obtain ⟨sql, htext, hsql⟩ := bind_eq_ok hs
    obtain rfl := Except.ok.inj hsql
    exact ⟨htext, rfl⟩
  · intro c hc
    exact Query.clauses_joins hc
  · exact Query.aliases_segment hwrites

end TableGateway
