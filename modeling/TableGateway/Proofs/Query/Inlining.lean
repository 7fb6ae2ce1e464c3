import TableGateway.Proofs.Query.Numbering

/-!
# The text of a nested select in the text around it

A request is compiled together with the selects that are nested in it, each from the counters where
the walk meets it. If the request has a text, each of them has one too, and in a dialect that writes
what it is given it stands in the text of the request, in parentheses.

What a dialect does with a text that it is given is left open here, up to a relation between texts
that all its constructions keep. With the relation that holds always, this says that nested selects
compile in every dialect.

## Main results

* `Sqlite.carries`: the SQLite dialect writes the texts that it is given.
* `Query.text_inlines`: what is nested in a request stands in its text.
-/

namespace TableGateway

open TableGateway.Numbering

/-! ### Texts in texts -/

/-- The text `s` stands in the text `s'`. -/
def StandsIn (s s' : String) : Prop := ∃ before after, s' = before ++ s ++ after

namespace StandsIn

variable {s s' s'' : String}

/-- A text stands in itself. -/
theorem refl (s : String) : StandsIn s s := ⟨"", "", by simp⟩

/-- What stands in a text stands in every text in which this stands. -/
theorem trans (h : StandsIn s s') (h' : StandsIn s' s'') : StandsIn s s'' := by
  obtain ⟨before, after, rfl⟩ := h
  obtain ⟨before', after', rfl⟩ := h'
  exact ⟨before' ++ before, after ++ after', by simp only [String.append_assoc]⟩

/-- Something is written before the text. -/
theorem behind (h : StandsIn s s') (before : String) : StandsIn s (before ++ s') :=
  h.trans ⟨before, "", by simp⟩

/-- Something is written behind the text. -/
theorem before (h : StandsIn s s') (after : String) : StandsIn s (s' ++ after) :=
  h.trans ⟨"", after, by simp⟩

/-- Every entry stands in a list of entries. -/
theorem joinWith {items : List String} (h : s ∈ items) (sep : String) :
    StandsIn s (joinWith sep items) := by
  induction items with
  | nil => exact absurd h List.not_mem_nil
  | cons item rest ih =>
      rcases List.mem_cons.mp h with rfl | h
      · cases rest with
        | nil => exact refl s
        | cons next rest => exact ((refl s).before sep).before _
      · cases rest with
        | nil => exact absurd h List.not_mem_nil
        | cons next rest => exact (ih h).behind (item ++ sep)

end StandsIn

/-! ### What a dialect puts around texts -/

/-- The rendered texts that the statement of an action is made of. -/
def Clauses.rendered (c : Clauses) : List String :=
  match c.action with
  | .select => c.filter.toList ++ c.having.toList
  | .insert => c.assignments.map Prod.snd
  | .update => c.assignments.map Prod.snd ++ c.filter.toList
  | .delete => c.filter.toList

/-- Whatever a dialect makes of texts is related to them: `into s s'` relates a text `s` to what is
made of it. -/
structure Dialect.Carries (d : Dialect) (into : String → String → Prop) : Prop where
  refl : ∀ s, into s s
  trans : ∀ {s s' s''}, into s s' → into s' s'' → into s s''
  paren : ∀ s, into s ("(" ++ s ++ ")")
  leaf : ∀ column sql, into ("(" ++ sql ++ ")") (d.leaf column (.subquery sql))
  conj : ∀ l r, into l (d.conj l r) ∧ into r (d.conj l r)
  disj : ∀ l r, into l (d.disj l r) ∧ into r (d.disj l r)
  statement : ∀ {c sql}, d.statement c = .ok sql → ∀ s ∈ c.rendered, into s sql

/-- The relation that holds always. -/
theorem Dialect.carries_any (d : Dialect) : d.Carries fun _ _ => True :=
  ⟨fun _ => trivial, fun _ _ => trivial, fun _ => trivial, fun _ _ => trivial,
    fun _ _ => ⟨trivial, trivial⟩, fun _ _ => ⟨trivial, trivial⟩, fun _ _ _ => trivial⟩

namespace Sqlite

/-- A condition stands in its clause. -/
theorem standsIn_conditionClause {o : Option String} {s : String} (h : s ∈ o.toList)
    (word : String) : StandsIn s (conditionClause word o) := by
  obtain rfl := Option.mem_toList.mp h
  exact (StandsIn.refl s).behind _

/-- Every assigned value stands in an insert. -/
theorem standsIn_insertHead {c : Clauses} {s : String} (h : s ∈ c.assignments.map Prod.snd) :
    StandsIn s (insertHead c) := by
  have hsome : c.assignments.isEmpty = false := by
    cases hnone : c.assignments with
    | nil => simp [hnone] at h
    | cons => rfl
  rw [insertHead, hsome]
  exact ((StandsIn.joinWith h ", ").behind _).before _

/-- Every assigned value stands in an update. -/
theorem standsIn_updateHead {c : Clauses} {s sql : String} (h : s ∈ c.assignments.map Prod.snd)
    (hsql : updateHead c = .ok sql) : StandsIn s sql := by
  unfold updateHead at hsql
  split_ifs at hsql
  obtain rfl := Except.ok.inj hsql
  obtain ⟨⟨column, value⟩, hentry, rfl⟩ := List.mem_map.mp h
  have hset : StandsIn value (column ++ " = " ++ value) := (StandsIn.refl value).behind _
  exact (hset.trans (.joinWith (List.mem_map.mpr ⟨(column, value), hentry, rfl⟩) _)).behind _

/-- A condition on rows stands in the statement that filters by it. -/
theorem standsIn_filtered {o : Option String} {s : String} (h : s ∈ o.toList) (head : String) :
    StandsIn s (head ++ conditionClause "WHERE" o) :=
  (standsIn_conditionClause h "WHERE").behind head

/-- The texts that a statement is made of stand in it. -/
theorem standsIn_statement {c : Clauses} {s sql : String} (hsql : dialect.statement c = .ok sql)
    (h : s ∈ c.rendered) : StandsIn s sql := by
  obtain ⟨action, table, columns, joins, assignments, filter, groupBy, having, orderBy, limit,
    offset⟩ := c
  cases action with
  | select =>
      obtain rfl := Except.ok.inj hsql
      rcases List.mem_append.mp h with h | h
      · exact (standsIn_filtered h _).before _
      · have hgroups :=
          (standsIn_conditionClause h "HAVING").behind (listClause "GROUP BY" groupBy)
        exact ((hgroups.before _).before _).behind _
  | insert =>
      obtain rfl := Except.ok.inj hsql
      exact (standsIn_insertHead h).before _
  | update =>
      obtain ⟨head, hhead, hsql⟩ := bind_eq_ok hsql
      obtain rfl := Except.ok.inj hsql
      rcases List.mem_append.mp h with h | h
      · exact (standsIn_updateHead h hhead).before _
      · exact standsIn_filtered h head
  | delete =>
      obtain rfl := Except.ok.inj hsql
      exact standsIn_filtered h _

/-- **The SQLite dialect.** It writes the texts that it is given. -/
theorem carries : dialect.Carries StandsIn where
  refl := StandsIn.refl
  trans := StandsIn.trans
  paren := fun s => ⟨"(", ")", rfl⟩
  leaf := fun column sql => ⟨column ++ " IN ", "", by
    simp only [dialect, leaf, String.append_empty, String.append_assoc]
    rfl⟩
  conj := fun l r => ⟨⟨"(", ") AND (" ++ r ++ ")", by simp [dialect, String.append_assoc]⟩,
    ⟨"(" ++ l ++ ") AND (", ")", rfl⟩⟩
  disj := fun l r => ⟨⟨"(", ") OR (" ++ r ++ ")", by simp [dialect, String.append_assoc]⟩,
    ⟨"(" ++ l ++ ") OR (", ")", rfl⟩⟩
  statement := fun hsql _ h => standsIn_statement hsql h

end Sqlite

/-! ### Nested selects -/

/-- The text of the select `r` from the counters `u` is related to the text `s`, in parentheses. -/
def Inlines (d : Dialect) (into : String → String → Prop) (r : Query) (u : Tally) (s : String) :
    Prop :=
  ∃ sql, r.text d u = .ok sql ∧ into ("(" ++ sql ++ ")") s

/-- Whatever is nested in a request is related to its text. -/
def Query.InlinesAll (d : Dialect) (into : String → String → Prop) (q : Query) : Prop :=
  ∀ t s r u, q.text d t = .ok s → Meets t q.walk r u → Inlines d into r u s

section

variable {d : Dialect} {into : String → String → Prop} (hd : d.Carries into) {t u : Tally}
  {r : Query} {s : String}

include hd

/-- What is made of a text is related to what this text is related to. -/
theorem Inlines.trans {s' : String} (h : Inlines d into r u s) (hs : into s s') :
    Inlines d into r u s' := by
  obtain ⟨sql, hsql, hinto⟩ := h
  exact ⟨sql, hsql, hd.trans hinto hs⟩

/-- A nested select in parentheses, and what is nested in it. -/
theorem Inlines.paren {q : Query} (hq : q.InlinesAll d into) (hs : q.text d t = .ok s)
    (h : Meets t (.select q :: q.walk) r u) : Inlines d into r u ("(" ++ s ++ ")") := by
  rcases h.select_cases with ⟨rfl, rfl⟩ | h
  · exact ⟨s, hs, hd.refl _⟩
  · exact (hq t s r u hs h).trans hd (hd.paren s)

/-- A condition. -/
theorem Condition.write_inlines {c : Condition}
    (hin : ∀ q, .select q ∈ c.walk → q.InlinesAll d into)
    (hs : c.write d (Query.text d) t = .ok s) (h : Meets t c.walk r u) : Inlines d into r u s := by
  induction c using Condition.induction generalizing t s with
  | leaf column operand =>
      cases operand with
      | scalar v | list vs | null => simpa [Condition.walk, Operand.walk] using h.mem
      | subquery q =>
          obtain ⟨sql, hq, hs⟩ := bind_eq_ok hs
          obtain rfl := Except.ok.inj hs
          have hparen := Inlines.paren hd (hin q (List.mem_cons_self ..)) hq h
          exact hparen.trans hd (hd.leaf column sql)
  | conj left right ihl ihr =>
      obtain ⟨l, hl, hs⟩ := bind_eq_ok hs
      obtain ⟨r', hr, hs⟩ := bind_eq_ok hs
      obtain rfl := Except.ok.inj hs
      rcases h.append_cases with h | h
      · exact (ihl (fun q hq => hin q (List.mem_append_left _ hq)) hl h).trans hd (hd.conj l r').1
      · exact (ihr (fun q hq => hin q (List.mem_append_right _ hq)) hr h).trans hd (hd.conj l r').2
  | disj left right ihl ihr =>
      obtain ⟨l, hl, hs⟩ := bind_eq_ok hs
      obtain ⟨r', hr, hs⟩ := bind_eq_ok hs
      obtain rfl := Except.ok.inj hs
      rcases h.append_cases with h | h
      · exact (ihl (fun q hq => hin q (List.mem_append_left _ hq)) hl h).trans hd (hd.disj l r').1
      · exact (ihr (fun q hq => hin q (List.mem_append_right _ hq)) hr h).trans hd (hd.disj l r').2

/-- A condition that may be missing: what nests something is there. -/
theorem writeFilter_inlines {f : Option Condition} {o : Option String}
    (hin : ∀ q, .select q ∈ walkFilter f → q.InlinesAll d into)
    (ho : writeFilter d (Query.text d) t f = .ok o) (h : Meets t (walkFilter f) r u) :
    ∃ s ∈ o.toList, Inlines d into r u s := by
  cases f with
  | none => simpa [walkFilter] using h.mem
  | some c =>
      obtain ⟨s, hs, ho⟩ := bind_eq_ok ho
      obtain rfl := Except.ok.inj ho
      exact ⟨s, Option.mem_toList.mpr rfl, Condition.write_inlines hd hin hs h⟩

/-- Assignments. -/
theorem writeAssignments_inlines {as : List (String × Assigned)}
    {entries : List (String × String)}
    (hin : ∀ q, .select q ∈ walkAssignments as → q.InlinesAll d into)
    (hs : writeAssignments d (Query.text d) t as = .ok entries)
    (h : Meets t (walkAssignments as) r u) :
    ∃ s ∈ entries.map Prod.snd, Inlines d into r u s := by
  induction as generalizing t entries with
  | nil => simpa [walkAssignments] using h.mem
  | cons entry rest ih =>
      obtain ⟨column, assigned⟩ := entry
      obtain ⟨text, htext, hs⟩ := bind_eq_ok hs
      obtain ⟨others, hothers, hs⟩ := bind_eq_ok hs
      obtain rfl := Except.ok.inj hs
      rcases h.append_cases with h | h
      · refine ⟨text, List.mem_cons_self, ?_⟩
        cases assigned with
        | value v => simpa [walkAssignment, Assigned.walk] using h.mem
        | subquery q =>
            obtain ⟨sql, hq, htext⟩ := bind_eq_ok htext
            obtain rfl := Except.ok.inj htext
            exact Inlines.paren hd (hin q (List.mem_cons_self ..)) hq h
      · obtain ⟨s, hs, hinlines⟩ :=
          ih (fun q hq => hin q (List.mem_append_right _ hq)) hothers h
        exact ⟨s, List.mem_cons_of_mem _ hs, hinlines⟩

/-- The clauses of a request. -/
theorem Query.clauses_inlines {q : Query} {c : Clauses}
    (hin : ∀ p, .select p ∈ q.walk → p.InlinesAll d into)
    (hc : q.clauses d (Query.text d) t = .ok c) (h : Meets t q.walk r u) :
    ∃ s ∈ c.rendered, Inlines d into r u s := by
  obtain ⟨table, action, projection, assignments, joins, filter, having, groupBy, orderBy, limit,
    offset⟩ := q
  cases action with
  | select =>
      obtain ⟨filterText, hfilter, hc⟩ := bind_eq_ok hc
      obtain ⟨havingText, hhaving, hc⟩ := bind_eq_ok hc
      obtain rfl := Except.ok.inj hc
      have hwithin := h.append_cases.resolve_left Meets.not_joins
      rcases hwithin.append_cases with h | h
      · obtain ⟨s, hs, hinlines⟩ := writeFilter_inlines hd (fun p hp =>
          hin p (List.mem_append_right _ (List.mem_append_left _ hp))) hfilter h
        exact ⟨s, List.mem_append_left _ hs, hinlines⟩
      · obtain ⟨s, hs, hinlines⟩ := writeFilter_inlines hd (fun p hp =>
          hin p (List.mem_append_right _ (List.mem_append_right _ hp))) hhaving h
        exact ⟨s, List.mem_append_right _ hs, hinlines⟩
  | insert =>
      obtain ⟨entries, hentries, hc⟩ := bind_eq_ok hc
      obtain rfl := Except.ok.inj hc
      exact writeAssignments_inlines hd hin hentries h
  | update =>
      obtain ⟨entries, hentries, hc⟩ := bind_eq_ok hc
      obtain ⟨filterText, hfilter, hc⟩ := bind_eq_ok hc
      obtain rfl := Except.ok.inj hc
      rcases h.append_cases with h | h
      · obtain ⟨s, hs, hinlines⟩ := writeAssignments_inlines hd (fun p hp =>
          hin p (List.mem_append_left _ hp)) hentries h
        exact ⟨s, List.mem_append_left _ hs, hinlines⟩
      · obtain ⟨s, hs, hinlines⟩ := writeFilter_inlines hd (fun p hp =>
          hin p (List.mem_append_right _ hp)) hfilter h
        exact ⟨s, List.mem_append_right _ hs, hinlines⟩
  | delete =>
      obtain ⟨filterText, hfilter, hc⟩ := bind_eq_ok hc
      obtain rfl := Except.ok.inj hc
      exact writeFilter_inlines hd hin hfilter h

/-- **Inlining.** The text of every select that is nested in a request, from the counters where the
walk meets it, is related to the text of the request. By induction over nesting. -/
theorem Query.text_inlines (q : Query) : q.InlinesAll d into := by
  induction q using Query.nested_induction with
  | step q ih =>
      intro t s r u hs h
      rw [Query.text_eq] at hs
      obtain ⟨c, hc, hs⟩ := bind_eq_ok hs
      obtain ⟨text, htext, hinlines⟩ := Query.clauses_inlines hd ih hc h
      exact hinlines.trans hd (hd.statement hs text htext)

end

end TableGateway
