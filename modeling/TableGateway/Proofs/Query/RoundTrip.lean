import TableGateway.Proofs.Dialect.RoundTrip
import TableGateway.Proofs.Query.Shape
import TableGateway.Proofs.Query.Spelling

/-!
# Reading the statements of requests back

What a request lowers to can be read back from its statement. The words of the request stand for
themselves; a rendered condition and a rendered value stay in one part because everything that could
be mistaken for a clause or for another entry, a nested select above all, stands in parentheses that
match. That they match is known from how requests are spelled.

## Word convention

`Query.Phrased P` speaks about the words that the action of a request uses, and about those of the
selects nested in it: what an insert would join or a delete would select never reaches a statement.

## Main results

* `Query.Phrased.text_spelled`: a request is spelled from the words that it uses.
* `Condition.write_uncut`, `Assigned.write_uncut`: rendered fragments stay in one part.
* `Query.Phrased.legible`: the clauses of a request are legible.
* `Query.statement_read`: statements of requests can be read back.
-/

namespace TableGateway

open TableGateway.Numbering
open Template (Word Uncut isMark isBreak Legible)
open Reading (Balanced)

/-! ### What an action uses -/

/-- What the action of a request uses of it. -/
def Query.trim : Query → Query
  | ⟨table, .select, projection, _, joins, filter, having, groupBy, orderBy, limit, offset⟩ =>
    ⟨table, .select, projection, [], joins, filter, having, groupBy, orderBy, limit, offset⟩
  | ⟨table, .insert, _, assignments, _, _, _, _, _, _, _⟩ =>
    ⟨table, .insert, some ⟨[]⟩, assignments, [], none, none, [], [], none, 0⟩
  | ⟨table, .update, _, assignments, _, filter, _, _, _, _, _⟩ =>
    ⟨table, .update, some ⟨[]⟩, assignments, [], filter, none, [], [], none, 0⟩
  | ⟨table, .delete, _, _, _, filter, _, _, _, _, _⟩ =>
    ⟨table, .delete, some ⟨[]⟩, [], [], filter, none, [], [], none, 0⟩

section

variable {P : String → Prop} {q : Query} {t : Tally}

/-- The rest of a request does not reach its clauses. -/
theorem Query.trim_clauses (d : Dialect) (inline : Inliner) (t : Tally) (q : Query) :
    q.trim.clauses d inline t = q.clauses d inline t := by
  obtain ⟨table, action, projection, assignments, joins, filter, having, groupBy, orderBy, limit,
    offset⟩ := q
  cases action <;> rfl

/-- The rest of a request is not walked. -/
theorem Query.trim_walk (q : Query) : q.trim.walk = q.walk := by
  obtain ⟨table, action, projection, assignments, joins, filter, having, groupBy, orderBy, limit,
    offset⟩ := q
  cases action <;> rfl

/-- The rest of a request does not reach its text. -/
theorem Query.trim_text (d : Dialect) (t : Tally) (q : Query) : q.trim.text d t = q.text d t := by
  rw [Query.text_eq, Query.text_eq, Query.trim_clauses]

/-- A request in which every word that is used has the property `P`, nested selects included. -/
structure Query.Phrased (P : String → Prop) (q : Query) : Prop where
  own : ∀ s ∈ q.trim.wording, P s
  nested : ∀ r, .select r ∈ q.walk → ∀ s ∈ r.trim.wording, P s

namespace Query.Phrased

/-- A select that is nested in such a request is one too. -/
theorem of_nested {r : Query} (h : q.Phrased P) (hr : .select r ∈ q.walk) : r.Phrased P :=
  ⟨h.nested r hr, fun p hp => h.nested p (Query.mem_walk_of_nested hr hp)⟩

/-- Such a request has the weaker properties too. -/
theorem imp {P' : String → Prop} (h : q.Phrased P) (himp : ∀ s, P s → P' s) : q.Phrased P' :=
  ⟨fun s hs => himp s (h.own s hs), fun r hr s hs => himp s (h.nested r hr s hs)⟩

/-- The text of such a request is spelled from words with the property. -/
theorem text_spelled (h : q.Phrased P) : q.TextSpelled P := by
  induction q using Query.nested_induction with
  | step q ih =>
      have htrim : q.trim.TextSpelled P := Query.text_spelled_of_nested h.own fun r hr => by
        rw [Query.trim_walk] at hr
        exact ih r hr (h.of_nested hr)
      intro t sql hsql
      rw [← Query.trim_walk]
      exact htrim t sql (by rwa [Query.trim_text])

end Query.Phrased

/-! ### Rendered fragments -/

/-- Parentheses match in a word: it has none. -/
theorem Template.Word.balanced {s : String} (h : Word s) : Balanced s := by
  refine .of_noParen fun c hc => ⟨?_, ?_⟩ <;> rintro rfl <;> exact h.solid _ hc (by decide)

/-- A placeholder is a word. -/
theorem Template.Word.placeholder {n : Nat} {name : String} (h : IsNameOf n name) :
    Word (Sqlite.placeholder name) := by
  have hchars : (Sqlite.placeholder name).toList = ':' :: name.toList := by
    simp [Sqlite.placeholder, String.toList_append]
  have hcolon : ':' ∈ (Sqlite.placeholder name).toList := by simp [hchars]
  refine ⟨by simp [hchars], ?_, Template.isMark_eq_false hcolon (by decide), ?_⟩
  · rw [hchars]
    refine List.forall_mem_cons.mpr ⟨by decide, fun c hc hsep => ?_⟩
    have hname := isNameChar_of_mem_name h c hc
    simp only [Template.isSeparator, Bool.or_eq_true, beq_iff_eq] at hsep
    rcases hsep with ((rfl | rfl) | rfl) | rfl <;> exact absurd hname (by decide)
  · intro heq
    rw [heq] at hcolon
    exact absurd hcolon (by decide)

/-- A membership begins no clause. -/
theorem uncut_membership {column body : String} (hcolumn : Word column) (hbody : Balanced body) :
    Uncut isMark (column ++ " IN (" ++ body ++ ")") := by
  have hin : ∀ p ∈ [Template.blank, "IN".toList, Template.blank], Template.Flat isMark p := by
    decide
  have hsplit : column ++ " IN (" ++ body ++ ")" = column ++ " IN " ++ ("(" ++ body ++ ")") := by
    rw [show " IN (" = " IN " ++ "(" from rfl]
    simp only [String.append_assoc]
  rw [hsplit]
  exact .append hin (Template.pieces_between " IN " "IN" rfl (by decide) _ _) hcolumn.uncut.mark
    (.paren (.of_balanced hbody))

/-- Two sides in parentheses with a word between them begin no clause. -/
theorem uncut_sides {l r : String} (between word : String) (hbetween : between = " " ++ word ++ " ")
    (hword : Template.pieces word = [word.toList])
    (hflat : ∀ p ∈ [Template.blank, word.toList, Template.blank], Template.Flat isMark p)
    (hl : Balanced l) (hr : Balanced r) :
    Uncut isMark ("(" ++ l ++ (")" ++ between ++ "(") ++ r ++ ")") := by
  have hsplit : "(" ++ l ++ (")" ++ between ++ "(") ++ r ++ ")" =
      ("(" ++ l ++ ")") ++ between ++ ("(" ++ r ++ ")") := by
    simp only [String.append_assoc]
  rw [hsplit]
  exact .append hflat (Template.pieces_between between word hbetween hword _ _)
    (.paren (.of_balanced hl)) (.paren (.of_balanced hr))

/-- Both of two conditions. -/
theorem uncut_conj {l r : String} (hl : Balanced l) (hr : Balanced r) :
    Uncut isMark (Sqlite.dialect.conj l r) :=
  uncut_sides " AND " "AND" rfl (by decide) (by decide) hl hr

/-- At least one of two conditions. -/
theorem uncut_disj {l r : String} (hl : Balanced l) (hr : Balanced r) :
    Uncut isMark (Sqlite.dialect.disj l r) :=
  uncut_sides " OR " "OR" rfl (by decide) (by decide) hl hr

/-- A leaf begins no clause. -/
theorem Operand.write_uncut {column : String} {o : Operand} {s : String} (hcolumn : Word column)
    (hin : ∀ r, .select r ∈ o.walk → r.TextSpelled Balanced)
    (hs : o.write Sqlite.dialect (Query.text Sqlite.dialect) t column = .ok s) :
    Uncut isMark s := by
  cases o with
  | scalar v =>
      obtain rfl := Except.ok.inj hs
      have hname : IsNameOf (t.params + 1) (paramName (t.params + 1)) := .inl rfl
      exact (Template.uncut_assignment (a := (column, _)) hcolumn
        (Word.placeholder hname).uncut).mark
  | list vs =>
      obtain rfl := Except.ok.inj hs
      refine uncut_membership hcolumn (Reading.balanced_of_spelled (Sqlite.spelled_placeholders
        (n := t.params + 1) fun name hname => ?_))
      obtain ⟨⟨v, i⟩, -, rfl⟩ := List.mem_map.mp hname
      exact .inr ⟨i, rfl⟩
  | null =>
      obtain rfl := Except.ok.inj hs
      have hnull : Uncut isMark "IS NULL" := by decide
      have huncut := hcolumn.uncut.mark.blank (by decide) hnull
      have hassoc : column ++ " " ++ "IS NULL" = column ++ " IS NULL" := by
        rw [String.append_assoc]
        rfl
      rwa [hassoc] at huncut
  | subquery q =>
      obtain ⟨sql, hq, hs⟩ := bind_eq_ok hs
      obtain rfl := Except.ok.inj hs
      exact uncut_membership hcolumn
        (Reading.balanced_of_spelled (hin q List.mem_cons_self t sql hq))

/-- Parentheses match in a condition. -/
theorem Condition.balanced_of_words {c : Condition} {s : String} (hwords : ∀ s ∈ c.columns, Word s)
    (hin : ∀ r, .select r ∈ c.walk → r.TextSpelled Balanced)
    (hs : c.write Sqlite.dialect (Query.text Sqlite.dialect) t = .ok s) : Balanced s :=
  Reading.balanced_of_spelled
    (Condition.write_spelled (fun s hs => (hwords s hs).balanced) hin hs)

/-- A condition begins no clause. -/
theorem Condition.write_uncut {c : Condition} {s : String} (hwords : ∀ s ∈ c.columns, Word s)
    (hin : ∀ r, .select r ∈ c.walk → r.TextSpelled Balanced)
    (hs : c.write Sqlite.dialect (Query.text Sqlite.dialect) t = .ok s) : Uncut isMark s := by
  cases c with
  | leaf column operand => exact Operand.write_uncut (hwords column List.mem_cons_self) hin hs
  | conj left right =>
      obtain ⟨l, hl, hs⟩ := bind_eq_ok hs
      obtain ⟨r, hr, hs⟩ := bind_eq_ok hs
      obtain rfl := Except.ok.inj hs
      exact uncut_conj
        (Condition.balanced_of_words (fun s hs => hwords s (List.mem_append_left _ hs))
          (fun r hr => hin r (List.mem_append_left _ hr)) hl)
        (Condition.balanced_of_words (fun s hs => hwords s (List.mem_append_right _ hs))
          (fun r hr => hin r (List.mem_append_right _ hr)) hr)
  | disj left right =>
      obtain ⟨l, hl, hs⟩ := bind_eq_ok hs
      obtain ⟨r, hr, hs⟩ := bind_eq_ok hs
      obtain rfl := Except.ok.inj hs
      exact uncut_disj
        (Condition.balanced_of_words (fun s hs => hwords s (List.mem_append_left _ hs))
          (fun r hr => hin r (List.mem_append_left _ hr)) hl)
        (Condition.balanced_of_words (fun s hs => hwords s (List.mem_append_right _ hs))
          (fun r hr => hin r (List.mem_append_right _ hr)) hr)

/-- A condition that may be missing. -/
theorem writeFilter_uncut {f : Option Condition} {o : Option String}
    (hwords : ∀ s ∈ columnsOf f, Word s)
    (hin : ∀ r, .select r ∈ walkFilter f → r.TextSpelled Balanced)
    (ho : writeFilter Sqlite.dialect (Query.text Sqlite.dialect) t f = .ok o) :
    ∀ s ∈ o, Uncut isMark s := by
  cases f with
  | none =>
      obtain rfl := Except.ok.inj ho
      simp
  | some c =>
      obtain ⟨s, hs, ho⟩ := bind_eq_ok ho
      obtain rfl := Except.ok.inj ho
      simpa using Condition.write_uncut hwords hin hs

/-- An assigned value is one entry. -/
theorem Assigned.write_uncut {a : Assigned} {s : String}
    (hin : ∀ r, .select r ∈ a.walk → r.TextSpelled Balanced)
    (hs : a.write Sqlite.dialect (Query.text Sqlite.dialect) t = .ok s) : Uncut isBreak s := by
  cases a with
  | value v =>
      obtain rfl := Except.ok.inj hs
      have hname : IsNameOf (t.params + 1) (paramName (t.params + 1)) := .inl rfl
      exact (Word.placeholder hname).uncut
  | subquery q =>
      obtain ⟨sql, hq, hs⟩ := bind_eq_ok hs
      obtain rfl := Except.ok.inj hs
      exact .paren (.of_balanced
        (Reading.balanced_of_spelled (hin q List.mem_cons_self t sql hq)))

/-- Assigned columns are words and their values are entries. -/
theorem writeAssignments_uncut {as : List (String × Assigned)} {entries : List (String × String)}
    (hwords : ∀ s ∈ as.map Prod.fst, Word s)
    (hin : ∀ r, .select r ∈ walkAssignments as → r.TextSpelled Balanced)
    (hs : writeAssignments Sqlite.dialect (Query.text Sqlite.dialect) t as = .ok entries) :
    ∀ e ∈ entries, Word e.1 ∧ Uncut isBreak e.2 := by
  induction as generalizing t entries with
  | nil =>
      obtain rfl := Except.ok.inj hs
      simp
  | cons entry rest ih =>
      obtain ⟨column, assigned⟩ := entry
      obtain ⟨text, htext, hs⟩ := bind_eq_ok hs
      obtain ⟨others, hothers, hs⟩ := bind_eq_ok hs
      obtain rfl := Except.ok.inj hs
      have hvalue := Assigned.write_uncut (fun r hr => hin r (List.mem_append_left _ hr)) htext
      exact List.forall_mem_cons.mpr ⟨⟨hwords column List.mem_cons_self, hvalue⟩,
        ih (fun s hs => hwords s (List.mem_cons_of_mem _ hs))
          (fun r hr => hin r (List.mem_append_right _ hr)) hothers⟩

/-! ### Requests -/

/-- **Clauses of a request are legible.** Its own words stand for themselves, and what is rendered
stays in one part, because nested selects stand in parentheses that match. -/
theorem Query.Phrased.legible {c : Clauses} (h : q.Phrased Word)
    (hc : q.clauses Sqlite.dialect (Query.text Sqlite.dialect) t = .ok c) : Legible c := by
  have hin : ∀ r, .select r ∈ q.walk → r.TextSpelled Balanced := fun r hr =>
    ((h.of_nested hr).imp fun s hs => hs.balanced).text_spelled
  have hwords := h.own
  simp only [Query.wording, List.forall_mem_cons, List.forall_mem_append] at hwords
  obtain ⟨htable, ⟨⟨⟨⟨⟨hselected, hjoined⟩, hset⟩, hrows⟩, hgroups⟩, hgroup⟩, horder⟩ := hwords
  have hcolumns := Query.forall_selection (fun _ _ => Word.qualify) htable hselected
  obtain ⟨table, action, projection, assignments, joins, filter, having, groupBy, orderBy, limit,
    offset⟩ := q
  cases action with
  | select =>
      obtain ⟨f, hf, hc⟩ := bind_eq_ok hc
      obtain ⟨g, hg, hc⟩ := bind_eq_ok hc
      obtain rfl := Except.ok.inj hc
      have hjoins := forall_namedJoins (m := t.aliases) (fun _ _ => Word.qualify) Word.aliasName
        htable hjoined
      exact {
        table := htable, columns := hcolumns
        joins := fun j hj => ⟨(hjoins j hj).1, (hjoins j hj).2.1, (hjoins j hj).2.2⟩
        assignments := by simp
        filter := writeFilter_uncut hrows
          (fun r hr => hin r (List.mem_append_right _ (List.mem_append_left _ hr))) hf
        groupBy := hgroup
        having := writeFilter_uncut hgroups
          (fun r hr => hin r (List.mem_append_right _ (List.mem_append_right _ hr))) hg
        orderBy := fun e he => horder e.1 (List.mem_map_of_mem he)
        trimmed := rfl }
  | insert =>
      obtain ⟨entries, ha, hc⟩ := bind_eq_ok hc
      obtain rfl := Except.ok.inj hc
      exact {
        table := htable, columns := by simp, joins := by simp
        assignments := writeAssignments_uncut hset hin ha, filter := by simp, groupBy := by simp
        having := by simp, orderBy := by simp, trimmed := rfl }
  | update =>
      obtain ⟨entries, ha, hc⟩ := bind_eq_ok hc
      obtain ⟨f, hf, hc⟩ := bind_eq_ok hc
      obtain rfl := Except.ok.inj hc
      exact {
        table := htable, columns := by simp, joins := by simp
        assignments := writeAssignments_uncut hset
          (fun r hr => hin r (List.mem_append_left _ hr)) ha
        filter := writeFilter_uncut hrows (fun r hr => hin r (List.mem_append_right _ hr)) hf
        groupBy := by simp, having := by simp, orderBy := by simp, trimmed := rfl }
  | delete =>
      obtain ⟨f, hf, hc⟩ := bind_eq_ok hc
      obtain rfl := Except.ok.inj hc
      exact {
        table := htable, columns := by simp, joins := by simp, assignments := by simp
        filter := writeFilter_uncut hrows hin hf, groupBy := by simp, having := by simp
        orderBy := by simp, trimmed := rfl }

/-- **Statements of requests can be read back.** The clauses of a request whose own words, and
those of the selects nested in it, are words, from any counters: its statement is read as exactly
these clauses, so that no other such request has the same statement with other clauses. There is a
statement unless an update sets nothing. -/
theorem Query.statement_read {c : Clauses} (h : q.Phrased Word)
    (hc : q.clauses Sqlite.dialect (Query.text Sqlite.dialect) t = .ok c) :
    (∃ sql, q.text Sqlite.dialect t = .ok sql ∧ Sqlite.statement c = .ok sql ∧
      Template.read sql = some c ∧
      ∀ (q' : Query) (t' : Tally) (c' : Clauses), q'.Phrased Word →
        q'.clauses Sqlite.dialect (Query.text Sqlite.dialect) t' = .ok c' →
        Sqlite.statement c' = .ok sql → c' = c) ∨
    c.action = .update ∧ c.assignments = [] ∧ ∃ e, Sqlite.statement c = .error e := by
  refine (h.legible hc).read_statement.imp_left ?_
  rintro ⟨sql, hsql, hread⟩
  refine ⟨sql, ?_, hsql, hread, fun q' t' c' h' hc' hsql' => ?_⟩
  · rw [Query.text_eq, hc]
    exact hsql
  · rcases (h'.legible hc').read_statement with ⟨sql', heq, hread'⟩ | ⟨-, -, e, he⟩
    · obtain rfl := Except.ok.inj (heq.symm.trans hsql')
      exact Option.some.inj (hread'.symm.trans hread)
    · exact absurd (he.symm.trans hsql') (by simp)

end

namespace Query

/-- The people whose key is among those of three named ones, each with the people they lead, behind
the first five of them. -/
def sampleLeaders : Query :=
  { Query.new people .select with
    projection := some (.renamed [("label", "people.name")])
    joins := [⟨people, .left, [("leader", "id"), ("team", "people.team")]⟩]
    filter := some (.conj
      (.leaf "people.id" (.subquery
        { Query.new people .select with
          filter := some (.leaf "name" (.list [.text "a", .text "b", .text "c"]))
          limit := some 3 }))
      (.leaf "people.name" (.scalar (.text "d"))))
    groupBy := ["people.name", "people.id"]
    orderBy := [("label", .desc)]
    offset := 5 }

/-- The select is read back, with its nested select inside the condition and without a limit. -/
theorem statement_read_leaders :
    sampleLeaders.Phrased Word ∧ ∃ sql c,
      sampleLeaders.text Sqlite.dialect .start = .ok sql ∧ Template.read sql = some c ∧
        c.limit = none ∧ c.offset = 5 := by
  have hphrased : sampleLeaders.Phrased Word := by
    refine ⟨by decide, fun r hr => ?_⟩
    simp only [sampleLeaders, Query.new, Query.walk, walkFilter, Condition.walk, Operand.walk,
      List.mem_append, List.mem_map, List.mem_cons, List.not_mem_nil, reduceCtorEq, and_false,
      exists_false, Met.select.injEq, or_false, false_or] at hr
    rw [hr]
    decide
  obtain ⟨c, hc, hlimit, hoffset, haction⟩ : ∃ c,
      sampleLeaders.clauses Sqlite.dialect (Query.text Sqlite.dialect) .start = .ok c ∧
        c.limit = none ∧ c.offset = 5 ∧ c.action = .select := ⟨_, rfl, rfl, rfl, rfl⟩
  rcases statement_read hphrased hc with ⟨sql, htext, -, hread, -⟩ | ⟨hupdate, -⟩
  · exact ⟨hphrased, sql, c, htext, hread, hlimit, hoffset⟩
  · exact absurd (haction.symm.trans hupdate) (by decide)

end Query

end TableGateway
