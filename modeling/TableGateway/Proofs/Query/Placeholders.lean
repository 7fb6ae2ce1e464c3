import TableGateway.Proofs.Query.Shape
import TableGateway.Proofs.Query.Spelling

/-!
# Placeholders and parameters

The text of a statement and its bag are made on different ways: the dialect writes clause after
clause, and the bag is collected as the request is walked. This module reads a text back, from left
to right, and shows that the two agree: the placeholders of a statement are exactly the names of its
bag, each once and in the order of the bag. So it is for the statement of a request and for the
statement that counts its rows.

## Reading convention

A placeholder is a colon and the longest run of letters, digits and underscores behind it. A colon
in a word of the request would be read as one too, so the words are required to have none.

## Main results

* `placeholdersIn_placeholder`: a placeholder is read back where its name ends.
* `Spelled.placeholders`: the placeholders of a text are those it is spelled with.
* `Query.placeholders_exact`: statements of a request.
-/

namespace TableGateway

open TableGateway.Numbering

/-! ### Reading placeholders -/

/-- The names behind the colons of a text. What is read as a name holds no colon, so the search goes
on right behind the colon. -/
def placeholdersIn : List Char → List String
  | [] => []
  | c :: rest =>
    if c = ':' then String.ofList (rest.takeWhile isNameChar) :: placeholdersIn rest
    else placeholdersIn rest

/-- The placeholders of a text, from left to right. -/
def placeholders (sql : String) : List String := placeholdersIn sql.toList

/-- A word without a colon. -/
def Colonless (s : String) : Prop := ':' ∉ s.toList

instance : DecidablePred Colonless := fun s => inferInstanceAs (Decidable (':' ∉ s.toList))

/-- Text without a colon has no placeholder. -/
theorem placeholdersIn_append {l : List Char} (h : ':' ∉ l) (rest : List Char) :
    placeholdersIn (l ++ rest) = placeholdersIn rest := by
  induction l with
  | nil => rfl
  | cons c l ih =>
      obtain ⟨hc, hl⟩ := not_or.mp (mt List.mem_cons.mpr h)
      rw [List.cons_append, placeholdersIn, if_neg (Ne.symm hc), ih hl]

/-- The characters up to the end of a name. -/
theorem takeWhile_name {name rest : List Char} (h : ∀ c ∈ name, isNameChar c)
    (hrest : EndsName rest) : (name ++ rest).takeWhile isNameChar = name := by
  rw [List.takeWhile_append_of_pos h]
  cases rest with
  | nil => simp
  | cons c rest => rw [List.takeWhile_cons_of_neg (hrest c (by simp)), List.append_nil]

/-- A placeholder is read back where its name ends. -/
theorem placeholdersIn_placeholder {n : Nat} {name : String} {rest : List Char}
    (h : IsNameOf n name) (hrest : EndsName rest) :
    placeholdersIn ((Sqlite.placeholder name).toList ++ rest) = name :: placeholdersIn rest := by
  have hchars := isNameChar_of_mem_name h
  have hcolon : ':' ∉ name.toList := fun hmem => absurd (hchars ':' hmem) (by decide)
  have hsplit : (Sqlite.placeholder name).toList ++ rest = ':' :: (name.toList ++ rest) := by
    rw [Sqlite.placeholder, String.toList_append]
    rfl
  rw [hsplit, placeholdersIn, if_pos rfl, takeWhile_name hchars hrest, String.ofList_toList,
    placeholdersIn_append hcolon]

/-! ### Placeholders of a spelled text -/

/-- Before text that ends a name, the placeholders of a text are those it is spelled with. By
induction on the spelling: what follows a part is what follows it in the text, and that ends a name
wherever the part could end with one. -/
theorem Spelled.placeholdersIn_append {sql : String} {names : List String}
    (h : Spelled Colonless sql names) {rest : List Char} (hrest : names = [] ∨ EndsName rest) :
    placeholdersIn (sql.toList ++ rest) = names ++ placeholdersIn rest := by
  induction h generalizing rest with
  | word h => exact TableGateway.placeholdersIn_append h rest
  | fixed h => exact TableGateway.placeholdersIn_append (fun hmem => (h _ hmem).1 rfl) rest
  | placeholder h => exact placeholdersIn_placeholder h (hrest.resolve_left (by simp))
  | @paren s names h ih =>
      have hopen : ':' ∉ ['('] := by decide
      have hclose : ':' ∉ [')'] := by decide
      have hsplit : ("(" ++ s ++ ")").toList ++ rest = ['('] ++ (s.toList ++ ([')'] ++ rest)) := by
        simp [String.toList_append]
      have hends : EndsName ([')'] ++ rest) := endsName_cons (by decide) rest
      rw [hsplit, TableGateway.placeholdersIn_append hopen, ih (.inr hends),
        TableGateway.placeholdersIn_append hclose]
  | @append s s' names names' h h' hends ih ih' =>
      have hsecond : names' = [] ∨ EndsName rest := hrest.imp_left fun hnil =>
        (List.append_eq_nil_iff.mp hnil).2
      have hfirst : names = [] ∨ EndsName (s'.toList ++ rest) := by
        rcases hends with hnil | hs'
        · exact .inl hnil
        · rcases hrest with hnil | hrest
          · exact .inl (List.append_eq_nil_iff.mp hnil).1
          · exact .inr (hs'.append hrest)
      rw [String.toList_append, List.append_assoc, ih hfirst, ih' hsecond, List.append_assoc]

/-- The placeholders of a text are those it is spelled with. -/
theorem Spelled.placeholders {sql : String} {names : List String}
    (h : Spelled Colonless sql names) : placeholders sql = names := by
  have hread := h.placeholdersIn_append (.inr endsName_nil)
  rwa [List.append_nil, placeholdersIn, List.append_nil] at hread

/-! ### Placeholders of a request -/

/-- A statement whose placeholders are the names of its bag, each once. -/
structure Statement.Agrees (s : Statement) : Prop where
  placeholders_eq : placeholders s.sql = s.params.names
  nodup : (placeholders s.sql).Nodup

/-- The two are spelled with the same names. -/
theorem Statement.Agrees.of_spelled {s : Statement} (h : Spelled Colonless s.sql s.params.names) :
    s.Agrees := by
  refine ⟨h.placeholders, ?_⟩
  rw [h.placeholders]
  exact s.params.distinct

namespace Query

/-- The statement of a request is spelled with the names of its bag. -/
theorem statementIn_spelled {q : Query} {P : String → Prop} (h : q.Worded P) {s : Statement}
    (hs : q.statementIn Sqlite.dialect = .ok s) : Spelled P s.sql s.params.names := by
  rw [statementIn_eq] at hs
  obtain ⟨sql, htext, hs⟩ := bind_eq_ok hs
  obtain rfl := Except.ok.inj hs
  exact text_spelled h .start sql htext

/-- A request that is counted has no words of its own beyond those of the request: its ordering is
left out, and the count takes the place of its select list. -/
theorem Worded.counted {q : Query} (h : q.Worded Colonless) {projection : Option Projection}
    (hprojection : projection = q.projection ∨ projection = some rowCount) :
    Worded Colonless { q with orderBy := [], projection := projection } := by
  refine ⟨?_, fun r hr => h.nested r (q.walk_counted projection ▸ hr)⟩
  have hown := h.own
  simp only [wording, List.forall_mem_cons, List.forall_mem_append] at hown ⊢
  obtain ⟨htable, ⟨⟨⟨⟨⟨hselected, hjoined⟩, hset⟩, hrows⟩, hgroups⟩, hgroup⟩, -⟩ := hown
  refine ⟨htable, ⟨⟨⟨⟨⟨?_, hjoined⟩, hset⟩, hrows⟩, hgroups⟩, hgroup⟩, by simp⟩
  rcases hprojection with rfl | rfl
  · exact hselected
  · have hcount : ∀ s ∈ ["COUNT(*)", "count"], Colonless s := by decide
    exact hcount

/-- A counted request binds what the request binds. -/
theorem counted_params (q : Query) (projection : Option Projection) {d : Dialect} {s : Statement}
    (h : statementIn d { q with orderBy := [], projection := projection } = .ok s) :
    s.params = bag 0 q.walk := by
  rw [statementIn_params h, walk_counted]

/-- **Text and bag.** If no word of a request has a colon, nested selects included, the placeholders
of its SQLite statement, read from left to right, are exactly the names that the statement binds,
each once and in the same order, and these are the names of the walk through the request with the
values that are met there. The same holds of the statement that counts its rows, whether the
request is counted from outside or its select list becomes the count. -/
theorem placeholders_exact {q : Query} (h : q.Worded Colonless) :
    (∀ s, q.statementIn Sqlite.dialect = .ok s →
      s.Agrees ∧ s.params.entries = bindingsFrom 0 q.walk) ∧
      ∀ dialects s, dialects (q.table.poolOf .read) = .ok Sqlite.dialect →
        q.countStatement dialects = .ok s →
          s.Agrees ∧ s.params.entries = bindingsFrom 0 q.walk := by
  refine ⟨fun s hs => ⟨.of_spelled (statementIn_spelled h hs),
    congrArg Params.entries (statementIn_params hs)⟩, fun dialects s hdialect hs => ?_⟩
  rw [countStatement, hdialect] at hs
  change (if q.reshapes then _ else _) = _ at hs
  split at hs
  · obtain ⟨inner, hinner, hs⟩ := bind_eq_ok hs
    obtain rfl := Except.ok.inj hs
    have hspelled := statementIn_spelled (h.counted (.inl rfl)) hinner
    have hbefore : Bare Colonless "SELECT COUNT(*) FROM " := .word (by decide)
    have hcount := (hbefore.behind hspelled.paren).before (.fixed (s := " AS counted") (by decide))
      (StartsWith.endsName_blank ⟨_, rfl⟩)
    have hopening : ∀ s, "SELECT COUNT(*) FROM " ++ ("(" ++ s) = "SELECT COUNT(*) FROM (" ++ s :=
      fun s => by
        rw [← String.append_assoc]
        rfl
    refine ⟨.of_spelled ?_, congrArg Params.entries (counted_params q q.projection hinner)⟩
    simpa [Dialect.count, Sqlite.dialect, String.append_assoc, hopening] using hcount
  · exact ⟨.of_spelled (statementIn_spelled (h.counted (.inr rfl)) hs),
      congrArg Params.entries (counted_params q (some rowCount) hs)⟩

/-- Names that more than one of certain people have. -/
def sampleReport : Query :=
  { Query.new people .select with
    projection := some (.renamed [("name", "name"), ("n", "COUNT(*)")])
    filter := some (.conj (.leaf "name" (.list [.text "a", .text "b"])) (.leaf "id" (.subquery
      { Query.new people .select with
        projection := some (.plain ["id"])
        filter := some (.leaf "name" (.scalar (.text ":p9"))) })))
    groupBy := ["name"]
    having := some (.disj (.leaf "COUNT(*)" (.scalar (.integer 2))) (.leaf "MAX(id)" .null)) }

/-- None of their words has a colon. -/
theorem sampleReport_worded : sampleReport.Worded Colonless := by
  refine ⟨by decide, fun r hr => ?_⟩
  simp only [sampleReport, Query.new, walk, walkFilter, Condition.walk, Operand.walk, List.map_nil,
    List.nil_append, List.append_nil, List.cons_append, List.mem_cons, reduceCtorEq, false_or,
    List.not_mem_nil, or_false, Met.select.injEq] at hr
  subst hr
  decide

/-- A list, a nested select and a condition on groups. It is counted from outside, with the same
placeholders and values. -/
theorem sampleReport_placeholders :
    sampleReport.Worded Colonless ∧
      (∃ s, sampleReport.statementIn Sqlite.dialect = .ok s ∧ s.Agrees ∧
        placeholders s.sql = ["p1_0", "p1_1", "p2", "p3"]) ∧
      ∃ s, sampleReport.countStatement (fun _ => .ok Sqlite.dialect) = .ok s ∧ s.Agrees ∧
        placeholders s.sql = ["p1_0", "p1_1", "p2", "p3"] ∧
        s.params.entries = [("p1_0", .text "a"), ("p1_1", .text "b"), ("p2", .text ":p9"),
          ("p3", .integer 2)] := by
  obtain ⟨hown, hcounted⟩ := placeholders_exact sampleReport_worded
  obtain ⟨s, hs⟩ : ∃ s, sampleReport.statementIn Sqlite.dialect = .ok s := ⟨_, rfl⟩
  obtain ⟨c, hc⟩ : ∃ c, sampleReport.countStatement (fun _ => .ok Sqlite.dialect) = .ok c :=
    ⟨_, rfl⟩
  have hbag : bindingsFrom 0 sampleReport.walk = [("p1_0", .text "a"), ("p1_1", .text "b"),
      ("p2", .text ":p9"), ("p3", .integer 2)] := by decide +kernel
  have hread : ∀ st : Statement, st.Agrees ∧ st.params.entries = bindingsFrom 0 sampleReport.walk →
      placeholders st.sql = ["p1_0", "p1_1", "p2", "p3"] := fun st h => by
    rw [h.1.placeholders_eq, Params.names, h.2, hbag]
    rfl
  have hs' := hown s hs
  have hc' := hcounted _ c rfl hc
  exact ⟨sampleReport_worded, ⟨s, hs, hs'.1, hread s hs'⟩, c, hc, hc'.1, hread c hc',
    hc'.2.trans hbag⟩

end Query

end TableGateway
