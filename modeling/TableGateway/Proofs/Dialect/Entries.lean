import TableGateway.Proofs.Dialect.Template

/-!
# Entries of clauses

What stands in the clauses of a statement: columns, names, joined tables, pairs of columns, ordering
entries, assignments and lists of them. For each, this module says which pieces its text has, that
the text comes through a split in one part, and that the grammar reads it back.

## Word convention

A name or an expression is a `Word`: a single piece that begins no clause. The dialect quotes
nothing, so a text with a blank, a comma or a parenthesis in it is none. An entry is a text that is
`Uncut` where entries and clauses are split: outside parentheses it has neither a comma nor the
beginning of a clause.

## Main results

* `Word.of_letters`, `Word.qualify`, `Word.aliasName`: words.
* `columns_selectList`, `names_joinWith`, `pairs_joinWith`: lists that are read back.
* `joined_eq`, `ordered_eq`, `assignment_eq`: entries that are read back.
* `insertColumns_eq`, `insertValues_eq`: an inserted row.
-/

namespace TableGateway.Template

/-! ### Words -/

/-- A place to split at when entries of clauses are read. -/
def isBreak (p : Piece) : Bool := isComma p || isMark p

/-- A word that stands for itself in a statement: no character of it separates words, and it does
not begin a clause. Every word of letters, digits, underscores and full stops that is no keyword is
one. -/
structure Word (s : String) : Prop where
  ne_nil : s.toList ≠ []
  solid : ∀ c ∈ s.toList, ¬ isSeparator c
  unmarked : isMark s.toList = false
  ne_star : s ≠ "*"

instance : DecidablePred Word := fun s =>
  have : Decidable (∀ c ∈ s.toList, ¬ isSeparator c) := List.decidableBAll _ _
  decidable_of_iff (s.toList ≠ [] ∧ (∀ c ∈ s.toList, ¬ isSeparator c) ∧
      isMark s.toList = false ∧ s ≠ "*")
    ⟨fun h => ⟨h.1, h.2.1, h.2.2.1, h.2.2.2⟩,
      fun h => ⟨h.ne_nil, h.solid, h.unmarked, h.ne_star⟩⟩

/-- The words that begin clauses have capital letters only. -/
theorem all_isUpper_keyword (k : Mark) : k.keyword.toList.all Char.isUpper := by
  cases k with
  | join kind => cases kind <;> decide
  | _ => decide

/-- A piece with a character that is no letter begins no clause. -/
theorem isMark_eq_false {p : Piece} {c : Char} (hc : c ∈ p)
    (hupper : (Action.upperChar c).isUpper = false) : isMark p = false := by
  have hnone : mark? p = none := by
    rw [mark?, List.find?_eq_none]
    intro k _ hk
    have hmap : p.map Action.upperChar = k.keyword.toList := by simpa [isWord] using hk
    have hmem : Action.upperChar c ∈ k.keyword.toList := hmap ▸ List.mem_map_of_mem hc
    rw [List.all_eq_true.mp (all_isUpper_keyword k) _ hmem] at hupper
    exact absurd hupper (by decide)
  rw [isMark, hnone]
  rfl

/-- A digit is no letter. -/
theorem isUpper_digit {c : Char} (h : c.isDigit) : (Action.upperChar c).isUpper = false := by
  have hval : c.val.toNat ≤ 57 := by
    simp only [Char.isDigit, Bool.and_eq_true, decide_eq_true_eq, UInt32.le_iff_toNat_le] at h
    exact h.2
  have hlower : ¬ 'a' ≤ c := by
    have ha : 'a'.val.toNat = 97 := rfl
    rw [Char.le_def, UInt32.le_iff_toNat_le]
    omega
  have hself : Action.upperChar c = c := by simp [Action.upperChar, hlower]
  have hupper : ¬ 'A'.val ≤ c.val := by
    have ha : 'A'.val.toNat = 65 := rfl
    rw [UInt32.le_iff_toNat_le]
    omega
  rw [hself]
  exact decide_eq_false fun h => hupper h.1

namespace Word

variable {s s' : String}

/-- A word is one piece. -/
theorem pieces (h : Word s) : pieces s = [s.toList] := cut_word h.ne_nil h.solid

/-- There is no place to split at. -/
theorem flat (h : Word s) : Flat isBreak s.toList := by
  have hne : ∀ c, isSeparator c → s.toList ≠ [c] := by
    intro c hc heq
    exact h.solid c (by simp [heq]) hc
  refine ⟨?_, hne '(' (by decide), hne ')' (by decide)⟩
  rw [isBreak, isComma, h.unmarked]
  simp [hne ',' (by decide)]

/-- A word is one entry. -/
theorem uncut (h : Word s) : Uncut isBreak s := .of_flat (by simp [h.pieces, h.flat])

/-- A word is read back. -/
theorem name (h : Word s) : name? (Template.pieces s) = some s := by simp [name?, h.pieces]

/-- It is no blank. -/
theorem ne_blank (h : Word s) : s.toList ≠ blank := by
  intro heq
  exact h.solid ' ' (by simp [heq]) (by decide)

/-- A word of letters, digits, underscores and full stops. -/
theorem of_letters (hne : s.toList ≠ [])
    (h : ∀ c ∈ s.toList, c.isAlphanum || c == '_' || c == '.') (hmark : isMark s.toList = false) :
    Word s := by
  refine ⟨hne, fun c hc hsep => ?_, hmark, ?_⟩
  · have hletter := h c hc
    simp only [isSeparator, Bool.or_eq_true, beq_iff_eq] at hsep
    rcases hsep with ((rfl | rfl) | rfl) | rfl <;> exact absurd hletter (by decide)
  · rintro rfl
    exact absurd (h '*' (by decide)) (by decide)

/-- A qualified name. -/
theorem qualify (h : Word s) (h' : Word s') : Word (s ++ "." ++ s') := by
  have hchars : (s ++ "." ++ s').toList = s.toList ++ '.' :: s'.toList := by
    simp [String.toList_append]
  have hdot : '.' ∈ (s ++ "." ++ s').toList := by simp [hchars]
  refine ⟨by simp [hchars], ?_, isMark_eq_false hdot (by decide), ?_⟩
  · rw [hchars]
    simp only [List.forall_mem_append, List.forall_mem_cons]
    exact ⟨h.solid, by decide, h'.solid⟩
  · intro heq
    rw [heq] at hdot
    exact absurd hdot (by decide)

/-- The name of a joined table. -/
theorem aliasName (n : Nat) : Word (Numbering.aliasName n) := by
  have hchars := Numbering.toList_aliasName n
  obtain ⟨c, hc⟩ : ∃ c, c ∈ Nat.toDigits 10 n :=
    List.exists_mem_of_ne_nil _ Nat.toDigits_ne_nil
  refine of_letters (by simp [hchars]) ?_
    (isMark_eq_false (by simp [hchars, hc]) (isUpper_digit (Numbering.isDigit_of_mem_digits hc)))
  rw [hchars]
  refine List.forall_mem_cons.mpr ⟨by decide, fun c hc => ?_⟩
  simp [Char.isAlphanum, Numbering.isDigit_of_mem_digits hc]

end Word

/-! ### Pieces of clauses -/

/-- A text of a word, a fixed word and another text. -/
theorem pieces_between (between word : String) (hbetween : between = " " ++ word ++ " ")
    (hword : pieces word = [word.toList]) (s s' : String) :
    pieces (s ++ between ++ s') = pieces s ++ [blank, word.toList, blank] ++ pieces s' := by
  have hassoc : s ++ between ++ s' = s ++ " " ++ (word ++ " " ++ s') := by
    rw [hbetween]
    simp only [String.append_assoc]
  rw [hassoc, pieces_blank, pieces_blank, hword]
  simp

/-- The pieces of a selected column. -/
theorem pieces_selectColumn {e : NamedExpr} (h : Word e.expr ∧ Word e.name) :
    pieces (Sqlite.selectColumn e) =
      if e.expr = e.name then [e.expr.toList]
      else [e.expr.toList, blank, "AS".toList, blank, e.name.toList] := by
  unfold Sqlite.selectColumn
  split_ifs
  · exact h.1.pieces
  · rw [pieces_between " AS " "AS" rfl (by decide), h.1.pieces, h.2.pieces]
    rfl

/-- The pieces of a joined table. -/
theorem pieces_joined {t n : String} (ht : Word t) (hn : Word n) :
    pieces ("JOIN " ++ t ++ " AS " ++ n) =
      ["JOIN".toList, blank, t.toList, blank, "AS".toList, blank, n.toList] := by
  have hjoin : pieces ("JOIN " ++ t) = ["JOIN".toList, blank, t.toList] := by
    rw [show "JOIN " = "JOIN" ++ " " from rfl, pieces_blank, ht.pieces]
    rfl
  rw [pieces_between " AS " "AS" rfl (by decide), hjoin, hn.pieces]
  rfl

/-- The pieces of a column and what it equals or is set to. -/
theorem pieces_equation {l : String} (h : Word l) (r : String) :
    pieces (l ++ " = " ++ r) = l.toList :: blank :: ['='] :: blank :: pieces r := by
  rw [pieces_between " = " "=" rfl (by decide), h.pieces]
  rfl

/-- The pieces of an ordering entry. -/
theorem pieces_ordered {e : String × Direction} (h : Word e.1) :
    pieces (e.1 ++ " " ++ e.2.keyword) = [e.1.toList, blank, e.2.keyword.toList] := by
  have hkeyword : pieces e.2.keyword = [e.2.keyword.toList] := by cases e.2 <;> decide
  rw [pieces_blank, h.pieces, hkeyword]
  rfl

/-! ### Entries of clauses -/

/-- A selected column is one entry. -/
theorem uncut_selectColumn {e : NamedExpr} (h : Word e.expr ∧ Word e.name) :
    Uncut isBreak (Sqlite.selectColumn e) := by
  refine .of_flat ?_
  rw [pieces_selectColumn h]
  split_ifs <;> simp only [List.forall_mem_cons]
  · exact ⟨h.1.flat, by simp⟩
  · exact ⟨h.1.flat, by decide, by decide, by decide, h.2.flat, by simp⟩

/-- A selected column is read back. -/
theorem column_selectColumn {e : NamedExpr} (h : Word e.expr ∧ Word e.name) :
    column (pieces (Sqlite.selectColumn e)) = some e := by
  rw [pieces_selectColumn h]
  split_ifs with heq
  · obtain ⟨expr, name⟩ := e
    obtain rfl : expr = name := heq
    simp [column, solid, h.1.ne_blank]
  · have hsolid : solid [e.expr.toList, blank, "AS".toList, blank, e.name.toList] =
        [e.expr.toList, "AS".toList, e.name.toList] := by
      simp [solid, h.1.ne_blank, h.2.ne_blank]
    have hword : isWord "AS" "AS".toList := by decide
    rw [column, hsolid]
    simp only [hword, if_true, String.ofList_toList]

/-- A joined table is read back. -/
theorem joined_eq {t n : String} (ht : Word t) (hn : Word n) :
    joined (pieces ("JOIN " ++ t ++ " AS " ++ n)) = some (t, n) := by
  have hsolid : solid ["JOIN".toList, blank, t.toList, blank, "AS".toList, blank, n.toList] =
      ["JOIN".toList, t.toList, "AS".toList, n.toList] := by
    simp [solid, ht.ne_blank, hn.ne_blank]
  have hjoin : isWord "JOIN" "JOIN".toList := by decide
  have has : isWord "AS" "AS".toList := by decide
  rw [pieces_joined ht hn, joined, hsolid]
  simp only [hjoin, has, and_self, if_true, String.ofList_toList]

/-- An ordering entry is one entry. -/
theorem uncut_ordered {e : String × Direction} (h : Word e.1) :
    Uncut isBreak (e.1 ++ " " ++ e.2.keyword) := by
  have hkeyword : Flat isBreak e.2.keyword.toList := by cases e.2 <;> decide
  refine .of_flat ?_
  rw [pieces_ordered h]
  simp only [List.forall_mem_cons]
  exact ⟨h.flat, by decide, hkeyword, by simp⟩

/-- An ordering entry is read back. -/
theorem ordered_eq {e : String × Direction} (h : Word e.1) :
    ordered (pieces (e.1 ++ " " ++ e.2.keyword)) = some e := by
  obtain ⟨x, d⟩ := e
  have hne : d.keyword.toList ≠ blank := by cases d <;> decide
  have hsolid : solid [x.toList, blank, d.keyword.toList] = [x.toList, d.keyword.toList] := by
    simp [solid, h.ne_blank, hne]
  rw [pieces_ordered h, ordered, hsolid]
  cases d with
  | asc =>
      have hword : isWord "ASC" Direction.asc.keyword.toList := by decide
      simp only [hword, if_true, String.ofList_toList]
  | desc =>
      have hasc : isWord "ASC" Direction.desc.keyword.toList = false := by decide
      have hdesc : isWord "DESC" Direction.desc.keyword.toList := by decide
      simp only [hasc, hdesc, if_true, String.ofList_toList, Bool.false_eq_true, if_false]

/-- An assignment is one entry. -/
theorem uncut_assignment {a : String × String} (h : Word a.1) (hvalue : Uncut isBreak a.2) :
    Uncut isBreak (a.1 ++ " = " ++ a.2) := by
  have hflat : ∀ p ∈ [blank, ['='], blank], Flat isBreak p := by decide
  exact .append hflat (pieces_between " = " "=" rfl (by decide) _ _) h.uncut hvalue

/-- An assignment is read back. -/
theorem assignment_eq {a : String × String} (h : Word a.1) :
    assignment (pieces (a.1 ++ " = " ++ a.2)) = some a := by
  rw [pieces_equation h, assignment, if_pos rfl, String.ofList_toList, textOf_pieces]

/-- Pairs of columns begin no clause. -/
theorem uncut_pairs {ps : List (String × String)} (h : ∀ p ∈ ps, Word p.1 ∧ Word p.2) :
    Uncut isBreak (joinWith " AND " (ps.map fun (l, r) => l ++ " = " ++ r)) := by
  have hand : ∀ p ∈ [blank, "AND".toList, blank], Flat isBreak p := by decide
  refine .joinWith (.append hand (pieces_between " AND " "AND" rfl (by decide) _ _)) ?_
  intro s hs
  obtain ⟨p, hp, rfl⟩ := List.mem_map.mp hs
  exact uncut_assignment (h p hp).1 (h p hp).2.uncut

/-- Pairs of columns are read back. -/
theorem pairs_joinWith {p : String × String} {ps : List (String × String)}
    (h : ∀ q ∈ p :: ps, Word q.1 ∧ Word q.2) :
    pairs (solid (pieces (joinWith " AND " ((p :: ps).map fun (l, r) => l ++ " = " ++ r)))) =
      some (p :: ps) := by
  induction ps generalizing p with
  | nil =>
      obtain ⟨hl, hr⟩ := h p (by simp)
      have hsolid : solid [p.1.toList, blank, ['='], blank, p.2.toList] =
          [p.1.toList, ['='], p.2.toList] := by simp [solid, hl.ne_blank, hr.ne_blank]
      rw [List.map_singleton, joinWith, pieces_equation hl, hr.pieces, hsolid]
      simp [pairs]
  | cons q ps ih =>
      obtain ⟨hl, hr⟩ := h p (by simp)
      have hrest := ih fun s hs => h s (List.mem_cons_of_mem _ hs)
      have hsolid : solid ([p.1.toList, blank, ['='], blank, p.2.toList] ++
          [blank, "AND".toList, blank]) = [p.1.toList, ['='], p.2.toList, "AND".toList] := by
        simp [solid, hl.ne_blank, hr.ne_blank]
      have hword : isWord "AND" "AND".toList := by decide
      have hjoin : joinWith " AND " ((p :: q :: ps).map fun (l, r) => l ++ " = " ++ r) =
          (p.1 ++ " = " ++ p.2) ++ " AND " ++
            joinWith " AND " ((q :: ps).map fun (l, r) => l ++ " = " ++ r) := rfl
      rw [hjoin, pieces_between " AND " "AND" rfl (by decide), pieces_equation hl,
        hr.pieces, solid, List.filter_append, ← solid, ← solid, hsolid]
      simp only [List.cons_append, List.nil_append, pairs, hword, and_self, if_true, hrest]
      simp

/-! ### Lists -/

namespace Uncut

variable {s : String}

/-- Parentheses match in a text that can be passed. -/
theorem matched {isCut : Piece → Bool} (h : Uncut isCut s) : Uncut nowhere s :=
  h.mono fun _ hp => absurd hp Bool.false_ne_true

/-- An entry has no comma outside parentheses. -/
theorem comma (h : Uncut isBreak s) : Uncut isComma s := h.mono fun p hp => by simp [isBreak, hp]

/-- An entry begins no clause. -/
theorem mark (h : Uncut isBreak s) : Uncut isMark s := h.mono fun p hp => by simp [isBreak, hp]

/-- A list of entries begins no clause. -/
theorem list {items : List String} (h : ∀ s ∈ items, Uncut isBreak s) :
    Uncut isMark (TableGateway.joinWith ", " items) := by
  have hbetween : ∀ p ∈ [Template.comma, Template.blank], Flat isMark p := by decide
  refine .joinWith (.append hbetween ?_) fun s hs => (h s hs).mark
  rw [pieces_comma]
  simp

end Uncut

/-- A list of entries is read entry by entry. -/
theorem mapM_listed {α β : Type} {f : α → String} {g : List Piece → Option β} {k : α → β}
    {l : List α} (hne : l ≠ []) (huncut : ∀ a ∈ l, Uncut isBreak (f a))
    (hread : ∀ a ∈ l, g (pieces (f a)) = some (k a)) :
    (listed (pieces (joinWith ", " (l.map f))) >>= fun items => items.mapM g) =
      some (l.map k) := by
  have hlisted : listed (pieces (joinWith ", " (l.map f))) = some ((l.map f).map pieces) := by
    refine listed_joinWith (by simpa using hne) ?_
    simpa using fun a ha => (huncut a ha).comma
  rw [hlisted, List.map_map]
  exact mapM_map_eq_some hread

/-- A select list is read back. -/
theorem columns_selectList {cs : List NamedExpr} (h : ∀ e ∈ cs, Word e.expr ∧ Word e.name) :
    columns (pieces (Sqlite.selectList cs)) = some cs := by
  by_cases hne : cs = []
  · rw [hne]
    decide
  · have hlisted : listed (pieces (joinWith ", " (cs.map Sqlite.selectColumn))) =
        some ((cs.map Sqlite.selectColumn).map pieces) :=
      listed_joinWith (by simpa using hne) (by simpa using fun e he =>
        (uncut_selectColumn (h e he)).comma)
    -- The only entry that could be taken for the asterisk would be the asterisk itself.
    have hstar : (cs.map Sqlite.selectColumn).map pieces ≠ [[['*']]] := by
      intro heq
      have hmem : [['*']] ∈ (cs.map Sqlite.selectColumn).map pieces := by simp [heq]
      rw [List.map_map] at hmem
      obtain ⟨e, he, hpieces⟩ := List.mem_map.mp hmem
      rw [Function.comp_apply, pieces_selectColumn (h e he)] at hpieces
      split_ifs at hpieces
      · exact (h e he).1.ne_star (String.toList_inj.mp (List.cons.inj hpieces).1)
      · exact absurd hpieces (by simp)
    have hread := mapM_listed hne (fun e he => uncut_selectColumn (h e he))
      (k := id) fun e he => column_selectColumn (h e he)
    rw [hlisted, List.map_id] at hread
    rw [Sqlite.selectList, if_neg (by simpa using hne), columns, hlisted]
    change (if _ = _ then _ else _) = _
    rw [if_neg hstar]
    exact hread

/-- A list of names is read back. -/
theorem names_joinWith {l : List String} (hne : l ≠ []) (h : ∀ s ∈ l, Word s) :
    names (pieces (joinWith ", " l)) = some l := by
  have hread := mapM_listed (f := id) (k := id) (g := name?) hne (fun s hs => (h s hs).uncut)
    fun s hs => (h s hs).name
  rwa [List.map_id, ← names] at hread

/-! ### Rows -/

/-- A text in parentheses is read as what stands in them. -/
theorem enclosed_paren {s : String} (h : Uncut nowhere s) :
    enclosed (pieces ("(" ++ s ++ ")")) = some (pieces s) := by
  have hinside : (pieces s).foldlM (pass nowhere) 0 = some 0 := h
  simp [pieces_paren, enclosed, hinside]

/-- A list in parentheses begins no clause. -/
theorem uncut_row {l : List String} (h : ∀ s ∈ l, Uncut isBreak s) :
    Uncut isMark ("(" ++ joinWith ", " l ++ ")") :=
  .paren (Uncut.list h).matched

/-- The values of an inserted row are read back. -/
theorem insertValues_eq {l : List String} (hne : l ≠ []) (h : ∀ s ∈ l, Uncut isBreak s) :
    insertValues (pieces ("(" ++ joinWith ", " l ++ ")")) = some l := by
  have hmark : Uncut isMark (joinWith ", " l) := .list h
  have hinside := enclosed_paren hmark.matched
  have hlisted := listed_joinWith hne fun s hs => (h s hs).comma
  simp [insertValues, hinside, hlisted, textOf_pieces, Function.comp_def]

/-- The columns of an inserted row are read back. -/
theorem insertColumns_eq {l : List String} (hne : l ≠ []) (h : ∀ s ∈ l, Word s) :
    insertColumns (blank :: pieces ("(" ++ joinWith ", " l ++ ")")) = some l := by
  have hmark : Uncut isMark (joinWith ", " l) := .list fun s hs => (h s hs).uncut
  have hinside := enclosed_paren hmark.matched
  rw [insertColumns, if_pos rfl, hinside]
  exact names_joinWith hne h

/-- The table of an insert, as it is written and as it is read. -/
theorem into_eq {t : String} (h : Word t) :
    pieces ("INTO " ++ t) = ["INTO".toList, blank, t.toList] ∧ Uncut isBreak ("INTO " ++ t) ∧
      ∀ rest, into (["INTO".toList, blank, t.toList] ++ rest) = some (t, rest) := by
  have hpieces : pieces ("INTO " ++ t) = ["INTO".toList, blank, t.toList] := by
    rw [show "INTO " = "INTO" ++ " " from rfl, pieces_blank, h.pieces]
    rfl
  have hword : isWord "INTO" "INTO".toList := by decide
  have hflat : Flat isBreak "INTO".toList := by decide
  refine ⟨hpieces, .of_flat ?_, fun rest => ?_⟩
  · rw [hpieces]
    simp only [List.forall_mem_cons]
    exact ⟨hflat, by decide, h.flat, by simp⟩
  · simp only [List.cons_append, List.nil_append, into, hword, and_self, if_true,
      String.ofList_toList]

end TableGateway.Template
