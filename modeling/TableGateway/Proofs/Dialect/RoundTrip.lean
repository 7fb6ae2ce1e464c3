import TableGateway.Proofs.Dialect.Entries

/-!
# Reading statements back

The statements of the SQLite dialect can be read back: the grammar finds in the text of some clauses
exactly these clauses. Two facts are kept apart. The text of a statement goes through the split with
one part for each clause, in the order in which they are written; this is shown from the last clause
to the first, because what follows a clause decides where it ends. And from these parts the grammar
reads the clauses, where an optional clause is not mistaken for a later one.

## Main results

* `Trails.cons`, `Trails.sections`: a clause in front of others.
* `optional_clause`, `joins_flatMap`, `paging_eq`: clauses that are read back.
* `Legible.read_statement`: statements can be read back.
-/

namespace TableGateway.Template

/-! ### Clauses one after the other -/

section

variable {L : List Section} {P X s t : String} {ps body : List Piece}

/-- The word that begins a clause is one piece and begins no other. -/
theorem pieces_keyword (k : Mark) :
    pieces k.keyword = [k.keyword.toList] ∧ mark? k.keyword.toList = some k ∧
      pass isMark 0 k.keyword.toList = none := by
  cases k with
  | join kind => cases kind <;> decide
  | _ => decide

/-- A clause in front of others. -/
theorem sections_of_pieces (k : Mark) (hs : pieces s = k.keyword.toList :: ps ++ pieces P)
    (hps : ps.foldlM (pass isMark) 0 = some 0) (hbody : content ps = some body)
    (h : sections P = some L) : sections s = some ((k, body) :: L) := by
  obtain ⟨-, hmark, hpass⟩ := pieces_keyword k
  have hsection : section? (k.keyword.toList, ps) = some (k, body) := by
    simp [section?, hmark, hbody]
  rw [sections] at h ⊢
  rcases hrest : split isMark 0 (pieces P) with ⟨front, parts⟩
  rw [hrest] at h
  simp only [Option.ite_none_right_eq_some] at h
  obtain ⟨rfl, hparts⟩ := h
  have hsplit : split isMark 0 (pieces s) = ([], (k.keyword.toList, ps) :: parts) := by
    rw [hs, List.cons_append, split, hpass]
    simp only [split_append hps, hrest, List.append_nil]
  rw [hsplit]
  simp only [if_true, List.mapM_cons, hsection, hparts]
  rfl

/-- A clause with something in it, in front of others. -/
theorem sections_cons (k : Mark) (ht : Uncut isMark t) (h : sections P = some L) :
    sections (k.keyword ++ " " ++ t ++ " " ++ P) = some ((k, pieces t) :: L) := by
  have hblank : Flat isMark blank := by decide
  have hpieces : pieces (k.keyword ++ " " ++ t ++ " " ++ P) =
      k.keyword.toList :: (blank :: (pieces t ++ [blank])) ++ pieces P := by
    rw [pieces_blank, pieces_blank, (pieces_keyword k).1]
    simp
  have hpass : (blank :: (pieces t ++ [blank])).foldlM (pass isMark) 0 = some 0 := by
    rw [List.foldlM_cons, hblank.pass]
    change (pieces t ++ [blank]).foldlM (pass isMark) 0 = some 0
    rw [List.foldlM_append, ht]
    decide
  exact sections_of_pieces k hpieces hpass (by simp [content]) h

/-- A clause with nothing in it, in front of others. -/
theorem sections_bare (k : Mark) (h : sections P = some L) :
    sections (k.keyword ++ " " ++ P) = some ((k, []) :: L) := by
  have hpieces : pieces (k.keyword ++ " " ++ P) = k.keyword.toList :: [blank] ++ pieces P := by
    rw [pieces_blank, (pieces_keyword k).1]
    rfl
  exact sections_of_pieces k hpieces (by decide) (by decide) h

/-- The text `X` goes on with the clauses `L`, if a blank ends it. -/
def Trails (L : List Section) (X : String) : Prop := ∃ P, X ++ " " = " " ++ P ∧ sections P = some L

namespace Trails

/-- Nothing goes on with no clauses. -/
theorem nil : Trails [] "" := ⟨"", rfl, by decide⟩

/-- A clause in front of others. -/
theorem sections (h : Trails L X) (k : Mark) (ht : Uncut isMark t) :
    sections (k.keyword ++ " " ++ t ++ X ++ " ") = some ((k, pieces t) :: L) := by
  obtain ⟨P, hX, hP⟩ := h
  have hassoc : k.keyword ++ " " ++ t ++ X ++ " " = k.keyword ++ " " ++ t ++ " " ++ P := by
    simp only [String.append_assoc, hX]
  rw [hassoc, sections_cons k ht hP]

/-- A clause behind a blank, in front of others. -/
theorem cons (h : Trails L X) (k : Mark) (ht : Uncut isMark t) :
    Trails ((k, pieces t) :: L) (" " ++ k.keyword ++ " " ++ t ++ X) :=
  ⟨k.keyword ++ " " ++ t ++ X ++ " ", by simp only [String.append_assoc], h.sections k ht⟩

/-- A clause with nothing in it. -/
theorem bare (h : Trails L X) (k : Mark) :
    Template.sections (k.keyword ++ X ++ " ") = some ((k, []) :: L) := by
  obtain ⟨P, hX, hP⟩ := h
  have hassoc : k.keyword ++ X ++ " " = k.keyword ++ " " ++ P := by
    simp only [String.append_assoc, hX]
  rw [hassoc, sections_bare k hP]

end Trails

/-- The clauses of an optional one. -/
def clause (k : Mark) (o : Option (List Piece)) : List Section := (o.map fun ps => (k, ps)).toList

/-- The clause of a condition. -/
theorem trails_condition (k : Mark) {f : Option String} (hf : ∀ t ∈ f, Uncut isMark t)
    (h : Trails L X) :
    Trails (clause k (f.map pieces) ++ L) (Sqlite.conditionClause k.keyword f ++ X) := by
  cases f with
  | none => simpa [clause, Sqlite.conditionClause] using h
  | some t => exact h.cons k (hf t rfl)

/-- What stands in a clause that lists entries, absent when there are none. -/
def listing (items : List String) : Option (List Piece) :=
  if items.isEmpty then none else some ("BY".toList :: blank :: pieces (joinWith ", " items))

/-- The clause of a list. -/
theorem trails_list (k : Mark) {items : List String} (hitems : ∀ s ∈ items, Uncut isBreak s)
    (h : Trails L X) :
    Trails (clause k (listing items) ++ L)
      (Sqlite.listClause (k.keyword ++ " BY") items ++ X) := by
  unfold listing Sqlite.listClause
  split_ifs with hempty
  · simpa [clause] using h
  · have hby : pieces ("BY " ++ joinWith ", " items) =
        "BY".toList :: blank :: pieces (joinWith ", " items) := by
      rw [show "BY " = "BY" ++ " " from rfl, pieces_blank]
      rfl
    have huncut : Uncut isMark ("BY " ++ joinWith ", " items) := by
      have hflat : ∀ p ∈ ["BY".toList, blank], Flat isMark p := by decide
      exact .append hflat (s := "") (by rw [hby]; rfl) .empty (.list hitems)
    have htrails := h.cons k huncut
    rw [hby] at htrails
    have hassoc : " " ++ k.keyword ++ " " ++ ("BY " ++ joinWith ", " items) ++ X =
        " " ++ (k.keyword ++ " BY") ++ " " ++ joinWith ", " items ++ X := by
      rw [show "BY " = "BY" ++ " " from rfl, show " BY" = " " ++ "BY" from rfl]
      simp only [String.append_assoc]
    rwa [hassoc] at htrails

/-- The clauses of a joined table. -/
def joinSections (j : JoinEntry) : List Section :=
  (.join j.kind, pieces ("JOIN " ++ j.table ++ " AS " ++ j.name)) ::
    clause .on (if j.pairs.isEmpty then none
      else some (pieces (joinWith " AND " (j.pairs.map fun (l, r) => l ++ " = " ++ r))))

/-- The words of a joined table. -/
structure WordyJoin (j : JoinEntry) : Prop where
  table : Word j.table
  name : Word j.name
  pairs : ∀ p ∈ j.pairs, Word p.1 ∧ Word p.2

/-- The clauses of a joined table. -/
theorem trails_join {j : JoinEntry} (hj : WordyJoin j) (h : Trails L X) :
    Trails (joinSections j ++ L) (Sqlite.joinClause j ++ X) := by
  have hjoined : Uncut isBreak ("JOIN " ++ j.table ++ " AS " ++ j.name) := by
    have hjoin : Flat isBreak "JOIN".toList := by decide
    have has : Flat isBreak "AS".toList := by decide
    refine .of_flat ?_
    rw [pieces_joined hj.table hj.name]
    simp only [List.forall_mem_cons]
    exact ⟨hjoin, by decide, hj.table.flat, by decide, has, by decide, hj.name.flat, by simp⟩
  unfold joinSections Sqlite.joinClause
  split_ifs with hempty
  · have htrails := h.cons (.join j.kind) hjoined.mark
    have hassoc : " " ++ (Mark.join j.kind).keyword ++ " " ++
        ("JOIN " ++ j.table ++ " AS " ++ j.name) ++ X =
        " " ++ j.kind.keyword ++ " JOIN " ++ j.table ++ " AS " ++ j.name ++ "" ++ X := by
      rw [show " JOIN " = " " ++ "JOIN " from rfl, String.append_empty]
      simp only [String.append_assoc]
      rfl
    rwa [hassoc] at htrails
  · have htrails := (h.cons .on (uncut_pairs hj.pairs).mark).cons (.join j.kind) hjoined.mark
    have hassoc : ∀ on, " " ++ (Mark.join j.kind).keyword ++ " " ++
        ("JOIN " ++ j.table ++ " AS " ++ j.name) ++ (" " ++ Mark.on.keyword ++ " " ++ on ++ X) =
        " " ++ j.kind.keyword ++ " JOIN " ++ j.table ++ " AS " ++ j.name ++ (" ON " ++ on) ++
          X := by
      intro on
      rw [show " JOIN " = " " ++ "JOIN " from rfl,
        show " ON " = " " ++ Mark.on.keyword ++ " " from rfl]
      simp only [String.append_assoc]
      rfl
    rwa [hassoc] at htrails

/-- The clauses of joined tables. -/
theorem trails_joins {js : List JoinEntry} (hjs : ∀ j ∈ js, WordyJoin j) (h : Trails L X) :
    Trails (js.flatMap joinSections ++ L) (joinWith "" (js.map Sqlite.joinClause) ++ X) := by
  induction js with
  | nil => simpa [joinWith] using h
  | cons j js ih =>
      have hrest := ih fun k hk => hjs k (List.mem_cons_of_mem _ hk)
      have htrails := trails_join (hjs j List.mem_cons_self) hrest
      rw [Sqlite.joinWith_joinClause, List.flatMap_cons, List.append_assoc, String.append_assoc]
      exact htrails

/-- A number is one piece and begins no clause. -/
theorem pieces_toString (n : Nat) :
    pieces (toString n) = [(toString n).toList] ∧ Uncut isMark (toString n) := by
  have hdigits : ∀ c ∈ (toString n).toList, c.isDigit := fun c hc =>
    Numbering.isDigit_of_mem_digits (by simpa using hc)
  have hne : (toString n).toList ≠ [] := by simp
  obtain ⟨c, hc⟩ := List.exists_mem_of_ne_nil _ hne
  have hword : Word (toString n) := .of_letters hne
    (fun c hc => by simp [Char.isAlphanum, hdigits c hc])
    (isMark_eq_false hc (isUpper_digit (hdigits c hc)))
  exact ⟨hword.pieces, hword.uncut.mark⟩

/-- The clauses of paging. -/
def pagingSections (limit : Option UInt64) (offset : UInt64) : List Section :=
  match limit with
  | some n =>
    (.limit, pieces (toString n.toNat)) ::
      clause .offset (if offset = 0 then none else some (pieces (toString offset.toNat)))
  | none =>
    if offset = 0 then []
    else [(.limit, [['-', '1']]), (.offset, pieces (toString offset.toNat))]

/-- The clauses of paging. -/
theorem trails_paging (limit : Option UInt64) (offset : UInt64) :
    Trails (pagingSections limit offset) (Sqlite.paging limit offset) := by
  have hoffset := Trails.nil.cons .offset (pieces_toString offset.toNat).2
  rw [String.append_empty] at hoffset
  unfold pagingSections Sqlite.paging
  cases limit with
  | none =>
      dsimp only
      split_ifs
      · exact .nil
      · have hall : Uncut isMark "-1" := by decide
        have hassoc : " LIMIT -1 OFFSET " ++ toString offset.toNat =
            " " ++ Mark.limit.keyword ++ " " ++ "-1" ++
              (" " ++ Mark.offset.keyword ++ " " ++ toString offset.toNat) := by
          simp only [← String.append_assoc]
          rfl
        rw [hassoc]
        exact hoffset.cons .limit hall
  | some n =>
      dsimp only
      split_ifs
      · have htrails := Trails.nil.cons .limit (pieces_toString n.toNat).2
        rwa [String.append_empty] at htrails
      · have hassoc : " LIMIT " ++ toString n.toNat ++ " OFFSET " ++ toString offset.toNat =
            " " ++ Mark.limit.keyword ++ " " ++ toString n.toNat ++
              (" " ++ Mark.offset.keyword ++ " " ++ toString offset.toNat) := by
          rw [show " OFFSET " = " " ++ Mark.offset.keyword ++ " " from rfl]
          simp only [String.append_assoc]
          rfl
        rw [hassoc]
        exact hoffset.cons .limit (pieces_toString n.toNat).2

/-! ### Reading clauses -/

/-- All clauses have their place behind the one of rank `n`. -/
def Above (n : Nat) (L : List Section) : Prop := ∀ e ∈ L, n < e.1.rank

namespace Above

variable {m n : Nat} {k : Mark} {o : Option (List Piece)}

/-- Behind a later clause is behind an earlier one. -/
theorem mono (h : Above m L) (hle : n ≤ m) : Above n L := fun e he => hle.trans_lt (h e he)

/-- An optional clause in front of others. -/
theorem clause (hk : n < k.rank) (h : Above k.rank L) : Above n (Template.clause k o ++ L) := by
  refine List.forall_mem_append.mpr ⟨?_, h.mono hk.le⟩
  cases o <;> simp [Template.clause, hk]

/-- Paging comes last. -/
theorem paging {limit : Option UInt64} {offset : UInt64} :
    Above Mark.ordering.rank (pagingSections limit offset) := by
  unfold pagingSections Template.clause
  cases limit <;> dsimp only <;> split_ifs <;> simp [Above, Mark.rank]

end Above

/-- An optional clause is found if it is there, and no other is taken for it. -/
theorem optional_clause {α : Type} {k : Mark} {o : Option (List Piece)} {x : Option α}
    {r : List Piece → Option α} (h : Above k.rank L) (hr : o.mapM r = some x) :
    optional k r (clause k o ++ L) = some (x, L) := by
  cases o with
  | none =>
      obtain rfl : none = x := Option.some.inj hr
      cases L with
      | nil => rfl
      | cons e L =>
          have hne : e.1 ≠ k := by
            rintro rfl
            exact absurd (h e List.mem_cons_self) (by simp)
          exact if_neg hne
  | some ps =>
      cases hps : r ps with
      | none => simp [hps] at hr
      | some a =>
          obtain rfl : some a = x := by simpa [hps] using hr
          simp [clause, optional, hps]

/-- A condition is read back. -/
theorem mapM_condition (f : Option String) : (f.map pieces).mapM condition = some f := by
  cases f <;> simp [condition, textOf_pieces]

/-- A list that is missing when it is empty. -/
def present {α : Type} (l : List α) : Option (List α) := if l.isEmpty then none else some l

/-- A missing list is an empty one. -/
theorem getD_present {α : Type} (l : List α) : (present l).getD [] = l := by
  cases l <;> rfl

/-- A clause that lists entries is read back. -/
theorem mapM_listing {α : Type} {f : α → String} {r : List Piece → Option α} {l : List α}
    (huncut : ∀ a ∈ l, Uncut isBreak (f a)) (hread : ∀ a ∈ l, r (pieces (f a)) = some a) :
    (listing (l.map f)).mapM (listBy r) = some (present l) := by
  by_cases hne : l = []
  · rw [hne]
    rfl
  · have hitems := mapM_listed (k := id) hne huncut hread
    have hword : isWord "BY" "BY".toList := by decide
    rw [List.map_id] at hitems
    simp only [listing, List.isEmpty_map, present, List.isEmpty_iff, hne, if_false,
      Option.mapM_some, listBy, hword, and_self, if_true, hitems]
    rfl

/-- Behind joined tables there are no more. -/
theorem joins_of_above (h : Above Mark.on.rank L) : joins L = some ([], L) := by
  cases L with
  | nil => rfl
  | cons e L =>
      obtain ⟨k, ps⟩ := e
      have hk := h _ List.mem_cons_self
      cases k with
      | join kind => exact absurd hk (by simp [Mark.rank])
      | _ => rfl

/-- Joined tables are read back. -/
theorem joins_flatMap {js : List JoinEntry} (hjs : ∀ j ∈ js, WordyJoin j)
    (h : Above Mark.on.rank L) : joins (js.flatMap joinSections ++ L) = some (js, L) := by
  induction js with
  | nil => exact joins_of_above h
  | cons j js ih =>
      have hj := hjs j List.mem_cons_self
      have hrest := ih fun k hk => hjs k (List.mem_cons_of_mem _ hk)
      have hjoined := joined_eq hj.table hj.name
      obtain ⟨kind, table, name, on⟩ := j
      rw [List.flatMap_cons, List.append_assoc]
      cases on with
      | nil =>
          -- What follows is another joined table or comes behind them all.
          have hnext : ∀ ps rest, js.flatMap joinSections ++ L ≠ (.on, ps) :: rest := by
            intro ps rest heq
            cases js with
            | nil =>
                rw [List.flatMap_nil, List.nil_append] at heq
                exact absurd (h (.on, ps) (by simp [heq])) (by simp)
            | cons j js => exact absurd (List.cons.inj heq).1 (by simp)
          change joins ((.join kind, _) :: (js.flatMap joinSections ++ L)) = _
          rw [joins, hjoined, hrest]
          · rfl
          · exact hnext
      | cons p ps =>
          have hpairs := pairs_joinWith hj.pairs
          change joins ((.join kind, _) :: (.on, _) :: (js.flatMap joinSections ++ L)) = _
          rw [joins, hjoined, hpairs, hrest]
          rfl

/-- A number is read back. -/
theorem number_toString (n : UInt64) : number (pieces (toString n.toNat)) = some n := by
  have hchars : (toString n.toNat).toList = Nat.toDigits 10 n.toNat := by simp
  have hdigits : (Nat.toDigits 10 n.toNat).all Char.isDigit :=
    List.all_eq_true.mpr fun _ hc => Numbering.isDigit_of_mem_digits hc
  have hlt : n.toNat < UInt64.size := n.toNat_lt
  rw [(pieces_toString n.toNat).1, hchars, number, Nat.ofDigitChars_ten_toDigits,
    if_pos ⟨Nat.toDigits_ne_nil, hdigits, hlt⟩, UInt64.ofNat_toNat]

/-- A limit is read back. -/
theorem limit_toString (n : UInt64) : limit (pieces (toString n.toNat)) = some (some n) := by
  have hne : pieces (toString n.toNat) ≠ [['-', '1']] := by
    intro heq
    rw [(pieces_toString n.toNat).1] at heq
    have hminus : '-' ∈ Nat.toDigits 10 n.toNat := by
      have hchars := (List.cons.inj heq).1
      simp only [Nat.toString_eq_repr, Nat.toList_repr] at hchars
      simp [hchars]
    exact absurd (Numbering.isDigit_of_mem_digits hminus) (by decide)
  rw [limit, if_neg hne, number_toString]
  rfl

/-- Paging is read back. -/
theorem paging_eq (limit : Option UInt64) (offset : UInt64) :
    paging (pagingSections limit offset) = some (limit, offset) := by
  have hnone : Template.limit [['-', '1']] = some none := rfl
  unfold pagingSections
  cases limit with
  | none =>
      dsimp only
      split_ifs with hzero
      · rw [hzero]
        rfl
      · simp [paging, hnone, number_toString, -Nat.toString_eq_repr]
  | some n =>
      dsimp only
      split_ifs with hzero
      · rw [hzero]
        simp [clause, paging, limit_toString, -Nat.toString_eq_repr]
      · simp [clause, paging, limit_toString, number_toString, -Nat.toString_eq_repr]

end

/-! ### Statements -/

/-- The clauses behind the table of a select. -/
def tailSections (c : Clauses) : List Section :=
  c.joins.flatMap joinSections ++ (clause .filter (c.filter.map pieces) ++
    (clause .grouping (listing c.groupBy) ++ (clause .having (c.having.map pieces) ++
      (clause .ordering (listing (c.orderBy.map fun (column, d) => column ++ " " ++ d.keyword)) ++
        pagingSections c.limit c.offset))))

/-- What the action of some clauses uses of them. -/
def trim (c : Clauses) : Clauses :=
  match c.action with
  | .select => { c with assignments := [] }
  | .insert => { action := .insert, table := c.table, assignments := c.assignments }
  | .update =>
    { action := .update, table := c.table, assignments := c.assignments, filter := c.filter }
  | .delete => { action := .delete, table := c.table, filter := c.filter }

/-- Clauses that can be read back from their statement: names and expressions are words, a rendered
condition begins no clause and a rendered value goes on with no other entry, and there is nothing
that the action does not use. -/
structure Legible (c : Clauses) : Prop where
  table : Word c.table
  columns : ∀ e ∈ c.columns, Word e.expr ∧ Word e.name
  joins : ∀ j ∈ c.joins, WordyJoin j
  assignments : ∀ a ∈ c.assignments, Word a.1 ∧ Uncut isBreak a.2
  filter : ∀ t ∈ c.filter, Uncut isMark t
  groupBy : ∀ t ∈ c.groupBy, Word t
  having : ∀ t ∈ c.having, Uncut isMark t
  orderBy : ∀ e ∈ c.orderBy, Word e.1
  trimmed : trim c = c

namespace Legible

variable {c : Clauses}

/-- The clauses in the text of a select. -/
theorem sections_select (h : Legible c) :
    sections (Sqlite.selectText c ++ " ") =
      some ((.select, pieces (Sqlite.selectList c.columns)) :: (.source, pieces c.table) ::
        tailSections c) := by
  have hlist : Uncut isMark (Sqlite.selectList c.columns) := by
    unfold Sqlite.selectList
    split_ifs
    · decide
    · refine .list fun s hs => ?_
      obtain ⟨e, he, rfl⟩ := List.mem_map.mp hs
      exact uncut_selectColumn (h.columns e he)
  have hgroup : ∀ s ∈ c.groupBy, Uncut isBreak s := fun s hs => (h.groupBy s hs).uncut
  have horder : ∀ s ∈ c.orderBy.map fun (column, d) => column ++ " " ++ d.keyword,
      Uncut isBreak s := by
    intro s hs
    obtain ⟨e, he, rfl⟩ := List.mem_map.mp hs
    exact uncut_ordered (h.orderBy e he)
  have htail := trails_joins h.joins (trails_condition .filter h.filter
    (trails_list .grouping hgroup (trails_condition .having h.having
      (trails_list .ordering horder (trails_paging c.limit c.offset)))))
  have hread := (htail.cons .source h.table.uncut.mark).sections .select hlist
  have htext : Sqlite.selectText c ++ " " = Mark.select.keyword ++ " " ++
      Sqlite.selectList c.columns ++ (" " ++ Mark.source.keyword ++ " " ++ c.table ++
        (joinWith "" (c.joins.map Sqlite.joinClause) ++
          (Sqlite.conditionClause Mark.filter.keyword c.filter ++
            (Sqlite.listClause (Mark.grouping.keyword ++ " BY") c.groupBy ++
              (Sqlite.conditionClause Mark.having.keyword c.having ++
                (Sqlite.listClause (Mark.ordering.keyword ++ " BY")
                    (c.orderBy.map fun (column, d) => column ++ " " ++ d.keyword) ++
                  Sqlite.paging c.limit c.offset)))))) ++ " " := by
    rw [Sqlite.selectText, Sqlite.selectHead, Sqlite.selectTail,
      show "SELECT " = Mark.select.keyword ++ " " from rfl,
      show " FROM " = " " ++ Mark.source.keyword ++ " " from rfl]
    simp only [String.append_assoc]
    rfl
  rw [htext]
  exact hread

/-- The clauses of a select are read back. -/
theorem statement_select (h : Legible c) (haction : c.action = .select) :
    statement ((.select, pieces (Sqlite.selectList c.columns)) :: (.source, pieces c.table) ::
      tailSections c) = some c := by
  have hpaging : Above Mark.ordering.rank (pagingSections c.limit c.offset) := .paging
  have hordering := hpaging.clause (n := Mark.having.rank) (by decide)
    (o := listing (c.orderBy.map fun (column, d) => column ++ " " ++ d.keyword))
  have hhaving := hordering.clause (n := Mark.grouping.rank) (by decide)
    (o := c.having.map pieces)
  have hgrouping := hhaving.clause (n := Mark.filter.rank) (by decide) (o := listing c.groupBy)
  have hfilter := hgrouping.clause (n := Mark.on.rank) (by decide) (o := c.filter.map pieces)
  have hgroups : (listing c.groupBy).mapM (listBy name?) = some (present c.groupBy) := by
    have hread := mapM_listing (f := id) (r := name?) (fun s hs => (h.groupBy s hs).uncut)
      fun s hs => (h.groupBy s hs).name
    rwa [List.map_id] at hread
  have horders := mapM_listing (fun e he => uncut_ordered (h.orderBy e he))
    fun e he => ordered_eq (h.orderBy e he)
  simp only [statement, tailSections, columns_selectList h.columns, h.table.name,
    joins_flatMap h.joins hfilter, optional_clause hgrouping (mapM_condition c.filter),
    optional_clause hhaving hgroups, optional_clause hordering (mapM_condition c.having),
    optional_clause hpaging horders, paging_eq, getD_present, Option.bind_eq_bind,
    Option.bind_some, Option.pure_def]
  conv_rhs => rw [← h.trimmed]
  simp [trim, haction]

/-- The condition that ends a write, as it is written and as it is read. -/
theorem lastFilter_eq (h : Legible c) :
    Trails (clause .filter (c.filter.map pieces)) (Sqlite.conditionClause "WHERE" c.filter) ∧
      lastFilter (clause .filter (c.filter.map pieces)) = some c.filter := by
  have htrails := trails_condition .filter h.filter .nil
  have hread := optional_clause (L := []) (by simp [Above]) (mapM_condition c.filter)
    (k := .filter)
  rw [List.append_nil, String.append_empty] at htrails
  rw [List.append_nil] at hread
  refine ⟨htrails, ?_⟩
  rw [lastFilter, hread]
  rfl

/-- A delete is read back. -/
theorem read_delete (h : Legible c) (haction : c.action = .delete) :
    read ("DELETE FROM " ++ c.table ++ Sqlite.conditionClause "WHERE" c.filter) = some c := by
  obtain ⟨htrails, hfilter⟩ := h.lastFilter_eq
  have hsections := (htrails.cons .source h.table.uncut.mark).bare .delete
  have htext : "DELETE FROM " ++ c.table ++ Sqlite.conditionClause "WHERE" c.filter ++ " " =
      Mark.delete.keyword ++ (" " ++ Mark.source.keyword ++ " " ++ c.table ++
        Sqlite.conditionClause "WHERE" c.filter) ++ " " := by
    rw [show "DELETE FROM " = Mark.delete.keyword ++ (" " ++ Mark.source.keyword ++ " ") from rfl]
    simp only [String.append_assoc]
  rw [read, htext, hsections]
  simp only [Option.bind_eq_bind, Option.bind_some, statement, h.table.name, hfilter,
    Option.pure_def]
  conv_rhs => rw [← h.trimmed]
  simp [trim, haction]

/-- The assignments of an update, as they are written and as they are read. -/
theorem assignments_eq (h : Legible c) (hne : c.assignments ≠ []) :
    Uncut isMark (joinWith ", "
        (c.assignments.map fun (column, value) => column ++ " = " ++ value)) ∧
      (listed (pieces (joinWith ", "
          (c.assignments.map fun (column, value) => column ++ " = " ++ value))) >>=
        fun items => items.mapM assignment) = some c.assignments := by
  have huncut : ∀ a ∈ c.assignments, Uncut isBreak (a.1 ++ " = " ++ a.2) := fun a ha =>
    uncut_assignment (h.assignments a ha).1 (h.assignments a ha).2
  have hread := mapM_listed (k := id) hne huncut fun a ha => assignment_eq (h.assignments a ha).1
  rw [List.map_id] at hread
  refine ⟨.list fun s hs => ?_, hread⟩
  obtain ⟨a, ha, rfl⟩ := List.mem_map.mp hs
  exact huncut a ha

/-- An update is read back. -/
theorem read_update (h : Legible c) (haction : c.action = .update) {sql : String}
    (hsql : Sqlite.updateHead c = .ok sql) :
    read (sql ++ Sqlite.conditionClause "WHERE" c.filter) = some c := by
  obtain ⟨htrails, hfilter⟩ := h.lastFilter_eq
  have hne : c.assignments ≠ [] := by
    intro hnil
    simp [Sqlite.updateHead, hnil] at hsql
  obtain ⟨huncut, hread⟩ := h.assignments_eq hne
  have hsections := (htrails.cons .set huncut).sections .update h.table.uncut.mark
  have htext : sql ++ Sqlite.conditionClause "WHERE" c.filter ++ " " =
      Mark.update.keyword ++ " " ++ c.table ++ (" " ++ Mark.set.keyword ++ " " ++
        joinWith ", " (c.assignments.map fun (column, value) => column ++ " = " ++ value) ++
          Sqlite.conditionClause "WHERE" c.filter) ++ " " := by
    rw [Sqlite.updateHead, if_neg (by simpa using hne)] at hsql
    rw [← Except.ok.inj hsql, show "UPDATE " = Mark.update.keyword ++ " " from rfl,
      show " SET " = " " ++ Mark.set.keyword ++ " " from rfl]
    simp only [String.append_assoc]
  obtain ⟨items, hitems, hread⟩ := Option.bind_eq_some_iff.mp hread
  rw [read, htext, hsections]
  simp only [Option.bind_eq_bind, Option.bind_some, statement, h.table.name, hitems, hread, hfilter,
    Option.pure_def]
  conv_rhs => rw [← h.trimmed]
  simp [trim, haction]

/-- An insert of default values is read back. -/
theorem read_insert_defaults (h : Legible c) (haction : c.action = .insert)
    (hnone : c.assignments = []) :
    read ("INSERT INTO " ++ c.table ++ " DEFAULT VALUES") = some c := by
  obtain ⟨hpieces, huncut, hinto⟩ := into_eq h.table
  have hdefaults : Trails [(.defaults, []), (.values, [])] " DEFAULT VALUES" :=
    ⟨"DEFAULT VALUES ", rfl, by decide⟩
  have hsections := hdefaults.sections .insert huncut.mark
  have htext : "INSERT INTO " ++ c.table ++ " DEFAULT VALUES" ++ " " =
      Mark.insert.keyword ++ " " ++ ("INTO " ++ c.table) ++ " DEFAULT VALUES" ++ " " := by
    rw [show "INSERT INTO " = Mark.insert.keyword ++ " " ++ "INTO " from rfl]
    simp only [String.append_assoc]
  have hread := hinto []
  rw [List.append_nil] at hread
  rw [read, htext, hsections, hpieces]
  simp only [Option.bind_eq_bind, Option.bind_some, statement, hread, if_true, Option.pure_def]
  conv_rhs => rw [← h.trimmed]
  simp [trim, haction, hnone]

/-- An insert of a row is read back. -/
theorem read_insert_row (h : Legible c) (haction : c.action = .insert) (hne : c.assignments ≠ []) :
    read ("INSERT INTO " ++ c.table ++ " (" ++ joinWith ", " (c.assignments.map Prod.fst) ++
      ") VALUES (" ++ joinWith ", " (c.assignments.map Prod.snd) ++ ")") = some c := by
  obtain ⟨hpieces, huncut, hinto⟩ := into_eq h.table
  have hcolumns : ∀ s ∈ c.assignments.map Prod.fst, Word s := by
    simpa using fun s v hv => (h.assignments (s, v) hv).1
  have hvalues : ∀ s ∈ c.assignments.map Prod.snd, Uncut isBreak s := by
    simpa using fun s v hv => (h.assignments (v, s) hv).2
  have hhead := huncut.mark.blank (by decide) (uncut_row fun s hs => (hcolumns s hs).uncut)
  have hsections := (Trails.nil.cons .values (uncut_row hvalues)).sections .insert hhead
  have htext : "INSERT INTO " ++ c.table ++ " (" ++ joinWith ", " (c.assignments.map Prod.fst) ++
      ") VALUES (" ++ joinWith ", " (c.assignments.map Prod.snd) ++ ")" ++ " " =
      Mark.insert.keyword ++ " " ++ ("INTO " ++ c.table ++ " " ++
        ("(" ++ joinWith ", " (c.assignments.map Prod.fst) ++ ")")) ++
        (" " ++ Mark.values.keyword ++ " " ++
          ("(" ++ joinWith ", " (c.assignments.map Prod.snd) ++ ")") ++ "") ++ " " := by
    rw [show "INSERT INTO " = Mark.insert.keyword ++ " " ++ "INTO " from rfl,
      show " (" = " " ++ "(" from rfl,
      show ") VALUES (" = ")" ++ " " ++ Mark.values.keyword ++ " " ++ "(" from rfl,
      String.append_empty]
    simp only [String.append_assoc]
  have hread := hinto (blank :: pieces ("(" ++ joinWith ", " (c.assignments.map Prod.fst) ++ ")"))
  have hlength : (c.assignments.map Prod.fst).length = (c.assignments.map Prod.snd).length := by
    simp
  have hzip : (c.assignments.map Prod.fst).zip (c.assignments.map Prod.snd) = c.assignments := by
    simp [List.zip_map']
  rw [read, htext, hsections, pieces_blank, hpieces]
  simp only [Option.bind_eq_bind, Option.bind_some, statement, hread,
    insertColumns_eq (by simpa using hne) hcolumns, insertValues_eq (by simpa using hne) hvalues,
    hlength, hzip, if_true, Option.pure_def]
  conv_rhs => rw [← h.trimmed]
  simp [trim, haction]

/-- An insert is read back. -/
theorem read_insert (h : Legible c) (haction : c.action = .insert) :
    read (Sqlite.insertHead c) = some c := by
  unfold Sqlite.insertHead
  split_ifs with hempty
  · exact h.read_insert_defaults haction (by simpa using hempty)
  · exact h.read_insert_row haction (by simpa using hempty)

/-- **Statements can be read back.** The text of legible clauses is read as these clauses. Only an
update without assignments has no text. -/
theorem read_statement (h : Legible c) :
    (∃ sql, Sqlite.statement c = .ok sql ∧ read sql = some c) ∨
      c.action = .update ∧ c.assignments = [] ∧ ∃ e, Sqlite.statement c = .error e := by
  cases haction : c.action with
  | select =>
      refine .inl ⟨_, Sqlite.statement_select haction, ?_⟩
      rw [read, h.sections_select]
      exact h.statement_select haction
  | insert =>
      have hfilter : c.filter = none := by
        rw [← h.trimmed, trim, haction]
      refine .inl ⟨Sqlite.insertHead c, ?_, h.read_insert haction⟩
      rw [Sqlite.statement, haction, hfilter]
      exact congrArg Except.ok (String.append_empty ..)
  | update =>
      by_cases hne : c.assignments = []
      · obtain ⟨e, he⟩ : ∃ e, Sqlite.updateHead c = .error e := ⟨_, if_pos (by simpa using hne)⟩
        refine .inr ⟨rfl, hne, e, ?_⟩
        rw [Sqlite.statement, haction]
        simp only [he]
        rfl
      · obtain ⟨sql, hsql⟩ : ∃ sql, Sqlite.updateHead c = .ok sql :=
          ⟨_, if_neg (by simpa using hne)⟩
        refine .inl ⟨_, ?_, h.read_update haction hsql⟩
        rw [Sqlite.statement, haction]
        simp only [hsql]
        rfl
  | delete =>
      refine .inl ⟨_, ?_, h.read_delete haction⟩
      rw [Sqlite.statement, haction]
      rfl

end Legible

/-- A limit of minus one is none, and the words of a nested select are not read. -/
example : read "SELECT a, b AS c FROM t WHERE a IN (SELECT d, e FROM u LIMIT 1) LIMIT -1 OFFSET 2" =
    some
      { action := .select, table := "t", columns := [⟨"a", "a"⟩, ⟨"b", "c"⟩]
        filter := some "a IN (SELECT d, e FROM u LIMIT 1)", offset := 2 } := by
  decide +kernel

end TableGateway.Template
