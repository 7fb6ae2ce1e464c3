import Mathlib.Data.List.Forall2
import TableGateway.Dialect.Sqlite
import TableGateway.Proofs.Query.Names

/-!
# How SQLite statements are spelled

The SQLite dialect puts a statement together from words that a request brings, fixed texts of its
own, placeholders and parentheses. This module says how, so that what holds of every text that is
put together like this can be shown by one induction: which placeholders it has, and whether its
parentheses match.

## Spelling convention

`Spelled P sql names` lists the placeholders of a text from left to right, and says `P` of every
word in it. A fixed text has neither a colon nor a parenthesis; parentheses come in pairs. Text
behind a placeholder begins with a character that no name has, so the placeholder ends where its
name does. Clauses see to that with the blank they begin with.

## Main results

* `Spelled.joinWith`: texts with a separator between them.
* `Sqlite.spelled_leaf_equality`, `Sqlite.spelled_leaf_list`, `Sqlite.spelled_conj`: conditions.
* `Sqlite.spelled_select`, `Sqlite.spelled_insert`, `Sqlite.spelled_update`,
  `Sqlite.spelled_delete`: statements.
-/

namespace TableGateway

open TableGateway.Numbering

/-! ### Where a name ends -/

/-- A character that can stand in the name of a parameter: a letter, a digit or an underscore. -/
def isNameChar (c : Char) : Bool := c.isAlphanum || c == '_'

/-- The name of a parameter is made of characters of names. -/
theorem isNameChar_of_mem_name {n : Nat} {name : String} (h : IsNameOf n name) :
    ∀ c ∈ name.toList, isNameChar c := by
  have hdigits : ∀ k, ∀ c ∈ Nat.toDigits 10 k, isNameChar c := by
    intro k c hc
    have hdigit := isDigit_of_mem_digits hc
    simp [isNameChar, Char.isAlphanum, hdigit]
  have hp : isNameChar 'p' := by decide
  have hunderscore : isNameChar '_' := by decide
  rcases h with rfl | ⟨i, rfl⟩
  · rw [toList_paramName]
    exact List.forall_mem_cons.mpr ⟨hp, hdigits n⟩
  · rw [toList_elementName]
    refine List.forall_mem_cons.mpr ⟨hp, List.forall_mem_append.mpr ⟨hdigits n, ?_⟩⟩
    exact List.forall_mem_cons.mpr ⟨hunderscore, hdigits i⟩

/-- The characters behind a name do not go on with one that could stand in it. -/
def EndsName (rest : List Char) : Prop := ∀ c ∈ rest.head?, ¬ isNameChar c

/-- A name ends where nothing follows. -/
theorem endsName_nil : EndsName [] := by simp [EndsName]

/-- A name ends before a character that cannot stand in it. -/
theorem endsName_cons {c : Char} (h : ¬ isNameChar c) (rest : List Char) :
    EndsName (c :: rest) := by
  simpa [EndsName] using h

namespace EndsName

variable {l l' : List Char}

/-- A name ends before two texts of which each would end it. -/
theorem append (h : EndsName l) (h' : EndsName l') : EndsName (l ++ l') := by
  cases l with
  | nil => exact h'
  | cons c l => exact endsName_cons (h c (by simp)) _

/-- Where a name ends, a number ends too. -/
theorem endsNumber (h : EndsName l) : EndsNumber l := by
  intro c hc hdigit
  exact h c hc (by simp [isNameChar, Char.isAlphanum, hdigit])

end EndsName

/-- A name ends before two texts of which each would end it. -/
theorem endsName_append {s s' : String} (h : EndsName s.toList) (h' : EndsName s'.toList) :
    EndsName (s ++ s').toList := by
  rw [String.toList_append]
  exact h.append h'

/-- The first character of a text. -/
def StartsWith (c : Char) (s : String) : Prop := ∃ rest, s.toList = c :: rest

namespace StartsWith

variable {c : Char} {s : String}

/-- The first character stays whatever follows. -/
theorem append (h : StartsWith c s) (s' : String) : StartsWith c (s ++ s') := by
  obtain ⟨rest, hs⟩ := h
  refine ⟨rest ++ s'.toList, ?_⟩
  rw [String.toList_append, hs, List.cons_append]

/-- A name ends before a character that cannot stand in it. -/
theorem endsName (h : StartsWith c s) (hc : ¬ isNameChar c) : EndsName s.toList := by
  obtain ⟨rest, hs⟩ := h
  rw [hs]
  exact endsName_cons hc rest

/-- A name ends before a clause, which begins with a blank. -/
theorem endsName_blank (h : StartsWith ' ' s) : EndsName s.toList := h.endsName (by decide)

end StartsWith

/-! ### Spelling -/

/-- A text without colons and parentheses. -/
def Plain (s : String) : Prop := ∀ c ∈ s.toList, c ≠ ':' ∧ c ≠ '(' ∧ c ≠ ')'

instance (s : String) : Decidable (Plain s) :=
  List.decidableBAll (fun c => c ≠ ':' ∧ c ≠ '(' ∧ c ≠ ')') s.toList

/-- A text that is put together from words with the property `P`, fixed texts, parentheses and the
placeholders of `names`, from left to right. -/
inductive Spelled (P : String → Prop) : String → List String → Prop where
  /-- A word of the request. -/
  | word {s : String} (h : P s) : Spelled P s []
  /-- A fixed text of the dialect. -/
  | fixed {s : String} (h : Plain s) : Spelled P s []
  /-- A placeholder. -/
  | placeholder {n : Nat} {name : String} (h : IsNameOf n name) :
      Spelled P (Sqlite.placeholder name) [name]
  /-- A text in parentheses. -/
  | paren {s : String} {names : List String} (h : Spelled P s names) :
      Spelled P ("(" ++ s ++ ")") names
  /-- Two texts, of which the second does not go on with a name that the first ends with. -/
  | append {s s' : String} {names names' : List String} (h : Spelled P s names)
      (h' : Spelled P s' names') (hends : names = [] ∨ EndsName s'.toList) :
      Spelled P (s ++ s') (names ++ names')

/-- A text without placeholders. -/
abbrev Bare (P : String → Prop) (s : String) : Prop := Spelled P s []

namespace Spelled

variable {P : String → Prop} {s s' sep : String} {names names' : List String} {c : Char}

/-- Nothing at all. -/
theorem empty : Bare P "" := fixed (by decide)

/-- A text behind a text without placeholders. -/
theorem behind (h : Bare P s) (h' : Spelled P s' names) : Spelled P (s ++ s') names :=
  append h h' (.inl rfl)

/-- A text before a text without placeholders that ends a name. -/
theorem before (h : Spelled P s names) (h' : Bare P s') (hends : EndsName s'.toList) :
    Spelled P (s ++ s') names := by
  have happend := append h h' (.inr hends)
  rwa [List.append_nil] at happend

/-- Texts with a separator between them that begins with a character no name has. -/
theorem joinWith {items : List String} {namess : List (List String)} (hsep : Plain sep)
    (hstart : StartsWith c sep) (hc : ¬ isNameChar c) (h : List.Forall₂ (Spelled P) items namess) :
    Spelled P (joinWith sep items) namess.flatten := by
  induction h with
  | nil => exact empty
  | @cons item names items namess hitem hitems ih =>
      cases hitems with
      | nil => simpa [TableGateway.joinWith] using hitem
      | @cons next names' items namess hnext hrest =>
          have hbefore : Spelled P (item ++ sep) names :=
            hitem.before (fixed hsep) (hstart.endsName hc)
          have hends : EndsName (sep ++ TableGateway.joinWith sep (next :: items)).toList :=
            (hstart.append _).endsName hc
          have hafter : Spelled P (sep ++ TableGateway.joinWith sep (next :: items))
              (names' :: namess).flatten := (fixed hsep).behind ih
          have happend := hitem.append hafter (.inr hends)
          simpa only [TableGateway.joinWith, String.append_assoc, List.flatten_cons] using happend

/-- Texts without placeholders, whatever separates them. -/
theorem joinWith_bare {items : List String} (hsep : Plain sep) (h : ∀ s ∈ items, Bare P s) :
    Bare P (TableGateway.joinWith sep items) := by
  induction items with
  | nil => exact empty
  | cons item items ih =>
      have hitem : Bare P item := h item List.mem_cons_self
      have hitems := ih fun s hs => h s (List.mem_cons_of_mem _ hs)
      cases items with
      | nil => exact hitem
      | cons next items => exact (hitem.behind (fixed hsep)).behind hitems

end Spelled

/-- A text that may be missing: then there are no placeholders in it. -/
def SpelledIfAny (P : String → Prop) : Option String → List String → Prop
  | none, names => names = []
  | some s, names => Spelled P s names

namespace Sqlite

/-! ### How clauses begin -/

/-- The clause of a condition. -/
theorem endsName_conditionClause (word : String) (f : Option String) :
    EndsName (conditionClause word f).toList := by
  cases f with
  | none => exact endsName_nil
  | some text =>
      have hblank : StartsWith ' ' " " := ⟨[], rfl⟩
      exact (((hblank.append word).append " ").append text).endsName_blank

/-- A clause that lists entries. -/
theorem endsName_listClause (words : String) (items : List String) :
    EndsName (listClause words items).toList := by
  have hblank : StartsWith ' ' " " := ⟨[], rfl⟩
  unfold listClause
  split
  · exact endsName_nil
  · exact (((hblank.append words).append " ").append _).endsName_blank

/-- The clause of paging. -/
theorem endsName_paging (limit : Option UInt64) (offset : UInt64) :
    EndsName (paging limit offset).toList := by
  have hlimit : StartsWith ' ' " LIMIT " := ⟨_, rfl⟩
  have hall : StartsWith ' ' " LIMIT -1 OFFSET " := ⟨_, rfl⟩
  unfold paging
  split <;> split
  · exact (hlimit.append _).endsName_blank
  · exact (((hlimit.append _).append _).append _).endsName_blank
  · exact endsName_nil
  · exact (hall.append _).endsName_blank

/-- What follows the condition of a select. -/
theorem endsName_selectTail (c : Clauses) : EndsName (selectTail c).toList :=
  endsName_append (endsName_append (endsName_append (endsName_listClause _ _)
    (endsName_conditionClause _ _)) (endsName_listClause _ _)) (endsName_paging _ _)

/-- Joined tables one after the other. -/
theorem joinWith_joinClause (j : JoinEntry) (joins : List JoinEntry) :
    joinWith "" ((j :: joins).map joinClause) =
      joinClause j ++ joinWith "" (joins.map joinClause) := by
  cases joins with
  | nil => simp [joinWith]
  | cons k joins => simp [joinWith]

/-- The clauses of joined tables. -/
theorem endsName_joins (joins : List JoinEntry) :
    EndsName (joinWith "" (joins.map joinClause)).toList := by
  cases joins with
  | nil => exact endsName_nil
  | cons j joins =>
      have hblank : StartsWith ' ' " " := ⟨[], rfl⟩
      rw [joinWith_joinClause]
      unfold joinClause
      exact (((((((hblank.append _).append _).append _).append _).append _).append _).append
        _).endsName_blank

/-! ### Conditions -/

section

variable {P : String → Prop}

/-- Digits are plain. -/
theorem plain_toString (n : Nat) : Plain (toString n) := by
  intro c hc
  have hdigit : c.isDigit := isDigit_of_mem_digits (by simpa using hc)
  refine ⟨?_, ?_, ?_⟩ <;> rintro rfl <;> exact absurd hdigit (by decide)

/-- A text in parentheses behind a word that ends with the opening one. -/
theorem spelled_call {before body : String} {names : List String} (h : Bare P before)
    (opening : String) (hopening : Plain opening) (hbody : Spelled P body names) :
    Spelled P (before ++ (opening ++ "(") ++ body ++ ")") names := by
  have hcall := (h.behind (.fixed hopening)).behind hbody.paren
  simpa only [String.append_assoc] using hcall

/-- A comparison with a parameter. -/
theorem spelled_leaf_equality {column name : String} {n : Nat} (h : Bare P column)
    (hname : IsNameOf n name) : Spelled P (leaf column (.equality name)) [name] :=
  (h.behind (.fixed (by decide))).behind (.placeholder hname)

/-- The placeholders of a list. -/
theorem spelled_placeholders {names : List String} {n : Nat}
    (hnames : ∀ name ∈ names, IsNameOf n name) :
    Spelled P (joinWith ", " (names.map placeholder)) names := by
  have hitems : List.Forall₂ (Spelled P) (names.map placeholder) (names.map ([·])) := by
    rw [List.forall₂_map_left_iff, List.forall₂_map_right_iff, List.forall₂_same]
    exact fun name hname => .placeholder (hnames name hname)
  have hjoined : Spelled P (joinWith ", " (names.map placeholder)) (names.map ([·])).flatten :=
    Spelled.joinWith (c := ',') (by decide) ⟨[' '], rfl⟩ (by decide) hitems
  rwa [← List.flatMap_def, List.flatMap_singleton'] at hjoined

/-- A membership in a list of parameters. -/
theorem spelled_leaf_list {column : String} {names : List String} {n : Nat} (h : Bare P column)
    (hnames : ∀ name ∈ names, IsNameOf n name) :
    Spelled P (leaf column (.membership names)) names :=
  spelled_call h " IN " (by decide) (spelled_placeholders hnames)

/-- A membership in a nested select. -/
theorem spelled_leaf_subquery {column sql : String} {names : List String} (h : Bare P column)
    (hsql : Spelled P sql names) : Spelled P (leaf column (.subquery sql)) names :=
  spelled_call h " IN " (by decide) hsql

/-- A test for null. -/
theorem spelled_leaf_isNull {column : String} (h : Bare P column) :
    Bare P (leaf column .isNull) :=
  h.behind (.fixed (by decide))

/-- Two texts in parentheses with a word between them. -/
theorem spelled_sides {l r : String} {names names' : List String} (word : String)
    (hword : Plain word) (hstart : StartsWith ' ' word) (hl : Spelled P l names)
    (hr : Spelled P r names') :
    Spelled P ("(" ++ l ++ (")" ++ word ++ "(") ++ r ++ ")") (names ++ names') := by
  have hright : Spelled P (word ++ ("(" ++ r ++ ")")) names' :=
    (Spelled.fixed hword).behind hr.paren
  have hends : EndsName (word ++ ("(" ++ r ++ ")")).toList := (hstart.append _).endsName_blank
  have hsides := hl.paren.append hright (.inr hends)
  simpa only [String.append_assoc] using hsides

/-- Both of two conditions. -/
theorem spelled_conj {l r : String} {names names' : List String} (hl : Spelled P l names)
    (hr : Spelled P r names') : Spelled P (dialect.conj l r) (names ++ names') :=
  spelled_sides " AND " (by decide) ⟨_, rfl⟩ hl hr

/-- At least one of two conditions. -/
theorem spelled_disj {l r : String} {names names' : List String} (hl : Spelled P l names)
    (hr : Spelled P r names') : Spelled P (dialect.disj l r) (names ++ names') :=
  spelled_sides " OR " (by decide) ⟨_, rfl⟩ hl hr

/-! ### Clauses -/

/-- The clause of a condition. -/
theorem spelled_conditionClause {word : String} {f : Option String} {names : List String}
    (hword : Plain word) (h : SpelledIfAny P f names) :
    Spelled P (conditionClause word f) names := by
  cases f with
  | none =>
      obtain rfl : names = [] := h
      exact .empty
  | some text =>
      have hblank : Bare P (" " ++ word ++ " ") :=
        ((Spelled.fixed (by decide)).behind (.fixed hword)).behind (.fixed (by decide))
      exact hblank.behind h

/-- A clause that lists entries. -/
theorem bare_listClause {words : String} {items : List String} (hwords : Plain words)
    (h : ∀ s ∈ items, Bare P s) : Bare P (listClause words items) := by
  have hblank : Bare P (" " ++ words ++ " ") :=
    ((Spelled.fixed (by decide)).behind (.fixed hwords)).behind (.fixed (by decide))
  unfold listClause
  split
  · exact .fixed (by decide)
  · exact hblank.behind (Spelled.joinWith_bare (by decide) h)

/-- The clause of paging. -/
theorem bare_paging (limit : Option UInt64) (offset : UInt64) : Bare P (paging limit offset) := by
  have hnumber : ∀ n : Nat, Bare P (toString n) := fun n => .fixed (plain_toString n)
  unfold paging
  split <;> split
  · exact (Spelled.fixed (by decide)).behind (hnumber _)
  · exact (((Spelled.fixed (by decide)).behind (hnumber _)).behind (.fixed (by decide))).behind
      (hnumber _)
  · exact .fixed (by decide)
  · exact (Spelled.fixed (by decide)).behind (hnumber _)

/-- What follows the condition of a select: only its condition on groups has placeholders. -/
theorem spelled_selectTail {c : Clauses} {names : List String}
    (hgroup : ∀ s ∈ c.groupBy, Bare P s) (horder : ∀ e ∈ c.orderBy, Bare P e.1)
    (h : SpelledIfAny P c.having names) : Spelled P (selectTail c) names := by
  have horders : ∀ s ∈ c.orderBy.map (fun e => e.1 ++ " " ++ e.2.keyword), Bare P s := by
    intro s hs
    obtain ⟨⟨column, direction⟩, he, rfl⟩ := List.mem_map.mp hs
    have hkeyword : Plain direction.keyword := by cases direction <;> decide
    exact ((horder _ he).behind (.fixed (by decide))).behind (.fixed hkeyword)
  have hhaving : Spelled P (listClause "GROUP BY" c.groupBy ++ conditionClause "HAVING" c.having)
      names := (bare_listClause (by decide) hgroup).behind (spelled_conditionClause (by decide) h)
  exact (hhaving.before (bare_listClause (by decide) horders) (endsName_listClause _ _)).before
    (bare_paging _ _) (endsName_paging _ _)

/-- What a select writes before its condition. -/
theorem bare_selectHead {c : Clauses} (htable : Bare P c.table)
    (hcolumns : ∀ e ∈ c.columns, Bare P e.expr ∧ Bare P e.name)
    (hjoins : ∀ j ∈ c.joins,
      Bare P j.table ∧ Bare P j.name ∧ ∀ p ∈ j.pairs, Bare P p.1 ∧ Bare P p.2) :
    Bare P (selectHead c) := by
  have hselected : ∀ s ∈ c.columns.map selectColumn, Bare P s := by
    intro s hs
    obtain ⟨e, he, rfl⟩ := List.mem_map.mp hs
    unfold selectColumn
    split
    · exact (hcolumns e he).1
    · exact ((hcolumns e he).1.behind (.fixed (by decide))).behind (hcolumns e he).2
  have hlist : Bare P (selectList c.columns) := by
    unfold selectList
    split
    · exact .fixed (by decide)
    · exact Spelled.joinWith_bare (by decide) hselected
  have hjoined : ∀ s ∈ c.joins.map joinClause, Bare P s := by
    intro s hs
    obtain ⟨j, hj, rfl⟩ := List.mem_map.mp hs
    obtain ⟨hname, halias, hpairs⟩ := hjoins j hj
    have hkeyword : Plain j.kind.keyword := by cases j.kind <;> decide
    have hon : Bare P (if j.pairs.isEmpty then ""
        else " ON " ++ joinWith " AND " (j.pairs.map fun p => p.1 ++ " = " ++ p.2)) := by
      split
      · exact .fixed (by decide)
      · refine (Spelled.fixed (by decide)).behind (Spelled.joinWith_bare (by decide) ?_)
        intro s hs
        obtain ⟨p, hp, rfl⟩ := List.mem_map.mp hs
        exact ((hpairs p hp).1.behind (.fixed (by decide))).behind (hpairs p hp).2
    exact ((((((Spelled.fixed (by decide)).behind (.fixed hkeyword)).behind
      (.fixed (by decide))).behind hname).behind (.fixed (by decide))).behind halias).behind hon
  exact ((((Spelled.fixed (by decide)).behind hlist).behind (.fixed (by decide))).behind
    htable).behind (Spelled.joinWith_bare (by decide) hjoined)

/-! ### Statements -/

/-- The text of a select. -/
def selectText (c : Clauses) : String :=
  selectHead c ++ conditionClause "WHERE" c.filter ++ selectTail c

/-- A select is never refused. -/
theorem statement_select {c : Clauses} (h : c.action = .select) :
    statement c = .ok (selectText c) := by
  obtain ⟨action, table, columns, joins, assignments, filter, groupBy, having, orderBy, limit,
    offset⟩ := c
  obtain rfl : action = .select := h
  rfl

/-- A select has the placeholders of its condition on rows and then those of its condition on
groups. -/
theorem spelled_select {c : Clauses} {filtered grouped : List String}
    (hhead : Bare P (selectHead c)) (hfilter : SpelledIfAny P c.filter filtered)
    (htail : Spelled P (selectTail c) grouped) :
    Spelled P (selectText c) (filtered ++ grouped) := by
  have hrows : Spelled P (selectHead c ++ conditionClause "WHERE" c.filter) filtered :=
    hhead.behind (spelled_conditionClause (by decide) hfilter)
  exact hrows.append htail (.inr (endsName_selectTail c))

section

variable {table : String} {entries : List (String × String)} {assigned : List (List String)}
  {sql : String}

/-- The columns of assignments. -/
theorem bare_columns
    (h : List.Forall₂ (fun e names => Bare P e.1 ∧ Spelled P e.2 names) entries assigned) :
    ∀ s ∈ entries.map Prod.fst, Bare P s := by
  induction h with
  | nil => simp
  | cons hentry _ ih => exact List.forall_mem_cons.mpr ⟨hentry.1, ih⟩

/-- The values of assignments, each behind a text that may depend on its column. -/
theorem spelled_values (lead : String → String) (hlead : ∀ s, Bare P s → Bare P (lead s))
    (h : List.Forall₂ (fun e names => Bare P e.1 ∧ Spelled P e.2 names) entries assigned) :
    Spelled P (joinWith ", " (entries.map fun e => lead e.1 ++ e.2)) assigned.flatten := by
  refine Spelled.joinWith (c := ',') (by decide) ⟨[' '], rfl⟩ (by decide) ?_
  rw [List.forall₂_map_left_iff]
  exact h.imp fun _ _ hentry => (hlead _ hentry.1).behind hentry.2

/-- An insert has the placeholders of its values. -/
theorem spelled_insert (htable : Bare P table)
    (h : List.Forall₂ (fun e names => Bare P e.1 ∧ Spelled P e.2 names) entries assigned)
    (hsql : statement { action := .insert, table := table, assignments := entries } = .ok sql) :
    Spelled P sql assigned.flatten := by
  have hinto : Bare P ("INSERT INTO " ++ table) := (Spelled.fixed (by decide)).behind htable
  have hcolumns : Bare P (joinWith ", " (entries.map Prod.fst)) :=
    Spelled.joinWith_bare (by decide) (bare_columns h)
  have hvalues := spelled_values (fun _ => "") (fun _ _ => .empty) h
  obtain rfl : insertHead { action := .insert, table := table, assignments := entries } ++ "" =
      sql := Except.ok.inj hsql
  rw [String.append_empty, insertHead]
  cases h with
  | nil => exact hinto.behind (.fixed (by decide))
  | @cons entry names entries assigned =>
      have hlists := (hinto.behind (.fixed (s := " ") (by decide))).behind
        (spelled_sides " VALUES " (by decide) ⟨_, rfl⟩ hcolumns hvalues)
      have hopening : ∀ s : String, " " ++ ("(" ++ s) = " (" ++ s := fun s => by
        rw [← String.append_assoc]
        rfl
      simpa [String.append_assoc, hopening] using hlists

/-- An update has the placeholders of its values and then those of its condition. -/
theorem spelled_update {filter : Option String} {filtered : List String} (htable : Bare P table)
    (h : List.Forall₂ (fun e names => Bare P e.1 ∧ Spelled P e.2 names) entries assigned)
    (hfilter : SpelledIfAny P filter filtered)
    (hsql : statement
      { action := .update, table := table, assignments := entries, filter := filter } = .ok sql) :
    Spelled P sql (assigned.flatten ++ filtered) := by
  have hset : Bare P ("UPDATE " ++ table ++ " SET ") :=
    ((Spelled.fixed (by decide)).behind htable).behind (.fixed (by decide))
  have hvalues := spelled_values (· ++ " = ") (fun _ hs => hs.behind (.fixed (by decide))) h
  cases h with
  | nil => exact nomatch hsql
  | @cons entry names entries assigned =>
      obtain rfl := Except.ok.inj hsql
      exact (hset.behind hvalues).append (spelled_conditionClause (by decide) hfilter)
        (.inr (endsName_conditionClause _ _))

/-- A delete has the placeholders of its condition. -/
theorem spelled_delete {filter : Option String} {filtered : List String} (htable : Bare P table)
    (hfilter : SpelledIfAny P filter filtered)
    (hsql : statement { action := .delete, table := table, filter := filter } = .ok sql) :
    Spelled P sql filtered := by
  obtain rfl : "DELETE FROM " ++ table ++ conditionClause "WHERE" filter = sql :=
    Except.ok.inj hsql
  exact ((Spelled.fixed (by decide)).behind htable).behind
    (spelled_conditionClause (by decide) hfilter)

end

end

end Sqlite

end TableGateway
