import TableGateway.Proofs.Query.Capture
import TableGateway.Proofs.Row.Source

/-!
# What a returned row holds

The select list of a statement and the names under which a row holds its values are made apart: the
list is written by the dialect, the names are those of the projection, and a record is laid beside
the names up to the shorter of the two. This module says exactly when a row holds all values of its
record, in order and under the names that the statement gives them.

## Conventions

`Sqlite.items` lists what stands in the select list; where nothing is selected this is the sign for
all columns. An engine makes one or more columns of every item; which names these have is left to a
`Heading`. A record of a result has one value for every one of these columns.

## Main results

* `Query.returned_outcome`: the rows that are returned, of the records that are answered.
* `Query.holds_iff`: when the rows hold all values.
* `Query.rows_carry`: the same of a compiled select.
* `Query.sampleUnnamed_forgets`: a select whose rows hold nothing.
-/

namespace TableGateway

/-- The items of a select list. -/
def Sqlite.items (columns : List NamedExpr) : List String :=
  if columns.isEmpty then ["*"] else columns.map selectColumn

/-- A select list is made of its items. -/
theorem Sqlite.selectList_eq (columns : List NamedExpr) :
    selectList columns = joinWith ", " (items columns) := by
  unfold selectList items
  split <;> rfl

/-- The names of the columns that an engine makes of an item. -/
abbrev Heading := String → List String

/-- The records that a request takes of those that are answered. -/
def Verb.taken : Verb → List Record → List Record
  | .all, raws => raws
  | .one, raws => raws.head?.toList
  | .execute, _ | .count, _ => []

/-- A record that is taken is one that is answered. -/
theorem Verb.mem_of_taken {verb : Verb} {raw : Record} {raws : List Record}
    (h : raw ∈ verb.taken raws) : raw ∈ raws := by
  cases verb with
  | all => exact h
  | one => exact List.mem_of_head? (Option.mem_toList.mp h)
  | execute | count => exact absurd h List.not_mem_nil

namespace Query

/-- The names of the columns that a select asks for. -/
def heading (h : Heading) (q : Query) : List String :=
  (Sqlite.items q.selection.columns).flatMap h

/-- Of any answer whose records have one value for every column that the select asks for: the rows
hold all these values, in order and under the names of the columns. -/
def Holds (h : Heading) (q : Query) : Prop :=
  ∀ (verb : Verb) answer,
    (∀ raw ∈ Verb.answeredRows answer, raw.length = (q.heading h).length) →
    (verb.outcome q answer).returned.map (fun r => r.data.entries) =
      (verb.taken (Verb.answeredRows answer)).map fun raw => (q.heading h).zip raw

variable {q : Query} {h : Heading} {raw : Record}

/-- **Returned rows** are made of the records that are taken. -/
theorem returned_outcome (q : Query) (verb : Verb) (answer : Answer) :
    (verb.outcome q answer).returned =
      (verb.taken (Verb.answeredRows answer)).map
        (Row.fetched q.table q.selection.names) := by
  cases verb with
  | execute => cases answer <;> rfl
  | all | count => rfl
  | one =>
      simp only [Verb.outcome, Outcome.returned, Verb.taken]
      cases (Verb.answeredRows answer).head? <;> rfl

/-- What a row is made of. -/
theorem entries_fetched (q : Query) (raw : Record) :
    (Row.fetched q.table q.selection.names raw).data =
      Registry.ofList (q.selection.names.zip raw) := rfl

/-- Without a name a row holds nothing. -/
theorem entries_fetched_of_nil (hcolumns : q.selection.columns = []) (raw : Record) :
    (Row.fetched q.table q.selection.names raw).data.entries = [] := by
  rw [entries_fetched, Projection.names, hcolumns]
  rfl

/-- As many names as values, and all of them distinct, are held as they are. -/
theorem entries_fetched_of_nodup (hnodup : q.selection.names.Nodup)
    (hlength : raw.length = q.selection.names.length) :
    (Row.fetched q.table q.selection.names raw).data.entries = q.selection.names.zip raw := by
  have hkeys : ((q.selection.names.zip raw).map Prod.fst).Nodup := by
    rw [List.map_fst_zip (by omega)]
    exact hnodup
  rw [entries_fetched, Registry.ofList_of_nodup hkeys]

/-- What is made of a list is no shorter, if something is made of every element. -/
theorem length_le_flatMap {α β : Type} {f : α → List β} {l : List α} (hf : ∀ a ∈ l, f a ≠ []) :
    l.length ≤ (l.flatMap f).length := by
  induction l with
  | nil => exact Nat.le_refl 0
  | cons a l ih =>
      have hhead := List.length_pos_iff.mpr (hf a List.mem_cons_self)
      have hrest := ih fun b hb => hf b (List.mem_cons_of_mem _ hb)
      rw [List.flatMap_cons, List.length_append, List.length_cons]
      omega

/-- If something is made of every element of a list, then as many things are made as there are
elements only if one is made of each. By induction over the list: where more is made of an element,
too little is left for those behind it. -/
theorem flatMap_eq_map_iff {α β : Type} {f : α → List β} {g : α → β} {l : List α}
    (hf : ∀ a ∈ l, f a ≠ []) : l.flatMap f = l.map g ↔ ∀ a ∈ l, f a = [g a] := by
  induction l with
  | nil => simp
  | cons a l ih =>
      have hrest : ∀ b ∈ l, f b ≠ [] := fun b hb => hf b (List.mem_cons_of_mem _ hb)
      have htail : l.flatMap f = l.map g ↔ ∀ b ∈ l, f b = [g b] := ih hrest
      rw [List.flatMap_cons, List.map_cons, List.forall_mem_cons, ← htail]
      constructor
      · intro h
        obtain ⟨b, bs, hfa⟩ := List.exists_cons_of_ne_nil (hf a List.mem_cons_self)
        rw [hfa, List.cons_append, List.cons.injEq] at h
        obtain ⟨rfl, hbehind⟩ := h
        have hcount := congrArg List.length hbehind
        have hleast := length_le_flatMap hrest
        rw [List.length_append, List.length_map] at hcount
        obtain rfl : bs = [] := List.length_eq_zero_iff.mp (by omega)
        exact ⟨hfa, hbehind⟩
      · rintro ⟨hfa, hbehind⟩
        rw [hfa, hbehind, List.singleton_append]

/-- A row that holds all values of a record shows that the columns of the select have its names. -/
theorem heading_eq_of_holds (hall : q.Holds h)
    (hlength : q.selection.names.length ≤ (q.heading h).length) :
    q.heading h = q.selection.names ∧ q.selection.names.Nodup := by
  -- Any record will do: only the keys of the row are looked at.
  obtain ⟨raw, hraw⟩ : ∃ raw : Record, raw.length = (q.heading h).length :=
    ⟨List.replicate _ .null, List.length_replicate⟩
  have hrow : (Registry.ofList (q.selection.names.zip raw)).entries = (q.heading h).zip raw := by
    have hone := hall .all (.rows [raw]) (by simpa [Verb.answeredRows] using hraw)
    rw [returned_outcome] at hone
    simpa [Verb.taken, Verb.answeredRows, entries_fetched] using hone
  have hsize : (Registry.ofList (q.selection.names.zip raw)).size = (q.heading h).length := by
    rw [Registry.size, hrow, List.length_zip]
    omega
  have hnodup : ((q.selection.names.zip raw).map Prod.fst).Nodup := by
    refine Registry.nodup_of_length_le_ofList ?_
    rw [hsize, List.length_zip]
    omega
  rw [Registry.ofList_of_nodup hnodup] at hrow
  have hkeys := congrArg (List.map Prod.fst) hrow
  rw [List.map_fst_zip (by omega), List.map_fst_zip (by omega)] at hkeys
  rw [List.map_fst_zip (by omega)] at hnodup
  exact ⟨hkeys.symm, hnodup⟩

/-- Every item of the select list stands for at least one column. -/
def Asks (h : Heading) (q : Query) : Prop := ∀ item ∈ Sqlite.items q.selection.columns, h item ≠ []

/-- Where something is selected, the columns of the select have the names of the projection exactly
if every item stands for the one column with its name. -/
theorem heading_eq_names_iff (hasks : q.Asks h) (hsome : q.selection.columns ≠ []) :
    q.heading h = q.selection.names ↔
      ∀ e ∈ q.selection.columns, h (Sqlite.selectColumn e) = [e.name] := by
  have hitems : Sqlite.items q.selection.columns = q.selection.columns.map Sqlite.selectColumn :=
    if_neg (by simpa using hsome)
  rw [Asks, hitems, List.forall_mem_map] at hasks
  rw [heading, hitems, List.flatMap_map]
  exact flatMap_eq_map_iff hasks

/-- A select asks for at least as many columns as its projection has names. -/
theorem names_le_heading (hasks : q.Asks h) :
    q.selection.names.length ≤ (q.heading h).length := by
  have hitems : q.selection.names.length ≤ (Sqlite.items q.selection.columns).length := by
    rw [Projection.names, List.length_map, Sqlite.items]
    split
    · next hnone => simp [List.isEmpty_iff.mp hnone]
    · rw [List.length_map]
  exact hitems.trans (length_le_flatMap hasks)

/-- **All values are held** exactly if something is selected, every item stands for the one column
with its name, and these names are distinct. -/
theorem holds_iff (hasks : q.Asks h) :
    q.Holds h ↔ q.selection.columns ≠ [] ∧
      (∀ e ∈ q.selection.columns, h (Sqlite.selectColumn e) = [e.name]) ∧
      q.selection.names.Nodup := by
  constructor
  · intro hall
    obtain ⟨hnames, hnodup⟩ := heading_eq_of_holds hall (names_le_heading hasks)
    have hsome : q.selection.columns ≠ [] := by
      -- The sign for all columns stands for something, and there is no name for it.
      intro hnone
      rw [Asks, hnone] at hasks
      rw [heading, Projection.names, hnone] at hnames
      exact hasks "*" List.mem_cons_self (by simpa [Sqlite.items] using hnames)
    exact ⟨hsome, (heading_eq_names_iff hasks hsome).mp hnames, hnodup⟩
  · rintro ⟨hsome, hitems, hnodup⟩ verb answer hraws
    have hnames := (heading_eq_names_iff hasks hsome).mpr hitems
    rw [returned_outcome, List.map_map]
    refine List.map_congr_left fun raw hraw => ?_
    have hlength := hraws raw (Verb.mem_of_taken hraw)
    rw [hnames] at hlength ⊢
    exact entries_fetched_of_nodup hnodup hlength

/-- The columns of a table, qualified or not, are returned under their own names. -/
theorem default_names (hdefault : q.projection = none) :
    q.selection.columns ≠ [] ∧ q.selection.names = q.table.columns := by
  have hnames : q.selection.names = q.table.columns := by
    rw [selection, hdefault, Projection.selected]
    split <;> simp [Projection.names, Projection.plain, Projection.renamed, Function.comp_def]
  refine ⟨fun hnone => ?_, hnames⟩
  have hkey := q.table.key_mem
  rw [← hnames, Projection.names, hnone] at hkey
  exact List.not_mem_nil hkey

/-- **What rows carry.** Of any select that compiles for SQLite, with or without joins and nested
selects: the items of its select list stand in the statement as they are. Let each of them stand for
some columns of the result, at least one, and take any answer whose records have one value for every
such column. The rows that `all` and `one` return hold all these values, one entry for every column,
in order and under the names of the columns, exactly if something is selected, every item stands for
the one column with its name, and these names are distinct. The default projection selects
something, namely all columns of the table under their names. Where nothing is selected, the
statement asks for all columns, and the rows hold none of their values. -/
theorem rows_carry {s : Statement} (hselect : q.action = .select)
    (hcompiled : q.statementIn Sqlite.dialect = .ok s) (hasks : q.Asks h) :
    (∃ rest, s.sql = "SELECT " ++ joinWith ", " (Sqlite.items q.selection.columns) ++ " FROM " ++
      q.table.name ++ rest) ∧
    (q.Holds h ↔ q.selection.columns ≠ [] ∧
      (∀ e ∈ q.selection.columns, h (Sqlite.selectColumn e) = [e.name]) ∧
      q.selection.names.Nodup) ∧
    (q.projection = none → q.selection.columns ≠ [] ∧ q.selection.names = q.table.columns) ∧
    (q.selection.columns = [] → q.heading h = h "*" ∧
      ∀ (verb : Verb) answer, ∀ r ∈ (verb.outcome q answer).returned, r.data.entries = []) := by
  refine ⟨?_, holds_iff hasks, default_names, fun hnone => ⟨?_, ?_⟩⟩
  · rw [statementIn_eq] at hcompiled
    obtain ⟨sql, htext, hs⟩ := bind_eq_ok hcompiled
    obtain rfl := Except.ok.inj hs
    rw [text_eq] at htext
    obtain ⟨c, hc, htext⟩ := bind_eq_ok htext
    obtain ⟨haction, hcolumns, -⟩ := clauses_select hselect hc
    obtain rfl := Except.ok.inj ((Sqlite.statement_select haction).symm.trans htext)
    refine ⟨joinWith "" (c.joins.map Sqlite.joinClause) ++
      (Sqlite.conditionClause "WHERE" c.filter ++ Sqlite.selectTail c), ?_⟩
    simp only [Sqlite.selectText, Sqlite.selectHead, ← Sqlite.selectList_eq, hcolumns,
      (clauses_head hc).2, String.append_assoc]
  · simp [heading, hnone, Sqlite.items]
  · intro verb answer r hr
    obtain ⟨raw, -, rfl⟩ := exists_of_returned hr
    exact entries_fetched_of_nil hnone raw

/-! ### A roster without columns -/

/-- What SQLite makes of the items of selects on the staff: of the sign for all columns all of them,
of any other item one. -/
def sampleHeading : Heading := fun item =>
  if item = "*" then staff.columns
  else if item = "staff.id AS id" then ["id"]
  else if item = "staff.boss AS boss" then ["boss"]
  else [item]

/-- Everybody, once for each of those whose superior they are. -/
def sampleTeams : Query :=
  { Query.new staff .select with joins := [⟨staff, .left, [("boss", "id")]⟩] }

/-- The rows hold everybody's key and the key of their superior. -/
theorem rows_carry_sampleTeams :
    (sampleTeams.statementIn Sqlite.dialect).map Statement.sql =
        .ok ("SELECT staff.id AS id, staff.boss AS boss FROM staff " ++
          "LEFT JOIN staff AS j1 ON j1.boss = staff.id") ∧
      sampleTeams.Asks sampleHeading ∧ sampleTeams.Holds sampleHeading := by
  have hasks : sampleTeams.Asks sampleHeading := by
    have hitems : Sqlite.items sampleTeams.selection.columns =
        ["staff.id AS id", "staff.boss AS boss"] := by decide +kernel
    rw [Asks, hitems]
    decide +kernel
  obtain ⟨s, hs⟩ : ∃ s, sampleTeams.statementIn Sqlite.dialect = .ok s := ⟨_, rfl⟩
  obtain ⟨-, hholds, hdefault, -⟩ := rows_carry rfl hs hasks
  refine ⟨by decide +kernel, hasks, hholds.mpr ⟨(hdefault rfl).1, ?_, by decide⟩⟩
  decide +kernel

/-- Everybody, where no column is selected. -/
def sampleUnnamed : Query := { roster with projection := some (.plain []) }

/-- **Nothing is held.** The statement asks for all columns, a record of two values is answered, and
the row has no entry. -/
theorem sampleUnnamed_forgets :
    (sampleUnnamed.statementIn Sqlite.dialect).map Statement.sql = .ok "SELECT * FROM staff" ∧
      sampleUnnamed.selection.names.Nodup ∧
      sampleUnnamed.heading sampleHeading = ["id", "boss"] ∧
      (Verb.all.outcome sampleUnnamed (.rows [[.integer 1, .integer 2]])).returned.map
        (fun r => r.data.entries) = [[]] ∧
      ¬ sampleUnnamed.Holds sampleHeading := by
  have hheading : sampleUnnamed.heading sampleHeading = ["id", "boss"] := by decide +kernel
  refine ⟨by decide +kernel, by decide, hheading, rfl, fun hholds => ?_⟩
  have hlength : ∀ raw ∈ Verb.answeredRows (.rows [[.integer 1, .integer 2]]),
      raw.length = (sampleUnnamed.heading sampleHeading).length := by
    rw [hheading]
    decide
  have hrow := hholds .all (.rows [[.integer 1, .integer 2]]) hlength
  rw [hheading] at hrow
  exact absurd hrow (by decide)

end Query

end TableGateway
