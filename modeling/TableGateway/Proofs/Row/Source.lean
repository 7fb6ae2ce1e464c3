import TableGateway.Proofs.Query.Counting
import TableGateway.Proofs.Row.Editing

/-!
# Where the key of a row comes from

A row that a select returns has a key if a column of the select has the name of the key column, and
of several such columns the last one supplies it. The name is all that is looked at. Under its own
name a column supplies its own value; but a select can show any expression under the name of the key
column, and then the row is saved and deleted by the value of that expression.

## Conventions

What the texts of a statement mean is left to a `Sense`, in which every expression of a select shows
one value. What is said of the position of a value in a record holds of any record, also of one that
has more values than the select has expressions.

## Main results

* `Query.key_supplied`: where the key comes from, and when it is the value of the key column.
* `Query.superiors_misaddressed`: a select whose rows are deleted by something else.
-/

namespace TableGateway

/-- The rows of a result. -/
def Outcome.returned : Outcome → List Row
  | .rows rs => rs
  | .row r => r.toList
  | _ => []

/-- The row is saved and deleted by a key, or it cannot be saved or deleted. -/
def Row.AddressedBy (r : Row) : Option Value → Prop
  | some key => r.saveRequest = .ok (keyed r.table .update r.assignments key) ∧
      r.deleteRequest = .ok (keyed r.table .delete [] key)
  | none => r.saveRequest = .error (.primaryKeyMissing r.table.name r.table.primaryKey) ∧
      r.deleteRequest = .error (.primaryKeyMissing r.table.name r.table.primaryKey)

/-- A row is addressed by its key. -/
theorem Row.addressedBy_key (r : Row) : r.AddressedBy r.key := by
  cases h : r.key with
  | none => exact requests_of_keyless h
  | some key => exact requests_of_key h

namespace Query

/-- The column of a select that supplies the key: the last one with the name of the key column. -/
def keySource (q : Query) : Option NamedExpr :=
  q.selection.columns.reverse.find? fun e => decide (e.name = q.table.primaryKey)

/-- The key column as it is written in a select. -/
def IsKeyColumn (q : Query) (expr : String) : Prop :=
  expr = q.table.primaryKey ∨ expr = q.table.name ++ "." ++ q.table.primaryKey

/-- Whatever supplies the key is the key column. -/
def KeySound (q : Query) : Prop := ∀ e, q.keySource = some e → q.IsKeyColumn e.expr

variable {q : Query} {e : NamedExpr} {raw : Record} {r : Row} {verb : Verb} {answer : Answer}

/-- What supplies the key is a selected column of that name. -/
theorem of_keySource (h : q.keySource = some e) :
    e ∈ q.selection.columns ∧ e.name = q.table.primaryKey :=
  have hname : decide (e.name = q.table.primaryKey) = true :=
    List.find?_some (p := fun e : NamedExpr => decide (e.name = q.table.primaryKey)) h
  ⟨List.mem_reverse.mp (List.mem_of_find?_eq_some h), of_decide_eq_true hname⟩

/-! ### The key in a record -/

/-- **In any record**, the key stands at the place of the last column with its name that has a
value. -/
theorem key_fetched (q : Query) (raw : Record) :
    (Row.fetched q.table q.selection.names raw).key =
      ((q.selection.columns.zip raw).reverse.find? fun e =>
        decide (e.1.name = q.table.primaryKey)).map Prod.snd := by
  have hlookup : ∀ l : List (NamedExpr × Value),
      (l.map (Prod.map NamedExpr.name id)).lookup q.table.primaryKey =
        (l.find? fun e => decide (e.1.name = q.table.primaryKey)).map Prod.snd := fun l => by
    induction l with
    | nil => rfl
    | cons e l ih =>
        have hhead : (e :: l).map (Prod.map NamedExpr.name id) =
            (e.1.name, e.2) :: l.map (Prod.map NamedExpr.name id) := rfl
        rw [hhead, Registry.lookup_cons_eq, List.find?_cons, ih]
        by_cases hname : e.1.name = q.table.primaryKey
        · rw [if_pos hname.symm, decide_eq_true hname]
          rfl
        · rw [if_neg fun h => hname h.symm, decide_eq_false hname]
  have hkey : (Row.fetched q.table q.selection.names raw).key =
      (q.selection.names.zip raw).reverse.lookup q.table.primaryKey := Registry.get?_ofList _ _
  rw [hkey, Projection.names, List.zip_map_left, ← List.map_reverse]
  exact hlookup _

/-- In a record with one value for every column, it is the value of the column that supplies it. -/
theorem key_fetched_values (q : Query) (value : NamedExpr → Value) :
    (Row.fetched q.table q.selection.names (q.selection.columns.map value)).key =
      q.keySource.map value := by
  rw [key_fetched, ← List.map_prod_left_eq_zip, ← List.map_reverse, List.find?_map, Option.map_map]
  rfl

/-- **Where a group is shown**, the key is the value of the column that supplies it. -/
theorem key_shown {ρ : Type} (sense : Sense ρ) {c : Clauses}
    (hcolumns : c.columns = q.selection.columns) (group : List ρ) :
    (Row.fetched q.table q.selection.names (sense.shown c group)).key =
      q.keySource.map fun e => sense.value e.expr group := by
  rw [Sense.shown, hcolumns]
  split_ifs with hempty
  · -- All columns of the table are shown then, but none of them under a name.
    have hnone : q.selection.columns = [] := List.isEmpty_iff.mp hempty
    rw [key_fetched, keySource, hnone]
    rfl
  · exact key_fetched_values q fun e => sense.value e.expr group

/-- A returned row is one of the records that were answered. -/
theorem exists_of_returned (h : r ∈ (verb.outcome q answer).returned) :
    ∃ raw ∈ Verb.answeredRows answer, r = Row.fetched q.table q.selection.names raw := by
  cases verb with
  | execute => cases answer <;> exact absurd h List.not_mem_nil
  | all =>
      obtain ⟨raw, hraw, rfl⟩ := List.mem_map.mp h
      exact ⟨raw, hraw, rfl⟩
  | one =>
      obtain ⟨raw, hraw, rfl⟩ := Option.map_eq_some_iff.mp (Option.mem_toList.mp h)
      exact ⟨raw, List.mem_of_head? hraw, rfl⟩
  | count => exact absurd h List.not_mem_nil

/-! ### The key of a select -/

/-- A column under its own name is itself. -/
theorem keySound_of_plain {columns : List String} (h : q.selection = .plain columns) :
    q.KeySound := fun e he => by
  obtain ⟨hmem, hname⟩ := of_keySource he
  rw [h] at hmem
  obtain ⟨c, -, rfl⟩ := List.mem_map.mp hmem
  exact .inl hname

/-- The columns of the table are themselves, also where they are qualified. -/
theorem keySound_of_default (h : q.projection = none) : q.KeySound := by
  by_cases hjoins : q.joins.isEmpty
  · have hselection : q.selection = .plain q.table.columns := by
      rw [selection, h]
      exact if_pos hjoins
    exact keySound_of_plain hselection
  · intro e he
    obtain ⟨hmem, hname⟩ := of_keySource he
    have hselection : q.selection =
        .renamed (q.table.columns.map fun c => (c, q.table.name ++ "." ++ c)) := by
      rw [selection, h]
      exact if_neg hjoins
    rw [hselection, Projection.renamed, List.map_map] at hmem
    obtain ⟨c, -, rfl⟩ := List.mem_map.mp hmem
    exact .inr (congrArg (q.table.name ++ "." ++ ·) hname)

/-- Of expressions under chosen names, the last one with the name of the key column counts. -/
theorem keySource_renamed {pairs : List (String × String)}
    (h : q.projection = some (.renamed pairs)) :
    q.keySource = (pairs.reverse.find? fun pair => decide (pair.1 = q.table.primaryKey)).map
      fun pair => ⟨pair.2, pair.1⟩ := by
  rw [keySource, selection, h]
  change ((pairs.map fun pair => (⟨pair.2, pair.1⟩ : NamedExpr)).reverse.find? _) = _
  rw [← List.map_reverse, List.find?_map]
  rfl

/-- Every text has itself as its value, but for the number of rows. -/
def literalSense : Sense Unit where
  content _ _ := []
  unknown := ()
  beside _ _ := ()
  value e group := if e = "COUNT(*)" then .integer (Int64.ofNat group.length) else .text e
  whole _ := []
  holds _ _ := true
  equal a b := decide (a = b)
  less _ _ := false
  face := id
  aggregates e := e == "COUNT(*)"
  distinct _ := false
  aggregates_count := rfl
  distinct_count := rfl
  value_count _ := rfl

/-- In it, different texts have different values. -/
theorem literalSense_inj {a b : String} {group : List Unit}
    (h : literalSense.value a group = literalSense.value b group) : a = b := by
  simp only [literalSense] at h
  split_ifs at h with ha hb hb
  · exact ha.trans hb.symm
  · exact Value.text.inj h

/-- **Where the key comes from.** Of every row that a select returns: its key is the value at the
place of the last column that has the name of the key column and a value. Whatever the texts mean,
and whichever rows are answered, this is the value that the expression in that column has where the
row was read, and the row is saved and deleted by it; without such a column it cannot be saved or
deleted. The expression is the key column if nothing is renamed; where expressions have chosen
names, it is so exactly if the last one that has the name of the key column is. Exactly then the key
is the value of the key column in every meaning of the texts. -/
theorem key_supplied {d : Dialect} {c : Clauses} (hselect : q.action = .select)
    (hclauses : q.clauses d (Query.text d) .start = .ok c) :
    (∀ (verb : Verb) answer, ∀ r ∈ (verb.outcome q answer).returned,
      ∃ raw ∈ Verb.answeredRows answer, r = Row.fetched q.table q.selection.names raw ∧
        r.key = ((q.selection.columns.zip raw).reverse.find? fun e =>
          decide (e.1.name = q.table.primaryKey)).map Prod.snd) ∧
    (∀ (ρ : Type) (sense : Sense ρ) rows, sense.Yields c rows → ∀ (verb : Verb) answer,
      (∀ raw ∈ Verb.answeredRows answer, raw ∈ rows) → ∀ r ∈ (verb.outcome q answer).returned,
        ∃ group ∈ sense.keptGroups c,
          r.AddressedBy (q.keySource.map fun e => sense.value e.expr group)) ∧
    (q.projection = none ∨ (∃ columns, q.projection = some (.plain columns)) → q.KeySound) ∧
    (∀ pairs, q.projection = some (.renamed pairs) →
      (q.KeySound ↔ ∀ pair, (pairs.reverse.find? fun pair =>
        decide (pair.1 = q.table.primaryKey)) = some pair → q.IsKeyColumn pair.2)) ∧
    (q.KeySound ↔ ∀ (ρ : Type) (sense : Sense ρ) group e, q.keySource = some e →
      ∃ expr, q.IsKeyColumn expr ∧ sense.value e.expr group = sense.value expr group) := by
  have hcolumns : c.columns = q.selection.columns := (clauses_select hselect hclauses).2.1
  refine ⟨fun verb answer r hr => ?_, fun ρ sense rows hrows verb answer hanswer r hr => ?_, ?_,
    fun pairs hpairs => ?_, fun h ρ sense group e he => ?_, fun h e he => ?_⟩
  · obtain ⟨raw, hraw, rfl⟩ := exists_of_returned hr
    exact ⟨raw, hraw, rfl, key_fetched q raw⟩
  · obtain ⟨raw, hraw, rfl⟩ := exists_of_returned hr
    obtain ⟨group, hgroup, rfl⟩ := hrows.exists_group (hanswer raw hraw)
    refine ⟨group, hgroup, ?_⟩
    rw [← key_shown sense hcolumns group]
    exact Row.addressedBy_key _
  · rintro (hnone | ⟨columns, hplain⟩)
    · exact keySound_of_default hnone
    · have hselection : q.selection = .plain columns := by
        rw [selection, hplain]
        rfl
      exact keySound_of_plain hselection
  · rw [KeySound, keySource_renamed hpairs]
    refine ⟨fun h pair hpair => h _ (Option.map_eq_some_iff.mpr ⟨pair, hpair, rfl⟩),
      fun h e he => ?_⟩
    obtain ⟨pair, hpair, rfl⟩ := Option.map_eq_some_iff.mp he
    exact h pair hpair
  · exact ⟨e.expr, h e he, rfl⟩
  · obtain ⟨expr, hexpr, hvalue⟩ := h Unit literalSense [] e he
    rw [literalSense_inj hvalue]
    exact hexpr

/-! ### Superiors -/

/-- A table of people and the keys of their superiors. -/
def staff : Table where
  name := "staff"
  columns := ["id", "boss"]
  primaryKey := "id"
  readPool := "default"
  writePool := "default"
  key_mem := List.mem_cons_self

/-- What texts mean where the second of two people is the superior of the first. A group of rows has
the values of its first one. -/
def staffSense : Sense (Int64 × Value) where
  content _ _ := [(1, .integer 2), (2, .null)]
  unknown := (0, .null)
  beside row _ := row
  value e group :=
    if e = "COUNT(*)" then .integer (Int64.ofNat group.length)
    else if e = "id" then (group.head?.map fun row => .integer row.1).getD .null
    else if e = "boss" then (group.head?.map fun row => row.2).getD .null
    else .null
  whole group := group.flatMap fun row => [.integer row.1, row.2]
  holds _ _ := true
  equal a b := decide (a = b)
  less _ _ := false
  face := id
  aggregates e := e == "COUNT(*)"
  distinct _ := false
  aggregates_count := rfl
  distinct_count := rfl
  value_count _ := rfl

/-- All of them. -/
def roster : Query := .new staff .select

/-- Their superiors, under the name of the key column. -/
def superiors : Query := { roster with projection := some (.renamed [("id", "boss")]) }

/-- The rows of all people are deleted by their keys. -/
theorem key_supplied_roster :
    roster.KeySound ∧ ∀ r ∈ (Verb.all.outcome roster
        (.rows [[.integer 1, .integer 2], [.integer 2, .null]])).returned,
      ∃ group, r.AddressedBy (some (staffSense.value "id" group)) := by
  have hclauses : roster.clauses Sqlite.dialect (Query.text Sqlite.dialect) .start = .ok
      { action := .select, table := "staff", columns := [⟨"id", "id"⟩, ⟨"boss", "boss"⟩] } := rfl
  obtain ⟨-, hrows, hsound, -, -⟩ := key_supplied (q := roster) rfl hclauses
  have hyields : staffSense.Yields
      { action := .select, table := "staff", columns := [⟨"id", "id"⟩, ⟨"boss", "boss"⟩] }
      [[.integer 1, .integer 2], [.integer 2, .null]] :=
    ⟨[[(1, .integer 2)], [(2, .null)]], .refl _, List.pairwise_pair.mpr rfl, rfl⟩
  refine ⟨hsound (.inl rfl), fun r hr => ?_⟩
  obtain ⟨group, -, haddressed⟩ := hrows _ staffSense _ hyields .all
    (.rows [[.integer 1, .integer 2], [.integer 2, .null]]) (fun _ h => h) r hr
  exact ⟨group, haddressed⟩

/-- **The superior is deleted.** The first row that is returned was read from the first person, and
it is deleted by the key of the second one. -/
theorem superiors_misaddressed :
    ∃ c st raw rows r q,
      superiors.clauses Sqlite.dialect (Query.text Sqlite.dialect) .start = .ok c ∧
      superiors.statementIn Sqlite.dialect = .ok st ∧ st.sql = "SELECT boss AS id FROM staff" ∧
      staffSense.Yields c (raw :: rows) ∧ raw = staffSense.shown c [(1, .integer 2)] ∧
      Verb.one.outcome superiors (.row (some raw)) = .row (some r) ∧
      r.key = some (.integer 2) ∧ r.deleteRequest = .ok q ∧
      (q.statementIn Sqlite.dialect).map (fun st => (st.sql, st.params.entries)) =
        .ok ("DELETE FROM staff WHERE id = :p1", [("p1", .integer 2)]) ∧
      ¬ superiors.KeySound :=
  ⟨_, _, [.integer 2], [[.null]], _, _, rfl, rfl, rfl,
    ⟨[[(1, .integer 2)], [(2, .null)]], .refl _, List.pairwise_pair.mpr rfl, rfl⟩, rfl, rfl, rfl,
    rfl, rfl, fun h => (h ⟨"boss", "id"⟩ rfl).elim (by decide) (by decide)⟩

end Query

end TableGateway
