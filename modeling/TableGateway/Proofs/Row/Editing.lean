import TableGateway.Proofs.Request.Frame
import TableGateway.Proofs.Row.Keyed
import TableGateway.Rehearsal.Step

/-!
# Rows that are edited and saved

A fetched row is changed column by column and saved now and then, and a save can fail. All the while
it has to stand for one stored row. The key that it is saved and deleted by is kept apart from its
columns for that: it is the value that the key column had when the row was fetched or when it was
last saved, so that a key column that was changed is written to the stored row that has the old key.

## Conventions

A deed that saves a row says what any request would end in. What a save ends in otherwise, namely
without a request, is the failure to make one.

## Main results

* `Row.afterAll_get?`: the values that a row holds after any deeds.
* `Row.Regular.key_of_latest`: the key of a row after any deeds.
* `Rehearsal.saveRow_after`: saving a row that is kept in a rehearsal.
* `Row.keeps`: what holds of a fetched row after any deeds.
-/

namespace TableGateway

namespace Row

/-! ### Deeds -/

/-- What a caller does with a row. -/
inductive Deed where
  | set (column : String) (value : Value)
  /-- Saves it, where `run` is what a request ends in. -/
  | save (run : Query → Except Error Outcome)

/-- What saving a row ends in. -/
def attempt (r : Row) (run : Query → Except Error Outcome) : Except Error Outcome := do
  run (← r.saveRequest)

/-- The row after a deed. -/
def after (r : Row) : Deed → Row
  | .set column value => r.set column value
  | .save run =>
    match r.attempt run with
    | .ok _ => r.saved
    | .error _ => r

/-- The row after several deeds. -/
def afterAll (r : Row) (ds : List Deed) : Row := ds.foldl after r

/-- The deed is a save, and it succeeds. -/
def Deed.Succeeds (r : Row) : Deed → Prop
  | .set _ _ => False
  | .save run => ∃ o, r.attempt run = .ok o

/-- None of the deeds is a save that succeeds. -/
def Unsaved (r : Row) : List Deed → Prop
  | [] => True
  | d :: ds => ¬ d.Succeeds r ∧ (r.after d).Unsaved ds

variable {r : Row} {d : Deed} {ds : List Deed} {key : Value} {o : Outcome} {e : Error}
  {run : Query → Except Error Outcome}

/-- Some deeds and then some more. -/
theorem afterAll_append (r : Row) (ds ds' : List Deed) :
    r.afterAll (ds ++ ds') = (r.afterAll ds).afterAll ds' := List.foldl_append

/-- A successful save takes the key from the key column, if it is held. -/
theorem saved_eq (r : Row) :
    r.saved = { r with key := (r.get? r.table.primaryKey).or r.key } := by
  unfold saved
  cases r.get? r.table.primaryKey <;> rfl

/-- A save that succeeds. -/
theorem after_of_ok (h : r.attempt run = .ok o) : r.after (.save run) = r.saved := by
  simp only [after, h]

/-- A save that fails leaves the row as it was. -/
theorem after_of_error (h : r.attempt run = .error e) : r.after (.save run) = r := by
  simp only [after, h]

/-- A deed sets a column, or takes the key from its column, or does nothing. -/
theorem after_cases (r : Row) (d : Deed) :
    (∃ column value, d = .set column value ∧ r.after d = r.set column value) ∨
      d.Succeeds r ∧ r.after d = r.saved ∨ ¬ d.Succeeds r ∧ r.after d = r := by
  cases d with
  | set column value => exact .inl ⟨column, value, rfl, rfl⟩
  | save run =>
      cases h : r.attempt run with
      | ok o => exact .inr (.inl ⟨⟨o, h⟩, after_of_ok h⟩)
      | error e =>
          refine .inr (.inr ⟨fun ⟨o, ho⟩ => ?_, after_of_error h⟩)
          exact absurd (h.symm.trans ho) (by simp)

/-- A deed leaves the table of the row alone. -/
theorem after_table (r : Row) (d : Deed) : (r.after d).table = r.table := by
  rcases after_cases r d with ⟨column, value, -, h⟩ | ⟨-, h⟩ | ⟨-, h⟩
  · rw [h]
    rfl
  · rw [h, saved_eq]
  · rw [h]

/-- Deeds leave the table of the row alone. By induction over the deeds. -/
theorem afterAll_table (r : Row) (ds : List Deed) : (r.afterAll ds).table = r.table := by
  induction ds generalizing r with
  | nil => rfl
  | cons d ds ih => exact (ih (r.after d)).trans (after_table r d)

/-! ### The values -/

/-- What deeds have set, in order. -/
def edits (ds : List Deed) : List (String × Value) :=
  ds.filterMap fun
    | .set column value => some (column, value)
    | .save _ => none

/-- Setting a column replaces what it holds, and the others hold what they held. -/
theorem get?_set (r : Row) (column : String) (value : Value) (c : String) :
    (r.set column value).get? c = if c = column then some value else r.get? c :=
  Registry.get?_insert r.data column c value

/-- A column that is set stays where it stands, and a new one stands behind the others. -/
theorem columns_set (r : Row) (column : String) (value : Value) :
    (r.set column value).columns =
      if column ∈ r.columns then r.columns else r.columns ++ [column] :=
  Registry.keys_insertInto column value r.data.entries

/-- Saving leaves the columns and their values alone, whether it succeeds or not. -/
theorem after_save_data (r : Row) (run : Query → Except Error Outcome) :
    (r.after (.save run)).data = r.data := by
  rcases after_cases r (.save run) with ⟨_, _, hset, -⟩ | ⟨-, h⟩ | ⟨-, h⟩
  · exact nomatch hset
  · rw [h, saved_eq]
  · rw [h]

/-- **The values.** A column holds what it was set to last, and else what it held at first. By
induction over the deeds, from the last one. -/
theorem afterAll_get? (r : Row) (ds : List Deed) (c : String) :
    (r.afterAll ds).get? c = ((edits ds).reverse.lookup c).or (r.get? c) := by
  induction ds using List.reverseRecOn with
  | nil => rfl
  | append_singleton ds d ih =>
      rw [afterAll_append]
      cases d with
      | set column value =>
          have hedits : edits (ds ++ [.set column value]) = edits ds ++ [(column, value)] := by
            simp [edits]
          have hlast : (r.afterAll ds).afterAll [.set column value] =
            (r.afterAll ds).set column value := rfl
          rw [hlast, get?_set, ih, hedits, List.reverse_append, List.reverse_singleton,
            List.singleton_append, Registry.lookup_cons_eq]
          split <;> rfl
      | save run =>
          have hedits : edits (ds ++ [.save run]) = edits ds := by simp [edits]
          have hlast := congrArg (Registry.get? · c) (after_save_data (r.afterAll ds) run)
          rw [hedits, ← ih]
          exact hlast

/-! ### Rows that hold their key column -/

/-- No column is held twice, and a row that has a key holds its key column. -/
structure Regular (r : Row) : Prop where
  distinct : r.columns.Nodup
  held : r.key.isSome → r.table.primaryKey ∈ r.columns

/-- A fetched row. -/
theorem Regular.fetched (table : Table) (columns : List String) (raw : Record) :
    (Row.fetched table columns raw).Regular where
  distinct := Registry.keys_nodup_ofList _
  held := fun h => Registry.mem_keys_iff.mpr h

/-- After a deed. -/
theorem Regular.after (h : r.Regular) (d : Deed) : (r.after d).Regular := by
  rcases after_cases r d with ⟨column, value, -, hset⟩ | ⟨-, hsaved⟩ | ⟨-, hsame⟩
  · rw [hset]
    refine ⟨Registry.keys_nodup_insert h.distinct column value, fun hkey => ?_⟩
    have hheld := Registry.mem_keys_iff.mp (h.held hkey)
    refine Registry.mem_keys_iff.mpr ?_
    change ((r.set column value).get? r.table.primaryKey).isSome
    rw [get?_set]
    split_ifs
    · rfl
    · exact hheld
  · rw [hsaved, saved_eq]
    refine ⟨h.distinct, fun hkey => ?_⟩
    rcases hcolumn : r.get? r.table.primaryKey with _ | value
    · rw [hcolumn] at hkey
      exact h.held hkey
    · refine Registry.mem_keys_iff.mpr ?_
      exact Option.isSome_iff_exists.mpr ⟨value, hcolumn⟩
  · rw [hsame]
    exact h

/-- After any deeds. By induction over the deeds. -/
theorem Regular.afterAll (h : r.Regular) (ds : List Deed) : (r.afterAll ds).Regular := by
  induction ds generalizing r with
  | nil => exact h
  | cons d ds ih => exact ih (h.after d)

/-! ### The key -/

/-- Without a key there is no request. -/
theorem requests_of_keyless (h : r.key = none) :
    r.saveRequest = .error (.primaryKeyMissing r.table.name r.table.primaryKey) ∧
      r.deleteRequest = .error (.primaryKeyMissing r.table.name r.table.primaryKey) := by
  simp only [saveRequest, deleteRequest, requireKey, h]
  exact ⟨rfl, rfl⟩

/-- With a key there are both requests. -/
theorem requests_of_key (h : r.key = some key) :
    r.saveRequest = .ok (keyed r.table .update r.assignments key) ∧
      r.deleteRequest = .ok (keyed r.table .delete [] key) := by
  simp only [saveRequest, deleteRequest, requireKey, h]
  exact ⟨rfl, rfl⟩

/-- Without a key a save ends without a request. -/
theorem attempt_of_keyless (h : r.key = none) (run : Query → Except Error Outcome) :
    r.attempt run = .error (.primaryKeyMissing r.table.name r.table.primaryKey) := by
  rw [attempt, (requests_of_keyless h).1]
  rfl

/-- A save only succeeds if the row has a key. -/
theorem key_of_attempt (h : r.attempt run = .ok o) : ∃ key, r.key = some key := by
  cases hkey : r.key with
  | some key => exact ⟨key, rfl⟩
  | none => exact absurd ((attempt_of_keyless hkey run).symm.trans h) (by simp)

/-- A row that has a key keeps one. By induction over the deeds. -/
theorem afterAll_has_key (h : r.key.isSome) (ds : List Deed) : (r.afterAll ds).key.isSome := by
  induction ds generalizing r with
  | nil => exact h
  | cons d ds ih =>
      refine ih ?_
      rcases after_cases r d with ⟨column, value, -, hset⟩ | ⟨-, hsaved⟩ | ⟨-, hsame⟩
      · rw [hset]
        exact h
      · rw [hsaved, saved_eq, Option.isSome_or, h, Bool.or_true]
      · rw [hsame]
        exact h

/-- Without a save that succeeds the key does not change. -/
theorem after_key (h : ¬ d.Succeeds r) : (r.after d).key = r.key := by
  rcases after_cases r d with ⟨column, value, -, hset⟩ | ⟨hsucceeds, -⟩ | ⟨-, hsame⟩
  · rw [hset]
    rfl
  · exact absurd hsucceeds h
  · rw [hsame]

/-- Over deeds of which none is a save that succeeds. By induction over the deeds. -/
theorem afterAll_key (h : r.Unsaved ds) : (r.afterAll ds).key = r.key := by
  induction ds generalizing r with
  | nil => rfl
  | cons d ds ih => exact (ih h.2).trans (after_key h.1)

/-- Behind a save that succeeds, the key is what the key column held. -/
theorem Regular.saved_key (hr : r.Regular) (h : r.attempt run = .ok o) :
    r.saved.key = r.get? r.table.primaryKey := by
  obtain ⟨key, hkey⟩ := key_of_attempt h
  have hheld := Registry.mem_keys_iff.mp (hr.held (hkey ▸ rfl))
  obtain ⟨value, hvalue⟩ := Option.isSome_iff_exists.mp hheld
  have hcolumn : r.get? r.table.primaryKey = some value := hvalue
  rw [saved_eq, hcolumn]
  rfl

/-- Without a key no save succeeds. By induction over the deeds. -/
theorem unsaved_of_keyless (h : r.key = none) (ds : List Deed) : r.Unsaved ds := by
  induction ds generalizing r with
  | nil => trivial
  | cons d ds ih =>
      have hfails : ¬ d.Succeeds r := fun hd => by
        cases d with
        | set column value => exact hd
        | save run =>
            obtain ⟨o, ho⟩ := hd
            obtain ⟨key, hkey⟩ := key_of_attempt ho
            exact absurd (h.symm.trans hkey) (by simp)
      exact ⟨hfails, ih ((after_key hfails).trans h)⟩

/-- The deeds up to the latest save that succeeded, if there is one. By induction over the deeds. -/
theorem exists_latest (r : Row) (ds : List Deed) :
    r.Unsaved ds ∨ ∃ pre run post o, ds = pre ++ .save run :: post ∧
      (r.afterAll pre).attempt run = .ok o ∧ (r.afterAll (pre ++ [.save run])).Unsaved post := by
  induction ds generalizing r with
  | nil => exact .inl trivial
  | cons d ds ih =>
      rcases ih (r.after d) with hnone | ⟨pre, run, post, o, rfl, ho, hpost⟩
      · by_cases hd : d.Succeeds r
        · cases d with
          | set column value => exact absurd hd id
          | save run =>
              obtain ⟨o, ho⟩ := hd
              exact .inr ⟨[], run, ds, o, rfl, ho, hnone⟩
        · exact .inl ⟨hd, hnone⟩
      · exact .inr ⟨d :: pre, run, post, o, rfl, ho, hpost⟩

/-- **The key.** It is the key of the row at first, if no save has succeeded, and else what the key
column held at the latest save that did. -/
theorem Regular.key_of_latest (hr : r.Regular) (ds : List Deed) :
    r.Unsaved ds ∧ (r.afterAll ds).key = r.key ∨
      ∃ pre run post o, ds = pre ++ .save run :: post ∧ (r.afterAll pre).attempt run = .ok o ∧
        (r.afterAll (pre ++ [.save run])).Unsaved post ∧
        (r.afterAll ds).key = (r.afterAll pre).get? r.table.primaryKey := by
  rcases exists_latest r ds with hnone | ⟨pre, run, post, o, rfl, ho, hpost⟩
  · exact .inl ⟨hnone, afterAll_key hnone⟩
  · refine .inr ⟨pre, run, post, o, rfl, ho, hpost, ?_⟩
    have hsplit : pre ++ Deed.save run :: post = (pre ++ [.save run]) ++ post := by simp
    have hsaved : r.afterAll (pre ++ [.save run]) = (r.afterAll pre).saved := by
      rw [afterAll_append]
      exact after_of_ok ho
    rw [hsplit, afterAll_append, afterAll_key hpost, hsaved, (hr.afterAll pre).saved_key ho,
      afterAll_table]

end Row

/-! ### In a rehearsal -/

namespace Rehearsal

variable {name : String} {index : Nat} {w w' : World} {r : Row}

/-- Looking at a kept row in another world with the same rows. -/
theorem keptRow?_of_kept (h : w'.kept = w.kept) :
    (keptRow? name index w').1 = (keptRow? name index w).1 := by
  change ((w'.kept.get? name).bind fun rows => rows[index]?) = _
  rw [h]
  rfl

/-- A kept row that is replaced. -/
theorem keptRow?_setRow (h : (keptRow? name index w).1 = some r) (hkept : w'.kept = w.kept)
    (r' : Row) : (keptRow? name index (setRow name index r' w').2).1 = some r' := by
  have hlook : ((w.kept.get? name).bind fun rows => rows[index]?) = some r := h
  obtain ⟨rows, hrows, hrow⟩ := Option.bind_eq_some_iff.mp hlook
  obtain ⟨hlt, -⟩ := List.getElem?_eq_some_iff.mp hrow
  change (((w'.kept.modify name fun rows => rows.set index r').get? name).bind
    fun rows => rows[index]?) = some r'
  rw [Registry.get?_modify_of (hkept ▸ hrows)]
  exact List.getElem?_set_self hlt

/-- What is replied to saving a row. -/
def saidOf : Except Error Outcome → Said
  | .ok o => .count (changedRows o)
  | .error e => .failed e

/-- **Saving a kept row.** It is the deed that saves it, where a request ends as it ends in this
world. -/
theorem saveRow_after (h : (keptRow? name index w).1 = some r) :
    (perform (.saveRow name index) w).1 = saidOf (r.attempt fun q => (requestNow .execute q w).1) ∧
      (keptRow? name index (perform (.saveRow name index) w).2).1 =
        some (r.after (.save fun q => (requestNow .execute q w).1)) := by
  have hlook : keptRow? name index w = (some r, w) := Prod.ext h rfl
  change (writeRow name index Row.saveRequest Row.saved w).1 = _ ∧
    (keptRow? name index (writeRow name index Row.saveRequest Row.saved w).2).1 = _
  unfold writeRow
  rw [bind_eq, hlook]
  dsimp only
  rcases hrequest : r.saveRequest with e | q
  · have hattempt : ∀ run, r.attempt run = .error e := fun run => by
      rw [Row.attempt, hrequest]
      rfl
    rw [hattempt, Row.after_of_error (hattempt _)]
    exact ⟨rfl, h⟩
  · have hattempt : ∀ run, r.attempt run = run q := fun run => by
      rw [Row.attempt, hrequest]
      rfl
    have hkept := requestNow_kept .execute q w
    dsimp only
    rw [bind_eq, hattempt]
    rcases hrun : requestNow .execute q w with ⟨e | o, w'⟩
    · rw [Row.after_of_error ((hattempt _).trans (congrArg Prod.fst hrun))]
      rw [hrun] at hkept
      exact ⟨rfl, (keptRow?_of_kept hkept).trans h⟩
    · rw [Row.after_of_ok ((hattempt _).trans (congrArg Prod.fst hrun))]
      rw [hrun] at hkept
      exact ⟨rfl, keptRow?_setRow h hkept r.saved⟩

/-- Setting a column of a kept row. -/
theorem setColumn_after (h : (keptRow? name index w).1 = some r) (column : String) (value : Value) :
    (keptRow? name index (perform (.row name index fun r => r.set column value) w).2).1 =
      some (r.after (.set column value)) := by
  have hlook : keptRow? name index w = (some r, w) := Prod.ext h rfl
  change (keptRow? name index ((keptRow? name index >>= _) w).2).1 = _
  rw [bind_eq, hlook]
  exact keptRow?_setRow h rfl (r.set column value)

end Rehearsal

/-! ### What a row is saved and deleted by -/

namespace Row

variable {r : Row} {key : Value}

/-- The held columns that belong to the table, with their values. -/
def held (r : Row) : List (String × Value) := r.data.entries.filter fun e => r.table.declares e.1

/-- They are in the order of the columns. -/
theorem held_names (r : Row) : r.held.map Prod.fst = r.columns.filter r.table.declares := by
  rw [columns, Registry.keys, List.filter_map]
  rfl

/-- They have the values that the row has. -/
theorem Regular.held_values (h : r.Regular) {c : String} {v : Value} (hmem : (c, v) ∈ r.held) :
    r.get? c = some v :=
  Registry.get?_of_mem h.distinct (List.mem_filter.mp hmem).1

/-- A row with a key holds one at least. -/
theorem Regular.held_ne_nil (h : r.Regular) (hkey : r.key = some key) : r.held ≠ [] := by
  have hcolumn : r.table.primaryKey ∈ r.columns.filter r.table.declares :=
    List.mem_filter.mpr ⟨h.held (hkey ▸ rfl), decide_eq_true r.table.key_mem⟩
  intro hnone
  rw [← held_names, hnone] at hcolumn
  exact absurd hcolumn List.not_mem_nil

/-- What holds of a row `r` that the row `first` has become in the deeds `ds`. -/
structure Addresses (first : Row) (ds : List Deed) (r : Row) : Prop where
  table : r.table = first.table
  /-- The key is what the key column held at first, or at the latest save that succeeded. -/
  latest : first.Unsaved ds ∧ r.key = first.get? first.table.primaryKey ∨
    ∃ pre run post o, ds = pre ++ .save run :: post ∧ (first.afterAll pre).attempt run = .ok o ∧
      (first.afterAll (pre ++ [.save run])).Unsaved post ∧
      r.key = (first.afterAll pre).get? first.table.primaryKey
  /-- Setting any column leaves the key alone. -/
  set : ∀ column value, (r.after (.set column value)).key = r.key
  /-- The column then holds the value, and the others hold what they held. -/
  replaces : ∀ column value c,
    (r.after (.set column value)).get? c = if c = column then some value else r.get? c
  /-- The columns stay where they stand, and a new one stands behind the others. -/
  appends : ∀ column value, (r.after (.set column value)).columns =
    if column ∈ r.columns then r.columns else r.columns ++ [column]
  /-- Saving the row, successfully or not, leaves its columns and their values alone. -/
  retains : ∀ run, (r.after (.save run)).data = r.data
  /-- So each column holds what it was set to last, and else what was fetched. -/
  holds : ∀ c, r.get? c = ((edits ds).reverse.lookup c).or (first.get? c)
  /-- A save that fails changes nothing. -/
  failed : ∀ run e, r.attempt run = .error e → r.after (.save run) = r
  /-- Without a key at first the row can never be saved or deleted. -/
  missing : first.key = none →
    r.saveRequest = .error (.primaryKeyMissing first.table.name first.table.primaryKey) ∧
      r.deleteRequest = .error (.primaryKeyMissing first.table.name first.table.primaryKey) ∧
      ∀ run, r.attempt run =
        .error (.primaryKeyMissing first.table.name first.table.primaryKey)
  /-- The request that saves the row sets the held columns of the table, each once, in their order,
  to the values that they have, where the key column has the key, and can be written. -/
  saves : ∀ q, r.saveRequest = .ok q → ∃ key es, r.key = some key ∧
    q = keyed first.table .update (assigned es) key ∧
    es.map Prod.fst = r.columns.filter first.table.declares ∧ (es.map Prod.fst).Nodup ∧
    (∀ c v, (c, v) ∈ es → r.get? c = some v) ∧
    ∃ s, q.statementIn Sqlite.dialect = .ok s ∧
      s.sql = "UPDATE " ++ first.table.name ++ " SET " ++
        joinWith ", " ((es.zipIdx 1).map fun (e, i) =>
          e.1 ++ " = " ++ Sqlite.placeholder (Numbering.paramName i)) ++
        (" WHERE " ++ keyText first.table.primaryKey (es.length + 1) key) ∧
      s.params.entries = numbered 0 (es.map Prod.snd ++ keyValues key)
  /-- The request that deletes it has the same condition. -/
  deletes : ∀ q, r.deleteRequest = .ok q → ∃ key, r.key = some key ∧
    q = keyed first.table .delete [] key ∧
    ∃ s, q.statementIn Sqlite.dialect = .ok s ∧
      s.sql = "DELETE FROM " ++ first.table.name ++
        (" WHERE " ++ keyText first.table.primaryKey 1 key) ∧
      s.params.entries = numbered 0 (keyValues key)
  /-- A row with a key can be saved and deleted. -/
  allowed : first.key ≠ none → (∃ q, r.saveRequest = .ok q) ∧ ∃ q, r.deleteRequest = .ok q
  /-- In a rehearsal, these are the deeds that are done with a kept row. -/
  performed : ∀ name index w, (Rehearsal.keptRow? name index w).1 = some r →
    (∀ column value, (Rehearsal.keptRow? name index
      (Rehearsal.perform (.row name index fun r => r.set column value) w).2).1 =
        some (r.after (.set column value))) ∧
    (Rehearsal.perform (.saveRow name index) w).1 =
      Rehearsal.saidOf (r.attempt fun q => (Rehearsal.requestNow .execute q w).1) ∧
    (Rehearsal.keptRow? name index (Rehearsal.perform (.saveRow name index) w).2).1 =
      some (r.after (.save fun q => (Rehearsal.requestNow .execute q w).1))

/-- **Rows.** The key of a fetched row is the last value that was fetched under the name of the key
column. Whatever is done with the row then, its columns hold what they were set to last, and it
addresses the stored row that has the key which the row had when it was fetched or when it was last
saved. -/
theorem keeps (table : Table) (columns : List String) (raw : Record) (ds : List Deed) :
    (fetched table columns raw).key = (columns.zip raw).reverse.lookup table.primaryKey ∧
      Addresses (fetched table columns raw) ds ((fetched table columns raw).afterAll ds) := by
  set first := fetched table columns raw with hfirst
  set r := first.afterAll ds with hr
  have hregular : first.Regular := .fetched table columns raw
  have hr' : r.Regular := hregular.afterAll ds
  have htable : r.table = first.table := afterAll_table first ds
  refine ⟨Registry.get?_ofList _ _, {
    table := htable
    latest := hregular.key_of_latest ds
    set := fun _ _ => rfl
    replaces := get?_set r
    appends := columns_set r
    retains := after_save_data r
    holds := afterAll_get? first ds
    failed := fun _ _ => after_of_error
    missing := fun hnone => ?_
    saves := fun q hq => ?_
    deletes := fun q hq => ?_
    allowed := fun hsome => ?_
    performed := fun name index w h => ⟨Rehearsal.setColumn_after h, Rehearsal.saveRow_after h⟩ }⟩
  · have hkeyless : r.key = none := (afterAll_key (unsaved_of_keyless hnone ds)).trans hnone
    rw [← htable]
    obtain ⟨hsave, hdelete⟩ := requests_of_keyless hkeyless
    exact ⟨hsave, hdelete, attempt_of_keyless hkeyless⟩
  · cases hkey : r.key with
    | none => exact absurd ((requests_of_keyless hkey).1.symm.trans hq) (by simp)
    | some key =>
        obtain rfl := Except.ok.inj ((requests_of_key hkey).1.symm.trans hq)
        have hnames := held_names r
        rw [← htable]
        refine ⟨key, r.held, rfl, rfl, hnames, ?_, fun c v => hr'.held_values,
          statementIn_update r.table (hr'.held_ne_nil hkey) key⟩
        rw [hnames]
        exact hr'.distinct.filter _
  · cases hkey : r.key with
    | none => exact absurd ((requests_of_keyless hkey).2.symm.trans hq) (by simp)
    | some key =>
        obtain rfl := Except.ok.inj ((requests_of_key hkey).2.symm.trans hq)
        rw [← htable]
        exact ⟨key, rfl, rfl, statementIn_delete r.table key⟩
  · have hkey := afterAll_has_key (Option.isSome_iff_ne_none.mpr hsome) ds
    obtain ⟨key, hkey⟩ := Option.isSome_iff_exists.mp hkey
    obtain ⟨hsave, hdelete⟩ := requests_of_key hkey
    exact ⟨⟨_, hsave⟩, ⟨_, hdelete⟩⟩

/-- A key column that was changed is written to the stored row that has the old key. -/
example :
    let t : Table :=
      ⟨"t", ["id", "name"], "id", defaultPool, defaultPool, List.mem_cons_self⟩
    let r := fetched t ["id", "name", "extra"] [.integer 7, .text "ada", .integer 1]
    ((r.after (.set "id" (.integer 8))).saveRequest >>= Query.statementIn Sqlite.dialect).map
        (fun s => (s.sql, s.params.entries)) =
      .ok ("UPDATE t SET id = :p1, name = :p2 WHERE id = :p3",
        [("p1", .integer 8), ("p2", .text "ada"), ("p3", .integer 7)]) :=
  rfl

end Row

end TableGateway
