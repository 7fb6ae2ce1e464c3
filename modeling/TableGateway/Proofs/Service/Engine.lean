import TableGateway.Dialect.Sqlite
import TableGateway.Proofs.Backend.Sessions

/-!
# Engines with committed data

An engine keeps committed data and, for every connection that has a transaction open, a working
copy of them. Beginning makes the copy, statements change it, committing publishes it, and rolling
back or ending the connection discards it. Any command can be refused; a refused one leaves the
copy as it was or ends the transaction, and publishes nothing.

## Conventions

`δ` is the type of the data, and `effect` what a statement that succeeds makes of them. An engine
is a relation: `Serves effect c copy data trip copy' data'` says that over the trip of the command
`c` the working copy of its connection can go from `copy` to `copy'` and the committed data from
`data` to `data'`. Nothing is assumed of a statement that is no data statement; it may begin or
end transactions by itself. A connection that is lost takes its working copy along, and so does one
that nobody waits for any more, but then the command may still be done.

## Main results

* `Sqlite.isDataStatement_of_statement`: every statement of the SQLite dialect is a data statement.
* `Serves.kept`, `Serves.commit_kept`, `Serves.statement_kept`: what leaves the committed data
  alone.
* `Wire.transactional_of_serves`: such an engine keeps its transactions.
-/

namespace TableGateway

/-! ### Data statements -/

namespace Sqlite

/-- A statement that reads or changes rows. -/
def IsDataStatement (sql : String) : Prop :=
  ∃ word ∈ ["SELECT ", "INSERT INTO ", "UPDATE ", "DELETE FROM "], word.toList <+: sql.toList

/-- A text that begins with such a word. -/
theorem isDataStatement_append {word : String}
    (hword : word ∈ ["SELECT ", "INSERT INTO ", "UPDATE ", "DELETE FROM "]) (s : String) :
    IsDataStatement (word ++ s) :=
  ⟨word, hword, by rw [String.toList_append]; exact List.prefix_append _ _⟩

/-- It still is one with more text behind it. -/
theorem IsDataStatement.append {sql : String} (h : IsDataStatement sql) (s : String) :
    IsDataStatement (sql ++ s) := by
  obtain ⟨word, hword, hstart⟩ := h
  refine ⟨word, hword, ?_⟩
  rw [String.toList_append]
  exact hstart.trans (List.prefix_append _ _)

/-- **Data statements.** Every statement of the dialect is one. -/
theorem isDataStatement_of_statement {c : Clauses} {sql : String} (h : statement c = .ok sql) :
    IsDataStatement sql := by
  have whole : ∀ {head : String}, IsDataStatement head →
      (if c.action = .select then
          Except.ok (head ++ conditionClause "WHERE" c.filter ++ selectTail c)
        else Except.ok (head ++ conditionClause "WHERE" c.filter) : Except Error String) = .ok sql →
      IsDataStatement sql := by
    intro head hhead heq
    split at heq
    · obtain rfl := Except.ok.inj heq
      exact (hhead.append _).append _
    · obtain rfl := Except.ok.inj heq
      exact hhead.append _
  unfold statement at h
  cases hc : c.action with
  | select =>
      rw [hc] at h whole
      refine whole ?_ h
      exact (((isDataStatement_append (by simp) _).append _).append _).append _
  | insert =>
      rw [hc] at h whole
      refine whole ?_ h
      unfold insertHead
      split
      · exact (isDataStatement_append (by simp) _).append _
      · exact (((((isDataStatement_append (by simp) _).append _).append _).append _).append
          _).append _
  | update =>
      rw [hc] at h whole
      unfold updateHead at h
      by_cases hnone : c.assignments.isEmpty = true
      · rw [if_pos hnone] at h
        exact absurd h (by simp [bind, Except.bind])
      · rw [if_neg hnone] at h
        refine whole ?_ h
        exact ((isDataStatement_append (by simp) _).append _).append _
  | delete =>
      rw [hc] at h whole
      exact whole (isDataStatement_append (by simp) _) h

end Sqlite

/-! ### What an engine may do -/

variable {δ : Type}

/-- Over the trip of a command, the working copy of its connection and the committed data can go
from `copy` and `data` to `copy'` and `data'`. -/
inductive Serves (effect : String → Params → δ → δ) :
    Command → Option δ → δ → Trip → Option δ → δ → Prop where
  | begun {data : δ} {rows : List Record} {n : Nat} :
      Serves effect .begin none data (.answered rows n) (some data) data
  | committed {copy data : δ} {rows : List Record} {n : Nat} :
      Serves effect .commit (some copy) data (.answered rows n) none copy
  | rolledBack {copy data : δ} {rows : List Record} {n : Nat} :
      Serves effect .rollback (some copy) data (.answered rows n) none data
  | applied {sql : String} {params : Params} {copy data : δ} {rows : List Record} {n : Nat} :
      Serves effect (.statement sql params) (some copy) data (.answered rows n)
        (some (effect sql params copy)) data
  /-- A statement outside a transaction is committed at once. -/
  | atOnce {sql : String} {params : Params} {data : δ} {rows : List Record} {n : Nat} :
      Serves effect (.statement sql params) none data (.answered rows n) none
        (effect sql params data)
  /-- The end of a connection, whatever is answered. -/
  | ended {copy : Option δ} {data : δ} {trip : Trip} :
      Serves effect .disconnect copy data trip none data
  | refused {c : Command} {copy copy' : Option δ} {data : δ} {cause : EngineError}
      (h : copy' = copy ∨ copy' = none) : Serves effect c copy data (.refused cause) copy' data
  | lost {c : Command} {copy : Option δ} {data : δ} : Serves effect c copy data .lost none data
  /-- Nobody waits any more, before or after the command is done. -/
  | abandoned {c : Command} {copy copy' : Option δ} {data data' : δ} {trip : Trip}
      (h : Serves effect c copy data trip copy' data') :
      Serves effect c copy data .abandoned none data'
  /-- A statement that works on more than data. -/
  | strange {sql : String} {params : Params} {copy copy' : Option δ} {data data' : δ} {trip : Trip}
      (h : ¬Sqlite.IsDataStatement sql) (hlost : trip.cameBack = false → copy' = none) :
      Serves effect (.statement sql params) copy data trip copy' data'

namespace Serves

variable {effect : String → Params → δ → δ} {c : Command} {sql : String} {params : Params}
  {copy copy' : Option δ} {data data' : δ} {trip : Trip}

/-- Beginning, rolling back and ending a connection leave the committed data alone. -/
theorem kept (h : Serves effect c copy data trip copy' data') (hcommit : c ≠ .commit)
    (hstatement : ∀ sql params, c ≠ .statement sql params) : data' = data := by
  induction h with
  | begun | rolledBack | ended | refused | lost => rfl
  | committed => exact absurd rfl hcommit
  | applied | atOnce | strange => exact absurd rfl (hstatement _ _)
  | abandoned h ih => exact ih hcommit hstatement

/-- A begin that is answered opens a copy of the committed data. -/
theorem begin_answered (h : Serves effect .begin copy data trip copy' data')
    (ha : trip.isAnswered = true) : copy' = some data := by
  cases h with
  | begun => rfl
  | refused | lost | abandoned => exact absurd ha (by simp [Trip.isAnswered])

/-- A begin that is refused opens none. -/
theorem begin_refused {cause : EngineError}
    (h : Serves effect .begin none data (.refused cause) copy' data') : copy' = none := by
  cases h with
  | refused h => exact h.elim id id

/-- A commit that is answered publishes the copy. -/
theorem commit_answered (h : Serves effect .commit copy data trip copy' data')
    (ha : trip.isAnswered = true) : copy = some data' ∧ copy' = none := by
  cases h with
  | committed => exact ⟨rfl, rfl⟩
  | refused | lost | abandoned => exact absurd ha (by simp [Trip.isAnswered])

/-- A commit that fails while somebody waits for it publishes nothing. -/
theorem commit_kept (h : Serves effect .commit copy data trip copy' data')
    (ha : trip.isAnswered = false) (hwaits : trip ≠ .abandoned) : data' = data := by
  cases h with
  | committed => exact absurd ha (by simp [Trip.isAnswered])
  | refused | lost => rfl
  | abandoned => exact absurd rfl hwaits

/-- A rollback that is answered discards the copy. -/
theorem rollback_answered (h : Serves effect .rollback copy data trip copy' data')
    (ha : trip.isAnswered = true) : copy' = none := by
  cases h with
  | rolledBack => rfl
  | refused | lost | abandoned => exact absurd ha (by simp [Trip.isAnswered])

/-- A data statement inside a transaction leaves the committed data alone, also where it fails. -/
theorem statement_kept (h : Serves effect (.statement sql params) copy data trip copy' data')
    (hsql : Sqlite.IsDataStatement sql) (hcopy : copy ≠ none) : data' = data := by
  generalize hc : Command.statement sql params = c at h
  induction h with
  | begun | rolledBack | applied | ended | refused | lost => rfl
  | committed => exact nomatch hc
  | atOnce => exact absurd rfl hcopy
  | abandoned h ih => exact ih hcopy hc
  | strange h =>
      obtain ⟨rfl, -⟩ := Command.statement.inj hc
      exact absurd hsql h

/-- A data statement that is answered inside a transaction applies to its copy. -/
theorem statement_answered
    (h : Serves effect (.statement sql params) (some data) data trip copy' data')
    (hsql : Sqlite.IsDataStatement sql) (ha : trip.isAnswered = true) :
    copy' = some (effect sql params data) := by
  cases h with
  | applied => rfl
  | refused | lost | abandoned => exact absurd ha (by simp [Trip.isAnswered])
  | strange h => exact absurd hsql h

end Serves

/-- **Transactions.** An engine with committed data keeps its transactions, whatever else happens
beside the connection: a working copy is there from a begin that is answered to a commit or a
rollback that is answered. -/
theorem Wire.transactional_of_serves {τ : Type} {effect : String → Params → δ → δ}
    {wire : Wire (Option δ × τ)}
    (h : ∀ c y, ∃ data data', Serves effect c y.1 data (wire c y).1 (wire c y).2.1 data') :
    wire.Transactional fun y => y.1 ≠ none where
  begins := by
    intro y ha
    obtain ⟨data, data', hserves⟩ := h .begin y
    rw [hserves.begin_answered ha]
    simp
  declines := by
    rintro ⟨copy, x⟩ cause htrip hnone
    obtain rfl : copy = none := Classical.not_not.mp hnone
    obtain ⟨data, data', hserves⟩ := h .begin (none, x)
    rw [htrip] at hserves
    exact not_not_intro hserves.begin_refused
  commits := by
    intro y ha
    obtain ⟨data, data', hserves⟩ := h .commit y
    exact not_not_intro (hserves.commit_answered ha).2
  rollsBack := by
    intro y ha
    obtain ⟨data, data', hserves⟩ := h .rollback y
    exact not_not_intro (hserves.rollback_answered ha)

end TableGateway
