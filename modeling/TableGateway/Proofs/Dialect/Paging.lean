import Mathlib.Algebra.GroupWithZero.Nat
import Mathlib.Algebra.Ring.Int.Defs
import Std.Data.String.ToInt
import TableGateway.Dialect.Sqlite
import TableGateway.Engine.Evaluation
import TableGateway.Proofs.Query.Names

/-!
# The tail of a select

The numbers of a page are unsigned, and those that the engine reads behind `LIMIT` and `OFFSET` are
signed. This module says what the dialect writes in the engine's numbers, where the unbounded limit
is negative, and which page comes back.

## Conventions

The engine refuses a number that does not fit 64 bits with a sign, and takes a negative limit for
none. Where no rows are asked for it may be hurried: then it does not look how many to skip.

## Main results

* `Sqlite.tailText_inj`: a tail can be read back from its text.
* `Sqlite.paging_eq_tailText`: what the dialect writes.
* `Sqlite.cut_tail?`: which page comes back.
-/

namespace TableGateway.Sqlite

/-! ### Tails -/

/-- How many rows a select may return, and how many it skips, in signed numbers. -/
structure Tail where
  limit : Int
  offset : Option Int
  deriving DecidableEq, Repr

/-- How a tail is written, with a leading blank. -/
def Tail.text (tail : Tail) : String :=
  " LIMIT " ++ toString tail.limit ++ tail.offset.elim "" fun m => " OFFSET " ++ toString m

/-- How a tail is written that may be missing. -/
def tailText (tail : Option Tail) : String := tail.elim "" Tail.text

/-- The letters of a number. -/
theorem isDigit_of_mem_toString {n : Int} {c : Char} (h : c ∈ (toString n).toList) :
    c = '-' ∨ c.isDigit := by
  cases n with
  | ofNat m =>
      change c ∈ m.repr.toList at h
      rw [Nat.toList_repr] at h
      exact .inr (Numbering.isDigit_of_mem_digits h)
  | negSucc m =>
      change c ∈ ("-" ++ (m + 1).repr).toList at h
      rw [String.toList_append, Nat.toList_repr] at h
      exact (List.mem_cons.mp h).imp_right Numbering.isDigit_of_mem_digits

/-- Behind a number that is followed by a blank or by nothing, the number can be split off. -/
theorem takeWhile_number (n : Int) {rest : List Char} (hrest : ∀ c ∈ rest.head?, c = ' ') :
    ((toString n).toList ++ rest).takeWhile (· ≠ ' ') = (toString n).toList := by
  have hnone : ∀ c ∈ (toString n).toList, decide (c ≠ ' ') = true := fun c hc =>
    decide_eq_true fun hblank => absurd (isDigit_of_mem_toString (hblank ▸ hc)) (by decide)
  rw [List.takeWhile_append_of_pos hnone]
  cases rest with
  | nil => simp
  | cons c rest => rw [List.takeWhile_cons_of_neg (by simpa using hrest c rfl), List.append_nil]

/-- A number can be read back. -/
theorem toString_int_inj {m n : Int} (h : (toString m).toList = (toString n).toList) : m = n :=
  Int.repr_injective (String.toList_inj.mp h)

/-- What stands behind the limit. -/
def Tail.behind (tail : Tail) : List Char :=
  (tail.offset.elim "" fun m => " OFFSET " ++ toString m).toList

/-- It begins with a blank, if it is anything. -/
theorem Tail.head?_behind (tail : Tail) : ∀ c ∈ tail.behind.head?, c = ' ' := by
  obtain ⟨n, offset⟩ := tail
  cases offset <;> simp [Tail.behind, String.toList_append]

/-- The letters of a tail. -/
theorem Tail.toList_text (tail : Tail) :
    tail.text.toList = " LIMIT ".toList ++ ((toString tail.limit).toList ++ tail.behind) := by
  rw [Tail.text, String.toList_append, String.toList_append, List.append_assoc]
  rfl

/-- A tail can be read back. -/
theorem Tail.text_inj {tail tail' : Tail} (h : tail.text = tail'.text) : tail = tail' := by
  have hlist := congrArg String.toList h
  rw [Tail.toList_text, Tail.toList_text] at hlist
  replace hlist := List.append_cancel_left hlist
  have hlimit : tail.limit = tail'.limit := by
    have hnumber := congrArg (List.takeWhile (· ≠ ' ')) hlist
    rw [takeWhile_number _ tail.head?_behind, takeWhile_number _ tail'.head?_behind] at hnumber
    exact toString_int_inj hnumber
  obtain ⟨n, offset⟩ := tail
  obtain ⟨n', offset'⟩ := tail'
  obtain rfl : n = n' := hlimit
  replace hlist := List.append_cancel_left hlist
  cases offset with
  | none =>
      cases offset' with
      | none => rfl
      | some m' => simp [Tail.behind, String.toList_append] at hlist
  | some m =>
      cases offset' with
      | none => simp [Tail.behind, String.toList_append] at hlist
      | some m' =>
          simp only [Tail.behind, Option.elim_some, String.toList_append] at hlist
          rw [toString_int_inj (List.append_cancel_left hlist)]

/-- **Reading a tail back.** -/
theorem tailText_inj {tail tail' : Option Tail} (h : tailText tail = tailText tail') :
    tail = tail' := by
  have hsome : ∀ tail : Tail, tail.text ≠ "" := fun tail hempty => by
    have hlist := congrArg String.toList hempty
    rw [Tail.toList_text] at hlist
    simp at hlist
  cases tail with
  | none =>
      cases tail' with
      | none => rfl
      | some tail' => exact absurd h.symm (hsome tail')
  | some tail =>
      cases tail' with
      | none => exact absurd h (hsome tail)
      | some tail' => rw [Tail.text_inj h]

/-- There is no parenthesis in a tail. -/
theorem parenthesis_notMem_tailText (tail : Option Tail) : '(' ∉ (tailText tail).toList := by
  have hnumber : ∀ n : Int, '(' ∉ n.repr.toList := fun n hmem =>
    absurd (isDigit_of_mem_toString (n := n) hmem) (by decide)
  rcases tail with _ | ⟨n, _ | m⟩ <;>
    simp [tailText, Tail.text, String.toList_append, hnumber]

/-! ### Pages -/

/-- A number that the engine reads behind a select. -/
def signed (n : Int) : Except EngineError Int :=
  if -2 ^ 63 ≤ n ∧ n < 2 ^ 63 then .ok n else .error Engine.mismatch

/-- The rows that the engine leaves of a select with a tail. -/
def Tail.cut {α : Type} (hurried : Bool) (tail : Tail) (rows : List α) :
    Except EngineError (List α) := do
  let n ← signed tail.limit
  if hurried ∧ n = 0 then return []
  let m ← tail.offset.elim (pure 0) signed
  let rest := rows.drop m.toNat
  return if n < 0 then rest else rest.take n.toNat

/-- The rows that the engine leaves of a select with a tail that may be missing. -/
def cut {α : Type} (hurried : Bool) (tail : Option Tail) (rows : List α) :
    Except EngineError (List α) :=
  tail.elim (.ok rows) fun tail => tail.cut hurried rows

/-! ### What is written -/

/-- The tail of a page. -/
def tail? (limit : Option UInt64) (offset : UInt64) : Option Tail :=
  match limit with
  | some n => some ⟨n.toNat, if offset = 0 then none else some offset.toNat⟩
  | none => if offset = 0 then none else some ⟨-1, some offset.toNat⟩

/-- **What is written.** -/
theorem paging_eq_tailText (limit : Option UInt64) (offset : UInt64) :
    paging limit offset = tailText (tail? limit offset) := by
  unfold paging tail?
  cases limit with
  | none =>
      dsimp only
      split_ifs
      · rfl
      · have hwords : " LIMIT -1 OFFSET " = " LIMIT -1" ++ " OFFSET " := rfl
        rw [hwords, String.append_assoc]
        rfl
  | some n =>
      dsimp only
      split_ifs
      · exact (String.append_empty ..).symm
      · exact String.append_assoc

/-- The page that is asked for. -/
def page {α : Type} (limit : Option UInt64) (offset : UInt64) (rows : List α) : List α :=
  let rest := rows.drop offset.toNat
  limit.elim rest fun n => rest.take n.toNat

/-- The engine can read the numbers of a page, or does not look at the one that it cannot read. -/
def Pageable (hurried : Bool) (limit : Option UInt64) (offset : UInt64) : Prop :=
  (∀ n ∈ limit, n.toNat < 2 ^ 63) ∧ (offset.toNat < 2 ^ 63 ∨ hurried ∧ limit = some 0)

instance (hurried : Bool) (limit : Option UInt64) (offset : UInt64) :
    Decidable (Pageable hurried limit offset) :=
  -- The one number there may be is looked at, not all of its type.
  haveI : Decidable (∀ n ∈ limit, n.toNat < 2 ^ 63) := Option.decidableForallMem limit
  inferInstanceAs (Decidable (_ ∧ _))

/-- A number without a sign that the engine reads. -/
theorem signed_of_lt {n : Nat} (h : n < 2 ^ 63) : signed n = .ok (n : Int) :=
  if_pos (by omega)

/-- A number without a sign that it does not read. -/
theorem signed_of_le {n : Nat} (h : ¬ n < 2 ^ 63) : signed n = .error Engine.mismatch :=
  if_neg (by omega)

section

variable {α : Type} {hurried : Bool} {n : Int} {rows : List α}

/-- A limit that the engine does not read. -/
theorem cut_of_limit_error {e : EngineError} {offset : Option Int} (h : signed n = .error e) :
    (Tail.mk n offset).cut hurried rows = .error e := by
  rw [Tail.cut, h]
  rfl

/-- Where no rows are asked for, an engine in a hurry is done. -/
theorem cut_of_hurried {offset : Option Int} (h : signed n = .ok n) (hzero : hurried ∧ n = 0) :
    (Tail.mk n offset).cut hurried rows = .ok [] := by
  rw [Tail.cut, h]
  change (if _ then _ else _ : Except EngineError (List α)) = _
  rw [if_pos hzero]
  rfl

/-- Otherwise it looks how many rows to skip. -/
theorem cut_of_limit {offset : Option Int} (h : signed n = .ok n) (hzero : ¬ (hurried ∧ n = 0)) :
    (Tail.mk n offset).cut hurried rows =
      (offset.elim (pure 0) signed).map fun m =>
        if n < 0 then rows.drop m.toNat else (rows.drop m.toNat).take n.toNat := by
  rw [Tail.cut, h]
  change (if _ then _ else _ : Except EngineError (List α)) = _
  rw [if_neg hzero]
  rfl

end

/-- What is skipped, as the dialect writes it. -/
theorem signed_offset (offset : UInt64) :
    (if offset = 0 then none else some (offset.toNat : Int)).elim (pure 0) signed =
      if offset.toNat < 2 ^ 63 then .ok (offset.toNat : Int) else .error Engine.mismatch := by
  split_ifs with hzero hlt hlt
  · rw [hzero]
    rfl
  · exact absurd (by simp [hzero]) hlt
  · rw [Option.elim_some, signed_of_lt hlt]
  · rw [Option.elim_some, signed_of_le hlt]

/-- **Which page comes back.** The page that is asked for, if the numbers can be read, and otherwise
nothing. -/
theorem cut_tail? {α : Type} (hurried : Bool) (limit : Option UInt64) (offset : UInt64)
    (rows : List α) :
    cut hurried (tail? limit offset) rows =
      if Pageable hurried limit offset then .ok (page limit offset rows)
      else .error Engine.mismatch := by
  cases limit with
  | none =>
      have hpageable : Pageable hurried none offset ↔ offset.toNat < 2 ^ 63 := by simp [Pageable]
      by_cases hzero : offset = 0
      · subst hzero
        rw [if_pos (hpageable.mpr (by decide))]
        rfl
      · have htail : tail? none offset = some ⟨-1, some offset.toNat⟩ := if_neg hzero
        have hminus : signed (-1) = .ok (-1) := rfl
        rw [htail, cut, Option.elim_some, cut_of_limit hminus (by simp), Option.elim_some]
        by_cases hlt : offset.toNat < 2 ^ 63
        · rw [if_pos (hpageable.mpr hlt), signed_of_lt hlt]
          rfl
        · rw [if_neg (hpageable.not.mpr hlt), signed_of_le hlt]
          rfl
  | some n =>
      rw [tail?, cut, Option.elim_some]
      by_cases hlimit : n.toNat < 2 ^ 63
      · have hsigned := signed_of_lt hlimit
        by_cases hzero : hurried ∧ n = 0
        · obtain ⟨hhurried, rfl⟩ := hzero
          have hpageable : Pageable hurried (some 0) offset :=
            ⟨by simp, .inr ⟨hhurried, rfl⟩⟩
          rw [cut_of_hurried hsigned ⟨hhurried, rfl⟩, if_pos hpageable, page]
          simp
        · have hnumber : ¬ (hurried ∧ (n.toNat : Int) = 0) := fun ⟨hhurried, hnone⟩ =>
            hzero ⟨hhurried, UInt64.toNat_inj.mp (Int.natCast_eq_zero.mp hnone)⟩
          have hpageable : Pageable hurried (some n) offset ↔ offset.toNat < 2 ^ 63 :=
            ⟨fun h => h.2.resolve_right fun ⟨hhurried, hnone⟩ =>
              hzero ⟨hhurried, Option.some.inj hnone⟩,
              fun hlt => ⟨by simpa using hlimit, .inl hlt⟩⟩
          rw [cut_of_limit hsigned hnumber, signed_offset]
          by_cases hlt : offset.toNat < 2 ^ 63
          · rw [if_pos hlt, if_pos (hpageable.mpr hlt)]
            change Except.ok (if _ then _ else _) = _
            rw [if_neg (by omega)]
            rfl
          · rw [if_neg hlt, if_neg (hpageable.not.mpr hlt)]
            rfl
      · have hpageable : ¬ Pageable hurried (some n) offset := fun h => hlimit (h.1 n rfl)
        rw [cut_of_limit_error (signed_of_le hlimit), if_neg hpageable]

end TableGateway.Sqlite
