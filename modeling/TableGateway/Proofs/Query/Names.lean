import Mathlib.Data.List.Basic
import Std.Data.String.ToNat
import TableGateway.Params

/-!
# The names of parameters and joined tables

A parameter is named by the letter `p` and its number, an element of a list by the name of the
list, an underscore and its position, and a joined table by the letter `j` and its number. This
module shows that the decimal numbers can be read back from the names, so that names of different
numbers never coincide, not even a parameter's and an element's.

## Main results

* `Numbering.paramName_inj`, `Numbering.elementName_inj`, `Numbering.aliasName_inj`: a name
  determines its numbers.
* `Numbering.paramName_ne_elementName`: no parameter is named like an element of a list.
* `Numbering.span_digits`, `Numbering.eq_of_digits_append`: where a number ends, it can be split
  off and read back.
* `Numbering.IsNameOf.unique`: a name belongs to one number only.
-/

namespace TableGateway.Numbering

/-! ### Reading the numbers back -/

/-- The decimal digits determine a number. -/
theorem toDigits_injective {m n : Nat} (h : Nat.toDigits 10 m = Nat.toDigits 10 n) : m = n := by
  rw [← Nat.ofDigitChars_ten_toDigits (n := m), h, Nat.ofDigitChars_ten_toDigits]

/-- The name of a parameter, letter by letter. -/
theorem toList_paramName (n : Nat) : (paramName n).toList = 'p' :: Nat.toDigits 10 n := by
  simp [paramName, String.toList_append]

/-- The name of an element, letter by letter. -/
theorem toList_elementName (n i : Nat) :
    (elementName n i).toList = 'p' :: (Nat.toDigits 10 n ++ '_' :: Nat.toDigits 10 i) := by
  simp [elementName, String.toList_append, toList_paramName]

/-- The name of a joined table, letter by letter. -/
theorem toList_aliasName (n : Nat) : (aliasName n).toList = 'j' :: Nat.toDigits 10 n := by
  simp [aliasName, String.toList_append]

/-- The name of a parameter determines its number. -/
theorem paramName_inj {m n : Nat} : paramName m = paramName n ↔ m = n := by
  refine ⟨fun h => ?_, fun h => h ▸ rfl⟩
  have hl := congrArg String.toList h
  rw [toList_paramName, toList_paramName] at hl
  exact toDigits_injective (List.cons.inj hl).2

/-- The alias of a joined table determines its number. -/
theorem aliasName_inj {m n : Nat} : aliasName m = aliasName n ↔ m = n := by
  refine ⟨fun h => ?_, fun h => h ▸ rfl⟩
  have hl := congrArg String.toList h
  rw [toList_aliasName, toList_aliasName] at hl
  exact toDigits_injective (List.cons.inj hl).2

/-- The name of an element determines the number of its list and its position: the underscore is
no digit, so it shows where the first number ends. -/
theorem elementName_inj {m n i j : Nat} :
    elementName m i = elementName n j ↔ m = n ∧ i = j := by
  refine ⟨fun h => ?_, fun ⟨hm, hi⟩ => hm ▸ hi ▸ rfl⟩
  have hl := congrArg String.toList h
  rw [toList_elementName, toList_elementName] at hl
  obtain ⟨hmn, -, hij⟩ := (List.append_cons_inj_of_notMem Nat.underscore_not_in_toDigits
    Nat.underscore_not_in_toDigits).mp (List.cons.inj hl).2
  exact ⟨toDigits_injective hmn, toDigits_injective hij⟩

/-- No parameter is named like an element of a list: only the element has an underscore. -/
theorem paramName_ne_elementName (m n i : Nat) : paramName m ≠ elementName n i := by
  intro h
  have hl := congrArg String.toList h
  rw [toList_paramName, toList_elementName] at hl
  have hmem : '_' ∈ Nat.toDigits 10 n ++ '_' :: Nat.toDigits 10 i := by simp
  rw [← (List.cons.inj hl).2] at hmem
  exact Nat.underscore_not_in_toDigits hmem

/-! ### Where a number ends -/

/-- The characters behind a number do not go on with a digit. -/
def EndsNumber (rest : List Char) : Prop := ∀ c ∈ rest.head?, ¬ c.isDigit

/-- A number ends where nothing follows. -/
theorem endsNumber_nil : EndsNumber [] := by simp [EndsNumber]

/-- A number ends before a character that is no digit. -/
theorem endsNumber_cons {c : Char} (h : ¬ c.isDigit) (rest : List Char) :
    EndsNumber (c :: rest) := by
  simpa [EndsNumber] using h

/-- A number ends before two texts of which each would end it. -/
theorem EndsNumber.append {l l' : List Char} (h : EndsNumber l) (h' : EndsNumber l') :
    EndsNumber (l ++ l') := by
  cases l with
  | nil => exact h'
  | cons c l => exact endsNumber_cons (h c (by simp)) _

/-- The digits of a number are digits. -/
theorem isDigit_of_mem_digits {k : Nat} {c : Char} (h : c ∈ Nat.toDigits 10 k) : c.isDigit :=
  Nat.isDigit_of_mem_toDigits (by omega) (by omega) h

/-- The digits of a number can be split off what stands behind it. -/
theorem span_digits (k : Nat) {rest : List Char} (h : EndsNumber rest) :
    (Nat.toDigits 10 k ++ rest).takeWhile Char.isDigit = Nat.toDigits 10 k ∧
      (Nat.toDigits 10 k ++ rest).dropWhile Char.isDigit = rest := by
  have hrest : rest.takeWhile Char.isDigit = [] ∧ rest.dropWhile Char.isDigit = rest := by
    cases rest with
    | nil => exact ⟨rfl, rfl⟩
    | cons c rest =>
        have hc : ¬ c.isDigit := h c (by simp)
        simp [hc]
  rw [List.takeWhile_append_of_pos fun c hc => isDigit_of_mem_digits hc,
    List.dropWhile_append_of_pos fun c hc => isDigit_of_mem_digits hc, hrest.1, hrest.2,
    List.append_nil]
  exact ⟨rfl, rfl⟩

/-- A number can be read back where it ends. -/
theorem eq_of_digits_append {m n : Nat} {rest rest' : List Char} (hrest : EndsNumber rest)
    (hrest' : EndsNumber rest') (h : Nat.toDigits 10 m ++ rest = Nat.toDigits 10 n ++ rest') :
    m = n := by
  have htake := congrArg (List.takeWhile Char.isDigit) h
  rw [(span_digits m hrest).1, (span_digits n hrest').1] at htake
  exact toDigits_injective htake

/-! ### Names of one number -/

/-- The names that the number `n` can give: the one of a parameter, and those of the elements of a
list. -/
def IsNameOf (n : Nat) (name : String) : Prop :=
  name = paramName n ∨ ∃ i, name = elementName n i

/-- A name belongs to one number only. -/
theorem IsNameOf.unique {m n : Nat} {name : String} (hm : IsNameOf m name)
    (hn : IsNameOf n name) : m = n := by
  rcases hm with rfl | ⟨i, rfl⟩
  · rcases hn with h | ⟨j, h⟩
    · exact paramName_inj.mp h
    · exact absurd h (paramName_ne_elementName m n j)
  · rcases hn with h | ⟨j, h⟩
    · exact absurd h.symm (paramName_ne_elementName n m i)
    · exact (elementName_inj.mp h).1

end TableGateway.Numbering
