import Mathlib.Algebra.GroupWithZero.Nat
import Mathlib.Data.Nat.Log
import Mathlib.Order.Monotone.Basic
import Mathlib.Tactic.Ring
import TableGateway.Number.Binary64

/-!
# Rounding is monotone

Without its sign bit the word of a finite number grows with its absolute value. Rounding a quotient
never goes down when the numerator goes up. So whether the product of a number with a power of ten
is still finite is decided by the largest number that may be multiplied with it. Dividing by a
number of two or more never leaves the finite numbers.

## Conventions

`absWord` is a word without its sign bit, `magnitudeAt` the absolute value that it stands for, and
`quotientWord` the one that a quotient is rounded to.

## Main results

* `Binary64.isFinite_iff`: the finite numbers are those below infinity.
* `Binary64.magnitudeAt_mono`, `Binary64.quotientWord_mono`: the two kinds of growth.
* `Binary64.isFinite_mul_ofNat`: a product is finite if one of larger numbers is.
* `Binary64.isFinite_div_ofNat`: a quotient by two or more is finite.
-/

namespace TableGateway

/-- A power of two. -/
theorem twoTo_eq (n : Nat) : twoTo n = 2 ^ n := Nat.one_shiftLeft n

/-- Powers of two are positive. -/
theorem twoTo_pos (n : Nat) : 0 < twoTo n := by
  rw [twoTo_eq]
  exact Nat.pow_pos (by decide)

/-- Powers of two grow with the exponent. -/
theorem twoTo_mono {m n : Nat} (h : m ≤ n) : twoTo m ≤ twoTo n := by
  rw [twoTo_eq, twoTo_eq]
  exact Nat.pow_le_pow_right (by decide) h

/-- The product of two powers of two. -/
theorem twoTo_mul (m n : Nat) : twoTo m * twoTo n = twoTo (m + n) := by
  rw [twoTo_eq, twoTo_eq, twoTo_eq, pow_add]

/-- A number below a power of two has fewer bits. -/
theorem log2_lt_of_lt_twoTo {n k : Nat} (hk : 0 < k) (h : n < twoTo k) : Nat.log2 n < k := by
  by_cases hzero : n = 0
  · rwa [hzero]
  · rw [twoTo_eq] at h
    exact (Nat.log2_lt hzero).mpr h

namespace Binary64

/-! ### Words without their sign -/

/-- The word without its sign bit. -/
def absWord (x : Binary64) : Nat := x.word % signBit

/-- The exponent in the word. -/
theorem exponentField_eq (x : Binary64) : x.exponentField = x.absWord / hiddenBit := by
  simp only [exponentField, absWord, hiddenBit, signBit]
  omega

/-- The fraction in the word. -/
theorem fraction_eq (x : Binary64) : x.fraction = x.absWord % hiddenBit := by
  simp only [fraction, absWord, hiddenBit, signBit]
  omega

/-- The finite numbers are those below infinity. -/
theorem isFinite_iff {x : Binary64} :
    x.isFinite = true ↔ x.absWord < topExponent * hiddenBit := by
  have hlt : x.absWord < signBit := Nat.mod_lt _ (by decide)
  rw [isFinite, bne_iff_ne, exponentField_eq]
  simp only [hiddenBit, topExponent, signBit] at hlt ⊢
  omega

/-- A finite number is not infinite. -/
theorem not_isInfinite {x : Binary64} (h : x.isFinite = true) : ¬ x.isInfinite = true := by
  rw [isFinite, bne_iff_ne] at h
  simp [isInfinite, h]

/-- Fields without a sign make up the word. -/
theorem absWord_ofFields (negative : Bool) {rest : Nat} (h : rest < signBit) :
    (ofFields negative rest).absWord = rest := by
  simp only [signBit] at h
  cases negative <;>
    · simp only [absWord, word, ofFields, signBit, UInt64.toNat_ofNat', reduceIte,
        Bool.false_eq_true]
      omega

/-- The sign makes no difference. -/
theorem absWord_neg (x : Binary64) : x.neg.absWord = x.absWord :=
  absWord_ofFields _ (Nat.mod_lt _ (by decide))

/-- The sign bit makes up the sign. -/
theorem isNegative_ofFields (negative : Bool) {rest : Nat} (h : rest < signBit) :
    (ofFields negative rest).isNegative = negative := by
  simp only [signBit] at h
  cases negative <;>
    · simp only [isNegative, word, ofFields, signBit, UInt64.toNat_ofNat', reduceIte,
        Bool.false_eq_true, decide_eq_true_eq, decide_eq_false_iff_not]
      omega

/-- The other sign. -/
theorem isNegative_neg (x : Binary64) : x.neg.isNegative = !x.isNegative :=
  isNegative_ofFields _ (Nat.mod_lt _ (by decide))

/-- The absolute value of a word, in steps of `2 ^ -1074`. -/
def magnitudeAt (w : Nat) : Nat :=
  (if w / hiddenBit = 0 then w % hiddenBit else hiddenBit + w % hiddenBit) *
    2 ^ (w / hiddenBit - 1)

/-- The absolute value of a number. -/
theorem magnitude_eq (x : Binary64) : x.magnitude = magnitudeAt x.absWord := by
  rw [magnitude, significand, unit, exponentField_eq, fraction_eq, twoTo_eq]
  rfl

/-- **The absolute value grows with the word.** From one word to the next one either the fraction
grows, or it is full and the next exponent begins. -/
theorem magnitudeAt_mono : Monotone magnitudeAt := by
  refine monotone_nat_of_le_succ fun w => ?_
  have hsucc : (w + 1) / hiddenBit = w / hiddenBit ∧ (w + 1) % hiddenBit = w % hiddenBit + 1 ∨
      (w + 1) / hiddenBit = w / hiddenBit + 1 ∧ (w + 1) % hiddenBit = 0 ∧
        w % hiddenBit + 1 = hiddenBit := by
    simp only [hiddenBit]
    omega
  unfold magnitudeAt
  obtain ⟨hfield, hfraction⟩ | ⟨hfield, hfraction, hfull⟩ := hsucc
  · rw [hfield, hfraction]
    exact Nat.mul_le_mul_right _ (by split <;> omega)
  · rw [hfield, hfraction, if_neg (Nat.succ_ne_zero _), Nat.add_zero, Nat.add_sub_cancel]
    by_cases hfirst : w / hiddenBit = 0
    · rw [if_pos hfirst, hfirst]
      omega
    · obtain ⟨e, he⟩ := Nat.exists_eq_succ_of_ne_zero hfirst
      rw [if_neg hfirst, he, Nat.succ_eq_add_one, Nat.add_sub_cancel, Nat.pow_succ,
        Nat.mul_comm (2 ^ e), ← Nat.mul_assoc]
      exact Nat.mul_le_mul_right _ (by omega)

/-! ### Rounding -/

/-- Rounding to an integer gives one of the two neighbours. -/
theorem roundEven_bounds (n d : Nat) : n / d ≤ roundEven n d ∧ roundEven n d ≤ n / d + 1 := by
  unfold roundEven
  dsimp only
  split_ifs <;> omega

/-- **Rounding to an integer never goes down.** Only between the same two neighbours does it depend
on the remainder. -/
theorem roundEven_mono {n k : Nat} (d : Nat) (h : n ≤ k) : roundEven n d ≤ roundEven k d := by
  obtain hlt | heq := Nat.lt_or_eq_of_le (Nat.div_le_div_right (c := d) h)
  · have hn := (roundEven_bounds n d).2
    have hk := (roundEven_bounds k d).1
    omega
  · have hmod : n % d ≤ k % d := by
      have hn := Nat.div_add_mod n d
      have hk := Nat.div_add_mod k d
      rw [heq] at hn
      omega
    unfold roundEven
    dsimp only
    rw [heq]
    split_ifs <;> omega

/-- An integer is not rounded. -/
theorem roundEven_mul (k : Nat) {d : Nat} (hd : 0 < d) : roundEven (k * d) d = k := by
  simp [roundEven, hd]

/-- The word to which the quotient of `n` steps by `d` is rounded. -/
def quotientWord (n d : Nat) : Nat :=
  (Nat.log2 (n / d) - 52) * hiddenBit + roundEven n (d * 2 ^ (Nat.log2 (n / d) - 52))

/-- The exponent of a quotient: at most 53 bits are left, and exactly 53 unless it is the
least one. -/
theorem quotient_exponent (n : Nat) {d : Nat} (hd : 0 < d) :
    n ≤ 2 * hiddenBit * (d * 2 ^ (Nat.log2 (n / d) - 52)) ∧
      (Nat.log2 (n / d) - 52 ≠ 0 → hiddenBit * (d * 2 ^ (Nat.log2 (n / d) - 52)) ≤ n) := by
  have hhidden : hiddenBit = 2 ^ 52 := by decide
  have hbelow : n / d < 2 ^ (Nat.log2 (n / d) + 1) := Nat.lt_log2_self
  have hshift (p : Nat) : hiddenBit * (d * 2 ^ p) = d * 2 ^ (p + 52) := by
    rw [hhidden, Nat.pow_add]
    ring
  constructor
  · have hle : 2 ^ (Nat.log2 (n / d) + 1) ≤ 2 * 2 ^ (Nat.log2 (n / d) - 52 + 52) := by
      rw [Nat.pow_succ, Nat.mul_comm]
      exact Nat.mul_le_mul_left 2 (Nat.pow_le_pow_right (by decide) (by omega))
    have hlt : n < d * (2 * 2 ^ (Nat.log2 (n / d) - 52 + 52)) :=
      (Nat.div_lt_iff_lt_mul hd).mp (Nat.lt_of_lt_of_le hbelow hle) |>.trans_eq (Nat.mul_comm _ d)
    rw [Nat.mul_assoc, hshift, ← Nat.mul_left_comm]
    exact Nat.le_of_lt hlt
  · intro hne
    have hq : n / d ≠ 0 := by
      rintro hzero
      rw [hzero] at hne
      exact hne rfl
    have habove : 2 ^ Nat.log2 (n / d) ≤ n / d := Nat.log2_self_le hq
    rw [hshift, Nat.sub_add_cancel (by omega)]
    exact (Nat.mul_le_mul_left d habove).trans (Nat.mul_div_le n d)

/-- **The word of a quotient never goes down** when the numerator goes up. Within one exponent this
is rounding to an integer. Otherwise the smaller quotient stays at or below a power of two that the
greater one has reached. -/
theorem quotientWord_mono {n k d : Nat} (hd : 0 < d) (h : n ≤ k) :
    quotientWord n d ≤ quotientWord k d := by
  obtain ⟨hupper, -⟩ := quotient_exponent n hd
  obtain ⟨-, hlower⟩ := quotient_exponent k hd
  have hlog : Nat.log2 (n / d) ≤ Nat.log2 (k / d) := by
    rw [Nat.log2_eq_log_two, Nat.log2_eq_log_two]
    exact Nat.log_mono_right (Nat.div_le_div_right h)
  have hexponent : Nat.log2 (n / d) - 52 ≤ Nat.log2 (k / d) - 52 := by omega
  have hscale (p : Nat) : 0 < d * 2 ^ p := Nat.mul_pos hd (Nat.pow_pos (by decide))
  unfold quotientWord
  obtain hlt | heq := Nat.lt_or_eq_of_le hexponent
  · have hn := roundEven_mono (d * 2 ^ (Nat.log2 (n / d) - 52)) hupper
    have hk := roundEven_mono (d * 2 ^ (Nat.log2 (k / d) - 52)) (hlower (by omega))
    rw [roundEven_mul _ (hscale _)] at hn hk
    have hstep := Nat.mul_le_mul_right hiddenBit (Nat.succ_le_of_lt hlt)
    rw [Nat.succ_mul] at hstep
    omega
  · rw [heq]
    exact Nat.add_le_add_left (roundEven_mono _ h) _

/-- The word of a rounded quotient, cut off at infinity. -/
theorem absWord_ofRatio (negative : Bool) (num den : Nat) :
    (ofRatio negative num den).absWord =
      min (quotientWord (num * 2 ^ 1074) den) (topExponent * hiddenBit) := by
  have hsmall : min (quotientWord (num * 2 ^ 1074) den) (topExponent * hiddenBit) < signBit :=
    Nat.lt_of_le_of_lt (Nat.min_le_right _ _) (by decide)
  rw [← absWord_ofFields negative hsmall]
  simp only [ofRatio, quotientWord, twoTo_eq]

/-- A rounded quotient has the sign that it is given. -/
theorem isNegative_ofRatio (negative : Bool) (num den : Nat) :
    (ofRatio negative num den).isNegative = negative :=
  isNegative_ofFields _ (Nat.lt_of_le_of_lt (Nat.min_le_right _ _) (by decide))

/-- Rounding a quotient gives a finite number if it does so for a greater one. -/
theorem isFinite_ofRatio {negative negative' : Bool} {num num' den : Nat} (hden : 0 < den)
    (h : num ≤ num') (hfinite : (ofRatio negative' num' den).isFinite = true) :
    (ofRatio negative num den).isFinite = true := by
  have hmono := quotientWord_mono hden (Nat.mul_le_mul_right (2 ^ 1074) h)
  rw [isFinite_iff, absWord_ofRatio] at hfinite ⊢
  omega

/-- A greater natural number is rounded to a greater number. -/
theorem magnitude_ofNat_mono {n k : Nat} (h : n ≤ k) :
    (ofNat n).magnitude ≤ (ofNat k).magnitude := by
  have hmono := quotientWord_mono (d := 1) (by decide) (Nat.mul_le_mul_right (2 ^ 1074) h)
  rw [magnitude_eq, magnitude_eq, ofNat, ofNat, absWord_ofRatio, absWord_ofRatio]
  exact magnitudeAt_mono (by omega)

/-- **Products.** The product of two rounded numbers is finite if that of greater ones is. -/
theorem isFinite_mul_ofNat {m n k l : Nat} (hm : m ≤ k) (hn : n ≤ l)
    (hfinite : ((ofNat k).mul (ofNat l)).isFinite = true) :
    ((ofNat m).mul (ofNat n)).isFinite = true :=
  isFinite_ofRatio (by decide +kernel)
    (Nat.mul_le_mul (magnitude_ofNat_mono hm) (magnitude_ofNat_mono hn)) hfinite

/-- A significand has at most 53 bits. -/
theorem significand_lt (x : Binary64) : x.significand < 2 * hiddenBit := by
  have hfraction : x.fraction < hiddenBit := Nat.mod_lt _ (by decide)
  unfold significand
  split_ifs <;> omega

/-- The exponent of a finite number is bounded. -/
theorem unit_le {x : Binary64} (h : x.isFinite = true) : x.unit ≤ 2045 := by
  have hfield : x.exponentField < 2048 := Nat.mod_lt _ (by decide)
  rw [isFinite, bne_iff_ne] at h
  simp only [topExponent] at h
  unfold unit
  omega

/-- The absolute value of a finite number is bounded. -/
theorem magnitude_lt {x : Binary64} (h : x.isFinite = true) : x.magnitude < twoTo 2098 := by
  have hunit := unit_le h
  calc x.significand * twoTo x.unit < twoTo 53 * twoTo x.unit :=
        Nat.mul_lt_mul_of_pos_right x.significand_lt (twoTo_pos _)
    _ = twoTo (53 + x.unit) := twoTo_mul _ _
    _ ≤ twoTo 2098 := twoTo_mono (by omega)

/-- A quotient with at most 2097 bits is not rounded to infinity. -/
theorem quotientWord_lt {n d : Nat} (hd : 0 < d) (h : n / d < twoTo 2097) :
    quotientWord n d < topExponent * hiddenBit := by
  have hlog : Nat.log2 (n / d) < 2097 := log2_lt_of_lt_twoTo (by decide) h
  have hround := roundEven_mono (d * 2 ^ (Nat.log2 (n / d) - 52)) (quotient_exponent n hd).1
  rw [roundEven_mul _ (Nat.mul_pos hd (Nat.pow_pos (by decide)))] at hround
  unfold quotientWord
  simp only [hiddenBit, topExponent] at hround ⊢
  omega

/-- **Quotients.** A finite number divided by two or more stays finite. -/
theorem isFinite_div_ofNat {x : Binary64} {n : Nat} (hx : x.isFinite = true) (hn : 2 ≤ n) :
    (x.div (ofNat n)).isFinite = true := by
  have hdivisor : twoTo 1075 ≤ (ofNat n).magnitude :=
    Nat.le_trans (by decide +kernel) (magnitude_ofNat_mono hn)
  have hpos : 0 < (ofNat n).magnitude := Nat.lt_of_lt_of_le (twoTo_pos 1075) hdivisor
  have hquotient : x.magnitude * twoTo 1074 / (ofNat n).magnitude < twoTo 2097 := by
    rw [Nat.div_lt_iff_lt_mul hpos]
    calc x.magnitude * twoTo 1074 < twoTo 2098 * twoTo 1074 :=
          Nat.mul_lt_mul_of_pos_right (magnitude_lt hx) (twoTo_pos 1074)
      _ = twoTo 2097 * twoTo 1075 := by rw [twoTo_mul, twoTo_mul]
      _ ≤ twoTo 2097 * (ofNat n).magnitude := Nat.mul_le_mul_left _ hdivisor
  have hword := quotientWord_lt hpos hquotient
  rw [twoTo_eq] at hword
  rw [isFinite_iff, div, absWord_ofRatio]
  exact Nat.lt_of_le_of_lt (Nat.min_le_left _ _) hword

end Binary64

end TableGateway
