import TableGateway.Json.Writer
import TableGateway.Json.Tree
import TableGateway.Proofs.Query.Names

/-!
# Scanning what was written

Numbers and strings are read back from what is written for them, whatever follows that cannot belong
to them. A whole number stays one. A number with a point or an exponent becomes the real that its
digits and a power of ten make.

## Conventions

The digits of a number are those of the library, and `Nat.ofDigitChars 10 ds 0` is the number that
they write. `Starts` says which digits may begin a number: a zero stands alone.

## Main results

* `Json.accumulate_eq`: digits that fit are all taken.
* `Json.scanNumber_digits`: a whole number.
* `Json.scanNumber_point`, `Json.scanNumber_exponent`: numbers with a point and an exponent.
* `Json.scanChars_escaped`: a string, whatever escapes it needs.
-/

namespace TableGateway.Json

open TableGateway.Numbering (EndsNumber endsNumber_cons endsNumber_nil)

/-! ### Digits -/

/-- Digits are split off where they end. -/
theorem spanDigits_append {ds rest : List Char} (hds : ∀ c ∈ ds, c.isDigit = true)
    (hrest : EndsNumber rest) : spanDigits (ds ++ rest) = (ds, rest) := by
  have hdigits : ∀ c ∈ ds, isDigit c = true := hds
  have hnone : rest.takeWhile isDigit = [] ∧ rest.dropWhile isDigit = rest := by
    cases rest with
    | nil => exact ⟨rfl, rfl⟩
    | cons c rest =>
        have hc : ¬ isDigit c = true := hrest c rfl
        exact ⟨List.takeWhile_cons_of_neg hc, List.dropWhile_cons_of_neg hc⟩
  unfold spanDigits
  rw [List.takeWhile_append_of_pos hdigits, List.dropWhile_append_of_pos hdigits, hnone.1, hnone.2,
    List.append_nil]

/-- A number only grows with more digits. -/
theorem le_ofDigitChars (n : Nat) (ds : List Char) : n ≤ Nat.ofDigitChars 10 ds n := by
  rw [Nat.ofDigitChars_eq_ofDigitChars_zero]
  have hscaled : 1 * n ≤ 10 ^ ds.length * n := Nat.mul_le_mul_right n (Nat.pow_pos (by decide))
  omega

/-- Digits are all taken if the number that they lead to fits. -/
theorem accumulate_eq {bound n : Nat} {ds : List Char} (h : Nat.ofDigitChars 10 ds n ≤ bound) :
    accumulate bound n ds = (Nat.ofDigitChars 10 ds n, ds.length, 0) := by
  induction ds generalizing n with
  | nil => rfl
  | cons c ds ih =>
      have hstep : n * 10 + digitValue c = 10 * n + (c.toNat - '0'.toNat) := by
        rw [Nat.mul_comm]
        rfl
      have hfits : n * 10 + digitValue c ≤ bound := by
        rw [hstep]
        exact Nat.le_trans (le_ofDigitChars _ ds) h
      rw [accumulate, if_pos hfits, hstep, ih h]
      rfl

/-- A number above zero does not begin with a zero. -/
theorem head?_toDigits {n : Nat} (hn : n ≠ 0) : ∀ c ∈ (Nat.toDigits 10 n).head?, c ≠ '0' := by
  induction n using Nat.strongRecOn with
  | _ n ih =>
      by_cases hsmall : n < 10
      · have hdigit : ∀ n < 10, n ≠ 0 → n.digitChar ≠ '0' := by decide
        rw [Nat.toDigits_of_lt_base hsmall]
        exact fun c hc => Option.some.inj hc ▸ hdigit n hsmall hn
      · rw [Nat.toDigits_of_base_le (by decide) (by omega),
          List.head?_append_of_ne_nil _ Nat.toDigits_ne_nil]
        exact ih (n / 10) (by omega) (by omega)

/-- Digits with which a number may begin. -/
structure Starts (ds : List Char) : Prop where
  digits : ∀ c ∈ ds, c.isDigit = true
  nonempty : ds ≠ []
  lead : ds = ['0'] ∨ ∀ c ∈ ds.head?, c ≠ '0'

/-- The digits of a number. -/
theorem starts_toDigits (n : Nat) : Starts (Nat.toDigits 10 n) where
  digits _ hc := Numbering.isDigit_of_mem_digits hc
  nonempty := Nat.toDigits_ne_nil
  lead := by
    by_cases hn : n = 0
    · exact .inl (hn ▸ rfl)
    · exact .inr (head?_toDigits hn)

/-! ### Numbers -/

/-- A digit is nothing else that begins a value. -/
theorem ne_of_isDigit {c d : Char} (hc : c.isDigit = true) (hd : d.isDigit = false) : c ≠ d := by
  rintro rfl
  exact absurd (hc.symm.trans hd) (by simp)

/-- The digits before a point, an exponent or the end of a number. -/
theorem scanNumber_whole {ds rest : List Char} (positive : Bool) (hds : Starts ds)
    (hfits : Nat.ofDigitChars 10 ds 0 ≤ maxNatural) (hrest : EndsNumber rest) :
    scanNumber positive (ds ++ rest) = scanRest positive (Nat.ofDigitChars 10 ds 0) 0 rest := by
  cases ds with
  | nil => exact absurd rfl hds.nonempty
  | cons c ds =>
      have hc : ¬ (!isDigit c) = true := by
        have hdigit : isDigit c = true := hds.digits c List.mem_cons_self
        simp [hdigit]
      rcases hds.lead with hzero | hlead
      · obtain ⟨rfl, rfl⟩ := List.cons.inj hzero
        cases rest with
        | nil => rfl
        | cons d rest =>
            have hd : ¬ isDigit d = true := hrest d rfl
            change (if isDigit d then _ else scanRest positive 0 0 (d :: rest)) = _
            rw [if_neg hd]
            rfl
      · change (if !isDigit c then _ else if c = '0' then _ else _) = _
        rw [if_neg hc, if_neg (hlead c rfl), spanDigits_append hds.digits hrest]
        dsimp only
        rw [accumulate_eq hfits]

/-- What may follow a whole number. -/
def EndsWhole (rest : List Char) : Prop :=
  ∀ c ∈ rest.head?, c.isDigit = false ∧ c ≠ '.' ∧ isExponentMark c = false

/-- A whole number that is followed by nothing of its own. -/
theorem scanRest_plain {rest : List Char} (positive : Bool) (n : Nat) (hrest : EndsWhole rest) :
    scanRest positive n 0 rest = .ok (wholeNumber positive n, rest) := by
  cases rest with
  | nil => rfl
  | cons c rest =>
      obtain ⟨-, hpoint, hmark⟩ := hrest c rfl
      rw [scanRest, if_neg hpoint, if_neg (by simp [hmark]), if_pos rfl]

/-- **Whole numbers.** -/
theorem scanNumber_digits {n : Nat} {rest : List Char} (positive : Bool) (hn : n ≤ maxNatural)
    (hrest : EndsWhole rest) :
    scanNumber positive (Nat.toDigits 10 n ++ rest) = .ok (wholeNumber positive n, rest) := by
  have hends : EndsNumber rest := fun c hc => by simp [(hrest c hc).1]
  have hvalue : Nat.ofDigitChars 10 (Nat.toDigits 10 n) 0 = n := Nat.ofDigitChars_ten_toDigits
  rw [scanNumber_whole positive (starts_toDigits n) (hvalue.symm ▸ hn) hends, hvalue,
    scanRest_plain positive n hrest]

/-- A whole number behind a sign, unless it is zero or beyond the range of integers. -/
theorem wholeNumber_negative {n : Nat} (hn : n ≠ 0) (hfits : n ≤ minMagnitude) :
    wholeNumber false n = .negative n := by
  simp [wholeNumber, hn, hfits]

/-- The real of a number at the end of a text. -/
def realAt (positive : Bool) (digits : Nat) (e : Int) : Except TextFault (Number × List Char) :=
  (realOf positive digits e).map fun number => (number, [])

/-- Completing a number at the end of a text. -/
theorem realOf_end (positive : Bool) (digits : Nat) (e : Int) :
    (do
      let number ← realOf positive digits e
      return (number, ([] : List Char))) = realAt positive digits e := by
  unfold realAt
  cases realOf positive digits e <;> rfl

section

variable {ds : List Char} {n : Nat} (positive : Bool) (hds : ∀ c ∈ ds, c.isDigit = true)
  (hne : ds ≠ []) (hfits : Nat.ofDigitChars 10 ds n ≤ maxNatural)

include hds hne hfits

/-- The digits behind the point, where nothing follows. -/
theorem scanFraction_end :
    scanFraction positive n 0 ds =
      realAt positive (Nat.ofDigitChars 10 ds n) (-(ds.length : Int)) := by
  have hsome : ¬ ds.isEmpty = true := by simpa using hne
  have hspan : spanDigits ds = (ds, []) := by
    have h := spanDigits_append hds endsNumber_nil
    rwa [List.append_nil] at h
  unfold scanFraction
  rw [hspan]
  dsimp only
  rw [if_neg hsome, accumulate_eq hfits]
  dsimp only
  rw [Int.zero_sub]
  exact realOf_end positive _ _

/-- The digits behind the point, where an exponent follows. -/
theorem scanFraction_exponent (tail : List Char) :
    scanFraction positive n 0 (ds ++ 'e' :: tail) =
      scanExponent positive (Nat.ofDigitChars 10 ds n) (-(ds.length : Int)) tail := by
  have hsome : ¬ ds.isEmpty = true := by simpa using hne
  unfold scanFraction
  rw [spanDigits_append hds (endsNumber_cons (by decide) tail)]
  dsimp only
  rw [if_neg hsome, accumulate_eq hfits]
  dsimp only
  rw [Int.zero_sub, if_pos (by decide)]

end

/-- The digits of an exponent, where nothing follows. -/
theorem scanPower_eq {k : Nat} (positive : Bool) (digits : Nat) (e : Int) (down : Bool)
    (hk : k ≤ maxExponent) :
    scanPower positive digits e down (Nat.toDigits 10 k) =
      realAt positive digits (if down then e - k else e + k) := by
  have hds : ∀ c ∈ Nat.toDigits 10 k, c.isDigit = true := fun c hc =>
    Numbering.isDigit_of_mem_digits hc
  have hvalue : Nat.ofDigitChars 10 (Nat.toDigits 10 k) 0 = k := Nat.ofDigitChars_ten_toDigits
  have hspan := spanDigits_append hds endsNumber_nil
  have haccumulate : accumulate maxExponent 0 (Nat.toDigits 10 k) = _ :=
    accumulate_eq (hvalue.symm ▸ hk)
  rw [List.append_nil] at hspan
  rw [hvalue] at haccumulate
  obtain ⟨c, ds, hcons⟩ := List.exists_cons_of_ne_nil (Nat.toDigits_ne_nil (n := k) (b := 10))
  have hc : ¬ (!isDigit c) = true := by
    have hdigit : isDigit c = true := hds c (hcons ▸ List.mem_cons_self)
    simp [hdigit]
  rw [hcons] at hspan haccumulate ⊢
  unfold scanPower
  dsimp only
  rw [if_neg hc, hspan]
  dsimp only
  rw [haccumulate]
  exact realOf_end positive digits _

/-- The sign of an exponent. -/
def powerSign (down : Bool) : Char := if down then '-' else '+'

/-- The exponent, where nothing follows. -/
theorem scanExponent_eq {k : Nat} (positive : Bool) (digits : Nat) (e : Int) (down : Bool)
    (hk : k ≤ maxExponent) :
    scanExponent positive digits e (powerSign down :: Nat.toDigits 10 k) =
      realAt positive digits (if down then e - k else e + k) := by
  rw [← scanPower_eq positive digits e down hk]
  cases down <;> rfl

/-- **Numbers with a point.** -/
theorem scanNumber_point {ds fraction : List Char} (positive : Bool) (hds : Starts ds)
    (hfraction : ∀ c ∈ fraction, c.isDigit = true) (hne : fraction ≠ [])
    (hfits : Nat.ofDigitChars 10 (ds ++ fraction) 0 ≤ maxNatural) :
    scanNumber positive (ds ++ '.' :: fraction) =
      realAt positive (Nat.ofDigitChars 10 (ds ++ fraction) 0) (-(fraction.length : Int)) := by
  rw [Nat.ofDigitChars_append] at hfits ⊢
  have hwhole := Nat.le_trans (le_ofDigitChars _ fraction) hfits
  rw [scanNumber_whole positive hds hwhole (endsNumber_cons (by decide) _)]
  exact scanFraction_end positive hfraction hne hfits

/-- **Numbers with an exponent** behind a single digit. -/
theorem scanNumber_exponent {ds : List Char} {k : Nat} (positive : Bool) (hds : Starts ds)
    (hfits : Nat.ofDigitChars 10 ds 0 ≤ maxNatural) (down : Bool) (hk : k ≤ maxExponent) :
    scanNumber positive (ds ++ 'e' :: powerSign down :: Nat.toDigits 10 k) =
      realAt positive (Nat.ofDigitChars 10 ds 0) (if down then -(k : Int) else k) := by
  rw [scanNumber_whole positive hds hfits (endsNumber_cons (by decide) _)]
  have hscan := scanExponent_eq positive (Nat.ofDigitChars 10 ds 0) 0 down hk
  rw [Int.zero_sub, Int.zero_add] at hscan
  exact hscan

/-- **Numbers with a point and an exponent.** -/
theorem scanNumber_pointExponent {ds fraction : List Char} {k : Nat} (positive : Bool)
    (hds : Starts ds) (hfraction : ∀ c ∈ fraction, c.isDigit = true) (hne : fraction ≠ [])
    (hfits : Nat.ofDigitChars 10 (ds ++ fraction) 0 ≤ maxNatural) (down : Bool)
    (hk : k ≤ maxExponent) :
    scanNumber positive
        (ds ++ '.' :: (fraction ++ 'e' :: powerSign down :: Nat.toDigits 10 k)) =
      realAt positive (Nat.ofDigitChars 10 (ds ++ fraction) 0)
        (-(fraction.length : Int) + if down then -(k : Int) else k) := by
  rw [Nat.ofDigitChars_append] at hfits ⊢
  have hwhole := Nat.le_trans (le_ofDigitChars _ fraction) hfits
  rw [scanNumber_whole positive hds hwhole (endsNumber_cons (by decide) _)]
  refine (scanFraction_exponent positive hfraction hne hfits _).trans ?_
  rw [scanExponent_eq positive _ _ down hk]
  cases down <;> rfl

/-! ### Strings -/

/-- What is written for a control character without an escape of its own. -/
def hexEscape (n : Nat) : List Char :=
  ['\\', 'u', '0', '0', Text.hexDigit (n / 16), Text.hexDigit (n % 16)]

/-- A control character is read back from its number. -/
theorem scanChars_hexEscape (cs : List Char) :
    ∀ n < 32, scanChars (hexEscape n ++ cs) = consChar (Char.ofNat n) (scanChars cs) := by
  have hunit : ∀ n < 32,
      hexUnit? '0' '0' (Text.hexDigit (n / 16)) (Text.hexDigit (n % 16)) = some n ∧
      isLowHalf n = false ∧ isHighHalf n = false := by decide
  intro n hn
  obtain ⟨hvalue, hlow, hhigh⟩ := hunit n hn
  have hu : simpleEscape? 'u' = none := rfl
  unfold hexEscape
  simp only [List.cons_append, List.nil_append]
  rw [scanChars]
  simp [hu, hvalue, hlow, hhigh]

/-- An escape of one letter. -/
theorem scanChars_simpleEscape {c e : Char} (cs : List Char) (h : simpleEscape? e = some c) :
    scanChars ('\\' :: e :: cs) = consChar c (scanChars cs) := by
  rw [scanChars.eq_def]
  simp [h]

/-- A character is read back from what is written for it. -/
theorem scanChars_escapeChar (c : Char) (cs : List Char) :
    scanChars (escapeChar c ++ cs) = consChar c (scanChars cs) := by
  unfold escapeChar
  split_ifs with hquote hslash hb hf hn hr ht hcontrol
  · subst hquote; exact scanChars_simpleEscape cs rfl
  · subst hslash; exact scanChars_simpleEscape cs rfl
  · subst hb; exact scanChars_simpleEscape cs rfl
  · subst hf; exact scanChars_simpleEscape cs rfl
  · subst hn; exact scanChars_simpleEscape cs rfl
  · subst hr; exact scanChars_simpleEscape cs rfl
  · subst ht; exact scanChars_simpleEscape cs rfl
  · have hscan := scanChars_hexEscape cs c.toNat hcontrol
    rwa [Char.ofNat_toNat] at hscan
  · rw [List.singleton_append, scanChars.eq_def]
    dsimp only
    rw [if_neg hquote, if_neg hslash, if_neg hcontrol]

/-- **Strings.** By induction over the characters. -/
theorem scanChars_escaped (s rest : List Char) :
    scanChars (s.flatMap escapeChar ++ '"' :: rest) = .ok (s, rest) := by
  induction s with
  | nil =>
      rw [List.flatMap_nil, List.nil_append, scanChars.eq_def]
      rfl
  | cons c s ih =>
      rw [List.flatMap_cons, List.append_assoc, scanChars_escapeChar, ih]
      rfl

end TableGateway.Json
