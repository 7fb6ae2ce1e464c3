import TableGateway.Proofs.Json.Reading
import TableGateway.Proofs.Number.Digits

/-!
# Reading reals that were written

A finite real is written with a point or an exponent, and so it is read as a real again and never as
an integer. The real that is read has the same sign and is finite. It need not be the same: the
digits and the power of ten are rounded one after the other.

That the text is not refused has to be shown for large numbers only. The digits times the power of
ten may be rounded to infinity, but not where the decimal stays below the one of the largest number.

## Conventions

`Moderate` decimals are those of finite numbers, as they are written. A text `Writes` a decimal if
that is what the scanner makes of it before anything is rounded.

## Main results

* `Json.realOf_moderate`: a moderate decimal is read as a finite real.
* `Binary64.shortest_moderate`: the shortest digits are moderate.
* `Json.writes_positional`, `Json.writes_scientific`: the two ways of writing a decimal.
* `Json.readValue_real`: a finite real.
-/

namespace TableGateway

/-- Powers of ten grow with the exponent. -/
theorem tenTo_mono {m n : Nat} (h : m ≤ n) : tenTo m ≤ tenTo n :=
  Nat.pow_le_pow_right (by decide) h

/-- A decimal that is read without being refused. -/
structure Decimal.Moderate (d : Decimal) : Prop where
  digits_le : d.digits ≤ 10 ^ 17
  exponent_ge : -616 ≤ d.exponent
  exponent_le : d.exponent ≤ 308
  le_longest : d.toRat ≤ Binary64.longest

namespace Binary64

/-! ### Which decimals are written -/

/-- **The shortest digits** of a finite number are moderate. -/
theorem shortest_moderate {x : Binary64} (hfinite : x.isFinite = true) (hzero : x.isZero = false) :
    (x.shortest .even).Moderate := by
  obtain ⟨hpos, hdigits, hlow, -⟩ := shortest_bounds hfinite hzero .even
  have hlongest := shortest_le_longest hfinite hzero
  have hten : (1 : ℚ) < 10 := by norm_num
  have hpower : (0 : ℚ) < 10 ^ (x.shortest .even).exponent := zpow_pos (by norm_num) _
  refine ⟨hdigits, ?_, ?_, hlongest⟩
  · have hsteps : (1 : ℚ) ≤ x.interval.low := by
      exact_mod_cast (narrow_interval hfinite hzero).positive
    have hleast : (10 : ℚ) ^ (-330 : Int) ≤ 10 ^ (17 + (x.shortest .even).exponent) := by
      calc (10 : ℚ) ^ (-330 : Int) ≤ 2 ^ (-1076 : Int) :=
            ten_zpow_le_two_zpow (by decide) (by decide) (by decide)
        _ = 1 / twoTo 1076 := by
            rw [twoTo_eq, zpow_neg, Nat.cast_pow, one_div, zpow_ofNat, Nat.cast_ofNat]
        _ ≤ (x.interval.low : ℚ) / x.interval.denominator := by
            rw [denominator_interval]
            exact div_le_div_of_nonneg_right hsteps (Nat.cast_nonneg _)
        _ ≤ (x.shortest .even).toRat := hlow
        _ ≤ 10 ^ 17 * 10 ^ (x.shortest .even).exponent :=
            mul_le_mul_of_nonneg_right (by exact_mod_cast hdigits) hpower.le
        _ = 10 ^ (17 + (x.shortest .even).exponent) := by rw [zpow_add₀ (by norm_num), zpow_ofNat]
    have hexponents := (zpow_le_zpow_iff_right₀ hten).mp hleast
    omega
  · have hone : (1 : ℚ) ≤ (x.shortest .even).digits := by exact_mod_cast hpos
    have hmost : (10 : ℚ) ^ (x.shortest .even).exponent < 10 ^ (309 : Int) := by
      calc (10 : ℚ) ^ (x.shortest .even).exponent ≤ (x.shortest .even).toRat :=
            le_mul_of_one_le_left hpower.le hone
        _ ≤ longest := hlongest
        _ < 10 ^ (309 : Int) := by
            rw [longest, show (309 : Int) = 17 + 292 by rfl, zpow_add₀ (by norm_num), zpow_ofNat,
              zpow_ofNat]
            exact mul_lt_mul_of_pos_right (by norm_num) (by positivity)
    have hexponents := (zpow_lt_zpow_iff_right₀ hten).mp hmost
    omega

/-! ### Rounding a decimal -/

/-- The most digits that a moderate decimal with an exponent can have. -/
def mostDigits (e : Nat) : Nat := min (10 ^ 17) (17976931348623157 * 10 ^ 292 / tenTo e)

/-- The products with large powers of ten, one for each exponent. -/
theorem isFinite_products :
    ∀ k < 17, ((ofNat (mostDigits (292 + k))).mul (ofNat (tenTo (292 + k)))).isFinite = true := by
  decide +kernel

/-- A moderate decimal has no more digits. -/
theorem digits_le_mostDigits {d : Decimal} {e : Nat} (h : d.Moderate) (he : d.exponent = e) :
    d.digits ≤ mostDigits e := by
  have hle := h.le_longest
  rw [Decimal.toRat, he, longest, zpow_natCast] at hle
  exact Nat.le_min.mpr ⟨h.digits_le,
    (Nat.le_div_iff_mul_le (tenTo_pos e)).mpr (by exact_mod_cast hle)⟩

/-- The product of the digits with the power of ten is finite. Up to the exponent `291` seventeen
digits are never too many. -/
theorem isFinite_mul_tenTo {d : Decimal} {e : Nat} (h : d.Moderate) (he : d.exponent = e) :
    ((ofNat d.digits).mul (ofNat (tenTo e))).isFinite = true := by
  have hle := h.exponent_le
  by_cases hsmall : e < 292
  · have hpower : tenTo e ≤ tenTo 291 := tenTo_mono (by omega)
    exact isFinite_mul_ofNat h.digits_le hpower (by decide +kernel)
  · have hfinite := isFinite_products (e - 292) (by omega)
    rw [Nat.add_sub_cancel' (by omega)] at hfinite
    exact isFinite_mul_ofNat (digits_le_mostDigits h he) (Nat.le_refl _) hfinite

/-- The digits alone are finite. -/
theorem isFinite_ofNat {n : Nat} (h : n ≤ 10 ^ 17) : (ofNat n).isFinite = true :=
  have hfinite : (ofNat (10 ^ 17)).isFinite = true := by decide +kernel
  isFinite_ofRatio (by decide) h hfinite

/-- A natural number has no sign. -/
theorem isNegative_ofNat (n : Nat) : (ofNat n).isNegative = false := isNegative_ofRatio _ _ _

/-- Dividing by a natural number keeps a number without a sign. -/
theorem isNegative_div_ofNat {x : Binary64} (n : Nat) (hx : x.isNegative = false) :
    (x.div (ofNat n)).isNegative = false := by
  rw [div, isNegative_ofRatio, hx, isNegative_ofNat]
  rfl

end Binary64

namespace Json

open Binary64

variable {fuel levels : Nat}

/-- A single division. -/
theorem scaleByTen_down {x : Binary64} {e : Int} (hx : x.isFinite = true)
    (hsign : x.isNegative = false) (hlow : -308 ≤ e) (hhigh : e < 0) :
    ∃ y, scaleByTen (fuel + 1) x e = .ok y ∧ y.isFinite = true ∧ y.isNegative = false := by
  have hpower : 2 ≤ tenTo (-e).toNat :=
    Nat.le_trans (by decide : 2 ≤ tenTo 1) (tenTo_mono (by omega))
  refine ⟨_, ?_, isFinite_div_ofNat hx hpower, isNegative_div_ofNat _ hsign⟩
  rw [scaleByTen, if_pos (by omega), if_neg (by omega)]

/-- A moderate decimal is scaled by one product or at most two divisions. -/
theorem scaleByTen_moderate {d : Decimal} (h : d.Moderate) :
    ∃ y, scaleByTen 8 (ofNat d.digits) d.exponent = .ok y ∧ y.isFinite = true ∧
      y.isNegative = false := by
  have hx := isFinite_ofNat h.digits_le
  have hsign := isNegative_ofNat d.digits
  have hge := h.exponent_ge
  have hle := h.exponent_le
  by_cases hup : 0 ≤ d.exponent
  · obtain ⟨e, he⟩ := Int.eq_ofNat_of_zero_le hup
    have hfinite := isFinite_mul_tenTo h he
    refine ⟨_, ?_, hfinite, ?_⟩
    · rw [scaleByTen, he, if_pos (by omega), if_pos (by omega), Int.toNat_natCast]
      exact if_neg (not_isInfinite hfinite)
    · rw [mul, isNegative_ofRatio, hsign, isNegative_ofNat]
      rfl
  · by_cases hnear : d.exponent.natAbs ≤ 308
    · exact scaleByTen_down hx hsign (by omega) (by omega)
    · rw [scaleByTen, if_neg hnear]
      split_ifs
      · exact ⟨_, rfl, hx, hsign⟩
      · exact scaleByTen_down (isFinite_div_ofNat hx (by decide +kernel))
          (isNegative_div_ofNat _ hsign) (by omega) (by omega)

/-- **Moderate decimals** are read as finite reals, with the sign that stands in front. -/
theorem realOf_moderate {d : Decimal} (h : d.Moderate) (positive : Bool) :
    ∃ y, realOf positive d.digits d.exponent = .ok (.real y) ∧ y.isFinite = true ∧
      y.isNegative = !positive := by
  obtain ⟨y, hscale, hfinite, hsign⟩ := scaleByTen_moderate h
  unfold realOf
  rw [hscale]
  cases positive with
  | true => exact ⟨y, rfl, hfinite, hsign⟩
  | false =>
      refine ⟨y.neg, rfl, ?_, ?_⟩
      · rwa [isFinite_iff, absWord_neg, ← isFinite_iff]
      · rw [isNegative_neg, hsign]

/-! ### Texts of decimals -/

/-- The digits of a text. -/
theorem toList_digitText (n : Nat) : (digitText n).toList = Nat.toDigits 10 n := by
  simp [digitText]

/-- Their number. -/
theorem length_digitText (n : Nat) : (digitText n).length = (Nat.toDigits 10 n).length := by
  rw [← String.length_toList, toList_digitText]

/-- Zeros as characters. -/
theorem toList_zeros (n : Nat) : (zeros n).toList = List.replicate n '0' := String.toList_ofList

/-- Zeros are digits. -/
theorem isDigit_of_mem_zeros {n : Nat} : ∀ c ∈ List.replicate n '0', c.isDigit = true := by
  intro c hc
  rw [List.eq_of_mem_replicate hc]
  rfl

/-- Digits that begin as a positive number does. -/
theorem starts_of_head {ds : List Char} {n : Nat} (hn : n ≠ 0) (hds : ∀ c ∈ ds, c.isDigit = true)
    (hhead : ds.head? = (Nat.toDigits 10 n).head?) : Starts ds where
  digits := hds
  nonempty := by
    rintro rfl
    exact Nat.toDigits_ne_nil (List.head?_eq_none_iff.mp hhead.symm)
  lead := .inr (hhead ▸ head?_toDigits hn)

/-- The first digits of a positive number. -/
theorem starts_take {n k : Nat} (hn : n ≠ 0) (hk : k ≠ 0) :
    Starts ((Nat.toDigits 10 n).take k) := by
  refine starts_of_head hn ?_ (by rw [List.head?_take, if_neg hk])
  exact fun c hc => (starts_toDigits n).digits c (List.mem_of_mem_take hc)

/-- The other digits. -/
theorem isDigit_of_mem_drop {n k : Nat} :
    ∀ c ∈ (Nat.toDigits 10 n).drop k, c.isDigit = true :=
  fun c hc => (starts_toDigits n).digits c (List.mem_of_mem_drop hc)

/-- A text that is read as a decimal, whatever its sign. -/
structure Writes (text : List Char) (d : Decimal) : Prop where
  starts : ∃ ds cs, text = ds ++ cs ∧ Starts ds
  scan : ∀ positive, scanNumber positive text = realAt positive d.digits d.exponent

/-- The text of a moderate decimal is read as a finite real. -/
theorem Writes.readValue {text : List Char} {d : Decimal} (h : Writes text d) (hd : d.Moderate)
    (negative : Bool) :
    ∃ y, Json.readValue (fuel + 1) levels (signOf negative ++ text) =
        .ok (.number (.real y), []) ∧
      y.isFinite = true ∧ y.isNegative = negative := by
  obtain ⟨ds, cs, rfl, hds⟩ := h.starts
  obtain ⟨y, hreal, hfinite, hsign⟩ := realOf_moderate hd (!negative)
  refine ⟨y, readValue_number negative hds ?_, hfinite, by rw [hsign, Bool.not_not]⟩
  rw [h.scan, realAt, hreal]
  rfl

/-- Digits with a point between them. -/
theorem writes_point {ds fraction : List Char} {d : Decimal} (hds : Starts ds)
    (hfraction : ∀ c ∈ fraction, c.isDigit = true) (hne : fraction ≠ [])
    (hdigits : Nat.ofDigitChars 10 (ds ++ fraction) 0 = d.digits) (hle : d.digits ≤ 10 ^ 17)
    (hexponent : d.exponent = -(fraction.length : Int)) :
    Writes (ds ++ '.' :: fraction) d where
  starts := ⟨ds, _, rfl, hds⟩
  scan positive := by
    have hfits : d.digits ≤ maxNatural := Nat.le_trans hle (by decide)
    rw [scanNumber_point positive hds hfraction hne (hdigits.symm ▸ hfits), hdigits, hexponent]

/-- The zero behind the point of a whole number is a digit. -/
theorem isDigit_pointZero : ∀ c ∈ ['0'], c.isDigit = true :=
  List.forall_mem_singleton.mpr rfl

/-- The text of zero. -/
theorem writes_zero : Writes "0.0".toList ⟨0, -1⟩ :=
  writes_point (starts_toDigits 0) isDigit_pointZero (by decide) rfl (by decide) rfl

/-- Zero is moderate. -/
theorem moderate_zero : (⟨0, -1⟩ : Decimal).Moderate where
  digits_le := by decide
  exponent_ge := by decide
  exponent_le := by decide
  le_longest := by
    rw [Decimal.toRat, longest]
    norm_num

section

variable {d : Decimal} (hpos : 0 < d.digits) (hd : d.Moderate)

include hpos hd

/-- A whole number below `10 ^ 16` is written with a zero behind the point, which is one digit more
with an exponent of its own. -/
theorem writes_whole {e : Nat} (he : d.exponent = e) (hpoint : d.point ≤ 16) :
    ∃ d' : Decimal, d'.Moderate ∧ Writes (digitText d.digits ++ zeros e ++ ".0").toList d' := by
  have hfits : d.digits * 10 ^ e * 10 ≤ 10 ^ 17 := by
    rw [Decimal.point, length_digitText, he] at hpoint
    have hdigits : d.digits < 10 ^ (Nat.toDigits 10 d.digits).length :=
      (Nat.length_toDigits_le_iff (by decide) Nat.length_toDigits_pos).mp (Nat.le_refl _)
    calc d.digits * 10 ^ e * 10 ≤ 10 ^ (Nat.toDigits 10 d.digits).length * 10 ^ e * 10 :=
          Nat.mul_le_mul_right _ (Nat.mul_le_mul_right _ (Nat.le_of_lt hdigits))
      _ = 10 ^ ((Nat.toDigits 10 d.digits).length + e + 1) := by rw [pow_succ, pow_add]
      _ ≤ 10 ^ 17 := Nat.pow_le_pow_right (by decide) (by omega)
  refine ⟨⟨d.digits * 10 ^ e * 10, -1⟩, ⟨hfits, (by decide : (-616 : Int) ≤ -1),
    (by decide : (-1 : Int) ≤ 308), ?_⟩, ?_⟩
  · have hsame : (⟨d.digits * 10 ^ e * 10, -1⟩ : Decimal).toRat = d.toRat := by
      rw [Decimal.toRat, Decimal.toRat, he, zpow_natCast, zpow_neg_one]
      push_cast
      ring
    exact hsame ▸ hd.le_longest
  · have htext : (digitText d.digits ++ zeros e ++ ".0").toList =
        (Nat.toDigits 10 d.digits ++ List.replicate e '0') ++ '.' :: ['0'] := by
      rw [String.toList_append, String.toList_append, toList_digitText, toList_zeros]
      rfl
    have hstarts : Starts (Nat.toDigits 10 d.digits ++ List.replicate e '0') :=
      starts_of_head hpos.ne'
        (List.forall_mem_append.mpr ⟨(starts_toDigits _).digits, isDigit_of_mem_zeros⟩)
        (List.head?_append_of_ne_nil _ Nat.toDigits_ne_nil)
    rw [htext]
    refine writes_point hstarts isDigit_pointZero (by decide) ?_ hfits rfl
    rw [Nat.ofDigitChars_append, Nat.ofDigitChars_append, Nat.ofDigitChars_ten_toDigits,
      Nat.ofDigitChars_replicate_zero, Nat.ofDigitChars_cons, Nat.ofDigitChars_nil]
    change 10 * (10 ^ e * d.digits) + 0 = d.digits * 10 ^ e * 10
    ring

/-- A point between the digits divides them. -/
theorem writes_inside (hexponent : d.exponent < 0) (hinside : 0 < d.point) :
    Writes (String.ofList ((digitText d.digits).toList.take d.point.toNat) ++ "." ++
      String.ofList ((digitText d.digits).toList.drop d.point.toNat)).toList d := by
  rw [Decimal.point, length_digitText] at hinside ⊢
  obtain ⟨k, hk⟩ : ∃ k : Nat, ((Nat.toDigits 10 d.digits).length : Int) + d.exponent = k :=
    Int.eq_ofNat_of_zero_le hinside.le
  have hlength : (List.drop k (Nat.toDigits 10 d.digits)).length =
      (Nat.toDigits 10 d.digits).length - k := List.length_drop
  have htext : (String.ofList (List.take k (Nat.toDigits 10 d.digits)) ++ "." ++
        String.ofList (List.drop k (Nat.toDigits 10 d.digits))).toList =
      List.take k (Nat.toDigits 10 d.digits) ++ '.' :: List.drop k (Nat.toDigits 10 d.digits) := by
    simp [String.toList_append]
  rw [hk, Int.toNat_natCast, toList_digitText, htext]
  refine writes_point (starts_take hpos.ne' (by omega)) isDigit_of_mem_drop
    (List.ne_nil_of_length_pos (by omega)) ?_ hd.digits_le (by omega)
  rw [List.take_append_drop, Nat.ofDigitChars_ten_toDigits]

omit hpos in
/-- Zeros between the point and the digits count for the exponent only. -/
theorem writes_fraction (houtside : d.point ≤ 0) :
    Writes ("0." ++ zeros (-d.point).toNat ++ digitText d.digits).toList d := by
  rw [Decimal.point, length_digitText] at houtside ⊢
  obtain ⟨k, hk⟩ : ∃ k : Nat, -(((Nat.toDigits 10 d.digits).length : Int) + d.exponent) = k :=
    Int.eq_ofNat_of_zero_le (by omega)
  have htext : ("0." ++ zeros k ++ digitText d.digits).toList =
      ['0'] ++ '.' :: (List.replicate k '0' ++ Nat.toDigits 10 d.digits) := by
    rw [String.toList_append, String.toList_append, toList_digitText, toList_zeros]
    rfl
  rw [hk, Int.toNat_natCast, htext]
  refine writes_point (starts_toDigits 0)
    (List.forall_mem_append.mpr ⟨isDigit_of_mem_zeros, (starts_toDigits _).digits⟩)
    (List.append_ne_nil_of_right_ne_nil _ Nat.toDigits_ne_nil) ?_ hd.digits_le ?_
  · rw [Nat.ofDigitChars_append, Nat.ofDigitChars_append, Nat.ofDigitChars_replicate_zero]
    exact Nat.ofDigitChars_ten_toDigits
  · rw [List.length_append, List.length_replicate]
    omega

/-- **With a point.** It stands behind the digits, between them or in front of them. -/
theorem writes_positional (hpoint : d.point ≤ 16) :
    ∃ d' : Decimal, d'.Moderate ∧ Writes (d.positional ".0").toList d' := by
  unfold Decimal.positional
  dsimp only
  split_ifs with hwhole hinside
  · exact writes_whole hpos hd (Int.toNat_of_nonneg hwhole).symm hpoint
  · exact ⟨d, hd, writes_inside hpos hd (not_le.mp hwhole) hinside⟩
  · exact ⟨d, hd, writes_fraction hd (not_lt.mp hinside)⟩

end

/-- The characters of a decimal with an exponent: the first digit, the other ones behind a point if
there are any, and the exponent with its sign. -/
theorem toList_scientific (d : Decimal) :
    d.scientific.toList = (Nat.toDigits 10 d.digits).take 1 ++
      ((if (Nat.toDigits 10 d.digits).length ≤ 1 then []
        else '.' :: (Nat.toDigits 10 d.digits).drop 1) ++
      'e' :: powerSign (decide (d.point - 1 < 0)) :: Nat.toDigits 10 (d.point - 1).natAbs) := by
  have hsign : (if d.point - 1 < 0 then "-" else "+").toList =
      [powerSign (decide (d.point - 1 < 0))] := by
    by_cases hdown : d.point - 1 < 0
    · rw [if_pos hdown, decide_eq_true hdown]
      rfl
    · rw [if_neg hdown, decide_eq_false hdown]
      rfl
  have htail (ds : List Char) :
      (if ds.length ≤ 1 then "" else "." ++ String.ofList (ds.drop 1)).toList =
        if ds.length ≤ 1 then [] else '.' :: ds.drop 1 := by
    split_ifs
    · rfl
    · simp [String.toList_append]
  unfold Decimal.scientific
  dsimp only
  rw [String.toList_append, String.toList_append, String.toList_append, String.toList_append, hsign,
    htail, toList_digitText, toList_digitText, String.toList_ofList]
  simp only [List.append_assoc]
  rfl

/-- The exponent that is written is small, since there are at most eighteen digits. -/
theorem natAbs_le_maxExponent {d : Decimal} (hd : d.Moderate) :
    (d.point - 1).natAbs ≤ maxExponent := by
  have hshort : (Nat.toDigits 10 d.digits).length ≤ 18 :=
    (Nat.length_toDigits_le_iff (by decide) (by decide)).mpr
      (Nat.lt_of_le_of_lt hd.digits_le (by decide))
  have hge := hd.exponent_ge
  have hle := hd.exponent_le
  rw [Decimal.point, length_digitText, maxExponent]
  omega

/-- A sign and an absolute value. -/
theorem signed_natAbs (e : Int) :
    (if decide (e < 0) = true then -(e.natAbs : Int) else (e.natAbs : Int)) = e := by
  split_ifs with hdown <;> simp only [decide_eq_true_eq] at hdown <;> omega

/-- **With an exponent.** The digits behind the point and the exponent together make up the exponent
of the decimal. -/
theorem writes_scientific {d : Decimal} (hpos : 0 < d.digits) (hd : d.Moderate) :
    Writes d.scientific.toList d := by
  have hvalue : Nat.ofDigitChars 10 (Nat.toDigits 10 d.digits) 0 = d.digits :=
    Nat.ofDigitChars_ten_toDigits
  have hfits : Nat.ofDigitChars 10 (Nat.toDigits 10 d.digits) 0 ≤ maxNatural :=
    hvalue.symm ▸ Nat.le_trans hd.digits_le (by decide)
  have hlong : 0 < (Nat.toDigits 10 d.digits).length := Nat.length_toDigits_pos
  have hpower := natAbs_le_maxExponent hd
  obtain ⟨e, he⟩ : ∃ e, e = d.point - 1 := ⟨_, rfl⟩
  have hexponent : e = (Nat.toDigits 10 d.digits).length + d.exponent - 1 := by
    rw [he, Decimal.point, length_digitText]
  rw [← he] at hpower
  rw [toList_scientific, ← he]
  refine ⟨⟨_, _, rfl, starts_take hpos.ne' Nat.one_ne_zero⟩, fun positive => ?_⟩
  by_cases hone : (Nat.toDigits 10 d.digits).length ≤ 1
  · rw [if_pos hone, List.nil_append, List.take_of_length_le hone,
      scanNumber_exponent positive (starts_toDigits _) hfits _ hpower, hvalue, signed_natAbs]
    congr 1
    omega
  · have hlength : ((Nat.toDigits 10 d.digits).drop 1).length =
        (Nat.toDigits 10 d.digits).length - 1 := List.length_drop
    have hmore : (Nat.toDigits 10 d.digits).drop 1 ≠ [] := List.ne_nil_of_length_pos (by omega)
    have hscan := scanNumber_pointExponent positive (starts_take hpos.ne' Nat.one_ne_zero)
      isDigit_of_mem_drop hmore (by rwa [List.take_append_drop]) (decide (e < 0)) hpower
    rw [if_neg hone, List.cons_append, hscan, List.take_append_drop, hvalue, signed_natAbs]
    congr 1
    omega

/-! ### Finite reals -/

/-- The text of a finite real, behind its sign. -/
theorem exists_writes {x : Binary64} (hfinite : x.isFinite = true) :
    ∃ text d, Writes text d ∧ d.Moderate ∧
      (writeValue (.real x)).toList = signOf x.isNegative ++ text := by
  have hsign : x.signText.toList = signOf x.isNegative := by
    unfold signText
    cases x.isNegative <;> rfl
  have htext : (writeValue (.real x)) = (x.exponential?).getD "null" := rfl
  rw [htext, exponential?, if_neg (by rw [hfinite]; decide)]
  dsimp only
  split_ifs with hzero hplain
  · refine ⟨_, _, writes_zero, moderate_zero, ?_⟩
    rw [Option.getD_some, String.toList_append, hsign]
  · simp only [Bool.not_eq_true] at hzero
    simp only [Bool.and_eq_true, decide_eq_true_eq] at hplain
    obtain ⟨d, hd, hwrites⟩ := writes_positional (shortest_bounds hfinite hzero .even).1
      (shortest_moderate hfinite hzero) (by omega)
    refine ⟨_, d, hwrites, hd, ?_⟩
    rw [Option.getD_some, String.toList_append, hsign]
  · simp only [Bool.not_eq_true] at hzero
    have hd := shortest_moderate hfinite hzero
    refine ⟨_, _, writes_scientific (shortest_bounds hfinite hzero .even).1 hd, hd, ?_⟩
    rw [Option.getD_some, String.toList_append, hsign]

/-- **Finite reals.** -/
theorem readValue_real {x : Binary64} (hfinite : x.isFinite = true) :
    ∃ y, readValue (fuel + 1) levels (writeValue (.real x)).toList = .ok (.number (.real y), []) ∧
      y.isFinite = true ∧ y.isNegative = x.isNegative := by
  obtain ⟨text, d, hwrites, hd, htext⟩ := exists_writes hfinite
  rw [htext]
  exact hwrites.readValue hd x.isNegative

end Json

end TableGateway
