import Mathlib.Algebra.Order.Field.Power
import Mathlib.Tactic.FieldSimp
import Mathlib.Tactic.Linarith
import Mathlib.Tactic.NormNum
import Mathlib.Tactic.Positivity
import TableGateway.Number.Shortest
import TableGateway.Proofs.Number.Rounding

/-!
# Seventeen digits suffice

The search for the shortest digits always ends at a grid point of the interval, with at most
seventeen digits. Half a step of the grid of seventeen digits is less than the distance from a
number to either end of its interval, so one of the two grid points around the number lies inside.

The decimal that is found is therefore at most as large as the one of the largest finite number,
which has the digits `17976931348623157`.

## Conventions

Intervals are compared as rational numbers: `middle` is the number itself, and the grid points are
`k * 10 ^ e`. A decimal stands for the rational number `Decimal.toRat`. The estimate `guess` of the
decade takes `0.30103` for the decimal logarithm of two.

## Main results

* `Binary64.Interval.Narrow.decade_bounds`: the estimate of the decade is always corrected.
* `Binary64.Interval.Narrow.seventeen`: seventeen digits suffice.
* `Binary64.shortest_bounds`: how many digits there are, and that they lie in the interval.
* `Binary64.shortest_le_longest`: no decimal exceeds that of the largest number.
-/

namespace TableGateway

/-! ### Powers of two and of ten -/

/-- Powers of ten are positive. -/
theorem tenTo_pos (n : Nat) : 0 < tenTo n := Nat.pow_pos (by decide)

/-- A power of ten as a quotient of two natural numbers, one of which is one. -/
theorem ten_zpow (e : Int) : (10 : ℚ) ^ e = tenTo e.toNat / tenTo (-e).toNat := by
  cases e with
  | ofNat n => simp [tenTo]
  | negSucc n => simp [tenTo, zpow_negSucc]

/-- Two powers compare as some power of them does. -/
theorem zpow_le_zpow_of_pow {n : Nat} (hn : n ≠ 0) {b e : Int} {x y : ℚ} (hx : 0 < x) (hy : 0 < y)
    (h : (x ^ n) ^ b ≤ y ^ (n * e)) : x ^ b ≤ y ^ e := by
  refine (pow_le_pow_iff_left₀ (zpow_pos hx b).le (zpow_pos hy e).le hn).mp ?_
  have hswap (z : ℚ) (k : Int) : (z ^ k) ^ n = (z ^ n) ^ k := by
    rw [← zpow_natCast, ← zpow_natCast, ← zpow_mul, ← zpow_mul, mul_comm]
  rwa [hswap, hswap, ← zpow_natCast y, ← zpow_mul]

/-- The logarithm of two lies between `59 / 196` and `28 / 93`, which is near enough to `0.30103`
for all exponents that occur. -/
theorem two_zpow_le_ten_zpow {b e : Int} (hlow : -1100 ≤ b) (hhigh : b ≤ 1100)
    (h : 30103 * b + 50000 ≤ 100000 * e) : (2 : ℚ) ^ b ≤ 10 ^ e := by
  have hten : (1 : ℚ) ≤ 10 := by norm_num
  obtain hb | hb := le_total 0 b
  · refine zpow_le_zpow_of_pow (n := 93) (by decide) (by norm_num) (by norm_num) ?_
    calc ((2 : ℚ) ^ 93) ^ b ≤ (10 ^ 28) ^ b := zpow_le_zpow_left₀ hb (by norm_num) (by norm_num)
      _ = 10 ^ (28 * b) := by rw [zpow_mul]; norm_num
      _ ≤ 10 ^ (93 * e) := zpow_le_zpow_right₀ hten (by omega)
  · obtain ⟨c, rfl⟩ : ∃ c, b = -c := ⟨-b, by omega⟩
    refine zpow_le_zpow_of_pow (n := 196) (by decide) (by norm_num) (by norm_num) ?_
    have hpowers : ((10 : ℚ) ^ 59) ^ c ≤ (2 ^ 196) ^ c :=
      zpow_le_zpow_left₀ (by omega) (by norm_num) (by norm_num)
    calc ((2 : ℚ) ^ 196) ^ (-c) ≤ (10 ^ 59) ^ (-c) := by
          rw [zpow_neg, zpow_neg]
          exact inv_anti₀ (by positivity) hpowers
      _ = 10 ^ (59 * -c) := by rw [zpow_mul]; norm_num
      _ ≤ 10 ^ (196 * e) := zpow_le_zpow_right₀ hten (by omega)

/-- The comparison the other way round, by taking inverses. -/
theorem ten_zpow_le_two_zpow {b e : Int} (hlow : -1100 ≤ b) (hhigh : b ≤ 1100)
    (h : 100000 * e + 50000 ≤ 30103 * b) : (10 : ℚ) ^ e ≤ 2 ^ b := by
  have hinverse := two_zpow_le_ten_zpow (b := -b) (e := -e) (by omega) (by omega) (by omega)
  rw [zpow_neg, zpow_neg] at hinverse
  exact (inv_le_inv₀ (by positivity) (by positivity)).mp hinverse

namespace Decimal

/-- The number that a decimal stands for. -/
def toRat (d : Decimal) : ℚ := d.digits * 10 ^ d.exponent

/-- Trimming moves zeros from the digits to the exponent. -/
theorem trimZeros_eq (fuel : Nat) (d : Decimal) : ∃ zeros : Nat,
    d.digits = (d.trimZeros fuel).digits * 10 ^ zeros ∧
      (d.trimZeros fuel).exponent = d.exponent + zeros := by
  induction fuel generalizing d with
  | zero => exact ⟨0, (Nat.mul_one _).symm, (Int.add_zero _).symm⟩
  | succ fuel ih =>
      rw [trimZeros]
      split_ifs with hzero
      · obtain ⟨n, hdigits, hexponent⟩ := ih ⟨d.digits / 10, d.exponent + 1⟩
        refine ⟨n + 1, ?_, ?_⟩
        · rw [Nat.pow_succ, ← Nat.mul_assoc, ← hdigits]
          exact (Nat.div_mul_cancel (Nat.dvd_of_mod_eq_zero hzero)).symm
        · rw [hexponent]
          push_cast
          ring
      · exact ⟨0, (Nat.mul_one _).symm, (Int.add_zero _).symm⟩

/-- Trimming does not change the number. -/
theorem toRat_trimZeros (fuel : Nat) (d : Decimal) : (d.trimZeros fuel).toRat = d.toRat := by
  obtain ⟨n, hdigits, hexponent⟩ := d.trimZeros_eq fuel
  rw [toRat, toRat, hexponent, hdigits, zpow_add₀ (by norm_num), zpow_natCast]
  push_cast
  ring

end Decimal

namespace Binary64

/-! ### The decade of a number -/

/-- The number in the middle of an interval. -/
def Interval.middle (i : Interval) : ℚ := i.value / i.denominator

/-- Whether the number reaches a power of ten. -/
def Interval.reaches (i : Interval) (e : Int) : Bool :=
  if 0 ≤ e then decide (i.denominator * tenTo e.toNat ≤ i.value)
  else decide (i.denominator ≤ i.value * tenTo (-e).toNat)

/-- The first estimate of the decade. -/
def Interval.guess (i : Interval) : Int :=
  ((Nat.log2 i.value : Int) - (Nat.log2 i.denominator : Int)) * 30103 / 100000 - 1

/-- The decade is found from the estimate. -/
theorem Interval.decade_eq (i : Interval) :
    i.decade =
      if i.reaches (i.guess + 2) then i.guess + 3
      else if i.reaches (i.guess + 1) then i.guess + 2
      else if i.reaches i.guess then i.guess + 1
      else i.guess := rfl

/-- The comparison with a power of ten, as one of rational numbers. -/
theorem Interval.reaches_iff {i : Interval} (hd : 0 < i.denominator) (e : Int) :
    i.reaches e = true ↔ (10 : ℚ) ^ e ≤ i.middle := by
  have hden : (0 : ℚ) < i.denominator := by exact_mod_cast hd
  unfold reaches middle
  rw [le_div_iff₀ hden]
  split_ifs with h
  · obtain ⟨n, rfl⟩ := Int.eq_ofNat_of_zero_le h
    rw [decide_eq_true_iff, zpow_natCast, Int.toNat_natCast, mul_comm]
    exact_mod_cast Iff.rfl
  · obtain ⟨n, rfl⟩ : ∃ n : Nat, e = -n := ⟨(-e).toNat, by omega⟩
    rw [decide_eq_true_iff, zpow_neg, zpow_natCast, neg_neg, Int.toNat_natCast,
      inv_mul_le_iff₀ (by positivity), mul_comm]
    exact_mod_cast Iff.rfl

/-- An interval as those of finite numbers are. Either end is further away from the number than that
number divided by `2 * 10 ^ 16`. -/
structure Interval.Narrow (i : Interval) : Prop where
  denominator : i.denominator = twoTo 1076
  positive : 0 < i.low
  bounded : Nat.log2 i.value < 2150
  below : 2 * 10 ^ 16 * i.low + i.value < 2 * 10 ^ 16 * i.value
  above : 2 * 10 ^ 16 * i.value + i.value < 2 * 10 ^ 16 * i.high

namespace Interval.Narrow

variable {i : Interval} (h : i.Narrow)

include h

/-- The denominator is positive. -/
theorem denominator_pos : 0 < i.denominator := by
  rw [h.denominator]
  exact twoTo_pos 1076

/-- The number is positive. -/
theorem value_pos : 0 < i.value := by
  have hbelow := h.below
  omega

/-- **The decade.** The estimate is at most two less than it, so that one of the powers that are
tried tells it. -/
theorem decade_bounds : (10 : ℚ) ^ (i.decade - 1) ≤ i.middle ∧ i.middle < 10 ^ i.decade := by
  have hlog := h.bounded
  have hvalue := h.value_pos
  obtain ⟨b, hb⟩ : ∃ b : Int, b = Nat.log2 i.value - 1076 := ⟨_, rfl⟩
  have hguess : i.guess = b * 30103 / 100000 - 1 := by
    rw [guess, h.denominator, twoTo_eq, Nat.log2_two_pow, hb, Nat.cast_ofNat]
  have hmiddle : (2 : ℚ) ^ b ≤ i.middle ∧ i.middle < 2 ^ (b + 1) := by
    have hsplit : (2 : ℚ) ^ b = 2 ^ Nat.log2 i.value / 2 ^ 1076 := by
      rw [hb, zpow_sub₀ (by norm_num), zpow_natCast, zpow_ofNat]
    have hlower : ((2 ^ Nat.log2 i.value : Nat) : ℚ) ≤ i.value :=
      Nat.cast_le.mpr (Nat.log2_self_le hvalue.ne')
    have hupper : (i.value : ℚ) < (2 ^ (Nat.log2 i.value + 1) : Nat) :=
      Nat.cast_lt.mpr Nat.lt_log2_self
    rw [zpow_add_one₀ (by norm_num), hsplit, middle, h.denominator, twoTo_eq]
    rw [Nat.cast_pow] at hlower hupper ⊢
    rw [pow_succ] at hupper
    rw [div_mul_eq_mul_div]
    exact ⟨div_le_div_of_nonneg_right hlower (by positivity),
      div_lt_div_of_pos_right hupper (by positivity)⟩
  have hreached : (10 : ℚ) ^ i.guess ≤ i.middle :=
    (ten_zpow_le_two_zpow (by omega) (by omega) (by omega)).trans hmiddle.1
  have hmissed : i.middle < (10 : ℚ) ^ (i.guess + 3) :=
    hmiddle.2.trans_le (two_zpow_le_ten_zpow (by omega) (by omega) (by omega))
  rw [decade_eq]
  simp only [reaches_iff h.denominator_pos]
  split_ifs with htwo hone
  · exact ⟨by rwa [show i.guess + 3 - 1 = i.guess + 2 by ring], hmissed⟩
  · exact ⟨by rwa [show i.guess + 2 - 1 = i.guess + 1 by ring], not_le.mp htwo⟩
  · exact ⟨by rwa [show i.guess + 1 - 1 = i.guess by ring], not_le.mp hone⟩

end Interval.Narrow

/-! ### Points of a grid -/

/-- The last grid point up to the number. -/
def Interval.floorOn (i : Interval) (e : Int) : Nat :=
  i.value * tenTo (-e).toNat / (i.denominator * tenTo e.toNat)

/-- Whether a grid point lies in the interval. -/
def Interval.holds (i : Interval) (e : Int) (k : Nat) : Bool :=
  i.contains (k * tenTo e.toNat) (tenTo (-e).toNat)

/-- A grid point as a quotient. -/
theorem grid_eq (k : Nat) (e : Int) :
    (k : ℚ) * 10 ^ e = (k * tenTo e.toNat : Nat) / (tenTo (-e).toNat : Nat) := by
  rw [ten_zpow, Nat.cast_mul, mul_div_assoc]

namespace Interval

section

variable {i : Interval} {e : Int} {k : Nat} (hd : 0 < i.denominator)

include hd

/-- A grid point in the interval lies between its ends. -/
theorem holds_bounds (h : i.holds e k = true) :
    (i.low : ℚ) / i.denominator ≤ k * 10 ^ e ∧ k * 10 ^ e ≤ (i.high : ℚ) / i.denominator := by
  have hden : (0 : ℚ) < i.denominator := Nat.cast_pos.mpr hd
  have hdown : (0 : ℚ) < (tenTo (-e).toNat : Nat) := Nat.cast_pos.mpr (tenTo_pos _)
  have hweak : i.low * tenTo (-e).toNat ≤ k * tenTo e.toNat * i.denominator ∧
      k * tenTo e.toNat * i.denominator ≤ i.high * tenTo (-e).toNat := by
    unfold holds contains at h
    dsimp only at h
    split_ifs at h <;> simp only [Bool.and_eq_true, decide_eq_true_eq] at h <;> omega
  rw [grid_eq, div_le_div_iff₀ hden hdown, div_le_div_iff₀ hdown hden]
  exact_mod_cast hweak

/-- A grid point strictly between the ends lies in the interval, whether or not they belong
to it. -/
theorem holds_of_between (hlow : (i.low : ℚ) / i.denominator < k * 10 ^ e)
    (hhigh : k * 10 ^ e < (i.high : ℚ) / i.denominator) : i.holds e k = true := by
  have hden : (0 : ℚ) < i.denominator := Nat.cast_pos.mpr hd
  have hdown : (0 : ℚ) < (tenTo (-e).toNat : Nat) := Nat.cast_pos.mpr (tenTo_pos _)
  have hstrict : i.low * tenTo (-e).toNat < k * tenTo e.toNat * i.denominator ∧
      k * tenTo e.toNat * i.denominator < i.high * tenTo (-e).toNat := by
    rw [grid_eq, div_lt_div_iff₀ hden hdown] at hlow
    rw [grid_eq, div_lt_div_iff₀ hdown hden] at hhigh
    exact_mod_cast And.intro hlow hhigh
  unfold holds contains
  dsimp only
  split_ifs <;> simp only [Bool.and_eq_true, decide_eq_true_eq] <;> omega

/-- The number lies between two neighbours on the grid. -/
theorem floorOn_bounds (e : Int) :
    (i.floorOn e : ℚ) * 10 ^ e ≤ i.middle ∧ i.middle < (i.floorOn e + 1 : Nat) * 10 ^ e := by
  have hden : (0 : ℚ) < i.denominator := Nat.cast_pos.mpr hd
  have hdown : (0 : ℚ) < (tenTo (-e).toNat : Nat) := Nat.cast_pos.mpr (tenTo_pos _)
  have hstep : 0 < i.denominator * tenTo e.toNat := Nat.mul_pos hd (tenTo_pos _)
  have hlower := Nat.div_mul_le_self (i.value * tenTo (-e).toNat) (i.denominator * tenTo e.toNat)
  have hupper := Nat.lt_div_mul_add hstep (a := i.value * tenTo (-e).toNat)
  rw [grid_eq, grid_eq, middle, div_le_div_iff₀ hdown hden, div_lt_div_iff₀ hden hdown]
  constructor
  · norm_cast
    calc i.floorOn e * tenTo e.toNat * i.denominator
        = i.floorOn e * (i.denominator * tenTo e.toNat) := by ring
      _ ≤ i.value * tenTo (-e).toNat := hlower
  · norm_cast
    calc i.value * tenTo (-e).toNat
        < i.floorOn e * (i.denominator * tenTo e.toNat) + i.denominator * tenTo e.toNat := hupper
      _ = (i.floorOn e + 1) * tenTo e.toNat * i.denominator := by ring

end

/-- The nearer one of the two neighbours. -/
def nearerOn (i : Interval) (tie : Tie) (e : Int) : Nat :=
  let den := i.denominator * tenTo e.toNat
  let r := 2 * (i.value * tenTo (-e).toNat % den)
  if r < den then i.floorOn e
  else if den < r then i.floorOn e + 1
  else match tie with
    | .away => i.floorOn e + 1
    | .even => if i.floorOn e % 2 = 0 then i.floorOn e else i.floorOn e + 1

/-- It is one of them. -/
theorem nearerOn_eq (i : Interval) (tie : Tie) (e : Int) :
    i.nearerOn tie e = i.floorOn e ∨ i.nearerOn tie e = i.floorOn e + 1 := by
  unfold nearerOn
  cases tie <;>
    · dsimp only
      split_ifs <;> simp

/-- The nearer neighbour is taken where both lie in the interval, otherwise the one that does. -/
theorem nearestOn_eq (i : Interval) (tie : Tie) (e : Int) :
    i.nearestOn tie e =
      if (i.floorOn e != 0 && i.holds e (i.floorOn e)) && i.holds e (i.floorOn e + 1) then
        some (i.nearerOn tie e)
      else if i.floorOn e != 0 && i.holds e (i.floorOn e) then some (i.floorOn e)
      else if i.holds e (i.floorOn e + 1) then some (i.floorOn e + 1)
      else none := by
  unfold nearestOn nearerOn
  cases tie <;> simp only [apply_ite some] <;> rfl

/-- What is taken is a positive neighbour in the interval. -/
theorem of_nearestOn {i : Interval} {tie : Tie} {e : Int} {k : Nat}
    (h : i.nearestOn tie e = some k) :
    i.holds e k = true ∧ k ≠ 0 ∧ k ≤ i.floorOn e + 1 := by
  rw [nearestOn_eq] at h
  split_ifs at h with hboth hbelow habove
  · simp only [Bool.and_eq_true, bne_iff_ne] at hboth
    obtain rfl := Option.some.inj h
    obtain heq | heq := i.nearerOn_eq tie e
    · rw [heq]
      exact ⟨hboth.1.2, hboth.1.1, Nat.le_succ _⟩
    · rw [heq]
      exact ⟨hboth.2, Nat.succ_ne_zero _, Nat.le_refl _⟩
  · simp only [Bool.and_eq_true, bne_iff_ne] at hbelow
    obtain rfl := Option.some.inj h
    exact ⟨hbelow.2, hbelow.1, Nat.le_succ _⟩
  · obtain rfl := Option.some.inj h
    exact ⟨habove, Nat.succ_ne_zero _, Nat.le_refl _⟩

/-- One is taken if there is one. -/
theorem exists_nearestOn {i : Interval} (tie : Tie) {e : Int}
    (h : i.floorOn e ≠ 0 ∧ i.holds e (i.floorOn e) = true ∨ i.holds e (i.floorOn e + 1) = true) :
    ∃ k, i.nearestOn tie e = some k := by
  rw [nearestOn_eq]
  split_ifs with hboth hbelow habove
  · exact ⟨_, rfl⟩
  · exact ⟨_, rfl⟩
  · exact ⟨_, rfl⟩
  · obtain ⟨hne, hholds⟩ | hholds := h
    · exact absurd (by simp [hne, hholds]) hbelow
    · exact absurd hholds habove

/-- How far away the ends are, for the numbers themselves. -/
theorem Narrow.margin {i : Interval} (h : i.Narrow) :
    (i.low : ℚ) / i.denominator + i.middle / (2 * 10 ^ 16) < i.middle ∧
      i.middle + i.middle / (2 * 10 ^ 16) < (i.high : ℚ) / i.denominator := by
  have hden : (0 : ℚ) < i.denominator := Nat.cast_pos.mpr h.denominator_pos
  have hbelow : ((2 * 10 ^ 16 * i.low + i.value : Nat) : ℚ) < (2 * 10 ^ 16 * i.value : Nat) :=
    Nat.cast_lt.mpr h.below
  have habove : ((2 * 10 ^ 16 * i.value + i.value : Nat) : ℚ) < (2 * 10 ^ 16 * i.high : Nat) :=
    Nat.cast_lt.mpr h.above
  have hlower := div_lt_div_of_pos_right hbelow hden
  have hupper := div_lt_div_of_pos_right habove hden
  push_cast at hlower hupper
  rw [add_div, mul_div_assoc, mul_div_assoc, ← middle] at hlower hupper
  constructor <;> linarith

/-- **Seventeen digits suffice.** A step `g` of the grid is at most the number divided by `10 ^ 16`,
so both ends are further away than half a step, and the nearer neighbour lies between them. -/
theorem Narrow.seventeen {i : Interval} (h : i.Narrow) (tie : Tie) :
    ∃ k, i.nearestOn tie (i.decade - 17) = some k := by
  have hd := h.denominator_pos
  obtain ⟨g, hg⟩ : ∃ g : ℚ, g = 10 ^ (i.decade - 17) := ⟨_, rfl⟩
  have hpos : 0 < g := hg ▸ zpow_pos (by norm_num) _
  have hstep : 10 ^ 16 * g ≤ i.middle := by
    have hsplit : (10 : ℚ) ^ (i.decade - 1) = 10 ^ 16 * g := by
      rw [hg, show i.decade - 1 = 16 + (i.decade - 17) by ring, zpow_add₀ (by norm_num), zpow_ofNat]
    exact hsplit ▸ h.decade_bounds.1
  obtain ⟨hlow, hhigh⟩ := h.margin
  obtain ⟨hlower, hupper⟩ := floorOn_bounds hd (i.decade - 17)
  rw [← hg] at hlower hupper
  push_cast at hupper
  have hne : i.floorOn (i.decade - 17) ≠ 0 := by
    intro hzero
    rw [hzero, Nat.cast_zero, zero_add, one_mul] at hupper
    linarith
  refine exists_nearestOn tie ?_
  by_cases hhalf : i.middle - i.floorOn (i.decade - 17) * g ≤ g / 2
  · exact .inl ⟨hne, holds_of_between hd (by rw [← hg]; linarith) (by rw [← hg]; linarith)⟩
  · refine .inr (holds_of_between hd ?_ ?_)
    · rw [← hg]
      push_cast
      linarith
    · rw [← hg]
      push_cast
      linarith

/-! ### The search -/

/-- The search ends at the point of the first grid that has one. -/
theorem search_eq {i : Interval} (tie : Tie) (decade : Int) (fuel count : Nat)
    (h : ∃ k, i.nearestOn tie (decade - (count + fuel : Nat)) = some k) :
    ∃ c k, c ≤ count + fuel ∧ i.nearestOn tie (decade - (c : Nat)) = some k ∧
      i.search tie decade (fuel + 1) count = ⟨k, decade - (c : Nat)⟩ := by
  induction fuel generalizing count with
  | zero =>
      obtain ⟨k, hk⟩ := h
      refine ⟨count, k, Nat.le_refl _, hk, ?_⟩
      rw [Nat.add_zero] at hk
      rw [search, hk]
  | succ fuel ih =>
      cases hk : i.nearestOn tie (decade - (count : Nat)) with
      | some k =>
          refine ⟨count, k, Nat.le_add_right _ _, hk, ?_⟩
          rw [search, hk]
      | none =>
          obtain ⟨c, k, hc, hfound, hsearch⟩ :=
            ih (count + 1) (by rwa [Nat.add_right_comm, Nat.add_assoc])
          refine ⟨c, k, by omega, hfound, ?_⟩
          rw [search, hk]
          exact hsearch

/-- What a search finds. The neighbours of the number on a grid of `c` digits are at most
`10 ^ c`. -/
theorem Narrow.search_bounds {i : Interval} (h : i.Narrow) (tie : Tie) :
    0 < (i.search tie i.decade 17 1).digits ∧ (i.search tie i.decade 17 1).digits ≤ 10 ^ 17 ∧
      (i.low : ℚ) / i.denominator ≤ (i.search tie i.decade 17 1).toRat ∧
      (i.search tie i.decade 17 1).toRat ≤ (i.high : ℚ) / i.denominator := by
  obtain ⟨c, k, hc, hfound, hsearch⟩ :=
    i.search_eq tie i.decade 16 1 (h.seventeen tie)
  obtain ⟨hholds, hne, hk⟩ := of_nearestOn hfound
  obtain ⟨hlow, hhigh⟩ := holds_bounds h.denominator_pos hholds
  have hfloor : i.floorOn (i.decade - (c : Nat)) < 10 ^ c := by
    have hstep : (0 : ℚ) < 10 ^ (i.decade - (c : Nat)) := zpow_pos (by norm_num) _
    have hscaled : (i.floorOn (i.decade - (c : Nat)) : ℚ) * 10 ^ (i.decade - (c : Nat)) <
        (10 ^ c : Nat) * 10 ^ (i.decade - (c : Nat)) := by
      refine (floorOn_bounds h.denominator_pos _).1.trans_lt (h.decade_bounds.2.trans_eq ?_)
      have hsplit := zpow_add₀ (show (10 : ℚ) ≠ 0 by norm_num) (c : Int) (i.decade - c)
      rw [zpow_natCast, add_sub_cancel] at hsplit
      push_cast
      exact hsplit
    exact Nat.cast_lt.mp (lt_of_mul_lt_mul_right hscaled hstep.le)
  have hdigits : 10 ^ c ≤ 10 ^ 17 := Nat.pow_le_pow_right (by decide) hc
  rw [hsearch]
  exact ⟨Nat.pos_of_ne_zero hne, by dsimp only; omega, hlow, hhigh⟩

end Interval

/-! ### The shortest digits of a number -/

/-- Only the zeros have no significand. -/
theorem significand_pos {x : Binary64} (h : x.isZero = false) : 0 < x.significand := by
  unfold significand
  split_ifs with hfield
  · simp only [isZero, hfield, beq_self_eq_true, Bool.true_and, beq_eq_false_iff_ne] at h
    exact Nat.pos_of_ne_zero h
  · exact Nat.add_pos_left (by decide) _

/-- All intervals have the same denominator. -/
theorem denominator_interval (x : Binary64) : x.interval.denominator = twoTo 1076 := by
  change 4 * twoTo 1074 = twoTo 1076
  decide +kernel

/-- The interval of a number. The significand has at most 53 bits, and `2 ^ 53` is less than
`10 ^ 16`. -/
theorem narrow_interval {x : Binary64} (hfinite : x.isFinite = true) (hzero : x.isZero = false) :
    x.interval.Narrow where
  denominator := x.denominator_interval
  positive := by
    have hpos := significand_pos hzero
    change 0 < (4 * x.significand - _) * twoTo x.unit
    exact Nat.mul_pos (by split_ifs <;> omega) (twoTo_pos _)
  bounded := by
    have hlt := x.significand_lt
    have hunit := unit_le hfinite
    have hfour : 4 * x.significand < twoTo 55 := by
      simp only [hiddenBit] at hlt
      exact Nat.lt_of_lt_of_eq (by omega : 4 * x.significand < 2 ^ 55) rfl
    refine log2_lt_of_lt_twoTo (by decide) ?_
    calc 4 * x.significand * twoTo x.unit < twoTo 55 * twoTo x.unit :=
          Nat.mul_lt_mul_of_pos_right hfour (twoTo_pos _)
      _ = twoTo (55 + x.unit) := twoTo_mul _ _
      _ ≤ twoTo 2150 := twoTo_mono (by omega)
  below := by
    have hlt := x.significand_lt
    have hpos := significand_pos hzero
    change 2 * 10 ^ 16 * ((4 * x.significand - _) * twoTo x.unit) +
      4 * x.significand * twoTo x.unit < 2 * 10 ^ 16 * (4 * x.significand * twoTo x.unit)
    rw [← Nat.mul_assoc, ← Nat.mul_assoc, ← Nat.add_mul]
    refine Nat.mul_lt_mul_of_pos_right ?_ (twoTo_pos _)
    have hhidden : hiddenBit = 4503599627370496 := rfl
    split_ifs with hsharp
    · simp only [Bool.and_eq_true, decide_eq_true_eq] at hsharp
      omega
    · omega
  above := by
    have hlt := x.significand_lt
    change 2 * 10 ^ 16 * (4 * x.significand * twoTo x.unit) + 4 * x.significand * twoTo x.unit <
      2 * 10 ^ 16 * ((4 * x.significand + 2) * twoTo x.unit)
    rw [← Nat.mul_assoc _ _ (twoTo x.unit), ← Nat.mul_assoc _ (4 * x.significand + 2),
      ← Nat.add_mul]
    simp only [hiddenBit] at hlt
    exact Nat.mul_lt_mul_of_pos_right (by omega) (twoTo_pos _)

/-- **The shortest digits** are at most seventeen, unless they are a one and seventeen zeros, and
they write a number of the interval. -/
theorem shortest_bounds {x : Binary64} (hfinite : x.isFinite = true) (hzero : x.isZero = false)
    (tie : Tie) :
    0 < (x.shortest tie).digits ∧ (x.shortest tie).digits ≤ 10 ^ 17 ∧
      (x.interval.low : ℚ) / x.interval.denominator ≤ (x.shortest tie).toRat ∧
      (x.shortest tie).toRat ≤ (x.interval.high : ℚ) / x.interval.denominator := by
  obtain ⟨hpos, hle, hlow, hhigh⟩ := (narrow_interval hfinite hzero).search_bounds tie
  obtain ⟨n, hdigits, -⟩ := (x.interval.search tie x.interval.decade 17 1).trimZeros_eq 20
  have htrimmed : (x.shortest tie).toRat = (x.interval.search tie x.interval.decade 17 1).toRat :=
    Decimal.toRat_trimZeros 20 _
  have hfewer : (x.shortest tie).digits ≤ (x.shortest tie).digits * 10 ^ n :=
    Nat.le_mul_of_pos_right _ (Nat.pow_pos (by decide))
  change _ = (x.shortest tie).digits * _ at hdigits
  rw [htrimmed]
  refine ⟨Nat.pos_of_ne_zero ?_, (hfewer.trans_eq hdigits.symm).trans hle, hlow, hhigh⟩
  intro hnone
  rw [hdigits, hnone, Nat.zero_mul] at hpos
  exact absurd hpos (by decide)

/-! ### The largest number -/

/-- The largest finite number. -/
def largest : Binary64 := ofFields false (topExponent * hiddenBit - 1)

/-- The digits of the largest number. -/
theorem shortest_largest : largest.shortest .even = ⟨17976931348623157, 292⟩ := by decide +kernel

/-- The number that they write. -/
def longest : ℚ := 17976931348623157 * 10 ^ 292

/-- The interval of any smaller number ends below it. Either the significand is not full or the
exponent is not the largest one. -/
theorem high_le_longest {x : Binary64} (hfinite : x.isFinite = true)
    (hless : x.significand ≠ largest.significand ∨ x.unit ≠ largest.unit) :
    (x.interval.high : ℚ) / x.interval.denominator ≤ longest := by
  have hlt := x.significand_lt
  have hunit := unit_le hfinite
  have hlargest : largest.significand = 2 * hiddenBit - 1 ∧ largest.unit = 2045 := by decide +kernel
  rw [hlargest.1, hlargest.2] at hless
  simp only [hiddenBit] at hlt hless
  have hhigh : x.interval.high ≤ (2 ^ 55 - 6) * twoTo 2045 := by
    change (4 * x.significand + 2) * twoTo x.unit ≤ _
    by_cases htop : x.unit = 2045
    · rw [htop]
      exact Nat.mul_le_mul_right _ (by omega)
    · have hpower : twoTo x.unit ≤ twoTo 2044 := twoTo_mono (by omega)
      have hfour : 4 * x.significand + 2 ≤ 2 ^ 55 := by omega
      exact (Nat.mul_le_mul hfour hpower).trans (by decide +kernel)
  have hbound : (2 ^ 55 - 6) * twoTo 2045 ≤ 17976931348623157 * 10 ^ 292 * twoTo 1076 := by
    decide +kernel
  rw [denominator_interval, div_le_iff₀ (Nat.cast_pos.mpr (twoTo_pos _)), longest]
  exact_mod_cast hhigh.trans hbound

/-- **No decimal exceeds that of the largest number.** -/
theorem shortest_le_longest {x : Binary64} (hfinite : x.isFinite = true)
    (hzero : x.isZero = false) : (x.shortest .even).toRat ≤ longest := by
  by_cases hless : x.significand ≠ largest.significand ∨ x.unit ≠ largest.unit
  · exact (shortest_bounds hfinite hzero .even).2.2.2.trans (high_le_longest hfinite hless)
  · rw [not_or, not_not, not_not] at hless
    have hinterval : x.interval = largest.interval := by rw [interval, interval, hless.1, hless.2]
    have hshortest : x.shortest .even = ⟨17976931348623157, 292⟩ := by
      rw [← shortest_largest, shortest, shortest, hinterval]
    rw [hshortest]
    exact le_of_eq rfl

end Binary64

end TableGateway
