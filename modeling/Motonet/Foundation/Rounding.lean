import Mathlib.Algebra.Order.Field.Power
import Mathlib.Algebra.Order.Floor.Semifield
import Mathlib.Data.Int.Log
import Mathlib.Data.Rat.Floor
import Mathlib.Tactic.FieldSimp
import Mathlib.Tactic.Linarith
import Mathlib.Tactic.Positivity
import Mathlib.Tactic.Ring

/-!
# Rounding to a fixed precision

Non-negative rational numbers rounded to the nearest number with a given count of significant bits,
ties to even.  An integer that is divided by ten, rounded, multiplied by ten and rounded again is
the same integer, although its tenth has no finite binary expansion.
-/

namespace Rounding

/-- The nearest natural number, and of two equally near ones the even one. -/
def nearestEven (x : ℚ) : ℕ :=
  if x - ⌊x⌋₊ < 1 / 2 then ⌊x⌋₊
  else if 1 / 2 < x - ⌊x⌋₊ then ⌊x⌋₊ + 1
  else ⌊x⌋₊ + ⌊x⌋₊ % 2

/-- The distance of adjacent numbers with the given precision around a positive number. -/
def ulp (precision : ℕ) (x : ℚ) : ℚ := 2 ^ (Int.log 2 x + 1 - precision)

/-- The nearest number with the given precision. -/
def toPrecision (precision : ℕ) (x : ℚ) : ℚ :=
  nearestEven (x / ulp precision x) * ulp precision x

variable {x : ℚ} {n : ℕ}

/-- Only the integers around a number are within one half of it. -/
private theorem floor_eq_or_of_near (nonneg : 0 ≤ x) (near : |x - n| ≤ 1 / 2) :
    ⌊x⌋₊ = n ∨ ⌊x⌋₊ + 1 = n := by
  obtain ⟨below, above⟩ := abs_le.mp near
  have floor_le : (⌊x⌋₊ : ℚ) ≤ x := Nat.floor_le nonneg
  have lt_floor : x < ⌊x⌋₊ + 1 := Nat.lt_floor_add_one x
  have low : (n : ℚ) < (⌊x⌋₊ + 2 : ℕ) := by push_cast; linarith
  have high : ((⌊x⌋₊ : ℕ) : ℚ) < (n + 1 : ℕ) := by push_cast; linarith
  have low_nat : n < ⌊x⌋₊ + 2 := by exact_mod_cast low
  have high_nat : ⌊x⌋₊ < n + 1 := by exact_mod_cast high
  omega

/-- A natural number within less than one half is the nearest one. -/
theorem nearestEven_of_near (nonneg : 0 ≤ x) (near : |x - n| < 1 / 2) : nearestEven x = n := by
  obtain ⟨below, above⟩ := abs_lt.mp near
  rcases floor_eq_or_of_near nonneg near.le with same | next
  · rw [nearestEven, same, if_pos above]
  · have next_cast : (⌊x⌋₊ : ℚ) = n - 1 := by rw [← next]; push_cast; ring
    rw [nearestEven, if_neg (by rw [next_cast]; linarith),
      if_pos (by rw [next_cast]; linarith), next]

/-- An even number within one half is the nearest one. -/
theorem nearestEven_of_even (nonneg : 0 ≤ x) (even : Even n) (near : |x - n| ≤ 1 / 2) :
    nearestEven x = n := by
  rcases near.lt_or_eq with closer | tie
  · exact nearestEven_of_near nonneg closer
  have even_mod : n % 2 = 0 := Nat.even_iff.mp even
  rcases floor_eq_or_of_near nonneg near with same | next
  · have half : x - (⌊x⌋₊ : ℚ) = 1 / 2 := by
      rw [same]
      have above : 0 ≤ x - n := by
        rw [← same]
        exact sub_nonneg.mpr (Nat.floor_le nonneg)
      rw [abs_of_nonneg above] at tie
      exact tie
    rw [nearestEven, if_neg half.not_lt, if_neg half.symm.not_lt, same, even_mod, Nat.add_zero]
  · have next_cast : (n : ℚ) = ⌊x⌋₊ + 1 := by rw [← next]; push_cast; ring
    have half : x - (⌊x⌋₊ : ℚ) = 1 / 2 := by
      have below : x - n ≤ 0 := by
        rw [next_cast]
        linarith [Nat.lt_floor_add_one x]
      rw [abs_of_nonpos below] at tie
      linarith
    rw [nearestEven, if_neg half.not_lt, if_neg half.symm.not_lt]
    omega

theorem nearestEven_natCast (n : ℕ) : nearestEven (n : ℚ) = n :=
  nearestEven_of_near (Nat.cast_nonneg n) (by simp)

/-- Rounding to an integer moves a number by at most one half. -/
theorem abs_nearestEven_sub_le (nonneg : 0 ≤ x) : |(nearestEven x : ℚ) - x| ≤ 1 / 2 := by
  have floor_le : (⌊x⌋₊ : ℚ) ≤ x := Nat.floor_le nonneg
  have lt_floor : x < ⌊x⌋₊ + 1 := Nat.lt_floor_add_one x
  unfold nearestEven
  split_ifs with low high
  · rw [abs_le]
    constructor <;> linarith
  · rw [abs_le]
    push_cast
    constructor <;> linarith
  · have half : x = ⌊x⌋₊ + 1 / 2 := by linarith
    rcases Nat.mod_two_eq_zero_or_one ⌊x⌋₊ with even | odd
    · rw [even, Nat.add_zero, abs_le]
      constructor <;> linarith
    · rw [odd, abs_le]
      push_cast
      constructor <;> linarith

theorem ulp_pos (precision : ℕ) (x : ℚ) : 0 < ulp precision x := by
  unfold ulp
  positivity

/-- The binade of a number determines its unit in the last place. -/
theorem ulp_of_binade {precision : ℕ} {exponent : ℤ} (low : 2 ^ exponent ≤ x)
    (high : x < 2 ^ (exponent + 1)) : ulp precision x = 2 ^ (exponent + 1 - precision) := by
  have positive : 0 < x := lt_of_lt_of_le (by positivity) low
  have log_eq : Int.log 2 x = exponent := by
    apply le_antisymm
    · have below := (Int.lt_zpow_iff_log_lt one_lt_two positive).mp (by exact_mod_cast high)
      omega
    · exact (Int.zpow_le_iff_le_log one_lt_two positive).mp (by exact_mod_cast low)
  rw [ulp, log_eq]

/-- Rounding moves a number by at most a fraction of it that the precision gives. -/
theorem abs_toPrecision_sub_le (precision : ℕ) (positive : 0 < x) :
    |toPrecision precision x - x| ≤ x / 2 ^ precision := by
  have unit_pos := ulp_pos precision x
  have scaled : toPrecision precision x - x =
      (nearestEven (x / ulp precision x) - x / ulp precision x) * ulp precision x := by
    rw [toPrecision]
    field_simp
  have moved := abs_nearestEven_sub_le (div_nonneg positive.le unit_pos.le)
  have unit_le : ulp precision x / 2 ≤ x / 2 ^ precision := by
    have lower : (2 : ℚ) ^ Int.log 2 x ≤ x := by
      exact_mod_cast Int.zpow_log_le_self one_lt_two positive
    have split : ulp precision x = 2 ^ Int.log 2 x * 2 / 2 ^ precision := by
      rw [ulp, zpow_sub₀ two_ne_zero, zpow_add_one₀ two_ne_zero, zpow_natCast]
    rw [split, div_le_div_iff₀ (by positivity) (by positivity)]
    field_simp
    linarith
  calc |toPrecision precision x - x|
      = |nearestEven (x / ulp precision x) - x / ulp precision x| * ulp precision x := by
        rw [scaled, abs_mul, abs_of_pos unit_pos]
    _ ≤ 1 / 2 * ulp precision x := mul_le_mul_of_nonneg_right moved unit_pos.le
    _ = ulp precision x / 2 := by ring
    _ ≤ x / 2 ^ precision := unit_le

/-- A number with few enough significant bits is not changed. -/
theorem toPrecision_of_bits {precision : ℕ} {exponent : ℤ} (positive : 0 < n)
    (few : n < 2 ^ precision) :
    toPrecision precision ((n : ℚ) * 2 ^ exponent) = n * 2 ^ exponent := by
  have bits_low : 2 ^ Nat.log 2 n ≤ n := Nat.pow_log_le_self 2 positive.ne'
  have bits_high : n < 2 ^ (Nat.log 2 n + 1) := Nat.lt_pow_succ_log_self one_lt_two n
  have log_lt : Nat.log 2 n < precision := Nat.log_lt_of_lt_pow positive.ne' few
  obtain ⟨spare, precision_eq⟩ : ∃ spare, precision = Nat.log 2 n + 1 + spare :=
    ⟨precision - (Nat.log 2 n + 1), by omega⟩
  have unit_eq : ulp precision ((n : ℚ) * 2 ^ exponent) = 2 ^ exponent / 2 ^ spare := by
    have binade : ulp precision ((n : ℚ) * 2 ^ exponent) =
        2 ^ ((Nat.log 2 n : ℤ) + exponent + 1 - precision) := by
      refine ulp_of_binade ?_ ?_
      · rw [zpow_add₀ two_ne_zero, zpow_natCast]
        exact mul_le_mul_of_nonneg_right (by exact_mod_cast bits_low) (by positivity)
      · rw [add_right_comm, zpow_add₀ two_ne_zero, ← Nat.cast_add_one, zpow_natCast]
        exact mul_lt_mul_of_pos_right (by exact_mod_cast bits_high) (by positivity)
    rw [binade, ← zpow_natCast, ← zpow_sub₀ two_ne_zero, precision_eq]
    congr 1
    push_cast
    ring
  have scaled :
      (n : ℚ) * 2 ^ exponent / (2 ^ exponent / 2 ^ spare) = ((n * 2 ^ spare : ℕ) : ℚ) := by
    push_cast
    field_simp
  rw [toPrecision, unit_eq, scaled, nearestEven_natCast]
  push_cast
  field_simp

/-- The quotient of a rounded division by ten, in units of its last place: rounding an even number's
tenth leaves an error of at most four tenths. -/
private theorem ten_mul_nearestEven_near (scaled : ℕ) (even : Even scaled) :
    |(10 * nearestEven (scaled / 10) : ℤ) - scaled| ≤ 4 := by
  have moved : |((nearestEven (scaled / 10) : ℕ) : ℚ) - (scaled : ℚ) / 10| ≤ 1 / 2 :=
    abs_nearestEven_sub_le (by positivity)
  have tenfold : |((10 * nearestEven (scaled / 10) - scaled : ℤ) : ℚ)| ≤ (5 : ℤ) := by
    have factor : ((10 * nearestEven (scaled / 10) - scaled : ℤ) : ℚ) =
        10 * (((nearestEven (scaled / 10) : ℕ) : ℚ) - (scaled : ℚ) / 10) := by
      push_cast
      ring
    rw [factor, abs_mul, abs_of_pos (by norm_num : (0 : ℚ) < 10)]
    push_cast
    linarith
  have within : |(10 * nearestEven (scaled / 10) - scaled : ℤ)| ≤ 5 := by exact_mod_cast tenfold
  obtain ⟨half, rfl⟩ := even
  rw [abs_le] at within ⊢
  push_cast at within ⊢
  omega

/-- Rounding inside a binade, in multiples of a smaller unit. -/
private theorem toPrecision_mul_unit {precision steps multiple result : ℕ} {exponent : ℤ}
    (low : 2 ^ (precision - 1) * 2 ^ steps ≤ multiple)
    (high : multiple < 2 ^ precision * 2 ^ steps) (positive : 0 < precision)
    (rounds : nearestEven (multiple / 2 ^ steps) = result) :
    toPrecision precision (multiple * 2 ^ exponent) = result * 2 ^ steps * 2 ^ exponent := by
  have unit_eq : ulp precision (multiple * 2 ^ exponent : ℚ) = 2 ^ steps * 2 ^ exponent := by
    have binade : ulp precision (multiple * 2 ^ exponent : ℚ) =
        2 ^ ((precision : ℤ) - 1 + steps + exponent + 1 - precision) := by
      refine ulp_of_binade ?_ ?_
      · have last : (precision : ℤ) - 1 = (precision - 1 : ℕ) := by omega
        rw [zpow_add₀ two_ne_zero, zpow_add₀ two_ne_zero, last, zpow_natCast, zpow_natCast]
        exact mul_le_mul_of_nonneg_right (by exact_mod_cast low) (by positivity)
      · rw [show (precision : ℤ) - 1 + steps + exponent + 1 = precision + steps + exponent by ring,
          zpow_add₀ two_ne_zero, zpow_add₀ two_ne_zero, zpow_natCast, zpow_natCast]
        exact mul_lt_mul_of_pos_right (by exact_mod_cast high) (by positivity)
    rw [binade, ← zpow_natCast, ← zpow_add₀ two_ne_zero]
    congr 1
    ring
  have scaled : (multiple * 2 ^ exponent : ℚ) / (2 ^ steps * 2 ^ exponent) =
      multiple / 2 ^ steps := by field_simp
  rw [toPrecision, unit_eq, scaled, rounds]
  ring

/-- A tenth, rounded, in units of its last place.  It has so many spare bits that the integer is a
multiple of sixteen of these units. -/
private theorem exists_tenth_units {precision : ℕ} (positive : 0 < n)
    (few : n < 2 ^ (precision - 1)) :
    ∃ spare : ℕ, 10 * 2 ^ (precision - 1) ≤ n * 2 ^ spare * 16 ∧
      n * 2 ^ spare * 16 < 20 * 2 ^ (precision - 1) ∧
      toPrecision precision (n / 10) =
        nearestEven ((n * 2 ^ spare * 16 : ℕ) / 10) * 2 ^ (-4 - spare : ℤ) := by
  have tenth_pos : (0 : ℚ) < n / 10 := by positivity
  obtain ⟨exponent, low, high⟩ : ∃ exponent : ℤ, (2 : ℚ) ^ exponent ≤ n / 10 ∧
      (n : ℚ) / 10 < 2 ^ (exponent + 1) :=
    ⟨Int.log 2 ((n : ℚ) / 10), by exact_mod_cast Int.zpow_log_le_self one_lt_two tenth_pos,
      by exact_mod_cast Int.lt_zpow_succ_log_self one_lt_two ((n : ℚ) / 10)⟩
  have long : 1 ≤ precision := by
    by_contra short
    rw [show precision - 1 = 0 by omega] at few
    omega
  obtain ⟨spare, precision_eq⟩ : ∃ spare : ℕ, (precision : ℤ) = exponent + 5 + spare := by
    have below : (2 : ℚ) ^ exponent < 2 ^ ((precision : ℤ) - 4) := by
      have few_cast : (n : ℚ) < 2 ^ (precision - 1) := by exact_mod_cast few
      have split : (2 : ℚ) ^ ((precision : ℤ) - 4) = 2 ^ (precision - 1) / 8 := by
        rw [show (precision : ℤ) - 4 = (precision - 1 : ℕ) - 3 by omega, zpow_sub₀ two_ne_zero,
          zpow_natCast]
        norm_num
      rw [split]
      linarith
    have exponent_lt := (zpow_lt_zpow_iff_right₀ one_lt_two).mp below
    exact ⟨(precision - 5 - exponent).toNat, by omega⟩
  have unit_pos : (0 : ℚ) < 2 ^ (-4 - spare : ℤ) := by positivity
  have whole : (n : ℚ) = (n * 2 ^ spare * 16 : ℕ) * 2 ^ (-4 - spare : ℤ) := by
    rw [zpow_sub₀ two_ne_zero, zpow_natCast]
    push_cast
    field_simp
    norm_num
  have top_unit : ((2 ^ (precision - 1) : ℕ) : ℚ) * 2 ^ (-4 - spare : ℤ) = 2 ^ exponent := by
    push_cast
    rw [← zpow_natCast, ← zpow_add₀ two_ne_zero]
    congr 1
    omega
  refine ⟨spare, ?_, ?_, ?_⟩
  · have below : ((10 * 2 ^ (precision - 1) : ℕ) : ℚ) * 2 ^ (-4 - spare : ℤ) ≤
        (n * 2 ^ spare * 16 : ℕ) * 2 ^ (-4 - spare : ℤ) := by
      rw [← whole, Nat.cast_mul, mul_assoc, top_unit]
      push_cast
      linarith
    exact_mod_cast le_of_mul_le_mul_right below unit_pos
  · have above : ((n * 2 ^ spare * 16 : ℕ) : ℚ) * 2 ^ (-4 - spare : ℤ) <
        ((20 * 2 ^ (precision - 1) : ℕ) : ℚ) * 2 ^ (-4 - spare : ℤ) := by
      rw [← whole, Nat.cast_mul, mul_assoc, top_unit]
      rw [zpow_add_one₀ two_ne_zero] at high
      push_cast
      linarith
    exact_mod_cast lt_of_mul_lt_mul_right above unit_pos.le
  · have unit_eq : ulp precision ((n : ℚ) / 10) = 2 ^ (-4 - spare : ℤ) := by
      rw [ulp_of_binade low high, precision_eq]
      congr 1
      ring
    have units : (n : ℚ) / 10 / 2 ^ (-4 - spare : ℤ) = (n * 2 ^ spare * 16 : ℕ) / 10 := by
      rw [div_eq_iff unit_pos.ne', div_mul_eq_mul_div, ← whole]
    rw [toPrecision, unit_eq, units]

/-- A tenth that was rounded gives the integer back when it is multiplied by ten and rounded again:
the product is off by at most half a unit, and where it is off by just that, the tie goes to the
integer, whose last bit is zero. -/
theorem toPrecision_tenth_mul_ten {precision : ℕ} (positive : 0 < n)
    (few : n < 2 ^ (precision - 1)) :
    toPrecision precision (toPrecision precision (n / 10) * 10) = n := by
  obtain ⟨spare, scaled_low, scaled_high, rounded⟩ := exists_tenth_units positive few
  obtain ⟨top, top_eq, precision_pos⟩ : ∃ top, 2 ^ (precision - 1) = top + 2 ∧ 0 < precision := by
    have long : 1 ≤ precision - 1 := by
      by_contra short
      rw [show precision - 1 = 0 by omega] at few
      omega
    have two_le : 2 ^ 1 ≤ 2 ^ (precision - 1) := Nat.pow_le_pow_right two_pos long
    exact ⟨2 ^ (precision - 1) - 2, by omega, by omega⟩
  have top_double : 2 ^ precision = 2 * 2 ^ (precision - 1) := by
    rw [← pow_succ', Nat.sub_add_cancel precision_pos]
  have product_near := ten_mul_nearestEven_near (n * 2 ^ spare * 16)
    (even_iff_two_dvd.mpr ⟨n * 2 ^ spare * 8, by omega⟩)
  rw [abs_le] at product_near
  generalize quotient_eq : nearestEven ((n * 2 ^ spare * 16 : ℕ) / 10) = quotient
    at rounded product_near
  have product_eq : toPrecision precision ((n : ℚ) / 10) * 10 =
      ((10 * quotient : ℕ) : ℚ) * 2 ^ (-4 - spare : ℤ) := by
    rw [rounded]
    push_cast
    ring
  have product_low : ((n * 2 ^ spare * 16 : ℕ) : ℚ) ≤ ((10 * quotient + 4 : ℕ) : ℚ) := by
    exact_mod_cast (by omega : n * 2 ^ spare * 16 ≤ 10 * quotient + 4)
  have product_high : ((10 * quotient : ℕ) : ℚ) ≤ ((n * 2 ^ spare * 16 + 4 : ℕ) : ℚ) := by
    exact_mod_cast (by omega : 10 * quotient ≤ n * 2 ^ spare * 16 + 4)
  have restored (steps : ℕ) (few_steps : steps ≤ 4) :
      ((2 ^ (4 - steps) * (n * 2 ^ spare) : ℕ) : ℚ) * 2 ^ steps * 2 ^ (-4 - spare : ℤ) = n := by
    have sixteen : (2 : ℚ) ^ (4 - steps) * 2 ^ steps = 16 := by
      rw [← pow_add, Nat.sub_add_cancel few_steps]
      norm_num
    rw [zpow_sub₀ two_ne_zero, zpow_natCast]
    push_cast
    calc (2 : ℚ) ^ (4 - steps) * (n * 2 ^ spare) * 2 ^ steps * (2 ^ (-4 : ℤ) / 2 ^ spare)
        = 2 ^ (4 - steps) * 2 ^ steps * n * 2 ^ (-4 : ℤ) := by field_simp
      _ = n := by
        rw [sixteen]
        norm_num
        ring
  rw [product_eq]
  by_cases lower : 10 * quotient < 16 * 2 ^ (precision - 1)
  · -- In the lower binade the unit is eight times as large, and a tie is possible.
    have tie :
        nearestEven (((10 * quotient : ℕ) : ℚ) / 2 ^ 3) = 2 ^ (4 - 3) * (n * 2 ^ spare) := by
      refine nearestEven_of_even (by positivity) (even_two_mul _) ?_
      rw [abs_le]
      push_cast at product_low product_high ⊢
      constructor <;> linarith
    rw [toPrecision_mul_unit (by omega) (by omega) precision_pos tie]
    exact restored 3 (by decide)
  · have inside : nearestEven (((10 * quotient : ℕ) : ℚ) / 2 ^ 4) =
        2 ^ (4 - 4) * (n * 2 ^ spare) := by
      refine nearestEven_of_near (by positivity) ?_
      rw [abs_lt]
      push_cast at product_low product_high ⊢
      constructor <;> linarith
    rw [toPrecision_mul_unit (by omega) (by omega) precision_pos inside]
    exact restored 4 (by decide)

end Rounding
