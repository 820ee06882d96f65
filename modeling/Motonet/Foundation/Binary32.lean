import Mathlib
import Motonet.Foundation.Rounding

/-!
# Arithmetic in binary32

Single-precision numbers as the rational numbers that they denote.  In the range of the normal
numbers, every operation gives its exact result, rounded to twenty-four significant bits.
-/

namespace Binary32

open Float.Model UnpackedFloat
open Rounding

/-- A normal number with the given sign and absolute value. -/
def IsNormal (f : Float32.Model) (sign : Sign) (x : ℚ) : Prop :=
  ∃ mantissa exponent positive, f.unpack = .finite sign mantissa exponent positive ∧
    mantissa.log2 = 23 ∧ -149 ≤ exponent ∧ exponent ≤ 104 ∧ x = mantissa * 2 ^ exponent

/-! ## Packing -/

private theorem unpackSign_packComponents {spec : Format} {sign : Sign}
    {exponent : BitVec spec.exponentBits} {mantissa : BitVec spec.mantissaBitsWithoutImplicit} :
    unpackSign (packComponents spec sign exponent mantissa) = sign.toBitVec := by
  ext i inside
  obtain rfl : i = 0 := by omega
  simp [unpackSign, packComponents, BitVec.getLsbD_append, BitVec.getLsbD_eq_getElem,
    BitVec.getElem_append]

/-- A normal number is what its bits say. -/
theorem unpack_pack {sign : Sign} {mantissa : ℕ} {exponent : ℤ} (positive : 0 < mantissa)
    (bits : mantissa.log2 = 23) (low : -149 ≤ exponent) (high : exponent ≤ 104) :
    (Float32.Model.pack (.finite sign mantissa exponent positive)).unpack =
      .finite sign mantissa exponent positive := by
  obtain ⟨biased, biased_eq⟩ : ∃ biased : ℕ, exponent = biased - 150 :=
    ⟨(exponent + 150).toNat, by omega⟩
  subst biased_eq
  obtain ⟨above, below⟩ := (Nat.log2_eq_iff positive.ne').mp bits
  have packed : UnpackedFloat.pack .binary32 (.finite sign mantissa (biased - 150) positive) =
      packComponents .binary32 sign (BitVec.ofNat 8 biased) (BitVec.ofNat 23 mantissa) := by
    have bias : (biased - 150 + ((Format.exponentBias .binary32 : ℕ) : ℤ) +
        ((Format.mantissaBitsWithoutImplicit .binary32 : ℕ) : ℤ)).toNat = biased := by
      simp only [Format.exponentBias]
      omega
    simp only [UnpackedFloat.pack, bias, bits]
    rw [if_neg (by simp; omega), if_pos (by rfl)]
  have exponent_toNat : (BitVec.ofNat 8 biased).toNat = biased := by
    rw [BitVec.toNat_ofNat, Nat.mod_eq_of_lt (by omega)]
  have implicit : (1#1 ++ BitVec.ofNat 23 mantissa).toNat = mantissa := by
    rw [BitVec.toNat_append, BitVec.toNat_ofNat, ← Nat.shiftLeft_add_eq_or_of_lt (by omega)]
    simp [Nat.shiftLeft_eq]
    omega
  have exponent_ne : BitVec.ofNat 8 biased ≠ -1#8 := by
    intro same
    have both := congrArg BitVec.toNat same
    rw [exponent_toNat] at both
    simp at both
    omega
  have exponent_ne_zero : BitVec.ofNat 8 biased ≠ 0#8 := by
    intro same
    have both := congrArg BitVec.toNat same
    rw [exponent_toNat] at both
    simp at both
    omega
  have sign_eq : Sign.ofBitVec sign.toBitVec = sign := by cases sign <;> rfl
  unfold Float32.Model.unpack Float32.Model.pack
  simp only [packed, UnpackedFloat.unpack, unpackExponent_packComponents,
    unpackMantissa_packComponents, unpackSign_packComponents, exponent_toNat, sign_eq]
  rw [if_neg exponent_ne, if_neg exponent_ne_zero, UnpackedFloat.finite.injEq]
  exact ⟨rfl, implicit, by simp only [Format.exponentBias]; norm_num⟩

/-! ## Rounding -/

/-- Where an accuracy locates the exact value above the mantissa, in units of its last place. -/
def Locates : Accuracy → ℚ → Prop
  | .exact, fraction => fraction = 0
  | .inexact .lt, fraction => 0 < fraction ∧ fraction < 1 / 2
  | .inexact .eq, fraction => fraction = 1 / 2
  | .inexact .gt, fraction => 1 / 2 < fraction ∧ fraction < 1

theorem Locates.range {accuracy : Accuracy} {fraction : ℚ} (locates : Locates accuracy fraction) :
    0 ≤ fraction ∧ fraction < 1 := by
  rcases accuracy with _ | (_ | _ | _) <;> simp only [Locates] at locates <;>
    constructor <;> linarith

/-- An extended mantissa describes an exact value. -/
def Describes (extended : ExtendedMantissa) (x : ℚ) : Prop :=
  Locates extended.accuracy (x - extended.mantissa)

theorem Describes.shiftRightOne {extended : ExtendedMantissa} {x : ℚ}
    (describes : Describes extended x) : Describes extended.shiftRightOne (x / 2) := by
  obtain ⟨mantissa, roundBit, stickyBit⟩ := extended
  have halves : (mantissa : ℚ) = 2 * ((mantissa / 2 : ℕ) : ℚ) + ((mantissa % 2 : ℕ) : ℚ) := by
    exact_mod_cast (Nat.div_add_mod mantissa 2).symm
  rcases Nat.mod_two_eq_zero_or_one mantissa with even | odd
  · rw [even] at halves
    cases roundBit <;> cases stickyBit <;>
      simp only [Describes, ExtendedMantissa.accuracy, ExtendedMantissa.shiftRightOne, Locates,
        even, bne_self_eq_false, Bool.or_false, Bool.or_true, Bool.or_self, Nat.cast_zero,
        add_zero] at describes halves ⊢ <;>
      first | linarith | exact ⟨by linarith, by linarith⟩
  · rw [odd] at halves
    have one_bne : ((1 : ℕ) != 0) = true := rfl
    cases roundBit <;> cases stickyBit <;>
      simp only [Describes, ExtendedMantissa.accuracy, ExtendedMantissa.shiftRightOne, Locates,
        odd, one_bne, Bool.or_false, Bool.or_true, Bool.or_self, Nat.cast_one]
        at describes halves ⊢ <;>
      first | linarith | exact ⟨by linarith, by linarith⟩

theorem Describes.shiftRight {extended : ExtendedMantissa} {x : ℚ}
    (describes : Describes extended x) (steps : ℕ) :
    Describes (extended >>> steps) (x / 2 ^ steps) := by
  induction steps with
  | zero =>
      rw [pow_zero, div_one]
      exact describes
  | succ steps ih =>
      have shifted := ih.shiftRightOne
      rw [div_div, ← pow_succ] at shifted
      exact shifted

/-- The mantissa is the integer part of what it describes. -/
theorem Describes.floor_eq {extended : ExtendedMantissa} {x : ℚ}
    (describes : Describes extended x) : ⌊x⌋₊ = extended.mantissa := by
  obtain ⟨low, high⟩ := describes.range
  have mantissa_nonneg : (0 : ℚ) ≤ extended.mantissa := Nat.cast_nonneg _
  rw [Nat.floor_eq_iff (by linarith)]
  constructor <;> linarith

/-- The rounded mantissa is the integer nearest to what the mantissa describes. -/
theorem Describes.roundedMantissa {extended : ExtendedMantissa} {x : ℚ}
    (describes : Describes extended x) : extended.roundedMantissa = nearestEven x := by
  have floor_eq := describes.floor_eq
  obtain ⟨mantissa, roundBit, stickyBit⟩ := extended
  unfold nearestEven
  rw [floor_eq]
  cases roundBit <;> cases stickyBit <;>
    simp only [Describes, ExtendedMantissa.accuracy, Locates] at describes
  · rw [describes, if_pos (by norm_num)]
    rfl
  · rw [if_pos describes.2]
    rfl
  · rw [describes, if_neg (lt_irrefl _), if_neg (lt_irrefl _)]
    rfl
  · rw [if_neg (by linarith [describes.1]), if_pos describes.1]
    rfl

/-- A long mantissa is shifted until twenty-four bits are left. -/
private theorem shiftToTargetExponent_eq {mantissa steps : ℕ} {exponent : ℤ} (accuracy : Accuracy)
    (bits : mantissa.log2 = 23 + steps) (low : -126 ≤ mantissa.log2 + exponent) :
    shiftToTargetExponent .binary32 mantissa exponent accuracy =
      (ExtendedMantissa.ofMantissaAndAccuracy mantissa accuracy >>> steps, exponent + steps) := by
  have target : Format.targetExponent .binary32 (totalExponent mantissa exponent) =
      exponent + steps := by
    simp only [Format.targetExponent, totalExponent, Format.mantissaBits, Format.minExponent, bits]
      at low ⊢
    push_cast at low ⊢
    omega
  have amount : (exponent + steps - exponent).toNat = steps := by omega
  unfold shiftToTargetExponent
  simp only [target, shiftToExponent, amount]

/-- Rounding shifts twice, the second time for a carry. -/
private theorem roundWithAccuracy_eq {sign : Sign} {mantissa result : ℕ}
    {exponent shifted resultExponent : ℤ} {accuracy : Accuracy} {first second : ExtendedMantissa}
    (shift : shiftToTargetExponent .binary32 mantissa exponent accuracy = (first, shifted))
    (carry : shiftToTargetExponent .binary32 first.roundedMantissa shifted .exact =
      (second, resultExponent))
    (same : second.mantissa = result) (positive : 0 < result) :
    roundWithAccuracy .binary32 sign mantissa exponent accuracy =
      .finite sign result resultExponent positive := by
  subst same
  unfold roundWithAccuracy
  simp only [shift, carry, dif_neg positive.ne']

/-- A number that has at least twenty-four bits rounds to one of twenty-four, or to the power of
two behind them. -/
private theorem nearestEven_bounds {x : ℚ} (low : 2 ^ 23 ≤ x) (high : x < 2 ^ 24) :
    2 ^ 23 ≤ nearestEven x ∧ nearestEven x ≤ 2 ^ 24 := by
  have near := abs_le.mp (abs_nearestEven_sub_le (by linarith : 0 ≤ x))
  have lower : ((2 ^ 23 : ℕ) : ℚ) < (nearestEven x + 1 : ℕ) := by
    push_cast
    linarith [near.1]
  have upper : (nearestEven x : ℚ) < (2 ^ 24 + 1 : ℕ) := by
    push_cast
    linarith [near.2]
  have lower_nat : 2 ^ 23 < nearestEven x + 1 := by exact_mod_cast lower
  have upper_nat : nearestEven x < 2 ^ 24 + 1 := by exact_mod_cast upper
  omega

/-- Rounding a mantissa that is long enough gives the normal number nearest to the exact value. -/
private theorem isNormal_of_exponent {sign : Sign} {mantissa : ℕ} {exponent : ℤ}
    {accuracy : Accuracy} {x : ℚ}
    (locates : Locates accuracy (x / 2 ^ exponent - mantissa)) (long : 23 ≤ mantissa.log2)
    (low : -126 ≤ mantissa.log2 + exponent) (high : mantissa.log2 + exponent ≤ 126) :
    IsNormal (.pack (roundWithAccuracy .binary32 sign mantissa exponent accuracy)) sign
      (toPrecision 24 x) := by
  obtain ⟨steps, bits⟩ : ∃ steps, mantissa.log2 = 23 + steps := ⟨mantissa.log2 - 23, by omega⟩
  have mantissa_ne : mantissa ≠ 0 := by
    rintro rfl
    simp at long
  obtain ⟨above, below⟩ := (Nat.log2_eq_iff mantissa_ne).mp bits
  have range := locates.range
  have describes : Describes (.ofMantissaAndAccuracy mantissa accuracy) (x / 2 ^ exponent) := by
    rcases accuracy with _ | (_ | _ | _) <;> exact locates
  have rounded := (describes.shiftRight steps).roundedMantissa
  have split : (2 : ℚ) ^ (exponent + steps) = 2 ^ exponent * 2 ^ steps := by
    rw [zpow_add₀ two_ne_zero, zpow_natCast]
  rw [div_div, ← split] at rounded
  have scaled_low : (2 : ℚ) ^ 23 ≤ x / 2 ^ (exponent + steps) := by
    have above_cast : (2 : ℚ) ^ 23 * 2 ^ steps ≤ mantissa := by
      rw [← pow_add]
      exact_mod_cast above
    rw [split, ← div_div, le_div_iff₀ (by positivity)]
    linarith [range.1]
  have scaled_high : x / 2 ^ (exponent + steps) < 2 ^ 24 := by
    have below_cast : (mantissa : ℚ) + 1 ≤ 2 ^ 24 * 2 ^ steps := by
      rw [← pow_add]
      have successor : mantissa + 1 ≤ 2 ^ (24 + steps) := by
        rw [show 24 + steps = 23 + steps + 1 by ring]
        exact below
      exact_mod_cast successor
    rw [split, ← div_div, div_lt_iff₀ (by positivity)]
    linarith [range.2]
  have unit_eq : ulp 24 x = 2 ^ (exponent + steps) := by
    rw [le_div_iff₀ (by positivity)] at scaled_low
    rw [div_lt_iff₀ (by positivity)] at scaled_high
    have binade : ulp 24 x = 2 ^ (23 + (exponent + steps) + 1 - (24 : ℕ)) := by
      refine ulp_of_binade ?_ ?_
      · rw [zpow_add₀ two_ne_zero]
        exact scaled_low
      · rw [add_right_comm, zpow_add₀ two_ne_zero]
        exact scaled_high
    rw [binade]
    congr 1
    push_cast
    ring
  have result : toPrecision 24 x =
      nearestEven (x / 2 ^ (exponent + steps)) * 2 ^ (exponent + steps) := by
    rw [toPrecision, unit_eq]
  obtain ⟨few, many⟩ := nearestEven_bounds scaled_low scaled_high
  generalize nearestEven (x / 2 ^ (exponent + steps)) = significand at rounded result few many
  have shift := shiftToTargetExponent_eq accuracy bits low
  rcases many.lt_or_eq with normal | carried
  · have log_eq : significand.log2 = 23 + 0 :=
      (Nat.log2_eq_iff (by omega)).mpr ⟨few, normal⟩
    have carry : shiftToTargetExponent .binary32 significand (exponent + steps) .exact = _ :=
      shiftToTargetExponent_eq .exact log_eq (by omega)
    rw [← rounded] at carry log_eq few
    have significand_pos := (Nat.two_pow_pos 23).trans_le few
    refine ⟨_, exponent + steps + (0 : ℕ), significand_pos, ?_, log_eq, ?_, ?_, result.trans ?_⟩
    · rw [roundWithAccuracy_eq shift carry rfl significand_pos]
      exact unpack_pack significand_pos log_eq (by omega) (by omega)
    · omega
    · omega
    · rw [rounded, Nat.cast_zero, add_zero]
  · have log_eq : significand.log2 = 23 + 1 := by rw [carried, Nat.log2_two_pow]
    have carry : shiftToTargetExponent .binary32 significand (exponent + steps) .exact = _ :=
      shiftToTargetExponent_eq .exact log_eq (by omega)
    rw [← rounded] at carry
    have halved : (ExtendedMantissa.ofMantissaAndAccuracy
        (ExtendedMantissa.ofMantissaAndAccuracy mantissa accuracy >>> steps).roundedMantissa
          .exact >>> 1).mantissa = 2 ^ 23 := by
      rw [rounded, carried]
      rfl
    refine ⟨2 ^ 23, exponent + steps + (1 : ℕ), by norm_num, ?_, Nat.log2_two_pow, ?_, ?_, ?_⟩
    · rw [roundWithAccuracy_eq shift carry halved (by norm_num)]
      exact unpack_pack (by norm_num) Nat.log2_two_pow (by omega) (by omega)
    · omega
    · omega
    · rw [result, carried, Nat.cast_one, zpow_add_one₀ two_ne_zero]
      push_cast
      ring

/-- The leading bit of a mantissa tells the binade of the exact value. -/
private theorem binade_of_locates {mantissa : ℕ} {exponent : ℤ} {accuracy : Accuracy} {x : ℚ}
    (locates : Locates accuracy (x / 2 ^ exponent - mantissa)) (positive : mantissa ≠ 0) :
    2 ^ (mantissa.log2 + exponent) ≤ x ∧ x < 2 ^ (mantissa.log2 + exponent + 1) := by
  obtain ⟨above, below⟩ := (Nat.log2_eq_iff positive).mp rfl
  obtain ⟨low, high⟩ := locates.range
  have unit_pos : (0 : ℚ) < 2 ^ exponent := by positivity
  have above_cast : (2 : ℚ) ^ mantissa.log2 ≤ mantissa := by exact_mod_cast above
  have below_cast : (mantissa : ℚ) + 1 ≤ 2 ^ (mantissa.log2 + 1) := by
    exact_mod_cast (by omega : mantissa + 1 ≤ 2 ^ (mantissa.log2 + 1))
  constructor
  · rw [zpow_add₀ two_ne_zero, zpow_natCast, ← le_div_iff₀ unit_pos]
    linarith
  · rw [add_right_comm, zpow_add₀ two_ne_zero, ← Nat.cast_add_one, zpow_natCast,
      ← div_lt_iff₀ unit_pos]
    linarith

/-- Far enough from overflow and from gradual underflow. -/
def Moderate (x : ℚ) : Prop := 2 ^ (-125 : ℤ) ≤ x ∧ x < 2 ^ (126 : ℤ)

/-- Rounding a mantissa that is long enough gives the normal number nearest to the exact value. -/
theorem isNormal_roundWithAccuracy {sign : Sign} {mantissa : ℕ} {exponent : ℤ}
    {accuracy : Accuracy} {x : ℚ}
    (locates : Locates accuracy (x / 2 ^ exponent - mantissa)) (long : 23 ≤ mantissa.log2)
    (moderate : Moderate x) :
    IsNormal (.pack (roundWithAccuracy .binary32 sign mantissa exponent accuracy)) sign
      (toPrecision 24 x) := by
  have mantissa_ne : mantissa ≠ 0 := by
    rintro rfl
    simp at long
  obtain ⟨low, high⟩ := binade_of_locates locates mantissa_ne
  have low_exponent := (zpow_lt_zpow_iff_right₀ one_lt_two).mp (moderate.1.trans_lt high)
  have high_exponent := (zpow_lt_zpow_iff_right₀ one_lt_two).mp (low.trans_lt moderate.2)
  exact isNormal_of_exponent locates long (by omega) (by omega)

/-! ## Operations -/

section Operations

variable {f g : Float32.Model} {left right : Sign} {x y : ℚ}

theorem IsNormal.pos (normal : IsNormal f left x) : 0 < x := by
  obtain ⟨mantissa, exponent, positive, -, -, -, -, rfl⟩ := normal
  positivity

/-- The product of two mantissas is exact. -/
theorem IsNormal.mul (first : IsNormal f left x) (second : IsNormal g right y)
    (moderate : Moderate (x * y)) : IsNormal (f * g) (left * right) (toPrecision 24 (x * y)) := by
  obtain ⟨m, e, m_pos, f_eq, m_bits, -, -, rfl⟩ := first
  obtain ⟨n, d, n_pos, g_eq, n_bits, -, -, rfl⟩ := second
  have product :
      f * g = .pack (roundWithAccuracy .binary32 (left * right) (m * n) (e + d) .exact) := by
    change Float32.Model.pack (UnpackedFloat.mul .binary32 f.unpack g.unpack) = _
    rw [f_eq, g_eq]
    rfl
  rw [product]
  refine isNormal_roundWithAccuracy ?_ ?_ moderate
  · change _ = (0 : ℚ)
    rw [zpow_add₀ two_ne_zero]
    push_cast
    field_simp
    ring
  · have m_low := ((Nat.log2_eq_iff m_pos.ne').mp m_bits).1
    have n_low := ((Nat.log2_eq_iff n_pos.ne').mp n_bits).1
    rw [Nat.le_log2 (Nat.mul_pos m_pos n_pos).ne']
    nlinarith

/-- A quotient of mantissas, cut off after the binary point, with what is left. -/
private theorem locates_accuracyOfFraction {num den : ℕ} (below : num < den) :
    Locates (accuracyOfFraction num den) ((num : ℚ) / den) := by
  have den_pos : (0 : ℚ) < den := by exact_mod_cast (Nat.zero_le num).trans_lt below
  have below_cast : (num : ℚ) < den := by exact_mod_cast below
  unfold accuracyOfFraction
  split_ifs with zero
  · rw [zero]
    exact zero_div _
  have num_pos : (0 : ℚ) < num := by exact_mod_cast Nat.pos_of_ne_zero zero
  rcases lt_trichotomy (2 * num) den with lower | half | upper
  · rw [compare_lt_iff_lt.mpr lower]
    have lower_cast : 2 * (num : ℚ) < den := by exact_mod_cast lower
    exact ⟨by positivity, by rw [div_lt_div_iff₀ den_pos two_pos]; linarith⟩
  · rw [compare_eq_iff_eq.mpr half]
    have half_cast : 2 * (num : ℚ) = den := by exact_mod_cast half
    change _ = (1 : ℚ) / 2
    rw [← half_cast]
    field_simp
  · rw [compare_gt_iff_gt.mpr upper]
    have upper_cast : (den : ℚ) < 2 * num := by exact_mod_cast upper
    exact ⟨by rw [div_lt_div_iff₀ two_pos den_pos]; linarith, by rwa [div_lt_one den_pos]⟩

/-- A quotient is computed to twenty-four places behind the binary point. -/
private theorem divCore_eq {m n : ℕ} {e d : ℤ} (m_bits : m.log2 = 23) (n_bits : n.log2 = 23)
    (low : -125 ≤ e - d) :
    divCore .binary32 m e n d =
      (m * 2 ^ 24 / n, e - d - 24, accuracyOfFraction (m * 2 ^ 24 % n) n) := by
  have target : Format.targetExponent .binary32 (totalExponent m e - totalExponent n d) =
      e - d - 24 := by
    simp only [Format.targetExponent, totalExponent, Format.mantissaBits, Format.minExponent,
      m_bits, n_bits]
    omega
  have least : min (e - d) (e - d - 24) = e - d - 24 := by omega
  have amount : (e - d - (e - d - 24)).toNat = 24 := by omega
  unfold divCore
  simp only [target, least, amount, Nat.shiftLeft_eq]

/-- A quotient of mantissas has enough bits, and an accuracy that says what was cut off. -/
theorem IsNormal.div (first : IsNormal f left x) (second : IsNormal g right y)
    (moderate : Moderate (x / y)) : IsNormal (f / g) (left / right) (toPrecision 24 (x / y)) := by
  obtain ⟨m, e, m_pos, f_eq, m_bits, -, -, rfl⟩ := first
  obtain ⟨n, d, n_pos, g_eq, n_bits, -, -, rfl⟩ := second
  obtain ⟨m_low, m_high⟩ := (Nat.log2_eq_iff m_pos.ne').mp m_bits
  obtain ⟨n_low, n_high⟩ := (Nat.log2_eq_iff n_pos.ne').mp n_bits
  have n_cast_pos : (0 : ℚ) < n := by exact_mod_cast n_pos
  have quotient_eq : (m : ℚ) * 2 ^ e / (n * 2 ^ d) = m / n * 2 ^ (e - d) := by
    rw [zpow_sub₀ two_ne_zero]
    field_simp
  have low : -125 ≤ e - d := by
    have upper : (m : ℚ) / n < 2 := by
      rw [div_lt_iff₀ n_cast_pos]
      exact_mod_cast (by omega : m < 2 * n)
    have below : (2 : ℚ) ^ (-125 : ℤ) < 2 ^ (e - d + 1) := by
      refine (moderate.1.trans_eq quotient_eq).trans_lt ?_
      rw [zpow_add_one₀ two_ne_zero, mul_comm]
      exact mul_lt_mul_of_pos_left upper (by positivity)
    have exponents := (zpow_lt_zpow_iff_right₀ one_lt_two).mp below
    omega
  have quotient : f / g = .pack (roundWithAccuracy .binary32 (left / right) (m * 2 ^ 24 / n)
      (e - d - 24) (accuracyOfFraction (m * 2 ^ 24 % n) n)) := by
    change Float32.Model.pack (UnpackedFloat.div .binary32 f.unpack g.unpack) = _
    rw [f_eq, g_eq]
    simp only [UnpackedFloat.div, divCore_eq m_bits n_bits low]
  rw [quotient]
  refine isNormal_roundWithAccuracy ?_ ?_ moderate
  · have division : (m : ℚ) * 2 ^ 24 = n * (m * 2 ^ 24 / n : ℕ) + (m * 2 ^ 24 % n : ℕ) := by
      exact_mod_cast (Nat.div_add_mod (m * 2 ^ 24) n).symm
    have fraction : (m : ℚ) * 2 ^ e / (n * 2 ^ d) / 2 ^ (e - d - 24) - (m * 2 ^ 24 / n : ℕ) =
        (m * 2 ^ 24 % n : ℕ) / n := by
      have scaled : (m : ℚ) / n * 2 ^ (e - d) / 2 ^ (e - d - 24) = m * 2 ^ 24 / n := by
        rw [zpow_sub₀ two_ne_zero (e - d)]
        field_simp
      rw [quotient_eq, scaled, division, add_div, mul_div_cancel_left₀ _ n_cast_pos.ne',
        add_sub_cancel_left]
    rw [fraction]
    exact locates_accuracyOfFraction (Nat.mod_lt _ n_pos)
  · have long : 2 ^ 23 ≤ m * 2 ^ 24 / n := by
      rw [Nat.le_div_iff_mul_le n_pos]
      omega
    rw [Nat.le_log2 (Nat.ne_of_gt ((Nat.two_pow_pos 23).trans_le long))]
    exact long

/-- A mantissa that is too short is extended first. -/
theorem isNormal_round {sign : Sign} {mantissa : ℕ} {exponent : ℤ} (positive : 0 < mantissa)
    (moderate : Moderate (mantissa * 2 ^ exponent)) :
    IsNormal (.pack (round .binary32 sign mantissa exponent)) sign
      (toPrecision 24 (mantissa * 2 ^ exponent)) := by
  have unit_pos : (0 : ℚ) < 2 ^ exponent := by positivity
  have locates : Locates .exact ((mantissa : ℚ) * 2 ^ exponent / 2 ^ exponent - mantissa) := by
    rw [mul_div_cancel_right₀ _ unit_pos.ne', sub_self]
    rfl
  have low := (zpow_lt_zpow_iff_right₀ one_lt_two).mp
    (moderate.1.trans_lt (binade_of_locates locates positive.ne').2)
  have target : Format.targetExponent .binary32 (totalExponent mantissa exponent) =
      mantissa.log2 + exponent - 23 := by
    simp only [Format.targetExponent, totalExponent, Format.mantissaBits, Format.minExponent]
    omega
  have amount : (exponent - (mantissa.log2 + exponent - 23)).toNat = 23 - mantissa.log2 := by omega
  have extended : round .binary32 sign mantissa exponent =
      roundWithAccuracy .binary32 sign (mantissa * 2 ^ (23 - mantissa.log2))
        (exponent - (23 - mantissa.log2 : ℕ)) .exact := by
    unfold UnpackedFloat.round
    simp only [target, decreaseExponent, amount, Nat.shiftLeft_eq]
  rw [extended]
  refine isNormal_roundWithAccuracy ?_ ?_ moderate
  · change _ = (0 : ℚ)
    rw [zpow_sub₀ two_ne_zero, zpow_natCast]
    push_cast
    field_simp
    ring
  · have above := Nat.log2_self_le positive.ne'
    rw [Nat.le_log2 (Nat.mul_pos positive (Nat.two_pow_pos _)).ne']
    calc 2 ^ 23 ≤ 2 ^ (mantissa.log2 + (23 - mantissa.log2)) :=
          Nat.pow_le_pow_right two_pos (by omega)
      _ = 2 ^ mantissa.log2 * 2 ^ (23 - mantissa.log2) := pow_add ..
      _ ≤ mantissa * 2 ^ (23 - mantissa.log2) := Nat.mul_le_mul_right _ above

end Operations

/-! ## Denotations -/

/-- A number with the given sign and absolute value. -/
def signed : Sign → ℚ → ℚ
  | .negative, x => -x
  | .positive, x => x

/-- The rational number that a finite number stands for. -/
def Denotes (f : Float32.Model) (q : ℚ) : Prop :=
  (q = 0 ∧ ∃ sign, f.unpack = .zero sign) ∨ ∃ sign x, IsNormal f sign x ∧ q = signed sign x

/-- A rational number, rounded to what a normal number can hold. -/
def rounded (q : ℚ) : ℚ := if 0 ≤ q then toPrecision 24 q else -toPrecision 24 (-q)

/-- Zero, or far enough from overflow and from gradual underflow. -/
def Representable (q : ℚ) : Prop := q = 0 ∨ Moderate |q|

section Denotations

variable {f g : Float32.Model} {p q : ℚ}

theorem rounded_signed (sign : Sign) {x : ℚ} (positive : 0 < x) :
    rounded (signed sign x) = signed sign (toPrecision 24 x) := by
  cases sign with
  | negative => rw [signed, rounded, if_neg (by linarith), neg_neg, signed]
  | positive => rw [signed, rounded, if_pos positive.le, signed]

theorem rounded_zero : rounded 0 = 0 := by
  rw [rounded, if_pos le_rfl, toPrecision, zero_div, show (0 : ℚ) = (0 : ℕ) from rfl,
    nearestEven_natCast, Nat.cast_zero, zero_mul]

theorem abs_signed (sign : Sign) {x : ℚ} (positive : 0 < x) : |signed sign x| = x := by
  cases sign with
  | negative => rw [signed, abs_neg, abs_of_pos positive]
  | positive => rw [signed, abs_of_pos positive]

theorem signed_ne_zero (sign : Sign) {x : ℚ} (positive : 0 < x) : signed sign x ≠ 0 := by
  rw [← abs_pos, abs_signed sign positive]
  exact positive

theorem signed_mul (s t : Sign) (x y : ℚ) : signed s x * signed t y = signed (s * t) (x * y) := by
  cases s <;> cases t
  · exact neg_mul_neg x y
  · exact neg_mul x y
  · exact mul_neg x y
  · rfl

theorem signed_div (s t : Sign) (x y : ℚ) : signed s x / signed t y = signed (s / t) (x / y) := by
  cases s <;> cases t
  · exact neg_div_neg_eq x y
  · exact neg_div y x
  · exact div_neg x
  · rfl

theorem Representable.moderate {sign : Sign} {x : ℚ} (representable : Representable (signed sign x))
    (positive : 0 < x) : Moderate x := by
  rcases representable with zero | moderate
  · exact absurd zero (signed_ne_zero sign positive)
  · rwa [abs_signed sign positive] at moderate

theorem IsNormal.denotes {sign : Sign} {x : ℚ} (normal : IsNormal f sign x) :
    Denotes f (signed sign x) :=
  .inr ⟨sign, x, normal, rfl⟩

private theorem denotes_pack_zero (sign : Sign) : Denotes (.pack (.zero sign)) 0 := by
  refine .inl ⟨rfl, sign, ?_⟩
  cases sign <;> rfl

theorem Denotes.mul (first : Denotes f p) (second : Denotes g q)
    (representable : Representable (p * q)) : Denotes (f * g) (rounded (p * q)) := by
  rcases first with ⟨rfl, s, f_eq⟩ | ⟨s, x, f_normal, rfl⟩
  · have product : ∃ sign, f * g = .pack (.zero sign) := by
      rcases second with ⟨-, t, g_eq⟩ | ⟨t, y, ⟨n, d, n_pos, g_eq, -⟩, -⟩
      all_goals
        refine ⟨s * t, ?_⟩
        change Float32.Model.pack (UnpackedFloat.mul .binary32 f.unpack g.unpack) = _
        rw [f_eq, g_eq]
        rfl
    obtain ⟨sign, product_eq⟩ := product
    rw [product_eq, zero_mul, rounded_zero]
    exact denotes_pack_zero sign
  rcases second with ⟨rfl, t, g_eq⟩ | ⟨t, y, g_normal, rfl⟩
  · have product_eq : f * g = .pack (.zero (s * t)) := by
      obtain ⟨m, e, m_pos, f_eq, -⟩ := f_normal
      change Float32.Model.pack (UnpackedFloat.mul .binary32 f.unpack g.unpack) = _
      rw [f_eq, g_eq]
      rfl
    rw [product_eq, mul_zero, rounded_zero]
    exact denotes_pack_zero _
  · have positive := mul_pos f_normal.pos g_normal.pos
    rw [signed_mul] at representable ⊢
    rw [rounded_signed _ positive]
    exact (f_normal.mul g_normal (representable.moderate positive)).denotes

theorem Denotes.div (first : Denotes f p) (second : Denotes g q) (nonzero : q ≠ 0)
    (representable : Representable (p / q)) : Denotes (f / g) (rounded (p / q)) := by
  rcases second with ⟨rfl, -⟩ | ⟨t, y, g_normal, rfl⟩
  · exact absurd rfl nonzero
  rcases first with ⟨rfl, s, f_eq⟩ | ⟨s, x, f_normal, rfl⟩
  · have quotient_eq : f / g = .pack (.zero (s / t)) := by
      obtain ⟨n, d, n_pos, g_eq, -⟩ := g_normal
      change Float32.Model.pack (UnpackedFloat.div .binary32 f.unpack g.unpack) = _
      rw [f_eq, g_eq]
      rfl
    rw [quotient_eq, zero_div, rounded_zero]
    exact denotes_pack_zero _
  · have positive := div_pos f_normal.pos g_normal.pos
    rw [signed_div] at representable ⊢
    rw [rounded_signed _ positive]
    exact (f_normal.div g_normal (representable.moderate positive)).denotes

/-- A normal number needs no rounding. -/
theorem IsNormal.toPrecision_eq {sign : Sign} {x : ℚ} (normal : IsNormal f sign x) :
    toPrecision 24 x = x := by
  obtain ⟨mantissa, exponent, positive, -, bits, -, -, rfl⟩ := normal
  exact toPrecision_of_bits positive ((Nat.log2_eq_iff positive.ne').mp bits).2

/-- What a finite number denotes needs no rounding. -/
theorem Denotes.rounded_eq (denotes : Denotes f q) : rounded q = q := by
  rcases denotes with ⟨rfl, -⟩ | ⟨sign, x, normal, rfl⟩
  · exact rounded_zero
  · rw [rounded_signed sign normal.pos, normal.toPrecision_eq]

/-- A number that is unpacked and packed again denotes the same. -/
theorem Denotes.pack_unpack (denotes : Denotes f q) : Denotes (.pack f.unpack) q := by
  rcases denotes with ⟨rfl, sign, f_eq⟩ | ⟨sign, x, f_normal, rfl⟩
  · rw [f_eq]
    exact denotes_pack_zero sign
  · obtain ⟨m, e, positive, f_eq, bits, low, high, rfl⟩ := f_normal
    rw [f_eq]
    exact .inr ⟨sign, _, ⟨m, e, positive, unpack_pack positive bits low high, bits, low, high, rfl⟩,
      rfl⟩

/-- A sum of mantissas with one exponent. -/
private theorem denotes_normalize {mantissa exponent : ℤ}
    (representable : Representable (mantissa * 2 ^ exponent)) :
    Denotes (.pack (UnpackedFloat.normalize .binary32 mantissa exponent .positive))
      (rounded (mantissa * 2 ^ exponent)) := by
  have absolute {magnitude : ℕ} {sign : Sign} (positive : 0 < magnitude)
      (value : (mantissa : ℚ) * 2 ^ exponent = signed sign (magnitude * 2 ^ exponent)) :
      Denotes (.pack (UnpackedFloat.round .binary32 sign magnitude exponent))
        (rounded (mantissa * 2 ^ exponent)) := by
    have value_pos : (0 : ℚ) < magnitude * 2 ^ exponent := by positivity
    rw [value] at representable ⊢
    rw [rounded_signed sign value_pos]
    exact (isNormal_round positive (representable.moderate value_pos)).denotes
  unfold UnpackedFloat.normalize
  rcases lt_trichotomy mantissa 0 with negative | rfl | positive
  · rw [compare_lt_iff_lt.mpr negative]
    refine absolute (by omega) ?_
    rw [signed, ← Int.cast_natCast, Int.toNat_of_nonneg (by omega)]
    push_cast
    ring
  · rw [Int.cast_zero, zero_mul, rounded_zero]
    exact denotes_pack_zero .positive
  · rw [compare_gt_iff_gt.mpr positive]
    refine absolute (by omega) ?_
    rw [signed, ← Int.cast_natCast, Int.toNat_of_nonneg positive.le]

/-- A mantissa for a smaller exponent stands for the same number. -/
private theorem apply_decreaseExponent (sign : Sign) (mantissa : ℕ) {exponent smaller : ℤ}
    (le : smaller ≤ exponent) :
    (sign.apply (decreaseExponent mantissa exponent smaller).1 : ℚ) * 2 ^ smaller =
      signed sign (mantissa * 2 ^ exponent) := by
  obtain ⟨distance, rfl⟩ : ∃ distance : ℕ, exponent = smaller + distance :=
    ⟨(exponent - smaller).toNat, by omega⟩
  have amount : (smaller + distance - smaller).toNat = distance := by omega
  simp only [decreaseExponent, amount, Nat.shiftLeft_eq]
  rw [zpow_add₀ two_ne_zero, zpow_natCast]
  cases sign with
  | negative =>
      simp only [Sign.apply, signed]
      push_cast
      ring
  | positive =>
      simp only [Sign.apply, signed]
      push_cast
      ring

theorem Denotes.add (first : Denotes f p) (second : Denotes g q)
    (representable : Representable (p + q)) : Denotes (f + g) (rounded (p + q)) := by
  have sum : f + g = .pack (UnpackedFloat.add .binary32 f.unpack g.unpack) := rfl
  rcases first with ⟨rfl, s, f_eq⟩ | ⟨s, x, f_normal, rfl⟩
  · rw [zero_add, second.rounded_eq]
    rcases second with ⟨rfl, t, g_eq⟩ | ⟨t, y, g_normal, rfl⟩
    · rw [sum, f_eq, g_eq]
      cases s <;> cases t <;> exact denotes_pack_zero _
    · have kept := g_normal.denotes.pack_unpack
      obtain ⟨n, d, n_pos, g_eq, -⟩ := g_normal
      rw [sum, f_eq, g_eq]
      rwa [g_eq] at kept
  rcases second with ⟨rfl, t, g_eq⟩ | ⟨t, y, g_normal, rfl⟩
  · rw [add_zero, f_normal.denotes.rounded_eq]
    have kept := f_normal.denotes.pack_unpack
    obtain ⟨m, e, m_pos, f_eq, -⟩ := f_normal
    rw [sum, f_eq, g_eq]
    rwa [f_eq] at kept
  · obtain ⟨m, e, m_pos, f_eq, -, -, -, rfl⟩ := f_normal
    obtain ⟨n, d, n_pos, g_eq, -, -, -, rfl⟩ := g_normal
    rw [← apply_decreaseExponent s m (min_le_left e d),
      ← apply_decreaseExponent t n (min_le_right e d), ← add_mul, ← Int.cast_add] at representable ⊢
    rw [sum, f_eq, g_eq]
    exact denotes_normalize representable

theorem Denotes.sub (first : Denotes f p) (second : Denotes g q)
    (representable : Representable (p - q)) : Denotes (f - g) (rounded (p - q)) := by
  have difference : f - g = .pack (UnpackedFloat.sub .binary32 f.unpack g.unpack) := rfl
  rcases first with ⟨rfl, s, f_eq⟩ | ⟨s, x, f_normal, rfl⟩
  · rcases second with ⟨rfl, t, g_eq⟩ | ⟨t, y, ⟨n, d, n_pos, g_eq, bits, low, high, rfl⟩, rfl⟩
    · rw [sub_zero, rounded_zero, difference, f_eq, g_eq]
      cases s <;> cases t <;> exact denotes_pack_zero _
    · have opposite : IsNormal (.pack (.finite (-t) n d n_pos)) (-t) (n * 2 ^ d) :=
        ⟨n, d, n_pos, unpack_pack n_pos bits low high, bits, low, high, rfl⟩
      have value : 0 - signed t ((n : ℚ) * 2 ^ d) = signed (-t) (n * 2 ^ d) := by
        cases t with
        | negative => exact (zero_sub _).trans (neg_neg _)
        | positive => exact zero_sub _
      rw [value, opposite.denotes.rounded_eq, difference, f_eq, g_eq]
      exact opposite.denotes
  rcases second with ⟨rfl, t, g_eq⟩ | ⟨t, y, g_normal, rfl⟩
  · rw [sub_zero, f_normal.denotes.rounded_eq]
    have kept := f_normal.denotes.pack_unpack
    obtain ⟨m, e, m_pos, f_eq, -⟩ := f_normal
    rw [difference, f_eq, g_eq]
    rwa [f_eq] at kept
  · obtain ⟨m, e, m_pos, f_eq, -, -, -, rfl⟩ := f_normal
    obtain ⟨n, d, n_pos, g_eq, -, -, -, rfl⟩ := g_normal
    rw [← apply_decreaseExponent s m (min_le_left e d),
      ← apply_decreaseExponent t n (min_le_right e d), ← sub_mul, ← Int.cast_sub] at representable ⊢
    rw [difference, f_eq, g_eq]
    exact denotes_normalize representable

/-- A number with at most twenty-four significant bits is not changed. -/
theorem rounded_of_bits {mantissa : ℤ} {exponent : ℤ} (few : |mantissa| < 2 ^ 24) :
    rounded (mantissa * 2 ^ exponent) = mantissa * 2 ^ exponent := by
  obtain ⟨magnitude, rfl | rfl⟩ := mantissa.eq_nat_or_neg
  all_goals
    rcases Nat.eq_zero_or_pos magnitude with rfl | positive
    · simp [rounded_zero]
    have value_pos : (0 : ℚ) < magnitude * 2 ^ exponent := by positivity
  · rw [Nat.abs_cast] at few
    rw [Int.cast_natCast, rounded, if_pos value_pos.le]
    exact toPrecision_of_bits positive (by exact_mod_cast few)
  · rw [abs_neg, Nat.abs_cast] at few
    rw [Int.cast_neg, Int.cast_natCast, neg_mul, rounded, if_neg (by linarith), neg_neg]
    rw [toPrecision_of_bits positive (by exact_mod_cast few)]

/-- Rounding is symmetric. -/
theorem rounded_neg (q : ℚ) : rounded (-q) = -rounded q := by
  rcases lt_trichotomy q 0 with negative | rfl | positive
  · rw [rounded, rounded, if_pos (by linarith), if_neg (by linarith), neg_neg]
  · rw [neg_zero, rounded_zero, neg_zero]
  · rw [rounded, rounded, if_neg (by linarith), if_pos positive.le, neg_neg]

/-- Rounding moves a number by at most a fraction of it. -/
theorem abs_rounded_sub_le (q : ℚ) : |rounded q - q| ≤ |q| / 2 ^ 24 := by
  have of_pos {q : ℚ} (positive : 0 < q) : |rounded q - q| ≤ |q| / 2 ^ 24 := by
    rw [rounded, if_pos positive.le, abs_of_pos positive]
    exact abs_toPrecision_sub_le 24 positive
  rcases lt_trichotomy q 0 with negative | rfl | positive
  · have mirrored := of_pos (neg_pos.mpr negative)
    rwa [rounded_neg, abs_neg q, neg_sub_neg, abs_sub_comm] at mirrored
  · rw [rounded_zero, sub_zero, abs_zero, zero_div]
  · exact of_pos positive

/-- A tenth of an integer, rounded, gives the integer back. -/
theorem rounded_tenth_mul_ten {n : ℤ} (few : |n| < 2 ^ 23) :
    rounded (rounded (n / 10) * 10) = n := by
  have natural {magnitude : ℕ} (few : magnitude < 2 ^ 23) :
      rounded (rounded ((magnitude : ℚ) / 10) * 10) = magnitude := by
    rcases Nat.eq_zero_or_pos magnitude with rfl | positive
    · simp [rounded_zero]
    have tenth_pos : (0 : ℚ) < magnitude / 10 := by positivity
    have nonneg : 0 ≤ toPrecision 24 ((magnitude : ℚ) / 10) * 10 := by
      have moved := abs_le.mp (abs_toPrecision_sub_le 24 tenth_pos)
      linarith [moved.1]
    rw [rounded, rounded, if_pos tenth_pos.le, if_pos nonneg]
    exact toPrecision_tenth_mul_ten positive few
  obtain ⟨magnitude, rfl | rfl⟩ := n.eq_nat_or_neg
  · rw [Nat.abs_cast] at few
    rw [Int.cast_natCast]
    exact natural (by exact_mod_cast few)
  · rw [abs_neg, Nat.abs_cast] at few
    rw [Int.cast_neg, Int.cast_natCast, neg_div, rounded_neg, neg_mul, rounded_neg,
      natural (by exact_mod_cast few)]

/-- Numbers of a moderate size can be represented. -/
theorem representable_of_abs {q : ℚ} (low : 1 / 16 ≤ |q|) (high : |q| < 2 ^ 24) :
    Representable q := by
  refine .inr ⟨?_, ?_⟩
  · exact le_trans (by norm_num) low
  · exact high.trans (by norm_num)

/-- An integer with at most twenty-four bits is converted exactly. -/
theorem denotes_ofInt {n : ℤ} (few : |n| < 2 ^ 24) : Denotes (.ofInt n) n := by
  have value : (n : ℚ) * 2 ^ (0 : ℤ) = n := by rw [zpow_zero, mul_one]
  have exact_value : rounded ((n : ℚ) * 2 ^ (0 : ℤ)) = n * 2 ^ (0 : ℤ) := rounded_of_bits few
  have representable : Representable ((n : ℚ) * 2 ^ (0 : ℤ)) := by
    rw [value]
    rcases eq_or_ne n 0 with rfl | nonzero
    · exact .inl Int.cast_zero
    have low : (1 : ℚ) ≤ |(n : ℚ)| := by exact_mod_cast Int.one_le_abs nonzero
    have high : |(n : ℚ)| < 2 ^ 24 := by exact_mod_cast few
    refine .inr ⟨?_, ?_⟩
    · exact (zpow_le_one_of_nonpos₀ one_le_two (by norm_num)).trans low
    · exact high.trans (by norm_num)
  have converted := denotes_normalize representable
  rwa [exact_value, value] at converted

/-! ## Comparisons and conversions -/

/-- Normal numbers are ordered by their exponents first. -/
private theorem compare_normal {m n : ℕ} {e d : ℤ} (m_bits : m.log2 = 23) (n_bits : n.log2 = 23) :
    compare ((m : ℚ) * 2 ^ e) (n * 2 ^ d) = (compare e d).then (compare m n) := by
  have below {m n : ℕ} {e d : ℤ} (m_bits : m.log2 = 23) (n_bits : n.log2 = 23) (less : e < d) :
      (m : ℚ) * 2 ^ e < n * 2 ^ d := by
    have m_high : m < 2 ^ 24 := Nat.log2_lt (by rintro rfl; simp at m_bits) |>.mp (by omega)
    have n_low : 2 ^ 23 ≤ n := (Nat.le_log2 (by rintro rfl; simp at n_bits)).mp n_bits.ge
    have m_cast : (m : ℚ) < 2 ^ 24 := by exact_mod_cast m_high
    have n_cast : (2 : ℚ) ^ 23 ≤ n := by exact_mod_cast n_low
    calc (m : ℚ) * 2 ^ e < 2 ^ 24 * 2 ^ e := mul_lt_mul_of_pos_right m_cast (by positivity)
      _ = 2 ^ 23 * 2 ^ (e + 1) := by
        rw [zpow_add_one₀ two_ne_zero]
        ring
      _ ≤ n * 2 ^ d :=
        mul_le_mul n_cast (zpow_le_zpow_right₀ one_le_two less) (by positivity) (by positivity)
  rcases lt_trichotomy e d with less | rfl | greater
  · rw [compare_lt_iff_lt.mpr less, compare_lt_iff_lt.mpr (below m_bits n_bits less)]
    rfl
  · have unit_pos : (0 : ℚ) < 2 ^ e := by positivity
    rw [compare_eq_iff_eq.mpr rfl, Ordering.then]
    rcases lt_trichotomy m n with less | rfl | greater
    · rw [compare_lt_iff_lt.mpr less, compare_lt_iff_lt]
      exact mul_lt_mul_of_pos_right (by exact_mod_cast less) unit_pos
    · rw [compare_eq_iff_eq.mpr rfl, compare_eq_iff_eq.mpr rfl]
    · rw [compare_gt_iff_gt.mpr greater, compare_gt_iff_gt]
      exact mul_lt_mul_of_pos_right (by exact_mod_cast greater) unit_pos
  · rw [compare_gt_iff_gt.mpr greater, compare_gt_iff_gt.mpr (below n_bits m_bits greater)]
    rfl

/-- Finite numbers compare as what they denote does. -/
theorem Denotes.compare_eq (first : Denotes f p) (second : Denotes g q) :
    f.unpack.compare g.unpack = some (compare p q) := by
  rcases first with ⟨rfl, s, f_eq⟩ | ⟨s, x, f_normal, rfl⟩
  · rcases second with ⟨rfl, t, g_eq⟩ | ⟨t, y, g_normal, rfl⟩
    · rw [f_eq, g_eq, compare_eq_iff_eq.mpr rfl]
      rfl
    · have positive := g_normal.pos
      obtain ⟨n, d, n_pos, g_eq, -⟩ := g_normal
      rw [f_eq, g_eq]
      cases t with
      | negative =>
          rw [compare_gt_iff_gt.mpr (by rw [signed]; linarith)]
          rfl
      | positive =>
          rw [compare_lt_iff_lt.mpr (by rw [signed]; linarith)]
          rfl
  · have f_pos := f_normal.pos
    obtain ⟨m, e, m_pos, f_eq, m_bits, -, -, rfl⟩ := f_normal
    rcases second with ⟨rfl, t, g_eq⟩ | ⟨t, y, g_normal, rfl⟩
    · rw [f_eq, g_eq]
      cases s with
      | negative =>
          rw [compare_lt_iff_lt.mpr (by rw [signed]; linarith)]
          rfl
      | positive =>
          rw [compare_gt_iff_gt.mpr (by rw [signed]; linarith)]
          rfl
    · have g_pos := g_normal.pos
      obtain ⟨n, d, n_pos, g_eq, n_bits, -, -, rfl⟩ := g_normal
      rw [f_eq, g_eq]
      cases s <;> cases t
      · have mirrored : compare (-((m : ℚ) * 2 ^ e)) (-(n * 2 ^ d)) =
            (compare ((m : ℚ) * 2 ^ e) (n * 2 ^ d)).swap := by
          rcases lt_trichotomy ((m : ℚ) * 2 ^ e) (n * 2 ^ d) with less | same | greater
          · rw [compare_lt_iff_lt.mpr less, compare_gt_iff_gt.mpr (neg_lt_neg less)]
            rfl
          · rw [same, compare_eq_iff_eq.mpr rfl, compare_eq_iff_eq.mpr rfl]
            rfl
          · rw [compare_gt_iff_gt.mpr greater, compare_lt_iff_lt.mpr (neg_lt_neg greater)]
            rfl
        rw [signed, signed, mirrored, compare_normal m_bits n_bits]
        rfl
      · rw [compare_lt_iff_lt.mpr (by rw [signed, signed]; linarith)]
        rfl
      · rw [compare_gt_iff_gt.mpr (by rw [signed, signed]; linarith)]
        rfl
      · rw [signed, signed, compare_normal m_bits n_bits]
        rfl

theorem Denotes.lt_iff (first : Denotes f p) (second : Denotes g q) : f < g ↔ p < q := by
  change ((f.unpack.compare g.unpack) == some .lt) = true ↔ _
  rw [first.compare_eq second, beq_iff_eq, Option.some_inj, compare_lt_iff_lt]

theorem Denotes.le_iff (first : Denotes f p) (second : Denotes g q) : f ≤ g ↔ p ≤ q := by
  change ((f.unpack.compare g.unpack).any (·.isLE)) = true ↔ _
  rw [first.compare_eq second, Option.any_some, ← Ordering.ne_gt_iff_isLE]
  exact compare_le_iff_le

/-- A rational number without what is behind the decimal point. -/
def truncated (q : ℚ) : ℤ := if 0 ≤ q then ⌊q⌋₊ else -⌊-q⌋₊

theorem truncated_of_bounds {n : ℕ} (low : n ≤ q) (high : q < n + 1) : truncated q = n := by
  have nonneg : 0 ≤ q := (Nat.cast_nonneg n).trans low
  rw [truncated, if_pos nonneg, (Nat.floor_eq_iff nonneg).mpr ⟨low, high⟩]

theorem truncated_neg (q : ℚ) : truncated (-q) = -truncated q := by
  rcases lt_trichotomy q 0 with negative | rfl | positive
  · rw [truncated, truncated, if_pos (by linarith), if_neg (by linarith), neg_neg]
  · simp [truncated]
  · rw [truncated, truncated, if_neg (by linarith), if_pos positive.le, neg_neg]

/-- Conversion to an integer cuts the fraction off. -/
private theorem roundToInt_eq (sign : Sign) {mantissa : ℕ} {exponent : ℤ}
    (positive : 0 < mantissa) :
    roundToInt sign mantissa exponent = truncated (signed sign (mantissa * 2 ^ exponent)) := by
  have value_pos : (0 : ℚ) < mantissa * 2 ^ exponent := by positivity
  have integer : roundToInt sign mantissa exponent =
      sign.apply ⌊(mantissa * 2 ^ exponent : ℚ)⌋₊ := by
    obtain ⟨left, right, exponent_eq, exclusive⟩ : ∃ left right : ℕ, exponent = left - right ∧
        (left = 0 ∨ right = 0) := ⟨exponent.toNat, (-exponent).toNat, by omega, by omega⟩
    have left_amount : (exponent - 0).toNat = left := by omega
    have right_amount : (0 - (exponent - left)).toNat = right := by omega
    have exact_value : Describes
        (ExtendedMantissa.ofMantissaAndAccuracy (mantissa * 2 ^ left) .exact)
        (mantissa * 2 ^ left : ℕ) := sub_self _
    have shifted := exact_value.shiftRight right
    have value : ((mantissa * 2 ^ left : ℕ) : ℚ) / 2 ^ right = mantissa * 2 ^ exponent := by
      rw [exponent_eq, zpow_sub₀ two_ne_zero, zpow_natCast, zpow_natCast]
      push_cast
      ring
    rw [value] at shifted
    rw [shifted.floor_eq]
    simp only [roundToInt, decreaseExponent, shiftToExponent, left_amount, right_amount,
      Nat.shiftLeft_eq]
  rw [integer]
  cases sign with
  | negative => rw [signed, truncated, if_neg (by linarith), neg_neg, Sign.apply]
  | positive => rw [signed, truncated, if_pos value_pos.le, Sign.apply]

/-- A finite number converts to the integer part of what it denotes, as far as that fits. -/
theorem Denotes.toInt16_eq (denotes : Denotes f q) :
    f.toInt16 = Int16.ofIntClamp (truncated q) := by
  rcases denotes with ⟨rfl, sign, f_eq⟩ | ⟨sign, x, ⟨m, e, positive, f_eq, -, -, -, rfl⟩, rfl⟩
  · change UnpackedFloat.toInt16 f.unpack = _
    rw [f_eq, truncated, if_pos le_rfl, Nat.floor_zero]
    rfl
  · change UnpackedFloat.toInt16 f.unpack = _
    rw [f_eq, ← roundToInt_eq sign positive]
    rfl

end Denotations

end Binary32
