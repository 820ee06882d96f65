import Motonet.Foundation.Limbs
import Motonet.RsaVerifyCore.PublicKey

/-!
# Parameters of the hardware

The RSA accelerator multiplies in Montgomery form with 64 words, and needs two numbers that depend
on the modulus: the negated inverse of its lowest word, and the residue of the squared radix.
-/

namespace Motonet
namespace RsaVerifyCore

/-- `rsa2048_be_bytes_to_le_words`. -/
def rsa2048BeBytesToLeWords (bytes : List.Vector UInt8 rsa2048Len) : List UInt32 :=
  (List.range 64).map fun index =>
    let byteOffset := rsa2048Len - (index + 1) * 4
    UInt32.ofNat (ByteString.ofBigEndian ((bytes.toList.drop byteOffset).take 4))

/-- `compute_m_prime`. -/
def computeMPrime (modulusLe : List UInt32) : UInt32 :=
  let modulusLimb := modulusLe.headD 0
  let inverse := (List.range 5).foldl
    (fun inverse _ => inverse * (2 - modulusLimb * inverse)) (1 : UInt32)
  inverse.neg

/-- The loop of `double_mod`, from a carry on: the doubled words and the carry out of them. -/
def doubleWords : UInt64 → List UInt32 → List UInt32 × UInt64
  | carry, [] => ([], carry)
  | carry, word :: words =>
      let doubled := (word.toUInt64 <<< 1) ||| carry
      let rest := doubleWords (doubled >>> 32) words
      (doubled.toUInt32 :: rest.1, rest.2)

/-- The loop of `cmp_le_words` over pairs of words, the most significant pair first. -/
def cmpWords : List (UInt32 × UInt32) → Ordering
  | [] => .eq
  | (left, right) :: rest =>
      if left < right then .lt else if left > right then .gt else cmpWords rest

/-- `cmp_le_words`. -/
def cmpLeWords (left right : List UInt32) : Ordering :=
  cmpWords (left.zip right).reverse

/-- The loop of `sub_assign_le_words`, from a borrow on: the difference and the borrow out of it. -/
def subWords : UInt64 → List UInt32 → List UInt32 → List UInt32 × UInt64
  | borrow, left :: lefts, right :: rights =>
      let rhs := right.toUInt64 + borrow
      let lhs := left.toUInt64
      let rest := subWords (if lhs < rhs then 1 else 0) lefts rights
      ((lhs - rhs).toUInt32 :: rest.1, rest.2)
  | borrow, _, _ => ([], borrow)

/-- `sub_assign_le_words`, which drops the last borrow. -/
def subAssignLeWords (left right : List UInt32) : List UInt32 := (subWords 0 left right).1

/-- `double_mod`. -/
def doubleMod (value modulus : List UInt32) : List UInt32 :=
  let doubled := doubleWords 0 value
  if doubled.2 ≠ 0 ∨ cmpLeWords doubled.1 modulus ≠ .lt then subAssignLeWords doubled.1 modulus
  else doubled.1

/-- `compute_r_squared_mod_n`. -/
def computeRSquaredModN (modulusLe : List UInt32) : List UInt32 :=
  (List.range (rsa2048Len * 16)).foldl (fun value _ => doubleMod value modulusLe)
    (1 :: List.replicate 63 0)

/-! ## Bytes and words -/

theorem length_rsa2048BeBytesToLeWords (bytes : List.Vector UInt8 rsa2048Len) :
    (rsa2048BeBytesToLeWords bytes).length = 64 := by
  rw [rsa2048BeBytesToLeWords, List.length_map, List.length_range]

/-- The words spell the number that the bytes spell. -/
theorem value_rsa2048BeBytesToLeWords (bytes : List.Vector UInt8 rsa2048Len) :
    Limbs.value (rsa2048BeBytesToLeWords bytes) = ByteString.ofBigEndian bytes.toList :=
  Limbs.value_map_range 64 bytes.toList_length

/-! ## The inverse of the lowest word -/

open scoped UInt32.CommRing in
theorem one_sub_of_odd {word : UInt32} (odd : word.toNat % 2 = 1) :
    ∃ half : UInt32, 1 - word = 2 * half := by
  obtain ⟨quotient, spelled⟩ : ∃ quotient : UInt32, word = 2 * quotient + 1 := by
    have split : word.toNat = 2 * (word.toNat / 2) + 1 := by omega
    refine ⟨UInt32.ofNat (word.toNat / 2), ?_⟩
    conv_lhs => rw [← UInt32.ofNat_toNat (x := word), split, UInt32.ofNat_add, UInt32.ofNat_mul]
    rfl
  refine ⟨-quotient, ?_⟩
  rw [spelled]
  ring

open scoped UInt32.CommRing in
/-- For an odd word the iteration ends at its negated inverse. -/
theorem computeMPrime_mul {modulusLe : List UInt32} (odd : (modulusLe.headD 0).toNat % 2 = 1) :
    computeMPrime modulusLe * modulusLe.headD 0 = -1 := by
  obtain ⟨half, even⟩ := one_sub_of_odd odd
  have error := Limbs.newton_iterations_error (modulusLe.headD 0) 1 5
  have vanishes : (2 : UInt32) ^ 2 ^ 5 = 0 := by decide
  rw [mul_one, even, mul_pow, vanishes, zero_mul, sub_eq_zero] at error
  change -(List.range 5).foldl _ 1 * modulusLe.headD 0 = -1
  rw [neg_mul, mul_comm, ← error]

/-! ## The residue of the squared radix -/

/-- Doubling a word with a carry into it. -/
theorem toNat_double (word : UInt32) {carry : UInt64} (bit : carry.toNat ≤ 1) :
    ((word.toUInt64 <<< 1) ||| carry).toNat = 2 * word.toNat + carry.toNat := by
  have bound := word.toNat_lt
  have shifted : (word.toUInt64 <<< 1).toNat = word.toNat <<< 1 := by
    rw [UInt64.toNat_shiftLeft, UInt32.toNat_toUInt64]
    change word.toNat <<< 1 % 2 ^ 64 = word.toNat <<< 1
    omega
  rw [UInt64.toNat_or, shifted, ← Nat.shiftLeft_add_eq_or_of_lt (by omega)]
  omega

theorem doubleWords_spec (words : List UInt32) {carry : UInt64} (bit : carry.toNat ≤ 1) :
    (doubleWords carry words).1.length = words.length ∧ (doubleWords carry words).2.toNat ≤ 1 ∧
      Limbs.value (doubleWords carry words).1 +
          Limbs.radix words.length * (doubleWords carry words).2.toNat =
        2 * Limbs.value words + carry.toNat := by
  induction words generalizing carry with
  | nil => simp [doubleWords, Limbs.value, bit]
  | cons word words ih =>
      have bound := word.toNat_lt
      have doubled := toNat_double word bit
      have low : (((word.toUInt64 <<< 1) ||| carry).toUInt32).toNat =
          (2 * word.toNat + carry.toNat) % 2 ^ 32 := by
        rw [UInt64.toNat_toUInt32, doubled]
      have high : (((word.toUInt64 <<< 1) ||| carry) >>> 32).toNat =
          (2 * word.toNat + carry.toNat) / 2 ^ 32 := by
        rw [UInt64.toNat_shiftRight, doubled]
        exact Nat.shiftRight_eq_div_pow _ _
      obtain ⟨length, out, spelled⟩ := ih (by rw [high]; omega)
      refine ⟨congrArg (· + 1) length, out, ?_⟩
      rw [high] at spelled
      simp only [doubleWords, Limbs.value, List.length_cons, Limbs.radix_succ, low, Nat.mul_assoc]
      omega

/-- Subtracting a word and a borrow from a word. -/
theorem toNat_subtract (left right : UInt32) {borrow : UInt64} (bit : borrow.toNat ≤ 1) :
    ((left.toUInt64 - (right.toUInt64 + borrow)).toUInt32).toNat + (right.toNat + borrow.toNat) =
      left.toNat + 2 ^ 32 *
        (if left.toUInt64 < right.toUInt64 + borrow then 1 else 0 : UInt64).toNat := by
  have left_bound := left.toNat_lt
  have right_bound := right.toNat_lt
  have sum : (right.toUInt64 + borrow).toNat = right.toNat + borrow.toNat := by
    rw [UInt64.toNat_add, UInt32.toNat_toUInt64]
    omega
  rw [UInt64.toNat_toUInt32, UInt64.toNat_sub, sum, UInt32.toNat_toUInt64]
  split_ifs with less
  · rw [UInt64.lt_iff_toNat_lt, sum, UInt32.toNat_toUInt64] at less
    rw [UInt64.toNat_one]
    omega
  · rw [UInt64.lt_iff_toNat_lt, sum, UInt32.toNat_toUInt64] at less
    rw [UInt64.toNat_zero]
    omega

theorem subWords_spec {left right : List UInt32} (length : left.length = right.length)
    {borrow : UInt64} (bit : borrow.toNat ≤ 1) :
    (subWords borrow left right).1.length = left.length ∧
      (subWords borrow left right).2.toNat ≤ 1 ∧
      Limbs.value (subWords borrow left right).1 + (Limbs.value right + borrow.toNat) =
        Limbs.value left + Limbs.radix left.length * (subWords borrow left right).2.toNat := by
  induction left generalizing right borrow with
  | nil =>
      obtain rfl := List.length_eq_zero_iff.mp length.symm
      simp [subWords, Limbs.value, bit]
  | cons left lefts ih =>
      obtain ⟨right, rights, rfl⟩ := List.exists_cons_of_length_eq_add_one length.symm
      have subtracted := toNat_subtract left right bit
      have next :
          (if left.toUInt64 < right.toUInt64 + borrow then 1 else 0 : UInt64).toNat ≤ 1 := by
        split_ifs <;> decide
      obtain ⟨same, out, spelled⟩ := ih (Nat.succ.inj length) next
      refine ⟨congrArg (· + 1) same, out, ?_⟩
      simp only [subWords, Limbs.value, List.length_cons, Limbs.radix_succ, Nat.mul_assoc]
      omega

/-- The most significant words that differ decide the order. -/
theorem cmpWords_reverse_eq_lt_iff (pairs : List (UInt32 × UInt32)) :
    (cmpWords pairs.reverse = .lt ↔
      Limbs.value (pairs.map Prod.fst) < Limbs.value (pairs.map Prod.snd)) := by
  induction pairs using List.reverseRecOn with
  | nil => simp [cmpWords, Limbs.value]
  | append_singleton pairs pair ih =>
      obtain ⟨left, right⟩ := pair
      have left_low := Limbs.value_lt (pairs.map Prod.fst)
      have right_low := Limbs.value_lt (pairs.map Prod.snd)
      rw [List.length_map] at left_low right_low
      simp only [List.map_append, List.map_cons, List.map_nil, Limbs.value_append, List.length_map,
        Limbs.value, Nat.mul_zero, Nat.add_zero, List.reverse_append, List.reverse_cons,
        List.reverse_nil, List.nil_append, List.cons_append, cmpWords]
      split_ifs with less greater
      · have step := Nat.mul_le_mul_left (Limbs.radix pairs.length)
          (Nat.succ_le_of_lt (UInt32.lt_iff_toNat_lt.mp less))
        rw [Nat.mul_succ] at step
        simp only [true_iff]
        omega
      · have step := Nat.mul_le_mul_left (Limbs.radix pairs.length)
          (Nat.succ_le_of_lt (UInt32.lt_iff_toNat_lt.mp greater))
        rw [Nat.mul_succ] at step
        simp only [false_iff]
        omega
      · have same : left = right :=
          UInt32.le_antisymm (UInt32.not_lt.mp greater) (UInt32.not_lt.mp less)
        rw [same, ih]
        omega

theorem cmpLeWords_eq_lt_iff {left right : List UInt32} (length : left.length = right.length) :
    cmpLeWords left right = .lt ↔ Limbs.value left < Limbs.value right := by
  rw [cmpLeWords, cmpWords_reverse_eq_lt_iff, List.map_fst_zip length.le,
    List.map_snd_zip length.ge]

/-- The subtraction of the modulus takes the carry out of a doubled residue back: the borrow out of
it is that carry. -/
theorem residue_of_subtracted {doubled difference modulus value radix carry borrow : ℕ}
    (carry_le : carry ≤ 1) (borrow_le : borrow ≤ 1) (residue : value < modulus)
    (doubled_lt : doubled < radix) (difference_lt : difference < radix)
    (sum : doubled + radix * carry = 2 * value)
    (subtracted : difference + modulus = doubled + radix * borrow)
    (exceeds : carry ≠ 0 ∨ modulus ≤ doubled) :
    borrow = carry ∧ difference + modulus = 2 * value := by
  obtain rfl | rfl : carry = 0 ∨ carry = 1 := by omega
  all_goals
    obtain rfl | rfl : borrow = 0 ∨ borrow = 1 := by omega
    all_goals omega

/-- The carry out of the doubled words and the borrow out of the subtraction are one, and cancel. -/
theorem carry_cancels {value modulus : List UInt32} (length : value.length = modulus.length)
    (residue : Limbs.value value < Limbs.value modulus) :
    let doubled := doubleWords 0 value
    Limbs.value doubled.1 + Limbs.radix value.length * doubled.2.toNat = 2 * Limbs.value value ∧
      (doubled.2 ≠ 0 ∨ cmpLeWords doubled.1 modulus ≠ .lt →
        (subWords 0 doubled.1 modulus).2 = doubled.2 ∧
        Limbs.value (subAssignLeWords doubled.1 modulus) + Limbs.value modulus =
          2 * Limbs.value value) := by
  intro doubled
  have clear : (0 : UInt64).toNat ≤ 1 := by decide
  obtain ⟨same, carry_le, sum⟩ := doubleWords_spec value clear
  have fits := same.trans length
  rw [UInt64.toNat_zero, Nat.add_zero] at sum
  refine ⟨sum, fun exceeds => ?_⟩
  obtain ⟨shorter, borrow_le, subtracted⟩ := subWords_spec fits clear
  have doubled_lt := Limbs.value_lt (doubleWords 0 value).1
  have difference_lt := Limbs.value_lt (subWords 0 (doubleWords 0 value).1 modulus).1
  rw [same] at doubled_lt
  rw [shorter, same] at difference_lt
  rw [same, UInt64.toNat_zero, Nat.add_zero] at subtracted
  have large : (doubleWords 0 value).2.toNat ≠ 0 ∨
      Limbs.value modulus ≤ Limbs.value (doubleWords 0 value).1 := by
    obtain carried | ordered := exceeds
    · exact .inl fun zero => carried (UInt64.toNat_inj.mp zero)
    · exact .inr (Nat.not_lt.mp fun less => ordered ((cmpLeWords_eq_lt_iff fits).mpr less))
  obtain ⟨cancels, whole⟩ := residue_of_subtracted carry_le borrow_le residue doubled_lt
    difference_lt sum subtracted large
  exact ⟨UInt64.toNat_inj.mp cancels, whole⟩

/-- Doubling a residue. -/
theorem doubleMod_spec {value modulus : List UInt32} (length : value.length = modulus.length)
    (residue : Limbs.value value < Limbs.value modulus) :
    (doubleMod value modulus).length = modulus.length ∧
      Limbs.value (doubleMod value modulus) = 2 * Limbs.value value % Limbs.value modulus := by
  have clear : (0 : UInt64).toNat ≤ 1 := by decide
  have fits := (doubleWords_spec value clear).1.trans length
  obtain ⟨sum, cancels⟩ := carry_cancels length residue
  unfold doubleMod
  dsimp only
  split_ifs with exceeds
  · obtain ⟨-, whole⟩ := cancels exceeds
    refine ⟨(subWords_spec fits clear).1.trans fits, ?_⟩
    rw [← whole, Nat.add_mod_right, Nat.mod_eq_of_lt (by omega)]
  · obtain ⟨uncarried, ordered⟩ := not_or.mp exceeds
    have less := (cmpLeWords_eq_lt_iff fits).mp (not_not.mp ordered)
    rw [not_not.mp uncarried, UInt64.toNat_zero, Nat.mul_zero, Nat.add_zero] at sum
    refine ⟨fits, ?_⟩
    rw [← sum, Nat.mod_eq_of_lt less]

/-- The residues of the powers of two, one after the other. -/
theorem doubleMod_iterations_spec {modulus : List UInt32} (length : modulus.length = 64)
    (proper : 1 < Limbs.value modulus) (count : ℕ) :
    let value := (List.range count).foldl (fun value _ => doubleMod value modulus)
      (1 :: List.replicate 63 0)
    value.length = modulus.length ∧ Limbs.value value = 2 ^ count % Limbs.value modulus := by
  induction count with
  | zero =>
      have one : Limbs.value (1 :: List.replicate 63 0) = 1 := by decide
      refine ⟨by rw [length]; rfl, ?_⟩
      rw [pow_zero, Nat.mod_eq_of_lt proper]
      exact one
  | succ count ih =>
      obtain ⟨same, residue⟩ := ih
      simp only [List.range_succ, List.foldl_append, List.foldl_cons, List.foldl_nil]
      have below := Nat.mod_lt (2 ^ count) (Nat.zero_lt_of_lt proper)
      rw [← residue] at below
      obtain ⟨length, doubled⟩ := doubleMod_spec same below
      refine ⟨length, ?_⟩
      rw [doubled, residue, Nat.mul_mod_mod, pow_succ, Nat.mul_comm]

/-- The squared radix modulo a modulus. -/
theorem computeRSquaredModN_spec {modulusLe : List UInt32} (length : modulusLe.length = 64)
    (proper : 1 < Limbs.value modulusLe) :
    (computeRSquaredModN modulusLe).length = 64 ∧
      Limbs.value (computeRSquaredModN modulusLe) = 2 ^ 4096 % Limbs.value modulusLe := by
  obtain ⟨same, residue⟩ := doubleMod_iterations_spec length proper (rsa2048Len * 16)
  have exponent : rsa2048Len * 16 = 4096 := rfl
  rw [exponent] at residue
  exact ⟨same.trans length, residue⟩

end RsaVerifyCore
end Motonet
