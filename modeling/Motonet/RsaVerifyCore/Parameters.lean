import Motonet.RsaVerifyCore.KeySetup

/-!
# The parameter arithmetic

Every step of the arithmetic that prepares a modulus for the hardware: the words and back, the
inverse of the lowest word, and the residues of the powers of two.
-/

namespace Motonet
namespace RsaVerifyCore

/-- `rsa2048_le_words_to_be_bytes`: each word is copied over the bytes of its place. -/
def rsa2048LeWordsToBeBytes (words : List UInt32) : List UInt8 :=
  (List.range 64).foldl (fun bytes index =>
    let byteOffset := rsa2048Len - (index + 1) * 4
    bytes.take byteOffset ++ ByteString.toBigEndian 4 (words.getD index 0).toNat ++
      bytes.drop (byteOffset + 4)) (List.replicate rsa2048Len 0)

/-- The value of `compute_r_squared_mod_n` after a number of its iterations. -/
def powerResidue (modulusLe : List UInt32) (count : ℕ) : List UInt32 :=
  (List.range count).foldl (fun value _ => doubleMod value modulusLe)
    (1 :: List.replicate 63 0)

/-! ## Words and bytes -/

/-- After some iterations the bytes of the first words are in place. -/
theorem leWordsToBeBytes_loop {words : List UInt32} (length : words.length = 64) {count : ℕ}
    (inside : count ≤ 64) :
    (List.range count).foldl (fun bytes index =>
      let byteOffset := rsa2048Len - (index + 1) * 4
      bytes.take byteOffset ++ ByteString.toBigEndian 4 (words.getD index 0).toNat ++
        bytes.drop (byteOffset + 4)) (List.replicate rsa2048Len 0) =
      List.replicate (rsa2048Len - 4 * count) 0 ++ Limbs.toBigEndian (words.take count) := by
  induction count with
  | zero => simp [Limbs.toBigEndian]
  | succ count ih =>
      have here : count < words.length := by omega
      have offset : rsa2048Len - (count + 1) * 4 = rsa2048Len - 4 * (count + 1) := by
        rw [Nat.mul_comm]
      have width : rsa2048Len - 4 * count = rsa2048Len - 4 * (count + 1) + 4 := by
        simp only [rsa2048Len]
        omega
      have shorter : min (rsa2048Len - 4 * (count + 1)) (rsa2048Len - 4 * count) =
          rsa2048Len - 4 * (count + 1) := by omega
      have word : words.getD count 0 = words[count] := by
        rw [List.getD_eq_getElem?_getD, List.getElem?_eq_getElem here]
        rfl
      rw [List.range_succ, List.foldl_append, ih (Nat.le_of_succ_le inside), List.foldl_cons,
        List.foldl_nil]
      dsimp only
      rw [offset, ← width, List.take_append_of_le_length (by rw [List.length_replicate]; omega),
        List.take_replicate, shorter, List.drop_left' List.length_replicate,
        List.append_assoc, word, List.take_succ_eq_append_getElem here,
        Limbs.toBigEndian_append]

theorem rsa2048LeWordsToBeBytes_eq {words : List UInt32} (length : words.length = 64) :
    rsa2048LeWordsToBeBytes words = Limbs.toBigEndian words := by
  rw [rsa2048LeWordsToBeBytes, leWordsToBeBytes_loop length (Nat.le_refl 64),
    List.take_of_length_le length.le]
  rfl

/-- The bytes spell the number that the words spell. -/
theorem ofBigEndian_rsa2048LeWordsToBeBytes {words : List UInt32} (length : words.length = 64) :
    (rsa2048LeWordsToBeBytes words).length = rsa2048Len ∧
      ByteString.ofBigEndian (rsa2048LeWordsToBeBytes words) = Limbs.value words := by
  rw [rsa2048LeWordsToBeBytes_eq length]
  refine ⟨?_, Limbs.ofBigEndian_toBigEndian words⟩
  rw [Limbs.length_toBigEndian, length]
  rfl

/-- From bytes to words and back. -/
theorem leWordsToBeBytes_beBytesToLeWords (bytes : List.Vector UInt8 rsa2048Len) :
    rsa2048LeWordsToBeBytes (rsa2048BeBytesToLeWords bytes) = bytes.toList := by
  obtain ⟨length, spelled⟩ :=
    ofBigEndian_rsa2048LeWordsToBeBytes (length_rsa2048BeBytesToLeWords bytes)
  rw [value_rsa2048BeBytesToLeWords] at spelled
  exact ByteString.ofBigEndian_injective (length.trans bytes.toList_length.symm) spelled

/-! ## The inverse -/

/-- A product of words is minus one exactly if the product of the numbers is, modulo the radix. -/
theorem mul_eq_neg_one_iff (left right : UInt32) :
    left * right = -1 ↔ 2 ^ 32 ∣ right.toNat * left.toNat + 1 := by
  have sum : (left * right + 1).toNat = (right.toNat * left.toNat + 1) % 2 ^ 32 := by
    rw [UInt32.toNat_add, UInt32.toNat_mul, Nat.mul_comm]
    exact Nat.mod_add_mod _ _ _
  rw [Nat.dvd_iff_mod_eq_zero, ← sum]
  constructor
  · intro product
    rw [product]
    rfl
  · intro zero
    have vanishes : left * right + 1 = 0 := UInt32.toNat_inj.mp zero
    calc left * right = left * right + 1 - 1 := (UInt32.add_sub_cancel _ _).symm
      _ = -1 := by rw [vanishes]; rfl

/-- Only the lowest word of a number counts modulo the radix. -/
theorem dvd_value_mul_add_one_iff (words : List UInt32) (factor : ℕ) :
    2 ^ 32 ∣ Limbs.value words * factor + 1 ↔ 2 ^ 32 ∣ (words.headD 0).toNat * factor + 1 := by
  cases words with
  | nil => rfl
  | cons word words =>
      have split : (word.toNat + 2 ^ 32 * Limbs.value words) * factor + 1 =
          word.toNat * factor + 1 + 2 ^ 32 * (Limbs.value words * factor) := by ring
      rw [Limbs.value, List.headD_cons, split, Nat.dvd_add_left (Nat.dvd_mul_right _ _)]

open scoped UInt32.CommRing in
/-- For an odd number there is one factor that makes minus one of it, modulo the radix. -/
theorem computeMPrime_unique {modulusLe : List UInt32} (odd : Limbs.value modulusLe % 2 = 1)
    (factor : UInt32) :
    2 ^ 32 ∣ Limbs.value modulusLe * factor.toNat + 1 ↔ factor = computeMPrime modulusLe := by
  rw [← Limbs.headD_mod_two] at odd
  have inverse := computeMPrime_mul odd
  rw [dvd_value_mul_add_one_iff, ← mul_eq_neg_one_iff]
  constructor
  · intro product
    calc factor = -(factor * (computeMPrime modulusLe * modulusLe.headD 0)) := by
          rw [inverse]; ring
      _ = -((factor * modulusLe.headD 0) * computeMPrime modulusLe) := by ring
      _ = computeMPrime modulusLe := by rw [product]; ring
  · rintro rfl
    exact inverse

/-! ## The residues -/

/-- Doubling keeps the number of words. -/
theorem length_doubleMod {value modulus : List UInt32} (length : value.length = modulus.length) :
    (doubleMod value modulus).length = modulus.length := by
  have clear : (0 : UInt64).toNat ≤ 1 := by decide
  have fits := (doubleWords_spec value clear).1.trans length
  unfold doubleMod
  dsimp only
  split_ifs
  · exact (subWords_spec fits clear).1.trans fits
  · exact fits

theorem length_powerResidue {modulus : List UInt32} (length : modulus.length = 64) (count : ℕ) :
    (powerResidue modulus count).length = 64 := by
  induction count with
  | zero => rfl
  | succ count ih =>
      rw [powerResidue, List.range_succ, List.foldl_append, List.foldl_cons, List.foldl_nil]
      exact (length_doubleMod (ih.trans length.symm)).trans length

/-- All the numbers on the way to the squared radix are residues. -/
theorem powerResidue_spec {modulus : List UInt32} (length : modulus.length = 64)
    (proper : 1 < Limbs.value modulus) (count : ℕ) :
    (powerResidue modulus count).length = 64 ∧
      Limbs.value (powerResidue modulus count) < Limbs.value modulus ∧
      Limbs.value (powerResidue modulus count) = 2 ^ count % Limbs.value modulus := by
  obtain ⟨same, residue⟩ := doubleMod_iterations_spec length proper count
  refine ⟨same.trans length, ?_, residue⟩
  exact residue.trans_lt (Nat.mod_lt _ (Nat.zero_lt_of_lt proper))

/-- For every odd number beyond one the words spell it and give its bytes back, the inverse is the
only one, and each step towards the squared radix stays below the number, the carry being
cancelled by the borrow. -/
theorem parameters_correct (bytes : List.Vector UInt8 rsa2048Len)
    (odd : ByteString.ofBigEndian bytes.toList % 2 = 1)
    (proper : 1 < ByteString.ofBigEndian bytes.toList) :
    let modulus := ByteString.ofBigEndian bytes.toList
    let words := rsa2048BeBytesToLeWords bytes
    (words.length = 64 ∧ Limbs.value words = modulus ∧
      rsa2048LeWordsToBeBytes words = bytes.toList) ∧
    (∀ factor : UInt32, 2 ^ 32 ∣ modulus * factor.toNat + 1 ↔ factor = computeMPrime words) ∧
    (∀ count ≤ 4096, (powerResidue words count).length = 64 ∧
      Limbs.value (powerResidue words count) < modulus ∧
      Limbs.value (powerResidue words count) = 2 ^ count % modulus) ∧
    computeRSquaredModN words = powerResidue words 4096 ∧
    Limbs.value (computeRSquaredModN words) = 2 ^ 4096 % modulus ∧
    ∀ value : List UInt32, value.length = 64 → Limbs.value value < modulus →
      let doubled := doubleWords 0 value
      Limbs.value doubled.1 + 2 ^ 2048 * doubled.2.toNat = 2 * Limbs.value value ∧
        (doubled.2 ≠ 0 ∨ cmpLeWords doubled.1 words ≠ .lt →
          (subWords 0 doubled.1 words).2 = doubled.2 ∧
          Limbs.value (subAssignLeWords doubled.1 words) + modulus = 2 * Limbs.value value) := by
  intro modulus words
  have length : words.length = 64 := length_rsa2048BeBytesToLeWords bytes
  have spelled : Limbs.value words = modulus := value_rsa2048BeBytesToLeWords bytes
  have large : 1 < Limbs.value words := spelled ▸ proper
  have whole : computeRSquaredModN words = powerResidue words 4096 := rfl
  have residues := powerResidue_spec length large
  rw [← spelled]
  refine ⟨⟨length, rfl, leWordsToBeBytes_beBytesToLeWords bytes⟩,
    computeMPrime_unique (spelled ▸ odd), fun count _ => residues count, whole,
    whole ▸ (residues 4096).2.2, ?_⟩
  intro value same residue
  have exponent : 32 * 64 = 2048 := rfl
  have radix : Limbs.radix value.length = 2 ^ 2048 := by
    rw [Limbs.radix, same, exponent]
  have cancels := carry_cancels (same.trans length.symm) residue
  rwa [radix] at cancels

theorem parameters_correct_sample :
    let words := rsa2048BeBytesToLeWords (sampleKey 0x80 0x03).modulusBe
    Limbs.value (computeRSquaredModN words) = 2 ^ 4096 %
      ByteString.ofBigEndian (sampleKey 0x80 0x03).modulusBe.toList :=
  (parameters_correct (sampleKey 0x80 0x03).modulusBe (by decide +kernel)
    (by decide +kernel)).2.2.2.2.1

end RsaVerifyCore
end Motonet
