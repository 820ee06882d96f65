import Mathlib.Data.Nat.ModEq
import Motonet.Foundation.Emsa

/-!
# RSA signatures

The two signature schemes with appendix: the verification primitive, which refuses numbers that are
not residues, and the messages that a number signs.
-/

namespace Rsassa

/-- `RSAVP1`: the power of a signature representative in range. -/
def rsavp1 (modulus exponent signature : ℕ) : Option ℕ :=
  if signature < modulus then some (signature ^ exponent % modulus) else none

variable {hLen : ℕ} (hash : List UInt8 → List.Vector UInt8 hLen)

/-- `RSASSA-PSS-VERIFY` for a salt as long as a hash and encoded messages of `emBits` bits in `k`
octets. -/
def SignsPss (k emBits modulus exponent : ℕ) (message : List UInt8) (signature : ℕ) : Prop :=
  ∃ representative, rsavp1 modulus exponent signature = some representative ∧
    ∃ salt : List.Vector UInt8 hLen, Emsa.encodePss hash emBits message salt.toList =
      some (ByteString.toBigEndian k representative)

/-- `RSASSA-PKCS1-V1_5-VERIFY`. -/
def SignsPkcs1v15 (hashOid : List UInt8) (k modulus exponent : ℕ) (message : List UInt8)
    (signature : ℕ) : Prop :=
  ∃ representative, rsavp1 modulus exponent signature = some representative ∧
    Emsa.encodePkcs1v15 hash hashOid k message =
      some (ByteString.toBigEndian k representative)

/-- The residue of any number is in range, and has the power of the number. -/
theorem rsavp1_mod {modulus : ℕ} (positive : 0 < modulus) (exponent number : ℕ) :
    rsavp1 modulus exponent (number % modulus) = some (number ^ exponent % modulus) := by
  rw [rsavp1, if_pos (Nat.mod_lt number positive), ← Nat.pow_mod]

theorem signsPss_mod_iff {k emBits modulus exponent : ℕ} (positive : 0 < modulus)
    (message : List UInt8) (number : ℕ) :
    SignsPss hash k emBits modulus exponent message (number % modulus) ↔
      ∃ salt : List.Vector UInt8 hLen, Emsa.encodePss hash emBits message salt.toList =
        some (ByteString.toBigEndian k (number ^ exponent % modulus)) := by
  rw [SignsPss, rsavp1_mod positive]
  simp

theorem signsPkcs1v15_mod_iff {hashOid : List UInt8} {k modulus exponent : ℕ}
    (positive : 0 < modulus) (message : List UInt8) (number : ℕ) :
    SignsPkcs1v15 hash hashOid k modulus exponent message (number % modulus) ↔
      Emsa.encodePkcs1v15 hash hashOid k message =
        some (ByteString.toBigEndian k (number ^ exponent % modulus)) := by
  rw [SignsPkcs1v15, rsavp1_mod positive]
  simp

end Rsassa
