import Mathlib.Data.List.Basic
import Mathlib.Data.UInt
import Mathlib.Tactic.Common
import Mathlib.Tactic.Ring

/-!
# Fixed-width big-endian numbers

Numbers written in a fixed number of bytes, most significant byte first, and read back.
-/

namespace ByteString

/-- The `width` low-order bytes of a number, most significant first. -/
def toBigEndian : ℕ → ℕ → List UInt8
  | 0, _ => []
  | width + 1, value => UInt8.ofNat (value / 256 ^ width) :: toBigEndian width value

/-- The number that a byte string spells, most significant byte first. -/
def ofBigEndian : List UInt8 → ℕ
  | [] => 0
  | byte :: bytes => byte.toNat * 256 ^ bytes.length + ofBigEndian bytes

@[simp]
theorem length_toBigEndian (width value : ℕ) : (toBigEndian width value).length = width := by
  induction width with
  | zero => rfl
  | succ width ih => simp [toBigEndian, ih]

theorem ofBigEndian_lt (bytes : List UInt8) : ofBigEndian bytes < 256 ^ bytes.length := by
  induction bytes with
  | nil => simp [ofBigEndian]
  | cons byte bytes ih =>
      have byte_bound : byte.toNat + 1 ≤ 256 := byte.toNat_lt
      calc
        ofBigEndian (byte :: bytes) < byte.toNat * 256 ^ bytes.length + 256 ^ bytes.length :=
          Nat.add_lt_add_left ih _
        _ = (byte.toNat + 1) * 256 ^ bytes.length := by ring
        _ ≤ 256 * 256 ^ bytes.length := Nat.mul_le_mul_right _ byte_bound
        _ = 256 ^ (byte :: bytes).length := by simp [pow_succ, Nat.mul_comm]

/-- The number that a byte string in two parts spells. -/
theorem ofBigEndian_append (high low : List UInt8) :
    ofBigEndian (high ++ low) = ofBigEndian high * 256 ^ low.length + ofBigEndian low := by
  induction high with
  | nil => simp [ofBigEndian]
  | cons byte high ih =>
      rw [List.cons_append, ofBigEndian, ofBigEndian, ih, List.length_append, pow_add]
      ring

/-- Reading back what was written gives the number modulo its width. -/
theorem ofBigEndian_toBigEndian_mod (width value : ℕ) :
    ofBigEndian (toBigEndian width value) = value % 256 ^ width := by
  induction width with
  | zero => simp [toBigEndian, ofBigEndian, Nat.mod_one]
  | succ width ih =>
      rw [toBigEndian, ofBigEndian, ih, length_toBigEndian, Nat.mod_pow_succ]
      simp only [UInt8.toNat_ofNat']
      ring

/-- A number that fits its width is read back unchanged. -/
theorem ofBigEndian_toBigEndian {width value : ℕ} (fits : value < 256 ^ width) :
    ofBigEndian (toBigEndian width value) = value := by
  rw [ofBigEndian_toBigEndian_mod, Nat.mod_eq_of_lt fits]

/-- Numbers that fit their width have different spellings. -/
theorem toBigEndian_injective {width left right : ℕ} (left_fits : left < 256 ^ width)
    (right_fits : right < 256 ^ width)
    (same : toBigEndian width left = toBigEndian width right) : left = right := by
  rw [← ofBigEndian_toBigEndian left_fits, same, ofBigEndian_toBigEndian right_fits]

/-- Multiples of the width's modulus do not show in the spelling. -/
theorem toBigEndian_add_mul (width value multiple : ℕ) :
    toBigEndian width (value + multiple * 256 ^ width) = toBigEndian width value := by
  induction width generalizing multiple with
  | zero => rfl
  | succ width ih =>
      have regroup : value + multiple * 256 ^ (width + 1) =
          value + (multiple * 256) * 256 ^ width := by ring
      rw [regroup, toBigEndian, ih, toBigEndian,
        Nat.add_mul_div_right _ _ (Nat.pow_pos (by decide))]
      congr 1
      apply UInt8.toNat_inj.mp
      simp only [UInt8.toNat_ofNat']
      omega

/-- A byte string is the spelling, in its own length, of the number it spells. -/
@[simp]
theorem toBigEndian_ofBigEndian (bytes : List UInt8) :
    toBigEndian bytes.length (ofBigEndian bytes) = bytes := by
  induction bytes with
  | nil => rfl
  | cons byte bytes ih =>
      have high : (ofBigEndian bytes + byte.toNat * 256 ^ bytes.length) / 256 ^ bytes.length =
          byte.toNat := by
        rw [Nat.add_mul_div_right _ _ (Nat.pow_pos (by decide)),
          Nat.div_eq_of_lt (ofBigEndian_lt bytes), Nat.zero_add]
      rw [ofBigEndian, List.length_cons, Nat.add_comm (byte.toNat * _), toBigEndian,
        toBigEndian_add_mul, ih, high, UInt8.ofNat_toNat]

/-- Byte strings of one length spell different numbers. -/
theorem ofBigEndian_injective {left right : List UInt8} (length : left.length = right.length)
    (same : ofBigEndian left = ofBigEndian right) : left = right := by
  rw [← toBigEndian_ofBigEndian left, same, length, toBigEndian_ofBigEndian]

end ByteString
