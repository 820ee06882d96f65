import Mathlib.Data.UInt
import Mathlib.Tactic.Common
import Mathlib.Tactic.Ring
import Motonet.Foundation.ByteString

/-!
# Numbers in words

Numbers as lists of 32-bit words, least significant word first, and Newton's iteration for inverses
modulo a power of two.
-/

namespace Limbs

/-- The number that a list of words spells, least significant word first. -/
def value : List UInt32 → ℕ
  | [] => 0
  | word :: words => word.toNat + 2 ^ 32 * value words

/-- The first number that a list of so many words cannot spell. -/
def radix (count : ℕ) : ℕ := 2 ^ (32 * count)

@[simp]
theorem radix_zero : radix 0 = 1 := rfl

theorem radix_succ (count : ℕ) : radix (count + 1) = 2 ^ 32 * radix count := by
  rw [radix, radix, Nat.mul_succ, Nat.add_comm, pow_add]

theorem value_lt (words : List UInt32) : value words < radix words.length := by
  induction words with
  | nil => simp [value]
  | cons word words ih =>
      have bound : word.toNat < 2 ^ 32 := word.toNat_lt
      rw [value, List.length_cons, radix_succ]
      omega

theorem headD_mod_two (words : List UInt32) : (words.headD 0).toNat % 2 = value words % 2 := by
  cases words with
  | nil => rfl
  | cons word words =>
      rw [List.headD_cons, value]
      omega

theorem value_append (low high : List UInt32) :
    value (low ++ high) = value low + radix low.length * value high := by
  induction low with
  | nil => simp [value]
  | cons word low ih =>
      rw [List.cons_append, value, value, ih, List.length_cons, radix_succ]
      ring

/-- The words of a big-endian byte string, least significant word first. -/
theorem value_map_range (count : ℕ) {bytes : List UInt8} (length : bytes.length = 4 * count) :
    value ((List.range count).map fun index =>
      UInt32.ofNat (ByteString.ofBigEndian
        ((bytes.drop (4 * count - (index + 1) * 4)).take 4))) = ByteString.ofBigEndian bytes := by
  induction count generalizing bytes with
  | zero =>
      obtain rfl := List.length_eq_zero_iff.mp length
      rfl
  | succ count ih =>
      have front : (bytes.take (4 * count)).length = 4 * count := by
        rw [List.length_take]
        omega
      have last : (bytes.drop (4 * count)).length = 4 := by
        rw [List.length_drop]
        omega
      have first : (UInt32.ofNat (ByteString.ofBigEndian
          ((bytes.drop (4 * (count + 1) - (0 + 1) * 4)).take 4))).toNat =
            ByteString.ofBigEndian (bytes.drop (4 * count)) := by
        have start : 4 * (count + 1) - (0 + 1) * 4 = 4 * count := by omega
        have bound := ByteString.ofBigEndian_lt (bytes.drop (4 * count))
        rw [last] at bound
        rw [start, List.take_of_length_le last.le]
        exact UInt32.toNat_ofNat_of_lt' bound
      have rest : ∀ index ∈ List.range count,
          UInt32.ofNat (ByteString.ofBigEndian
            ((bytes.drop (4 * (count + 1) - (index + 1 + 1) * 4)).take 4)) =
          UInt32.ofNat (ByteString.ofBigEndian
            (((bytes.take (4 * count)).drop (4 * count - (index + 1) * 4)).take 4)) := by
        intro index member
        have inside := List.mem_range.mp member
        have start : 4 * (count + 1) - (index + 1 + 1) * 4 = 4 * count - (index + 1) * 4 := by
          omega
        rw [start, List.drop_take, List.take_take]
        congr 3
        omega
      rw [List.range_succ_eq_map, List.map_cons, List.map_map, value, first]
      simp only [Function.comp_def, Nat.succ_eq_add_one]
      rw [List.map_congr_left rest, ih front]
      conv_rhs => rw [← List.take_append_drop (4 * count) bytes,
        ByteString.ofBigEndian_append, last]
      ring

/-- The `count` low-order words of a number. -/
def ofNat : ℕ → ℕ → List UInt32
  | 0, _ => []
  | count + 1, number => UInt32.ofNat number :: ofNat count (number / 2 ^ 32)

@[simp]
theorem length_ofNat (count number : ℕ) : (ofNat count number).length = count := by
  induction count generalizing number with
  | zero => rfl
  | succ count ih => rw [ofNat, List.length_cons, ih]

/-- A number that fits is spelled by its words. -/
theorem value_ofNat {count number : ℕ} (fits : number < radix count) :
    value (ofNat count number) = number := by
  induction count generalizing number with
  | zero => exact (Nat.lt_one_iff.mp fits).symm
  | succ count ih =>
      rw [radix_succ] at fits
      rw [ofNat, value, ih (Nat.div_lt_of_lt_mul fits), UInt32.toNat_ofNat']
      exact Nat.mod_add_div _ _

/-- The big-endian bytes of a list of words. -/
def toBigEndian (words : List UInt32) : List UInt8 :=
  words.reverse.flatMap fun word => ByteString.toBigEndian 4 word.toNat

theorem toBigEndian_append (low : List UInt32) (word : UInt32) :
    toBigEndian (low ++ [word]) = ByteString.toBigEndian 4 word.toNat ++ toBigEndian low := by
  simp [toBigEndian]

theorem toBigEndian_cons (word : UInt32) (high : List UInt32) :
    toBigEndian (word :: high) = toBigEndian high ++ ByteString.toBigEndian 4 word.toNat := by
  simp [toBigEndian]

theorem length_toBigEndian (words : List UInt32) :
    (toBigEndian words).length = 4 * words.length := by
  induction words with
  | nil => rfl
  | cons word words ih =>
      rw [toBigEndian_cons, List.length_append, ih, ByteString.length_toBigEndian,
        List.length_cons, Nat.mul_succ]

/-- The bytes of the words spell the same number. -/
theorem ofBigEndian_toBigEndian (words : List UInt32) :
    ByteString.ofBigEndian (toBigEndian words) = value words := by
  induction words with
  | nil => rfl
  | cons word words ih =>
      rw [toBigEndian_cons, ByteString.ofBigEndian_append, ih, ByteString.length_toBigEndian,
        ByteString.ofBigEndian_toBigEndian word.toNat_lt, value]
      ring

/-- Newton's iteration squares the error of an inverse. -/
theorem newton_error {R : Type*} [CommRing R] (unit inverse : R) :
    1 - unit * (inverse * (2 - unit * inverse)) = (1 - unit * inverse) ^ 2 := by
  ring

/-- The error of an inverse after a number of iterations. -/
theorem newton_iterations_error {R : Type*} [CommRing R] (unit inverse : R) (count : ℕ) :
    1 - unit * (List.range count).foldl (fun inverse _ => inverse * (2 - unit * inverse)) inverse =
      (1 - unit * inverse) ^ 2 ^ count := by
  induction count with
  | zero => simp
  | succ count ih =>
      rw [List.range_succ, List.foldl_append, List.foldl_cons, List.foldl_nil, newton_error, ih,
        ← pow_mul, ← pow_succ]

end Limbs
