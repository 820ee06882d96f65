import Motonet.Foundation.ByteString
import Mathlib.Tactic.IntervalCases
import Mathlib.Tactic.NormNum

/-!
# Hexadecimal texts

Bytes written as pairs of ASCII hexadecimal digits, and read back in either case.
-/

namespace Hexadecimal

open ByteString

/-- The lower-case digit of a value. -/
def digit (value : ℕ) : UInt8 :=
  if value % 16 < 10 then UInt8.ofNat (48 + value % 16) else UInt8.ofNat (87 + value % 16)

/-- Value of a digit in either case. -/
def digitValue (digit : UInt8) : ℕ :=
  if digit ≤ 57 then digit.toNat - 48
  else if digit ≤ 70 then digit.toNat - 55
  else digit.toNat - 87

/-- The `width` low-order digits of a number, most significant first. -/
def encode : ℕ → ℕ → List UInt8
  | 0, _ => []
  | width + 1, number => digit (number / 16 ^ width) :: encode width number

/-- The bytes that pairs of digits spell; an odd digit at the end is dropped. -/
def decode : List UInt8 → List UInt8
  | high :: low :: rest => UInt8.ofNat (digitValue high * 16 + digitValue low) :: decode rest
  | _ => []

@[simp]
theorem digitValue_digit (value : ℕ) : digitValue (digit value) = value % 16 := by
  have bound : value % 16 < 16 := Nat.mod_lt _ (by decide)
  unfold digit
  generalize value % 16 = nibble at bound
  interval_cases nibble <;> decide

/-- An even number of digits of a number spells its bytes. -/
theorem decode_encode (width number : ℕ) :
    decode (encode (2 * width) number) = toBigEndian width number := by
  induction width with
  | zero => rfl
  | succ width ih =>
      rw [Nat.mul_succ, encode, encode, decode, ih, toBigEndian, digitValue_digit,
        digitValue_digit, pow_succ, pow_mul]
      congr 1
      apply UInt8.toNat_inj.mp
      have split : number / (256 ^ width * 16) = number / 256 ^ width / 16 :=
        (Nat.div_div_eq_div_mul _ _ _).symm
      norm_num only [UInt8.toNat_ofNat', split]
      omega

theorem decode_append {left : List UInt8} (even : left.length % 2 = 0) (right : List UInt8) :
    decode (left ++ right) = decode left ++ decode right := by
  induction left using decode.induct with
  | case1 high low rest ih =>
      simp only [List.length_cons] at even
      rw [List.cons_append, List.cons_append, decode, decode, ih (by omega), List.cons_append]
  | case2 digits short =>
      obtain _ | ⟨digit, _ | ⟨low, rest⟩⟩ := digits
      · rfl
      · simp at even
      · exact absurd rfl (short digit low rest)

/-! ## Numbers -/

/-- The number that digits spell. -/
def value (digits : List UInt8) : ℕ :=
  digits.foldl (fun number digit => number * 16 + digitValue digit) 0

theorem foldl_value (start : ℕ) (digits : List UInt8) :
    digits.foldl (fun number digit => number * 16 + digitValue digit) start =
      start * 16 ^ digits.length + value digits := by
  induction digits generalizing start with
  | nil => simp [value]
  | cons digit digits ih =>
      rw [value, List.foldl_cons, List.foldl_cons, ih, ih (0 * 16 + _), List.length_cons, pow_succ]
      ring

theorem value_cons (digit : UInt8) (digits : List UInt8) :
    value (digit :: digits) = digitValue digit * 16 ^ digits.length + value digits := by
  rw [value, List.foldl_cons, foldl_value, Nat.zero_mul, Nat.zero_add]

theorem value_zeros (count : ℕ) (digits : List UInt8) :
    value (List.replicate count 48 ++ digits) = value digits := by
  induction count with
  | zero => rfl
  | succ count ih =>
      rw [List.replicate_succ, List.cons_append, value_cons, ih]
      simp [digitValue]

theorem length_decode (digits : List UInt8) : (decode digits).length = digits.length / 2 := by
  induction digits using decode.induct with
  | case1 high low rest ih =>
      rw [decode, List.length_cons, ih, List.length_cons, List.length_cons]
      omega
  | case2 digits short =>
      obtain _ | ⟨digit, _ | ⟨low, rest⟩⟩ := digits
      · rfl
      · simp [decode]
      · exact absurd rfl (short digit low rest)

/-- Pairs of digits spell the same number as bytes and as digits. -/
theorem ofBigEndian_decode {digits : List UInt8} (even : digits.length % 2 = 0)
    (valid : ∀ digit ∈ digits, digitValue digit < 16) :
    ofBigEndian (decode digits) = value digits := by
  induction digits using decode.induct with
  | case1 high low rest ih =>
      have high_valid := valid high List.mem_cons_self
      have low_valid := valid low (List.mem_cons_of_mem _ List.mem_cons_self)
      have rest_even : rest.length % 2 = 0 := by
        simp only [List.length_cons] at even
        omega
      have squares : 256 ^ (rest.length / 2) = 16 ^ rest.length := by
        rw [show 256 = 16 ^ 2 from rfl, ← pow_mul]
        congr 1
        omega
      have byte : (UInt8.ofNat (digitValue high * 16 + digitValue low)).toNat =
          digitValue high * 16 + digitValue low :=
        UInt8.toNat_ofNat_of_lt' (by change _ < 256; omega)
      rw [decode, ofBigEndian, length_decode, squares, byte, value_cons, value_cons,
        ih rest_even fun digit member =>
          valid digit (List.mem_cons_of_mem _ (List.mem_cons_of_mem _ member)),
        List.length_cons, pow_succ]
      ring
  | case2 digits short =>
      obtain _ | ⟨digit, _ | ⟨low, rest⟩⟩ := digits
      · rfl
      · simp at even
      · exact absurd rfl (short digit low rest)

end Hexadecimal
