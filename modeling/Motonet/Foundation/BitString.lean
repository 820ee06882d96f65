import Mathlib.Data.BitVec
import Mathlib.Data.List.Basic
import Mathlib.Tactic.Common

/-!
# Words as texts of bits

The bits of a word from the most significant one on, and the word that a text of bits starts with.
-/

namespace BitString

variable {width : ℕ}

/-- The bits of a word, the most significant one first. -/
def bitsOf (word : BitVec width) : List Bool :=
  (List.range width).map word.getMsbD

/-- The word whose bits a text starts with; bits beyond the text are zero. -/
def wordOf (width : ℕ) (bits : List Bool) : BitVec width :=
  (BitVec.ofBoolListBE ((List.range width).map fun i => bits.getD i false)).cast (by simp)

@[simp]
theorem length_bitsOf (word : BitVec width) : (bitsOf word).length = width := by
  simp [bitsOf]

theorem getD_bitsOf (word : BitVec width) (i : ℕ) :
    (bitsOf word).getD i false = word.getMsbD i := by
  rcases Nat.lt_or_ge i width with inside | outside
  · simp [bitsOf, inside]
  · simp [bitsOf, outside]

@[simp]
theorem getMsbD_wordOf (bits : List Bool) (i : ℕ) :
    (wordOf width bits).getMsbD i = (decide (i < width) && bits.getD i false) := by
  rcases Nat.lt_or_ge i width with inside | outside
  · simp [wordOf, inside]
  · simp [wordOf, outside]

/-- A word depends on the bits that it is made of. -/
theorem wordOf_congr {left right : List Bool}
    (same : ∀ i < width, left.getD i false = right.getD i false) :
    wordOf width left = wordOf width right := by
  apply BitVec.eq_of_getMsbD_eq
  intro i inside
  rw [getMsbD_wordOf, getMsbD_wordOf, same i inside]

@[simp]
theorem wordOf_bitsOf (word : BitVec width) : wordOf width (bitsOf word) = word := by
  apply BitVec.eq_of_getMsbD_eq
  intro i inside
  rw [getMsbD_wordOf, getD_bitsOf, decide_eq_true inside, Bool.true_and]

/-- A text that starts with the bits of a word. -/
@[simp]
theorem wordOf_bitsOf_append (word : BitVec width) (rest : List Bool) :
    wordOf width (bitsOf word ++ rest) = word := by
  refine (wordOf_congr fun i inside => ?_).trans (wordOf_bitsOf word)
  rw [List.getD_eq_getElem?_getD, List.getElem?_append_left (by simpa using inside),
    ← List.getD_eq_getElem?_getD]

theorem bitsOf_wordOf {bits : List Bool} (length : bits.length = width) :
    bitsOf (wordOf width bits) = bits := by
  apply List.ext_getElem
  · rw [length_bitsOf, length]
  · intro i left right
    rw [length_bitsOf] at left
    simp [bitsOf, left, right]

/-! ## Sums and parity -/

theorem bitsOf_xor (left right : BitVec width) :
    bitsOf (left ^^^ right) = List.zipWith xor (bitsOf left) (bitsOf right) := by
  apply List.ext_getElem
  · simp
  · intro i inside _
    rw [length_bitsOf] at inside
    simp [bitsOf]

/-- Shifting a word drops its first bit. -/
theorem cons_bitsOf_shiftLeft_one (word : BitVec width) (positive : 0 < width) :
    word.msb :: bitsOf (word <<< 1) = bitsOf word ++ [false] := by
  apply List.ext_getElem
  · simp
  · intro i inside _
    rw [List.length_cons, length_bitsOf] at inside
    cases i with
    | zero => simp [bitsOf, positive, BitVec.msb_eq_getMsbD_zero]
    | succ i =>
        rcases Nat.lt_or_eq_of_le (Nat.le_of_lt_succ inside) with within | last
        · simp [bitsOf, within]
        · subst last
          simp [bitsOf]

/-- Whether a text has an odd number of ones. -/
def parity (bits : List Bool) : Bool := bits.foldr xor false

@[simp]
theorem parity_nil : parity [] = false := rfl

@[simp]
theorem parity_cons (bit : Bool) (bits : List Bool) :
    parity (bit :: bits) = (bit ^^ parity bits) := rfl

@[simp]
theorem parity_append (left right : List Bool) :
    parity (left ++ right) = (parity left ^^ parity right) := by
  induction left with
  | nil => simp
  | cons bit left ih => rw [List.cons_append, parity_cons, parity_cons, ih, Bool.xor_assoc]

theorem parity_zipWith_xor {left right : List Bool} (lengths : left.length = right.length) :
    parity (List.zipWith xor left right) = (parity left ^^ parity right) := by
  induction left generalizing right with
  | nil =>
      obtain rfl := List.length_eq_zero_iff.mp lengths.symm
      rfl
  | cons bit left ih =>
      cases right with
      | nil => cases lengths
      | cons other right =>
          rw [List.zipWith_cons_cons, parity_cons, parity_cons, parity_cons,
            ih (Nat.succ.inj lengths)]
          cases bit <;> cases other <;> simp

theorem parity_eq_true_iff (bits : List Bool) : parity bits = true ↔ bits.count true % 2 = 1 := by
  induction bits with
  | nil => simp
  | cons bit bits ih =>
      cases bit with
      | false => simpa using ih
      | true =>
          rw [parity_cons, List.count_cons_self, Bool.true_xor, Bool.not_eq_true',
            ← Bool.not_eq_true, ih]
          omega

theorem parity_bitsOf_xor (left right : BitVec width) :
    parity (bitsOf (left ^^^ right)) = (parity (bitsOf left) ^^ parity (bitsOf right)) := by
  rw [bitsOf_xor, parity_zipWith_xor (by simp)]

/-- Shifting a word loses its first bit from the parity. -/
theorem parity_bitsOf_shiftLeft_one (word : BitVec width) :
    parity (bitsOf (word <<< 1)) = (word.msb ^^ parity (bitsOf word)) := by
  rcases Nat.eq_zero_or_pos width with rfl | positive
  · rw [BitVec.eq_nil word]
    decide
  · have shifted : (word.msb ^^ parity (bitsOf (word <<< 1))) = parity (bitsOf word) := by
      simpa using congrArg parity (cons_bitsOf_shiftLeft_one word positive)
    rw [← shifted]
    simp

/-! ## Ones in a text -/

theorem eq_replicate_of_count_eq_zero {bits : List Bool} (none : bits.count true = 0) :
    bits = List.replicate bits.length false := by
  rw [List.eq_replicate_iff]
  refine ⟨rfl, fun bit member => ?_⟩
  rw [Bool.eq_false_iff]
  rintro rfl
  exact List.count_eq_zero.mp none member

/-- A text with a one starts with zeros and its first one. -/
theorem exists_of_count_eq_succ {bits : List Bool} {ones : ℕ}
    (count : bits.count true = ones + 1) :
    ∃ before rest, bits = List.replicate before false ++ true :: rest ∧ rest.count true = ones := by
  induction bits with
  | nil => cases count
  | cons bit bits ih =>
      cases bit with
      | true => exact ⟨0, bits, rfl, by simpa using count⟩
      | false =>
          obtain ⟨before, rest, bits_eq, rest_count⟩ := ih (by simpa using count)
          exact ⟨before + 1, rest, by rw [bits_eq]; rfl, rest_count⟩

end BitString
