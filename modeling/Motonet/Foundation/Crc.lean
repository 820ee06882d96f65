import Motonet.Foundation.BitString

/-!
# Cyclic redundancy checks

The remainder of a message modulo a polynomial over the two-element field, with the most significant
bit first.  The remainder is linear in the message.  If the polynomial has a constant term, then a
message extended by a check value leaves no remainder exactly if the value is the message's
remainder, and no error is missed that is confined to as many bits as the polynomial's degree.
-/

namespace Crc

open BitString

variable {width : ℕ} (poly : BitVec width)

/-- Divide by one more zero bit. -/
def shift (remainder : BitVec width) : BitVec width :=
  if remainder.msb then (remainder <<< 1) ^^^ poly else remainder <<< 1

/-- Divide by one more bit of the message. -/
def feed (remainder : BitVec width) (bit : Bool) : BitVec width :=
  if remainder.msb ^^ bit then (remainder <<< 1) ^^^ poly else remainder <<< 1

/-- The remainder of a message, from an initial remainder. -/
def remainder (initial : BitVec width) (bits : List Bool) : BitVec width :=
  bits.foldl (feed poly) initial

@[simp]
theorem remainder_nil (initial : BitVec width) : remainder poly initial [] = initial := rfl

@[simp]
theorem remainder_cons (initial : BitVec width) (bit : Bool) (bits : List Bool) :
    remainder poly initial (bit :: bits) = remainder poly (feed poly initial bit) bits := rfl

theorem remainder_append (initial : BitVec width) (left right : List Bool) :
    remainder poly initial (left ++ right) =
      remainder poly (remainder poly initial left) right :=
  List.foldl_append

/-! ## Linearity -/

theorem feed_xor (left right : BitVec width) (leftBit rightBit : Bool) :
    feed poly (left ^^^ right) (leftBit ^^ rightBit) =
      feed poly left leftBit ^^^ feed poly right rightBit := by
  have cancel : ∀ a b : BitVec width, a ^^^ poly ^^^ (b ^^^ poly) = a ^^^ b := by
    intro a b
    rw [BitVec.xor_comm b poly, BitVec.xor_assoc, ← BitVec.xor_assoc poly, BitVec.xor_self,
      BitVec.zero_xor]
  simp only [feed, BitVec.msb_xor, BitVec.shiftLeft_xor_distrib]
  cases left.msb <;> cases right.msb <;> cases leftBit <;> cases rightBit <;>
    simp [cancel, BitVec.xor_assoc, BitVec.xor_comm poly]

/-- The remainder of a sum is the sum of the remainders. -/
theorem remainder_xor (left right : BitVec width) {leftBits rightBits : List Bool}
    (lengths : leftBits.length = rightBits.length) :
    remainder poly (left ^^^ right) (List.zipWith xor leftBits rightBits) =
      remainder poly left leftBits ^^^ remainder poly right rightBits := by
  induction leftBits generalizing left right rightBits with
  | nil =>
      obtain rfl := List.length_eq_zero_iff.mp lengths.symm
      rfl
  | cons leftBit leftBits ih =>
      cases rightBits with
      | nil => cases lengths
      | cons rightBit rightBits =>
          rw [List.zipWith_cons_cons, remainder_cons, remainder_cons, remainder_cons, feed_xor]
          exact ih _ _ (Nat.succ.inj lengths)

/-! ## Whole words -/

/-- Dividing a sum with a word by zero bits divides by the bits of the word. -/
theorem iterate_shift_xor (initial word : BitVec width) (count : ℕ) :
    (shift poly)^[count] (initial ^^^ word) =
      remainder poly initial ((List.range count).map word.getMsbD) ^^^ word <<< count := by
  induction count with
  | zero => simp
  | succ count ih =>
      have step : ∀ a b : BitVec width, shift poly (a ^^^ b) = feed poly a b.msb ^^^ b <<< 1 := by
        intro a b
        simp only [shift, feed, BitVec.msb_xor, BitVec.shiftLeft_xor_distrib]
        cases a.msb ^^ b.msb <;> simp [BitVec.xor_assoc, BitVec.xor_comm poly]
      rw [Function.iterate_succ_apply', ih, step, List.range_succ, List.map_append,
        remainder_append, ← BitVec.shiftLeft_add, BitVec.msb_eq_getMsbD_zero,
        BitVec.getMsbD_shiftLeft, Nat.zero_add]
      rfl

/-- Adding a word and dividing by as many zero bits divides by the word. -/
theorem iterate_shift_width (initial word : BitVec width) :
    (shift poly)^[width] (initial ^^^ word) =
      remainder poly initial (bitsOf word) := by
  rw [iterate_shift_xor, BitVec.shiftLeft_eq_zero le_rfl, BitVec.xor_zero, bitsOf]

/-! ## Detection -/

section Odd

variable {poly} (odd : poly.getMsbD (width - 1) = true)

include odd

/-- Dividing by a bit gives a remainder without constant term only if nothing is subtracted. -/
theorem feed_getMsbD_last (initial : BitVec width) (bit : Bool) :
    (feed poly initial bit).getMsbD (width - 1) = (initial.msb ^^ bit) := by
  have past : initial.getMsbD (width - 1 + 1) = false := by
    apply BitVec.getMsbD_of_ge
    omega
  rw [feed]
  cases initial.msb ^^ bit <;> simp [past, odd]

/-- The messages of at most the polynomial's degree without remainder: exactly one for each
initial remainder. -/
theorem remainder_eq_zero_iff (initial : BitVec width) {bits : List Bool}
    (short : bits.length ≤ width) :
    remainder poly initial bits = 0 ↔ ∀ i, initial.getMsbD i = bits.getD i false := by
  induction bits generalizing initial with
  | nil =>
      constructor
      · rintro rfl
        simp
      · intro none
        apply BitVec.eq_of_getMsbD_eq
        intro i _
        simpa using none i
  | cons bit bits ih =>
      rw [List.length_cons] at short
      rw [remainder_cons, ih _ (by omega)]
      constructor
      · intro next
        have unchanged : (initial.msb ^^ bit) = false := by
          rw [← feed_getMsbD_last odd, next, List.getD_eq_getElem?_getD,
            List.getElem?_eq_none (by omega), Option.getD_none]
        intro i
        cases i with
        | zero =>
            rw [← BitVec.msb_eq_getMsbD_zero]
            simpa using unchanged
        | succ i =>
            have shifted := next i
            rw [feed, unchanged] at shifted
            simpa using shifted
      · intro same i
        have first : initial.msb = bit := by
          rw [BitVec.msb_eq_getMsbD_zero]
          exact same 0
        have unchanged : (initial.msb ^^ bit) = false := by simpa using first
        rw [feed, unchanged]
        simpa using same (i + 1)

/-- Zero bits divide no remainder away. -/
theorem remainder_replicate_false_eq_zero_iff (initial : BitVec width) (count : ℕ) :
    remainder poly initial (List.replicate count false) = 0 ↔ initial = 0 := by
  have positive : 0 < width := by
    by_contra none
    obtain rfl : width = 0 := by omega
    cases odd
  induction count generalizing initial with
  | zero => rfl
  | succ count ih =>
      have single := remainder_eq_zero_iff odd initial
        (show [false].length ≤ width from positive)
      rw [List.replicate_succ, remainder_cons]
      refine (ih _).trans (single.trans ⟨fun none => BitVec.eq_of_getMsbD_eq fun i _ => ?_, ?_⟩)
      · rw [none i]
        cases i <;> simp
      · rintro rfl i
        cases i <;> simp

/-- A message followed by a word leaves no remainder exactly if the word is its remainder. -/
theorem remainder_append_bitsOf_eq_zero_iff (initial word : BitVec width) (bits : List Bool) :
    remainder poly initial (bits ++ bitsOf word) = 0 ↔ remainder poly initial bits = word := by
  rw [remainder_append, remainder_eq_zero_iff odd _ (length_bitsOf word).le]
  simp only [getD_bitsOf]
  exact ⟨fun same => BitVec.eq_of_getMsbD_eq fun i _ => same i, fun same i => by rw [same]⟩

/-- An error confined to as many bits as the polynomial's degree leaves a remainder. -/
theorem remainder_burst_ne_zero {burst : List Bool} (short : burst.length ≤ width)
    (error : true ∈ burst) (before after : ℕ) :
    remainder poly 0 (List.replicate before false ++ burst ++ List.replicate after false) ≠ 0 := by
  rw [remainder_append, remainder_append, Ne, remainder_replicate_false_eq_zero_iff odd,
    (remainder_replicate_false_eq_zero_iff odd 0 before).mpr rfl, remainder_eq_zero_iff odd 0 short]
  intro none
  obtain ⟨i, inside, set⟩ := List.getElem_of_mem error
  have unset := none i
  rw [List.getD_eq_getElem?_getD, List.getElem?_eq_getElem inside, set] at unset
  simp at unset

/-- An error of two bits leaves a remainder if their distance, alone, does. -/
theorem remainder_pair_ne_zero {distance : ℕ}
    (apart : remainder poly 0 (true :: (List.replicate distance false ++ [true])) ≠ 0)
    (before after : ℕ) :
    remainder poly 0 (List.replicate before false ++ true ::
      (List.replicate distance false ++ true :: List.replicate after false)) ≠ 0 := by
  have text : List.replicate before false ++ true ::
      (List.replicate distance false ++ true :: List.replicate after false) =
        List.replicate before false ++ (true :: (List.replicate distance false ++ [true])) ++
          List.replicate after false := by simp
  rw [text, remainder_append, remainder_append, Ne, remainder_replicate_false_eq_zero_iff odd,
    (remainder_replicate_false_eq_zero_iff odd 0 before).mpr rfl]
  exact apart

end Odd

/-! ## Weight of an error -/

/-- The polynomial divides no sum of two bits of a text of a length. -/
def OrderExceeds (length : ℕ) : Prop :=
  ∀ distance : Fin (length - 1),
    remainder poly 0 (true :: (List.replicate distance false ++ [true])) ≠ 0

instance (length : ℕ) : Decidable (OrderExceeds poly length) :=
  Nat.decidableForallFin _

variable {poly}

/-- An error of two bits leaves a remainder in a text that is short enough. -/
theorem remainder_ne_zero_of_count_eq_two (odd : poly.getMsbD (width - 1) = true)
    {bits : List Bool} (exceeds : OrderExceeds poly bits.length) (two : bits.count true = 2) :
    remainder poly 0 bits ≠ 0 := by
  obtain ⟨before, rest, rfl, one⟩ := exists_of_count_eq_succ two
  obtain ⟨distance, rest, rfl, none⟩ := exists_of_count_eq_succ one
  rw [eq_replicate_of_count_eq_zero none]
  have short : distance < (List.replicate before false ++ true ::
      (List.replicate distance false ++ true :: rest)).length - 1 := by
    simp only [List.length_append, List.length_cons, List.length_replicate]
    omega
  exact remainder_pair_ne_zero odd (exceeds ⟨distance, short⟩) before rest.length

/-- A polynomial with an even number of terms, the leading one included, keeps the parity of what
is divided. -/
theorem parity_remainder (even : parity (bitsOf poly) = true) (initial : BitVec width)
    (bits : List Bool) :
    parity (bitsOf (remainder poly initial bits)) = (parity (bitsOf initial) ^^ parity bits) := by
  induction bits generalizing initial with
  | nil => simp
  | cons bit bits ih =>
      have fed : parity (bitsOf (feed poly initial bit)) =
          (parity (bitsOf initial) ^^ bit) := by
        unfold feed
        split_ifs with subtracts
        · rw [parity_bitsOf_xor, parity_bitsOf_shiftLeft_one, even]
          revert subtracts
          cases initial.msb <;> cases bit <;> simp
        · rw [parity_bitsOf_shiftLeft_one]
          revert subtracts
          cases initial.msb <;> cases bit <;> simp
      rw [remainder_cons, ih, fed, parity_cons, Bool.xor_assoc]

/-- An error of an odd number of bits leaves a remainder. -/
theorem remainder_ne_zero_of_parity (even : parity (bitsOf poly) = true) {bits : List Bool}
    (odd_weight : parity bits = true) : remainder poly 0 bits ≠ 0 := by
  intro none
  have kept := parity_remainder even 0 bits
  have zero : parity (bitsOf (0 : BitVec width)) = false := by
    simpa using parity_bitsOf_xor (0 : BitVec width) 0
  rw [none, zero, odd_weight] at kept
  cases kept

end Crc
