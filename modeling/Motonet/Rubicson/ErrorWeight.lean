import Motonet.Rubicson.BurstErrors

/-!
# How many wrong bits are detected

The polynomial of the CRC has an even number of terms and divides no sum of two bits of the checked
text, so errors of an odd number of bits and of two bits are detected.  The four zero bits between
the payload and the CRC byte change neither the number of wrong bits nor, by much, their distance.
-/

namespace Motonet
namespace Rubicson

open BitString

/-- The bits that are checked are those of the frame and four zeros. -/
theorem count_checkedText (bits : List Bool) : (checkedText bits).count true = bits.count true := by
  have parts : (bits.take 28).count true + (bits.drop 28).count true = bits.count true := by
    rw [← List.count_append, List.take_append_drop]
  rw [checkedText, List.count_append, List.count_append, ← parts]
  rfl

theorem length_checkedText {bits : List Bool} (length : bits.length = bitsInPacket) :
    (checkedText bits).length = bitsInPacket + 4 := by
  simp [checkedText, length, bitsInPacket]

/-- The polynomial has an even number of terms. -/
theorem poly_even : parity (bitsOf (0x31 : Byte)) = true := by decide

/-- The polynomial divides no sum of two bits of a checked text. -/
theorem poly_orderExceeds : Crc.OrderExceeds (0x31 : Byte) (bitsInPacket + 4) := by decide +kernel

/-- An error of an odd number of bits, or of two bits. -/
def FewOrOdd (error : List Bool) : Prop :=
  error.count true % 2 = 1 ∨ error.count true = 2

theorem remainder_checkedText_ne_zero {error : List Bool} (length : error.length = bitsInPacket)
    (weight : FewOrOdd error) : Crc.remainder (0x31 : Byte) 0 (checkedText error) ≠ 0 := by
  rcases weight with odd | two
  · apply Crc.remainder_ne_zero_of_parity poly_even
    rw [parity_eq_true_iff, count_checkedText]
    exact odd
  · apply Crc.remainder_ne_zero_of_count_eq_two poly_odd
    · rw [length_checkedText length]
      exact poly_orderExceeds
    · rw [count_checkedText]
      exact two

/-- At most three wrong bits are an error that is detected. -/
theorem fewOrOdd_of_le_three {error : List Bool} (wrong : true ∈ error)
    (few : error.count true ≤ 3) : FewOrOdd error := by
  have positive : 0 < error.count true := List.count_pos_iff.mpr wrong
  unfold FewOrOdd
  omega

theorem not_rightCrc_of_fewOrOdd {bits error : List Bool} (bits_length : bits.length = bitsInPacket)
    (valid : RightCrc bits) (error_length : error.length = bitsInPacket)
    (weight : FewOrOdd error) : ¬ RightCrc (List.zipWith xor bits error) := by
  rw [rightCrc_xor_error_iff bits_length valid error_length]
  exact remainder_checkedText_ne_zero error_length weight

/-- A row whose CRC is wrong yields no reading. -/
theorem decodeGapsIter_ne_of_not_rightCrc {gaps : List UInt32} {row : ℕ} {bits : List Bool}
    (row_eq : (rows gaps)[row]? = some bits) (wrong : ¬ RightCrc bits)
    (reading : RubicsonReading) : decodeGapsIter gaps ≠ .ok (row, reading) := by
  intro decoded
  obtain ⟨-, -, ⟨taken, taken_eq, right, -⟩, -⟩ := decodeGapsIter_eq_ok_iff.mp decoded
  rw [row_eq] at taken_eq
  cases taken_eq
  exact wrong right

/-- A frame with an odd number of wrong bits, or with two, is rejected; with up to three wrong bits
it is never what a burst is decoded to. -/
theorem corrupted_frame_rejected {bits : List Bool} (bits_length : bits.length = bitsInPacket)
    (valid : RightCrc bits) :
    (∀ error : List Bool, error.length = bitsInPacket →
        error.count true % 2 = 1 ∨ error.count true = 2 →
          decodeRubicson (packRow (List.zipWith xor bits error)) = .error (.err .crcMismatch)) ∧
      ∀ (error : List Bool) (gaps : List UInt32) (row : ℕ) (reading : RubicsonReading),
        error.length = bitsInPacket → true ∈ error → error.count true ≤ 3 →
          (rows gaps)[row]? = some (List.zipWith xor bits error) →
            decodeGapsIter gaps ≠ .ok (row, reading) := by
  constructor
  · intro error error_length weight
    rw [decodeRubicson_packRow,
      if_neg (not_rightCrc_of_fewOrOdd bits_length valid error_length weight)]
  · intro error gaps row reading error_length wrong few row_eq
    exact decodeGapsIter_ne_of_not_rightCrc row_eq (not_rightCrc_of_fewOrOdd bits_length valid
      error_length (fewOrOdd_of_le_three wrong few)) reading

/-- Three flips in the frame of the unit tests: in the id, the constant nibble and the CRC. -/
theorem corrupted_frame_rejected_sample :
    decodeRubicson (packRow (List.zipWith xor sampleFrame
      ([true] ++ List.replicate 25 false ++ [true] ++ List.replicate 8 false ++ [true]))) =
        .error (.err .crcMismatch) :=
  (corrupted_frame_rejected isFrame_sampleFrame.length isFrame_sampleFrame.rightCrc).1 _
    (by decide) (by decide)

end Rubicson
end Motonet
