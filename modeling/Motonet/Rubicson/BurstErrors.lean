import Motonet.Rubicson.NoisyBurst

/-!
# Which burst errors are detected

The CRC is computed with four zero bits between the payload and the CRC byte, so the bits of a frame
are not adjacent in the checked text at that seam.  Of the errors confined to eight adjacent bits,
exactly one is missed: the one that flips the eight bits from the second bit of the constant nibble
on.
-/

namespace Motonet
namespace Rubicson

open BitString

/-- The text over which the CRC of 36 bits is checked. -/
def checkedText (bits : List Bool) : List Bool :=
  bits.take 28 ++ List.replicate 4 false ++ bits.drop 28

/-- The CRC of 36 bits is right if the checked text leaves no remainder. -/
theorem rightCrc_iff {bits : List Bool} (length : bits.length = bitsInPacket) :
    RightCrc bits ↔ Crc.remainder (0x31 : Byte) 0x6c (checkedText bits) = 0 := by
  have last : bitsOf (wordOf 8 (bits.drop 28)) = bits.drop 28 :=
    bitsOf_wordOf (by rw [List.length_drop, length]; rfl)
  have appended := Crc.remainder_append_bitsOf_eq_zero_iff poly_odd 0x6c (wordOf 8 (bits.drop 28))
    (bits.take 28 ++ List.replicate 4 false)
  rw [last] at appended
  rw [RightCrc, payload_eq_take length.ge]
  exact appended.symm

/-- The checked text of a corrupted frame. -/
theorem checkedText_zipWith_xor {bits error : List Bool} (lengths : bits.length = error.length) :
    checkedText (List.zipWith xor bits error) =
      List.zipWith xor (checkedText bits) (checkedText error) := by
  have zeros : List.zipWith xor (List.replicate 4 false) (List.replicate 4 false) =
      List.replicate 4 false := rfl
  rw [checkedText, checkedText, checkedText, List.zipWith_append (by simp [lengths]),
    List.zipWith_append (by simp [lengths]), zeros, List.take_zipWith, List.drop_zipWith]

/-- Corrupted bits are accepted exactly if the error alone leaves no remainder. -/
theorem rightCrc_xor_error_iff {bits error : List Bool} (bits_length : bits.length = bitsInPacket)
    (right : RightCrc bits) (error_length : error.length = bitsInPacket) :
    RightCrc (List.zipWith xor bits error) ↔
      Crc.remainder (0x31 : Byte) 0 (checkedText error) = 0 := by
  have lengths : bits.length = error.length := bits_length.trans error_length.symm
  have text_lengths : (checkedText bits).length = (checkedText error).length := by
    simp [checkedText, lengths]
  have initial : (0x6c : Byte) = 0x6c ^^^ 0 := rfl
  rw [rightCrc_iff (by simp [lengths, error_length]), checkedText_zipWith_xor lengths, initial,
    Crc.remainder_xor _ _ _ text_lengths, (rightCrc_iff bits_length).mp right]
  simp

/-- A corrupted frame is accepted exactly if the error alone leaves no remainder. -/
theorem rightCrc_zipWith_xor_iff {bits error : List Bool} (frame : IsFrame bits)
    (length : error.length = bitsInPacket) :
    RightCrc (List.zipWith xor bits error) ↔
      Crc.remainder (0x31 : Byte) 0 (checkedText error) = 0 :=
  rightCrc_xor_error_iff frame.length frame.rightCrc length

/-! ## Bursts -/

/-- An error is confined to eight adjacent bits. -/
def Confined (error : List Bool) : Prop :=
  ∃ start, ∀ i, error.getD i false = true → start ≤ i ∧ i < start + 8

/-- At most eight bits between unchanged ones are an error that is confined. -/
theorem confined_of_length_le {burst : List Bool} (short : burst.length ≤ 8) (start after : ℕ) :
    Confined (List.replicate start false ++ burst ++ List.replicate after false) := by
  refine ⟨start, fun i set => ?_⟩
  rw [List.append_assoc] at set
  by_cases before : i < start
  · rw [List.getD_append _ _ _ _ (by simpa using before)] at set
    simp [before] at set
  · refine ⟨Nat.not_lt.mp before, ?_⟩
    by_contra behind
    rw [List.getD_append_right _ _ _ _ (by simpa using before),
      List.getD_append_right _ _ _ _ (by rw [List.length_replicate]; omega)] at set
    simp [List.getElem?_replicate] at set
    split at set <;> cases set

/-- The missed error: all of the eight bits from the second bit of the constant nibble on. -/
def missedError : List Bool :=
  List.replicate 25 false ++ List.replicate 8 true ++ List.replicate 3 false

/-- An error that is confined is a word at some place. -/
theorem Confined.exists_word {error : List Bool} (confined : Confined error)
    (length : error.length = bitsInPacket) :
    ∃ start ≤ 28, ∃ word : Byte, error =
      List.replicate start false ++ bitsOf word ++ List.replicate (28 - start) false := by
  obtain ⟨start, window⟩ := confined
  have inside : ∀ i, error.getD i false = true → i < 36 := by
    intro i set
    by_contra outside
    rw [List.getD_eq_default _ _ (by rw [length]; exact Nat.not_lt.mp outside)] at set
    cases set
  have size : error.length = 36 := length
  obtain ⟨place, place_eq⟩ : ∃ place, place = min start 28 := ⟨_, rfl⟩
  have bound : place ≤ 28 := place_eq ▸ min_le_right _ _
  have unset : ∀ i, (within : i < error.length) → i < place ∨ place + 8 ≤ i →
      error.get ⟨i, within⟩ = false := by
    intro i within outside
    rw [Bool.eq_false_iff]
    intro set
    have set_here : error.getD i false = true := by
      rw [List.getD_eq_getElem _ _ within]
      exact set
    have := window i set_here
    have := inside i set_here
    omega
  have front : error.take place = List.replicate place false := by
    rw [List.eq_replicate_iff, List.length_take]
    refine ⟨by omega, fun bit member => ?_⟩
    obtain ⟨i, within, rfl⟩ := List.getElem_of_mem member
    rw [List.length_take] at within
    rw [List.getElem_take]
    exact unset i (by omega) (.inl (by omega))
  have back : (error.drop place).drop 8 = List.replicate (28 - place) false := by
    rw [List.eq_replicate_iff, List.length_drop, List.length_drop]
    refine ⟨by omega, fun bit member => ?_⟩
    obtain ⟨i, within, rfl⟩ := List.getElem_of_mem member
    rw [List.length_drop, List.length_drop] at within
    rw [List.getElem_drop, List.getElem_drop]
    exact unset _ (by omega) (.inr (by omega))
  have middle : bitsOf (wordOf 8 ((error.drop place).take 8)) = (error.drop place).take 8 := by
    apply bitsOf_wordOf
    rw [List.length_take, List.length_drop]
    omega
  refine ⟨place, bound, wordOf 8 ((error.drop place).take 8), ?_⟩
  rw [middle, ← front, ← back, List.append_assoc, List.take_append_drop, List.take_append_drop]

/-- The checked text of an error in the first 28 bits or in the last eight is the error at one
place; in between it is cut by the four zero bits. -/
theorem checkedText_word {start : ℕ} (bound : start ≤ 28) (word : Byte) :
    checkedText (List.replicate start false ++ bitsOf word ++ List.replicate (28 - start) false) =
      List.replicate start false ++ ((bitsOf word).take (28 - start) ++ List.replicate 4 false ++
        (bitsOf word).drop (28 - start)) ++ List.replicate (28 - start) false := by
  have front : (List.replicate start false).length = start := List.length_replicate
  have width : (bitsOf word).length = 8 := length_bitsOf word
  rw [checkedText, List.append_assoc (List.replicate start false), List.take_append,
    List.drop_append, front,
    List.take_of_length_le (front.trans_le bound), List.drop_of_length_le (front.trans_le bound),
    List.nil_append, List.take_append, List.drop_append, width]
  rcases Nat.lt_or_ge 20 start with late | early
  · rw [Nat.sub_eq_zero_of_le (show 28 - start ≤ 8 by omega), List.take_zero, List.drop_zero,
      List.append_nil]
    simp only [List.append_assoc]
  · rw [List.take_of_length_le (show (bitsOf word).length ≤ 28 - start by omega),
      List.drop_of_length_le (show (bitsOf word).length ≤ 28 - start by omega), List.nil_append,
      List.take_replicate, List.drop_replicate, List.append_nil]
    simp only [List.append_assoc, ← List.replicate_add]
    congr 3
    omega

/-- Errors across the seam that leave no remainder. -/
theorem remainder_seam : ∀ (left : Fin 7) (word : Byte),
    Crc.remainder (0x31 : Byte) 0 ((bitsOf word).take (left + 1) ++ List.replicate 4 false ++
      (bitsOf word).drop (left + 1)) = 0 ↔ word = 0 ∨ left = 2 ∧ word = 0xFF := by
  decide +kernel

/-- A word at some place is the missed error if it is all ones at the seam. -/
theorem word_eq_missedError_iff {start : ℕ} (bound : start ≤ 28) (word : Byte) :
    List.replicate start false ++ bitsOf word ++ List.replicate (28 - start) false = missedError ↔
      start = 25 ∧ word = 0xFF := by
  constructor
  · intro same
    have bit : ∀ i, i < start ∨ start + 8 ≤ i → missedError.getD i false = false := by
      intro i outside
      rw [← same]
      rcases outside with before | after
      · simp [before, List.getElem?_append_left]
      · rw [List.getD_append_right _ _ _ _ (by simpa using after)]
        simp [List.getElem?_replicate]
        split <;> rfl
    have start_eq : start = 25 := by
      by_contra elsewhere
      rcases Nat.lt_or_gt_of_ne elsewhere with early | late
      · exact absurd (bit 32 (.inr (by omega))) (by decide)
      · exact absurd (bit 25 (.inl late)) (by decide)
    subst start_eq
    refine ⟨rfl, ?_⟩
    have ones : bitsOf word = List.replicate 8 true := by
      have dropped := congrArg (fun text => (text.drop 25).take 8) same
      simpa [missedError] using dropped
    rw [← wordOf_bitsOf word, ones]
    decide
  · rintro ⟨rfl, rfl⟩
    decide

/-- The errors confined to eight adjacent bits that leave no remainder. -/
theorem remainder_confined_eq_zero_iff {error : List Bool} (confined : Confined error)
    (length : error.length = bitsInPacket) (nonzero : true ∈ error) :
    Crc.remainder (0x31 : Byte) 0 (checkedText error) = 0 ↔ error = missedError := by
  obtain ⟨start, bound, word, rfl⟩ := confined.exists_word length
  have set : true ∈ bitsOf word := by
    simpa [List.mem_replicate] using nonzero
  have width : (bitsOf word).length = 8 := length_bitsOf word
  rw [checkedText_word bound, word_eq_missedError_iff bound]
  rcases Nat.lt_or_ge 20 start with late | early
  · rcases Nat.lt_or_eq_of_le bound with inside | rfl
    · have left : 27 - start < 7 := by omega
      have count : 28 - start = (⟨27 - start, left⟩ : Fin 7).val + 1 := by
        simp only
        omega
      have no_error : word ≠ 0 := by
        rintro rfl
        revert set
        decide
      rw [Crc.remainder_append, Crc.remainder_append,
        Crc.remainder_replicate_false_eq_zero_iff poly_odd,
        (Crc.remainder_replicate_false_eq_zero_iff poly_odd 0 start).mpr rfl, count,
        remainder_seam]
      simp only [no_error, false_or, Fin.ext_iff]
      refine and_congr_left fun _ => ?_
      change 27 - start = 2 ↔ start = 25
      omega
    · refine iff_of_false ?_ (by omega)
      have burst := Crc.remainder_burst_ne_zero poly_odd width.le set 32 0
      rwa [List.replicate_add 28 4] at burst
  · refine iff_of_false ?_ (by omega)
    have burst := Crc.remainder_burst_ne_zero poly_odd width.le set start (4 + (28 - start))
    rwa [List.take_of_length_le (by omega), List.drop_of_length_le (by omega), List.append_nil,
      ← List.append_assoc, List.append_assoc, ← List.replicate_add]

/-- For every frame and every error that is confined to eight adjacent bits, the corrupted frame is
rejected unless the error is the missed one. -/
theorem burst_detected_iff {bits error : List Bool} (frame : IsFrame bits)
    (length : error.length = bitsInPacket) (nonzero : true ∈ error) (confined : Confined error) :
    decodeRubicson (packRow (List.zipWith xor bits error)) = .error (.err .crcMismatch) ↔
      error ≠ missedError := by
  rw [decodeRubicson_packRow, Ne, ← remainder_confined_eq_zero_iff confined length nonzero,
    ← rightCrc_zipWith_xor_iff frame length]
  by_cases right : RightCrc (List.zipWith xor bits error)
  · simp [right]
  · simp [right]

/-- A frame of the unit tests. -/
def sampleFrame : List Bool := payloadBits (buildPayload 0x0C 1 true 0xF29)

theorem isFrame_sampleFrame : IsFrame sampleFrame := ⟨rfl, by decide +kernel, by decide +kernel⟩

/-- The flip of one bit. -/
theorem burst_detected_iff_sample :
    decodeRubicson (packRow (List.zipWith xor sampleFrame
      (List.replicate 12 false ++ [true] ++ List.replicate 23 false))) =
        .error (.err .crcMismatch) :=
  (burst_detected_iff isFrame_sampleFrame (by decide) (by decide)
    (confined_of_length_le (by decide) 12 23)).mpr (by decide)

/-- A frame is decoded although eight adjacent bits of it are flipped. -/
theorem seam_flip_accepted :
    IsFrame sampleFrame ∧ missedError.length = bitsInPacket ∧ true ∈ missedError ∧
      Confined missedError ∧
      decodeRubicson (packRow (List.zipWith xor sampleFrame missedError)) =
        .ok ⟨0x0C, 1, true, -215, true⟩ := by
  refine ⟨isFrame_sampleFrame, rfl, by decide, ?_, by decide +kernel⟩
  exact confined_of_length_le (by decide) 25 3

end Rubicson
end Motonet
