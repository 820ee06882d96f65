import Motonet.Rubicson.Frames

/-!
# What further gaps can change

When some gaps of a burst are followed by others that have nothing to do with it, the decoder may
read a packet that spans both, or a packet of the others.  Whether it can is told by the rows of the
first gaps and by how many gaps may follow.
-/

namespace Motonet
namespace Rubicson

/-- The reading that the decoder returns. -/
def decodedReading (gaps : List UInt32) : Option RubicsonReading :=
  match decodeGapsIter gaps with
  | .ok (_, reading) => some reading
  | .error _ => none

/-- The row that is not yet ended by a break. -/
def currentRow (gaps : List UInt32) : List Bool :=
  (rows gaps).getLastD []

/-- A row that a break ends is taken for a frame. -/
def EndedRowTaken (gaps : List UInt32) (k : ℕ) : Prop :=
  k + 1 < (rows gaps).length ∧ ∃ bits, (rows gaps)[k]? = some bits ∧ RightCrc bits

/-- The gaps settle the outcome: a reset or more than twelve rows end the decoding, or one of the
twelve rows is ended by a break and taken for a frame. -/
def Settled (gaps : List UInt32) : Prop :=
  gaps.any isReset = true ∨ maxPackets < (rows gaps).length ∨
    ∃ k < maxPackets, EndedRowTaken gaps k

/-- Further gaps, at most `room` of them, can end a row that the decoder takes for a frame: the
current row with more bits, or a new row, of which the shortest has six bits between two breaks. -/
def Completable (gaps : List UInt32) (room : ℕ) : Prop :=
  (∃ bits, RightCrc (currentRow gaps ++ bits) ∧ (bits.length < room ∨
    bits.length = room ∧ (currentRow gaps ++ bits).length = bitsInPacket)) ∨
  (rows gaps).length < maxPackets ∧ 8 ≤ room

/-! ## Rows of two parts -/

section Parts

variable {gaps more : List UInt32}

/-- The rows of the first part stay, and the current one is continued. -/
theorem rows_append (no_reset : gaps.any isReset = false) (more : List UInt32) :
    rows (gaps ++ more) =
      (rows gaps).dropLast ++ (rows more).modifyHead (currentRow gaps ++ ·) := by
  induction gaps with
  | nil =>
      change rows more = [] ++ (rows more).modifyHead ([] ++ ·)
      cases rows more <;> rfl
  | cons gap gaps ih =>
      obtain ⟨row, rest, rows_eq⟩ := List.exists_cons_of_ne_nil (rows_ne_nil gaps)
      rcases decodeGap_cases gap with ⟨bit, decoded⟩ | decoded | decoded | decoded
      · rw [any_isReset_cons (by simp [decoded])] at no_reset
        rw [currentRow, List.cons_append, rows_cons_bit decoded, rows_cons_bit decoded, ih no_reset,
          currentRow, rows_eq]
        cases rest with
        | nil => cases rows more <;> rfl
        | cons next rest => rfl
      · rw [any_isReset_cons (by simp [decoded])] at no_reset
        rw [currentRow, List.cons_append, rows_cons_ignore decoded, rows_cons_ignore decoded,
          ih no_reset, currentRow]
      · rw [any_isReset_cons (by simp [decoded])] at no_reset
        rw [currentRow, List.cons_append, rows_cons_brk decoded, rows_cons_brk decoded, ih no_reset,
          currentRow, rows_eq]
        rfl
      · simp [isReset, decoded] at no_reset

/-- Behind a reset there are no more rows. -/
theorem rows_append_of_reset (reset : gaps.any isReset = true) (more : List UInt32) :
    rows (gaps ++ more) = rows gaps := by
  have ended : (gaps ++ more).takeWhile (!isReset ·) = gaps.takeWhile (!isReset ·) := by
    induction gaps with
    | nil => cases reset
    | cons gap gaps ih =>
        rw [List.cons_append, List.takeWhile_cons, List.takeWhile_cons]
        cases found : isReset gap with
        | true => rfl
        | false =>
            rw [List.any_cons, found, Bool.false_or] at reset
            rw [ih reset]
  rw [rows, ended, rows]

/-- Every bit and every break takes a gap. -/
theorem length_rows_le (gaps : List UInt32) :
    (rows gaps).flatten.length + (rows gaps).length ≤ gaps.length + 1 := by
  induction gaps with
  | nil => exact Nat.le_refl 1
  | cons gap gaps ih =>
      rw [List.length_cons]
      rcases decodeGap_cases gap with ⟨bit, decoded⟩ | decoded | decoded | decoded
      · obtain ⟨row, rest, rows_eq⟩ := List.exists_cons_of_ne_nil (rows_ne_nil gaps)
        rw [rows_cons_bit decoded, rows_eq]
        simp only [rows_eq, List.modifyHead_cons, List.flatten_cons, List.length_append,
          List.length_cons] at ih ⊢
        omega
      · rw [rows_cons_ignore decoded]
        omega
      · rw [rows_cons_brk decoded]
        simp only [List.flatten_cons, List.nil_append, List.length_cons]
        omega
      · rw [rows_cons_reset decoded]
        simp

/-- A reset ends the current row. -/
theorem takenAt_append_of_reset (reset : gaps.any isReset = true) (more : List UInt32) {k : ℕ} :
    TakenAt (gaps ++ more) k ↔ EndedRowTaken gaps k := by
  have still : (gaps ++ more).any isReset = true := by rw [List.any_append, reset, Bool.true_or]
  rw [TakenAt, Taken, rows_append_of_reset reset, still]
  constructor
  · rintro ⟨bits, row, right, ended | ⟨no_reset, -⟩⟩
    · exact ⟨ended, bits, row, right⟩
    · cases no_reset
  · rintro ⟨ended, bits, row, right⟩
    exact ⟨bits, row, right, .inl ended⟩

section Ended

variable (no_reset : gaps.any isReset = false) (more : List UInt32) {k : ℕ}
include no_reset

theorem length_rows_append :
    (rows (gaps ++ more)).length + 1 = (rows gaps).length + (rows more).length := by
  have nonempty := List.length_pos_of_ne_nil (rows_ne_nil gaps)
  rw [rows_append no_reset, List.length_append, List.length_dropLast, List.length_modifyHead]
  omega

theorem rows_append_ended (ended : k + 1 < (rows gaps).length) :
    (rows (gaps ++ more))[k]? = (rows gaps)[k]? := by
  rw [rows_append no_reset, List.getElem?_append_left (by rw [List.length_dropLast]; omega),
    List.getElem?_dropLast, if_pos (by omega)]

/-- What follows makes no difference to the rows that are ended. -/
theorem takenAt_append_ended (ended : k + 1 < (rows gaps).length) :
    TakenAt (gaps ++ more) k ↔ EndedRowTaken gaps k := by
  have nonempty := List.length_pos_of_ne_nil (rows_ne_nil more)
  have lengths := length_rows_append no_reset more
  rw [TakenAt, Taken, rows_append_ended no_reset more ended]
  constructor
  · rintro ⟨bits, row, right, -⟩
    exact ⟨ended, bits, row, right⟩
  · rintro ⟨-, bits, row, right⟩
    exact ⟨bits, row, right, .inl (by omega)⟩

end Ended

end Parts

/-! ## Readings of two parts -/

theorem decodedReading_eq_some_iff {gaps : List UInt32} {reading : RubicsonReading} :
    decodedReading gaps = some reading ↔
      ∃ k < maxPackets, (∃ bits, (rows gaps)[k]? = some bits ∧ reading = readingOf bits) ∧
        TakenAt gaps k ∧ ∀ j < k, ¬ TakenAt gaps j := by
  rw [decodedReading]
  constructor
  · intro decoded
    split at decoded
    · rename_i k reading result
      cases decoded
      exact ⟨k, decodeGapsIter_eq_ok_iff.mp result⟩
    · cases decoded
  · rintro ⟨k, found⟩
    rw [decodeGapsIter_eq_ok_iff.mpr found]

/-- There is a reading if one of the first twelve rows is taken. -/
theorem decodedReading_ne_none_iff {gaps : List UInt32} :
    decodedReading gaps ≠ none ↔ ∃ k < maxPackets, TakenAt gaps k := by
  rw [Option.ne_none_iff_exists']
  constructor
  · rintro ⟨reading, decoded⟩
    obtain ⟨k, inside, -, taken, -⟩ := decodedReading_eq_some_iff.mp decoded
    exact ⟨k, inside, taken⟩
  · rintro ⟨k, inside, taken⟩
    obtain ⟨first, -, bits, decoded⟩ := exists_decoded_of_takenAt inside taken
    exact ⟨readingOf bits, by rw [decodedReading, decoded]⟩

section Settled

variable {gaps : List UInt32}

/-- Gaps that settle the outcome do so alone. -/
theorem decodedReading_append_eq_some_iff (settled : Settled gaps) (more : List UInt32)
    {reading : RubicsonReading} :
    decodedReading (gaps ++ more) = some reading ↔
      ∃ k < maxPackets, (∃ bits, (rows gaps)[k]? = some bits ∧ reading = readingOf bits) ∧
        EndedRowTaken gaps k ∧ ∀ j < k, ¬ EndedRowTaken gaps j := by
  rw [decodedReading_eq_some_iff]
  cases reset : gaps.any isReset with
  | true => simp only [takenAt_append_of_reset reset, rows_append_of_reset reset]
  | false =>
      constructor
      · rintro ⟨k, inside, row, taken, none_before⟩
        have ended : k + 1 < (rows gaps).length := by
          rcases settled with resets | full | ⟨j, -, found⟩
          · rw [reset] at resets
            cases resets
          · omega
          · have not_before := mt (none_before j) (not_not.mpr
              ((takenAt_append_ended reset more found.1).mpr found))
            have := found.1
            omega
        rw [rows_append_ended reset more ended] at row
        refine ⟨k, inside, row, (takenAt_append_ended reset more ended).mp taken, ?_⟩
        intro j before found
        exact none_before j before ((takenAt_append_ended reset more found.1).mpr found)
      · rintro ⟨k, inside, row, found, none_before⟩
        refine ⟨k, inside, ?_, (takenAt_append_ended reset more found.1).mpr found, ?_⟩
        · rwa [rows_append_ended reset more found.1]
        · intro j before taken
          have ended : j + 1 < (rows gaps).length := by
            have := found.1
            omega
          exact none_before j before ((takenAt_append_ended reset more ended).mp taken)

theorem decodedReading_append_of_settled (settled : Settled gaps) (left right : List UInt32) :
    decodedReading (gaps ++ left) = decodedReading (gaps ++ right) := by
  ext reading
  rw [decodedReading_append_eq_some_iff settled, decodedReading_append_eq_some_iff settled]

end Settled

/-! ## Completions -/

/-- The shortest row with the right CRC has six bits. -/
theorem six_le_of_rightCrc {bits : List Bool} (right : RightCrc bits) : 6 ≤ bits.length := by
  match bits with
  | [] => exact absurd right (by decide +kernel)
  | [first] =>
      revert right first
      decide +kernel
  | [first, second] =>
      revert right first second
      decide +kernel
  | [first, second, third] =>
      revert right first second third
      decide +kernel
  | [first, second, third, fourth] =>
      revert right first second third fourth
      decide +kernel
  | [first, second, third, fourth, fifth] =>
      revert right first second third fourth fifth
      decide +kernel
  | _ :: _ :: _ :: _ :: _ :: _ :: rest =>
      simp only [List.length_cons]
      omega

section Open

variable {gaps more : List UInt32}

/-- The rows of gaps that settle nothing. -/
theorem of_not_settled (unsettled : ¬ Settled gaps) :
    gaps.any isReset = false ∧ (rows gaps).length ≤ maxPackets ∧
      ∀ k < maxPackets, ¬ EndedRowTaken gaps k := by
  rw [Settled, not_or, not_or] at unsettled
  obtain ⟨no_reset, rows_le, none_taken⟩ := unsettled
  exact ⟨by simpa using no_reset, Nat.not_lt.mp rows_le,
    fun k inside taken => none_taken ⟨k, inside, taken⟩⟩

/-- The row at the seam and the ones behind it. -/
theorem rows_append_at (no_reset : gaps.any isReset = false) (more : List UInt32) (i : ℕ) :
    (rows (gaps ++ more))[(rows gaps).length - 1 + i]? =
      ((rows more).modifyHead (currentRow gaps ++ ·))[i]? := by
  rw [rows_append no_reset, List.getElem?_append_right (by rw [List.length_dropLast]; omega),
    List.length_dropLast, Nat.add_sub_cancel_left]

/-- A row that is taken with the help of further gaps is completed by them. -/
theorem completable_of_takenAt (unsettled : ¬ Settled gaps) {room k : ℕ}
    (fits : more.length ≤ room) (inside : k < maxPackets) (taken : TakenAt (gaps ++ more) k) :
    Completable gaps room := by
  obtain ⟨no_reset, -, none_taken⟩ := of_not_settled unsettled
  have lengths := length_rows_append no_reset more
  have bits_le := length_rows_le more
  obtain ⟨bits, row, right, ended⟩ := taken
  have open_row : (rows gaps).length ≤ k + 1 := by
    refine Nat.not_lt.mp fun before => none_taken k inside ?_
    exact (takenAt_append_ended no_reset more before).mp ⟨bits, row, right, ended⟩
  have nonempty := List.length_pos_of_ne_nil (rows_ne_nil gaps)
  obtain ⟨i, rfl⟩ : ∃ i, k = (rows gaps).length - 1 + i := ⟨k - ((rows gaps).length - 1), by omega⟩
  rw [rows_append_at no_reset] at row
  obtain ⟨first, rest, rows_eq⟩ := List.exists_cons_of_ne_nil (rows_ne_nil more)
  simp only [rows_eq, List.flatten_cons, List.length_append, List.length_cons] at bits_le lengths
  rw [rows_eq, List.modifyHead_cons] at row
  cases i with
  | zero =>
      cases row
      refine .inl ⟨first, right, ?_⟩
      rcases ended with ended | ⟨-, whole⟩
      · exact .inl (by omega)
      · rcases Nat.lt_or_eq_of_le (show first.length ≤ room by omega) with shorter | same
        · exact .inl shorter
        · exact .inr ⟨same, whole⟩
  | succ i =>
      rw [List.getElem?_cons_succ] at row
      have member : bits ∈ rest := List.mem_of_getElem? row
      have part := (List.sublist_flatten_of_mem member).length_le
      have behind := (List.getElem?_eq_some_iff.mp row).1
      have six := six_le_of_rightCrc right
      refine .inr ⟨by omega, ?_⟩
      rcases ended with ended | ⟨-, whole⟩
      · omega
      · rw [bitsInPacket] at whole
        omega

/-- The length of a gap that is decoded to a bit. -/
def bitGap (bit : Bool) : UInt16 := if bit then 2000 else 1000

theorem decodeGap_bitGap (bit : Bool) : decodeGap (bitGap bit).toUInt32 = .ok (bitByte bit) := by
  cases bit <;> decide

/-- The lengths of the gaps that spell a row, and of a break. -/
def rowGaps (bits : List Bool) : List UInt16 := bits.map bitGap

def breakGap : UInt16 := 4000

def resetGap : UInt16 := 5000

theorem rows_rowGaps_append (bits : List Bool) (more : List UInt16) :
    rows ((rowGaps bits ++ more).map UInt16.toUInt32) =
      (rows (more.map UInt16.toUInt32)).modifyHead (bits ++ ·) := by
  induction bits with
  | nil =>
      change rows (more.map UInt16.toUInt32) = _
      cases rows (more.map UInt16.toUInt32) <;> rfl
  | cons bit bits ih =>
      change rows ((bitGap bit).toUInt32 :: (rowGaps bits ++ more).map UInt16.toUInt32) = _
      rw [rows_cons_bit (decodeGap_bitGap bit), ih]
      cases rows (more.map UInt16.toUInt32) <;> rfl

theorem rows_rowGaps_break (bits : List Bool) :
    rows ((rowGaps bits ++ [breakGap]).map UInt16.toUInt32) = [bits, []] := by
  have single : rows ([breakGap].map UInt16.toUInt32) = [[], []] := rows_cons_brk (by decide)
  rw [rows_rowGaps_append, single]
  simp

theorem any_isReset_rowGaps (bits : List Bool) :
    ((rowGaps bits).map UInt16.toUInt32).any isReset = false := by
  simp [rowGaps, isReset, decodeGap_bitGap, bitByte]

/-- A row behind the ended ones that is taken gives a reading. -/
theorem decodedReading_of_row (unsettled : ¬ Settled gaps) {more : List UInt32} {i : ℕ}
    {bits : List Bool} (inside : (rows gaps).length - 1 + i < maxPackets)
    (row : ((rows more).modifyHead (currentRow gaps ++ ·))[i]? = some bits) (right : RightCrc bits)
    (ended : i + 1 < (rows more).length ∨ more.any isReset = false ∧ bits.length = bitsInPacket) :
    decodedReading (gaps ++ more) ≠ none := by
  obtain ⟨no_reset, -, -⟩ := of_not_settled unsettled
  have lengths := length_rows_append no_reset more
  have nonempty := List.length_pos_of_ne_nil (rows_ne_nil gaps)
  refine decodedReading_ne_none_iff.mpr
    ⟨_, inside, bits, (rows_append_at no_reset more i).trans row, right, ?_⟩
  refine ended.imp (fun before => by omega) fun whole => ⟨?_, whole.2⟩
  rw [List.any_append, no_reset, whole.1, Bool.or_self]

/-- What can be completed is completed by gaps of some lengths. -/
theorem exists_completion (unsettled : ¬ Settled gaps) {room : ℕ}
    (completable : Completable gaps room) :
    ∃ more : List UInt16, more.length ≤ room ∧ 0 ∉ more ∧
      decodedReading (gaps ++ more.map UInt16.toUInt32) ≠ none := by
  obtain ⟨-, rows_le, -⟩ := of_not_settled unsettled
  have nonempty := List.length_pos_of_ne_nil (rows_ne_nil gaps)
  have bit_gaps (bits : List Bool) : 0 ∉ rowGaps bits := by
    simp [rowGaps, bitGap]
  rcases completable with ⟨bits, right, shorter | ⟨same, whole⟩⟩ | ⟨rows_lt, eight⟩
  · refine ⟨rowGaps bits ++ [breakGap], by simpa [rowGaps] using Nat.succ_le_of_lt shorter, ?_, ?_⟩
    · simp [bit_gaps, breakGap]
    · refine decodedReading_of_row unsettled (i := 0) (by rw [maxPackets] at *; omega) ?_ right
        (.inl ?_)
      · rw [rows_rowGaps_break]
        rfl
      · rw [rows_rowGaps_break]
        exact Nat.lt_add_one 1
  · refine ⟨rowGaps bits, by simp [rowGaps, same], bit_gaps bits, ?_⟩
    have single := rows_rowGaps_append bits []
    rw [List.append_nil] at single
    refine decodedReading_of_row unsettled (i := 0) (by rw [maxPackets] at *; omega) ?_ right
      (.inr ⟨any_isReset_rowGaps bits, whole⟩)
    rw [single]
    simp
  · have six : RightCrc [false, true, true, false, true, true] := by decide +kernel
    have split : rows ((breakGap :: (rowGaps [false, true, true, false, true, true] ++
        [breakGap])).map UInt16.toUInt32) = [[], [false, true, true, false, true, true], []] := by
      rw [List.map_cons, rows_cons_brk (by decide), rows_rowGaps_break]
    refine ⟨breakGap :: (rowGaps [false, true, true, false, true, true] ++ [breakGap]), eight,
      by decide, ?_⟩
    refine decodedReading_of_row unsettled (i := 1) (by omega) ?_ six (.inl ?_)
    · rw [split]
      rfl
    · rw [split]
      decide

/-- A reset behind gaps that settle nothing leaves them without a reading. -/
theorem decodedReading_reset (unsettled : ¬ Settled gaps) :
    decodedReading (gaps ++ [resetGap.toUInt32]) = none := by
  obtain ⟨no_reset, -, none_taken⟩ := of_not_settled unsettled
  have lengths := length_rows_append no_reset [resetGap.toUInt32]
  have single : rows [resetGap.toUInt32] = [[]] := rows_cons_reset (by decide)
  have resets : (gaps ++ [resetGap.toUInt32]).any isReset = true := by
    rw [List.any_append, no_reset]
    decide
  by_contra some_reading
  obtain ⟨k, inside, bits, row, right, ended | ⟨no_end, -⟩⟩ :=
    decodedReading_ne_none_iff.mp some_reading
  · rw [single, List.length_singleton] at lengths
    have before : k + 1 < (rows gaps).length := by omega
    exact none_taken k inside ⟨before, bits, rows_append_ended no_reset _ before ▸ row, right⟩
  · rw [resets] at no_end
    cases no_end

/-- Where the first gaps settle the outcome, or no row that is taken for a frame can be completed,
the reading does not depend on the gaps that follow. -/
theorem decodedReading_append_eq {room : ℕ}
    (condition : Settled gaps ∨ ¬ Completable gaps room) {left right : List UInt32}
    (left_fits : left.length ≤ room) (right_fits : right.length ≤ room) :
    decodedReading (gaps ++ left) = decodedReading (gaps ++ right) := by
  by_cases settled : Settled gaps
  · exact decodedReading_append_of_settled settled left right
  have incompletable := condition.resolve_left settled
  have unread (more : List UInt32) (fits : more.length ≤ room) :
      decodedReading (gaps ++ more) = none := by
    by_contra some_reading
    obtain ⟨k, inside, taken⟩ := decodedReading_ne_none_iff.mp some_reading
    exact incompletable (completable_of_takenAt settled fits inside taken)
  rw [unread left left_fits, unread right right_fits]

end Open

end Rubicson
end Motonet
