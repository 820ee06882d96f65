import Motonet.Rubicson.Packets

/-!
# Which bursts are decoded

The gaps up to a reset are split at the breaks into rows of bits.  The decoder takes the first of
the first twelve rows whose CRC is right.  It does not look at the constant nibble, and it looks at
the length of the last row only, and only if no break ends it; a row that is no frame is taken for
one if its CRC happens to be right.
-/

namespace Motonet
namespace Rubicson

open BitString

/-! ## Rows of a burst -/

def isReset (gap : UInt32) : Bool := decide (decodeGap gap = .error .reset)

def isIgnore (gap : UInt32) : Bool := decide (decodeGap gap = .error .ignore)

def isBreak (gap : UInt32) : Bool := decide (decodeGap gap = .error .brk)

/-- The bit of a gap. -/
def gapBit (gap : UInt32) : Bool := decide (decodeGap gap = .ok 1)

/-- The gaps before the first reset without the ignored ones, split at the breaks into rows. -/
def rows (gaps : List UInt32) : List (List Bool) :=
  (((gaps.takeWhile (!isReset ·)).filter (!isIgnore ·)).splitOnP isBreak).map (·.map gapBit)

/-- A row is ended by a break or by the end of the input. -/
def Ended (gaps : List UInt32) (k : ℕ) : Prop :=
  k + 1 < (rows gaps).length ∨ gaps.any isReset = false

/-- A frame of the protocol: 36 bits, the constant nibble, and the CRC of the payload. -/
structure IsFrame (bits : List Bool) : Prop where
  length : bits.length = bitsInPacket
  constant : (bits.drop 24).take 4 = [true, true, true, true]
  crc : Crc.remainder 0x31 0x6c (bits.take 28 ++ List.replicate 4 false) = wordOf 8 (bits.drop 28)

/-- The row at an index is a frame. -/
def FrameAt (gaps : List UInt32) (k : ℕ) : Prop :=
  ∃ bits, (rows gaps)[k]? = some bits ∧ Ended gaps k ∧ IsFrame bits

/-- The frame grammar: the first frame among the first twelve rows, and its reading. -/
def Parses (gaps : List UInt32) (k : ℕ) (reading : RubicsonReading) : Prop :=
  k < maxPackets ∧ (∃ bits, (rows gaps)[k]? = some bits ∧ Ended gaps k ∧ IsFrame bits ∧
    reading = readingOf bits) ∧ ∀ j < k, ¬ FrameAt gaps j

/-- The decoder takes a row for a frame: its CRC is right, and it is ended by a break or has 36
bits at the end of the input; `reset` tells whether a reset ends the last row. -/
def Taken (reset : Bool) (list : List (List Bool)) (k : ℕ) : Prop :=
  ∃ bits, list[k]? = some bits ∧ RightCrc bits ∧
    (k + 1 < list.length ∨ reset = false ∧ bits.length = bitsInPacket)

/-- The decoder takes the row at an index for a frame. -/
def TakenAt (gaps : List UInt32) (k : ℕ) : Prop :=
  Taken (gaps.any isReset) (rows gaps) k

theorem payload_eq_take {bits : List Bool} (long : bitsInPacket ≤ bits.length) :
    payload bits = bits.take 28 := by
  simp only [bitsInPacket] at long
  apply List.ext_getElem
  · simp only [payload, List.length_map, List.length_range, List.length_take]
    omega
  · intro i left right
    simp only [List.length_take] at right
    simp [payload, show i < bits.length by omega]

/-- A frame has the right CRC. -/
theorem IsFrame.rightCrc {bits : List Bool} (frame : IsFrame bits) : RightCrc bits := by
  rw [RightCrc, payload_eq_take frame.length.ge]
  exact frame.crc

theorem FrameAt.takenAt {gaps : List UInt32} {k : ℕ} (frame : FrameAt gaps k) : TakenAt gaps k := by
  obtain ⟨bits, row, ended, is_frame⟩ := frame
  refine ⟨bits, row, is_frame.rightCrc, ended.imp_right fun no_reset => ?_⟩
  exact ⟨no_reset, is_frame.length⟩

/-! ## Gap by gap -/

section Gaps

variable {gap : UInt32} {gaps : List UInt32}

/-- A gap is a bit, ignored, a break or a reset. -/
theorem decodeGap_cases (gap : UInt32) :
    (∃ bit, decodeGap gap = .ok (bitByte bit)) ∨ decodeGap gap = .error .ignore ∨
      decodeGap gap = .error .brk ∨ decodeGap gap = .error .reset := by
  unfold decodeGap
  split
  · exact .inr (.inr (.inr rfl))
  · split
    · exact .inr (.inr (.inl rfl))
    · split
      · exact .inl ⟨true, rfl⟩
      · split
        · exact .inl ⟨false, rfl⟩
        · exact .inr (.inl rfl)

@[simp]
theorem rows_nil : rows [] = [[]] := rfl

theorem rows_ne_nil (gaps : List UInt32) : rows gaps ≠ [] := by
  simp [rows]

theorem rows_cons_bit {bit : Bool} (decoded : decodeGap gap = .ok (bitByte bit)) :
    rows (gap :: gaps) = (rows gaps).modifyHead (bit :: ·) := by
  have no_reset : isReset gap = false := by simp [isReset, decoded]
  have no_ignore : isIgnore gap = false := by simp [isIgnore, decoded]
  have no_break : isBreak gap = false := by simp [isBreak, decoded]
  have bit_eq : gapBit gap = bit := by
    cases bit <;> simp [gapBit, decoded, bitByte]
  simp only [rows, List.takeWhile_cons, no_reset, Bool.not_false, if_true, List.filter_cons,
    no_ignore, List.splitOnP_cons_eq_if_modifyHead, no_break, Bool.false_eq_true, if_false]
  cases List.splitOnP isBreak _ with
  | nil => rfl
  | cons row rest => simp [bit_eq]

theorem rows_cons_ignore (decoded : decodeGap gap = .error .ignore) :
    rows (gap :: gaps) = rows gaps := by
  simp [rows, isReset, isIgnore, decoded]

theorem rows_cons_brk (decoded : decodeGap gap = .error .brk) :
    rows (gap :: gaps) = [] :: rows gaps := by
  simp [rows, isReset, isIgnore, isBreak, decoded, List.splitOnP_cons_eq_if_modifyHead]

theorem rows_cons_reset (decoded : decodeGap gap = .error .reset) : rows (gap :: gaps) = [[]] := by
  simp [rows, isReset, decoded]

theorem any_isReset_cons (decoded : decodeGap gap ≠ .error .reset) :
    (gap :: gaps).any isReset = gaps.any isReset := by
  simp [isReset, decoded]

end Gaps

/-! ## The loop -/

/-- The first row that is taken, of rows numbered from `row`; `reset` tells how the last one is
ended. -/
def firstTaken (row : ℕ) (reset : Bool) : List (List Bool) → Option (ℕ × RubicsonReading)
  | [] => none
  | bits :: rest =>
      if maxPackets ≤ row then none
      else if RightCrc bits ∧
          (rest.isEmpty = false ∨ reset = false ∧ bits.length = bitsInPacket) then
        some (row, readingOf bits)
      else firstTaken (row + 1) reset rest

/-- The buffer holds the current row and zeros behind it. -/
structure Holds (state : DecodeState) (current : List Bool) : Prop where
  length : state.bitBuffer.length = bytesInPacket * maxPackets
  index : state.bitIndex = current.length
  within : state.bitBufferRow ≤ maxPackets
  content : state.bitBufferRow < maxPackets →
    state.bitBuffer.drop state.rowStartByte = packRow current ++
      List.replicate (bytesInPacket * (maxPackets - state.bitBufferRow - 1)) 0
  full : state.bitBufferRow = maxPackets → current = []

namespace Holds

variable {state : DecodeState} {current : List Bool}

theorem initial : Holds .initial [] where
  length := List.length_replicate
  index := rfl
  within := Nat.zero_le _
  content := fun _ => by decide
  full := fun _ => rfl

theorem fits (holds : Holds state current) (inside : state.bitBufferRow < maxPackets) :
    state.rowStartByte + bytesInPacket ≤ state.bitBuffer.length := by
  rw [holds.length, DecodeState.rowStartByte, ← Nat.succ_mul, Nat.mul_comm bytesInPacket]
  exact Nat.mul_le_mul_right _ inside

/-- The slice of the current row is in bounds. -/
theorem rowSlice {ε : Type} (holds : Holds state current)
    (inside : state.bitBufferRow < maxPackets) :
    state.rowSlice = (.ok (packRow current) : Except (Halt ε) (List Byte)) := by
  rw [DecodeState.rowSlice, if_pos (holds.fits inside), holds.content inside,
    List.take_append_of_le_length (length_packRow current).ge]
  exact congrArg Except.ok (List.take_of_length_le (length_packRow current).le)

/-- The row that the next bit was added to. -/
theorem addBit (holds : Holds state current) (inside : state.bitBufferRow < maxPackets)
    (bit : Bool) :
    Holds { state.setRow (Rubicson.addBit (packRow current) state.bitIndex (bitByte bit)) with
      bitIndex := state.bitIndex + 1 } (current ++ [bit]) := by
  have fits := holds.fits inside
  have start_length : (state.bitBuffer.take state.rowStartByte).length = state.rowStartByte := by
    rw [List.length_take]
    omega
  rw [holds.index, addBit_packRow]
  refine ⟨?_, by simp, holds.within, fun _ => ?_, fun full => absurd inside full.not_lt⟩
  · simp only [DecodeState.setRow, List.length_append, length_packRow, List.length_take,
      List.length_drop]
    have total := holds.length
    omega
  · have behind : state.bitBuffer.drop (state.rowStartByte + bytesInPacket) =
        List.replicate (bytesInPacket * (maxPackets - state.bitBufferRow - 1)) 0 := by
      rw [← List.drop_drop, holds.content inside, List.drop_append_of_le_length
        (length_packRow current).ge, List.drop_of_length_le (length_packRow current).le,
        List.nil_append]
    change ((state.bitBuffer.take state.rowStartByte ++ packRow (current ++ [bit])) ++
      state.bitBuffer.drop (state.rowStartByte + bytesInPacket)).drop state.rowStartByte = _
    rw [List.append_assoc, List.drop_append_of_le_length start_length.ge,
      List.drop_of_length_le start_length.le, List.nil_append, behind]
    rfl

/-- The row behind a break is empty. -/
theorem nextRow (holds : Holds state current) (inside : state.bitBufferRow < maxPackets) :
    Holds { state with bitBufferRow := state.bitBufferRow + 1, bitIndex := 0 } [] where
  length := holds.length
  index := rfl
  within := inside
  content := by
    intro next_inside
    have start_eq : DecodeState.rowStartByte
        { state with bitBufferRow := state.bitBufferRow + 1, bitIndex := 0 } =
          state.rowStartByte + bytesInPacket := Nat.succ_mul _ _
    rw [start_eq, ← List.drop_drop, holds.content inside, List.drop_append_of_le_length
      (length_packRow current).ge, List.drop_of_length_le (length_packRow current).le,
      List.nil_append, packRow_nil, ← List.replicate_add]
    simp only [bytesInPacket, bitsInPacket] at next_inside ⊢
    congr 1
    omega
  full := fun _ => rfl

/-- A row is decoded if its CRC is right. -/
theorem decodeRow (holds : Holds state current) (inside : state.bitBufferRow < maxPackets)
    (otherwise : Unit → Decoded) :
    Rubicson.decodeRow state otherwise =
      if RightCrc current then .ok (state.bitBufferRow, readingOf current) else otherwise () := by
  have decoded := decodeRubicson_packRow current
  rw [Rubicson.decodeRow, holds.rowSlice inside]
  by_cases right : RightCrc current
  · rw [if_pos right] at decoded ⊢
    simp only [bind, Except.bind, decoded]
    rfl
  · rw [if_neg right] at decoded ⊢
    simp only [bind, Except.bind, decoded]

end Holds

/-- The decoder finds the first row that is taken, and never indexes out of bounds. -/
theorem decodeLoop_eq (gaps : List UInt32) {state : DecodeState} {current : List Bool}
    (holds : Holds state current) :
    ∃ buffer, decodeLoop state gaps =
      (firstTaken state.bitBufferRow (gaps.any isReset)
        ((rows gaps).modifyHead (current ++ ·))).elim (.error (.err buffer)) .ok := by
  induction gaps generalizing state current with
  | nil =>
      refine ⟨state.bitBuffer, ?_⟩
      simp only [decodeLoop, rows_nil, List.modifyHead_cons, List.append_nil, List.any_nil,
        firstTaken, List.isEmpty_nil, Bool.true_eq_false, false_or, true_and, holds.index]
      by_cases length : current.length = bitsInPacket
      · have inside : state.bitBufferRow < maxPackets := by
          refine lt_of_le_of_ne holds.within fun full => ?_
          rw [holds.full full] at length
          cases length
        rw [if_pos length, holds.decodeRow inside, if_neg (Nat.not_le.mpr inside)]
        by_cases right : RightCrc current
        · rw [if_pos right, if_pos ⟨right, length⟩]
          rfl
        · rw [if_neg right, if_neg fun taken => right taken.1]
          rfl
      · have none_taken : ¬ (RightCrc current ∧ current.length = bitsInPacket) :=
          fun taken => length taken.2
        rw [if_neg length, if_neg none_taken, ite_self]
        rfl
  | cons gap gaps ih =>
      rw [decodeLoop]
      by_cases full : maxPackets ≤ state.bitBufferRow
      · refine ⟨state.bitBuffer, ?_⟩
        rw [if_pos full]
        cases (rows (gap :: gaps)).modifyHead (current ++ ·) with
        | nil => rfl
        | cons bits rest =>
            rw [firstTaken, if_pos full]
            rfl
      · rw [if_neg full]
        have inside := Nat.not_le.mp full
        rcases decodeGap_cases gap with ⟨bit, decoded⟩ | decoded | decoded | decoded
        · obtain ⟨buffer, next⟩ := ih (holds.addBit inside bit)
          have longer : (rows (gap :: gaps)).modifyHead (current ++ ·) =
              (rows gaps).modifyHead (current ++ [bit] ++ ·) := by
            rw [rows_cons_bit decoded]
            cases rows gaps with
            | nil => rfl
            | cons row rest => simp
          refine ⟨buffer, ?_⟩
          rw [longer, any_isReset_cons (by simp [decoded])]
          simp only [decoded, holds.rowSlice inside]
          exact next
        · obtain ⟨buffer, next⟩ := ih holds
          refine ⟨buffer, ?_⟩
          rw [rows_cons_ignore decoded, any_isReset_cons (by simp [decoded])]
          simpa only [decoded] using next
        · obtain ⟨buffer, next⟩ := ih (holds.nextRow inside)
          have nonempty : (rows gaps).isEmpty = false := by simp [rows_ne_nil]
          have same : (rows gaps).modifyHead ([] ++ ·) = rows gaps := by
            cases rows gaps <;> rfl
          refine ⟨buffer, ?_⟩
          rw [rows_cons_brk decoded, any_isReset_cons (by simp [decoded]), List.modifyHead_cons,
            List.append_nil, firstTaken, if_neg full, nonempty]
          simp only [decoded, holds.decodeRow inside, true_or, and_true]
          by_cases right : RightCrc current
          · rw [if_pos right, if_pos right]
            rfl
          · rw [if_neg right, if_neg right, ← same]
            exact next
        · refine ⟨state.bitBuffer, ?_⟩
          have reset : (gap :: gaps).any isReset = true := by simp [isReset, decoded]
          rw [rows_cons_reset decoded, reset, List.modifyHead_cons, firstTaken, if_neg full,
            if_neg (by simp)]
          simp only [decoded]
          rfl

/-! ## The first row that is taken -/

theorem taken_zero_iff {reset : Bool} {bits : List Bool} {rest : List (List Bool)} :
    Taken reset (bits :: rest) 0 ↔
      RightCrc bits ∧ (rest.isEmpty = false ∨ reset = false ∧ bits.length = bitsInPacket) := by
  cases rest <;> simp [Taken]

theorem taken_succ_iff {reset : Bool} {bits : List Bool} {rest : List (List Bool)} {k : ℕ} :
    Taken reset (bits :: rest) (k + 1) ↔ Taken reset rest k := by
  simp [Taken]

/-- What `firstTaken` finds. -/
theorem firstTaken_eq_some_iff {row : ℕ} {reset : Bool} {list : List (List Bool)} {k : ℕ}
    {reading : RubicsonReading} :
    firstTaken row reset list = some (k, reading) ↔
      ∃ i bits, k = row + i ∧ k < maxPackets ∧ list[i]? = some bits ∧ Taken reset list i ∧
        reading = readingOf bits ∧ ∀ j < i, ¬ Taken reset list j := by
  induction list generalizing row with
  | nil => simp [firstTaken]
  | cons bits rest ih =>
      rw [firstTaken]
      by_cases full : maxPackets ≤ row
      · rw [if_pos full]
        constructor
        · nofun
        · rintro ⟨i, -, rfl, inside, -⟩
          omega
      rw [if_neg full]
      by_cases taken : Taken reset (bits :: rest) 0
      · rw [if_pos (taken_zero_iff.mp taken)]
        constructor
        · intro found
          obtain ⟨rfl, rfl⟩ := Prod.mk.inj (Option.some.inj found)
          exact ⟨0, bits, rfl, Nat.not_le.mp full, rfl, taken, rfl, nofun⟩
        · rintro ⟨i, found, rfl, -, row_eq, -, rfl, none_before⟩
          cases i with
          | zero =>
              cases row_eq
              rfl
          | succ i => exact absurd taken (none_before 0 (Nat.succ_pos i))
      · rw [if_neg (mt taken_zero_iff.mpr taken), ih]
        constructor
        · rintro ⟨i, found, rfl, inside, row_eq, found_taken, rfl, none_before⟩
          refine ⟨i + 1, found, by omega, inside, row_eq, taken_succ_iff.mpr found_taken, rfl, ?_⟩
          intro j before
          cases j with
          | zero => exact taken
          | succ j => exact mt taken_succ_iff.mp (none_before j (Nat.lt_of_succ_lt_succ before))
        · rintro ⟨i, found, rfl, inside, row_eq, found_taken, rfl, none_before⟩
          cases i with
          | zero => exact absurd found_taken taken
          | succ i =>
              refine ⟨i, found, by omega, inside, row_eq, taken_succ_iff.mp found_taken, rfl, ?_⟩
              intro j before
              exact mt taken_succ_iff.mpr (none_before (j + 1) (Nat.succ_lt_succ before))

/-- The decoder returns the first of the first twelve rows that it takes for a frame. -/
theorem decodeGapsIter_eq_ok_iff {gaps : List UInt32} {k : ℕ} {reading : RubicsonReading} :
    decodeGapsIter gaps = .ok (k, reading) ↔
      k < maxPackets ∧ (∃ bits, (rows gaps)[k]? = some bits ∧ reading = readingOf bits) ∧
        TakenAt gaps k ∧ ∀ j < k, ¬ TakenAt gaps j := by
  obtain ⟨buffer, decoded⟩ := decodeLoop_eq gaps Holds.initial
  have same : (rows gaps).modifyHead ([] ++ ·) = rows gaps := by
    cases rows gaps <;> rfl
  have found_iff : decodeGapsIter gaps = .ok (k, reading) ↔
      firstTaken 0 (gaps.any isReset) (rows gaps) = some (k, reading) := by
    rw [decodeGapsIter, decoded, same]
    change (firstTaken 0 (gaps.any isReset) (rows gaps)).elim _ _ = _ ↔ _
    cases firstTaken 0 (gaps.any isReset) (rows gaps) with
    | none => exact ⟨nofun, nofun⟩
    | some found => simp
  rw [found_iff, firstTaken_eq_some_iff]
  constructor
  · rintro ⟨i, bits, k_eq, inside, row_eq, taken, reading_eq, none_before⟩
    obtain rfl : k = i := by omega
    exact ⟨inside, ⟨bits, row_eq, reading_eq⟩, taken, none_before⟩
  · rintro ⟨inside, ⟨bits, row_eq, reading_eq⟩, taken, none_before⟩
    exact ⟨k, bits, by omega, inside, row_eq, taken, reading_eq, none_before⟩

/-- If one of the first twelve rows is taken, the first such row is decoded. -/
theorem exists_decoded_of_takenAt {gaps : List UInt32} {k : ℕ} (inside : k < maxPackets)
    (taken : TakenAt gaps k) :
    ∃ first ≤ k, ∃ bits, decodeGapsIter gaps = .ok (first, readingOf bits) := by
  classical
  have some_taken : ∃ first, TakenAt gaps first := ⟨k, taken⟩
  have first_le : Nat.find some_taken ≤ k := Nat.find_min' some_taken taken
  obtain ⟨bits, row_eq, -⟩ := Nat.find_spec some_taken
  refine ⟨Nat.find some_taken, first_le, bits, decodeGapsIter_eq_ok_iff.mpr ⟨?_,
    ⟨bits, row_eq, rfl⟩, Nat.find_spec some_taken, fun j before => Nat.find_min some_taken before⟩⟩
  exact lt_of_le_of_lt first_le inside

/-- Decoding never indexes out of bounds. -/
theorem decodeGapsIter_ne_panic (gaps : List UInt32) : decodeGapsIter gaps ≠ .error .panic := by
  obtain ⟨buffer, decoded⟩ := decodeLoop_eq gaps Holds.initial
  rw [decodeGapsIter, decoded]
  cases firstTaken _ _ _ <;> nofun

/-! ## The frame grammar -/

/-- The decoder accepts exactly the frame grammar on a burst if and only if every row that it would
take for a frame without its being one comes after a frame. -/
theorem decodes_grammar_iff (gaps : List UInt32) :
    (∀ k reading, decodeGapsIter gaps = .ok (k, reading) ↔ Parses gaps k reading) ↔
      ∀ k < maxPackets, TakenAt gaps k → ¬ FrameAt gaps k → ∃ j < k, FrameAt gaps j := by
  constructor
  · intro decodes k inside taken no_frame
    by_contra none_before
    -- The first row taken at or before `k` is decoded, so it would have to be a frame.
    obtain ⟨first, first_le, bits, decoded⟩ := exists_decoded_of_takenAt inside taken
    obtain ⟨-, ⟨frame_bits, frame_row, ended, is_frame, -⟩, -⟩ := (decodes _ _).mp decoded
    have frame : FrameAt gaps first := ⟨frame_bits, frame_row, ended, is_frame⟩
    rcases lt_or_eq_of_le first_le with before | same
    · exact none_before ⟨_, before, frame⟩
    · exact no_frame (same ▸ frame)
  · intro strays k reading
    rw [decodeGapsIter_eq_ok_iff]
    constructor
    · rintro ⟨inside, ⟨bits, row_eq, reading_eq⟩, taken, none_before⟩
      have frame : FrameAt gaps k := by
        by_contra no_frame
        obtain ⟨j, before, earlier⟩ := strays k inside taken no_frame
        exact none_before j before earlier.takenAt
      obtain ⟨same, same_eq, ended, is_frame⟩ := frame
      obtain rfl := Option.some.inj (row_eq.symm.trans same_eq)
      exact ⟨inside, ⟨bits, row_eq, ended, is_frame, reading_eq⟩,
        fun j before earlier => none_before j before earlier.takenAt⟩
    · rintro ⟨inside, ⟨bits, row_eq, ended, is_frame, reading_eq⟩, no_frame_before⟩
      have frame : FrameAt gaps k := ⟨bits, row_eq, ended, is_frame⟩
      refine ⟨inside, ⟨bits, row_eq, reading_eq⟩, frame.takenAt, fun j before taken => ?_⟩
      obtain ⟨i, earlier, earlier_frame⟩ :=
        strays j (before.trans inside) taken (no_frame_before j before)
      exact no_frame_before i (earlier.trans before) earlier_frame

/-- Six bits and a break. -/
def sixBitBurst : List UInt32 := [1000, 2000, 2000, 1000, 2000, 2000, 4000]

/-- Six bits are decoded, because with zeros behind them their CRC is right. -/
theorem six_bits_decoded :
    rows sixBitBurst = [[false, true, true, false, true, true], []] ∧
      ¬ ∀ k reading, decodeGapsIter sixBitBurst = .ok (k, reading) ↔
        Parses sixBitBurst k reading := by
  have rows_eq : rows sixBitBurst = [[false, true, true, false, true, true], []] := by decide
  refine ⟨rows_eq, fun decodes => ?_⟩
  have decoded : decodeGapsIter sixBitBurst =
      .ok (0, ⟨0x6c, 1, false, 0, true⟩) := by decide +kernel
  obtain ⟨-, ⟨bits, row_eq, -, is_frame, -⟩, -⟩ := (decodes _ _).mp decoded
  rw [rows_eq] at row_eq
  cases row_eq
  exact absurd is_frame.length (by decide)

end Rubicson
end Motonet
