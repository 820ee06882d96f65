import Motonet.Rubicson.Frames

/-!
# Decoding a frame behind noise

A reading is packed into five bytes and sent as 36 bits.  Up to eleven rows that fail the CRC check
may precede it; the lengths of the gaps within their windows, ignored gaps and a trailing break make
no difference.
-/

namespace Motonet
namespace Rubicson

open BitString

/-! ## Encoding -/

/-- Build a valid five-byte payload with its CRC. -/
def buildPayload (id channel : Byte) (batteryOk : Bool) (tempRaw : BitVec 16) : List Byte :=
  let tempHighNibble : Byte := ((tempRaw >>> 8) &&& 0x0F).setWidth 8
  let payload1 := (if batteryOk then (0x80 : Byte) else 0x00) ||| ((channel - 1) <<< 4) |||
    tempHighNibble
  let payload2 : Byte := (tempRaw &&& 0xFF).setWidth 8
  let crcVal := calculateCrc8 [id, payload1, payload2, 0xF0] 0x31 0x6c
  [id, payload1, payload2, 0xF0 ||| (crcVal &&& 0xF0) >>> 4, 0x00 ||| (crcVal &&& 0x0F) <<< 4]

/-- The bits of a payload that are sent. -/
def payloadBits (payload : List Byte) : List Bool :=
  (payload.flatMap bitsOf).take bitsInPacket

/-- Convert a payload to gap lengths, with a break behind it. -/
def payloadToGaps (payload : List Byte) : List UInt32 :=
  (payloadBits payload).map (fun bit => if bit then 2000 else 1000) ++ [4000]

section Payload

variable (id : Byte) {channel : Byte} (batteryOk : Bool) (temperature : BitVec 12)

/-- Five bytes of which the last has no low nibble fill a row. -/
theorem packRow_payloadBits {b0 b1 b2 b3 b4 : Byte} (padded : b4 &&& 0x0F = 0) :
    packRow (payloadBits [b0, b1, b2, b3, b4]) = [b0, b1, b2, b3, b4] := by
  have bits_eq : payloadBits [b0, b1, b2, b3, b4] =
      bitsOf b0 ++ (bitsOf b1 ++ (bitsOf b2 ++ (bitsOf b3 ++ (bitsOf b4).take 4))) := rfl
  have skip : ∀ (byte : Byte) (rest : List Bool) (count : ℕ),
      (bitsOf byte ++ rest).drop (8 + count) = rest.drop count := by
    intro byte rest count
    rw [← List.drop_drop, List.drop_left' (length_bitsOf byte)]
  have last : wordOf 8 ((bitsOf b4).take 4) = b4 := by
    apply BitVec.eq_of_getMsbD_eq
    intro i inside
    rw [getMsbD_wordOf, decide_eq_true inside, Bool.true_and, List.getD_eq_getElem?_getD,
      List.getElem?_take]
    split
    · rw [← List.getD_eq_getElem?_getD, getD_bitsOf]
    · have unset := congrArg (fun byte => BitVec.getMsbD byte i) padded
      simp only [BitVec.getMsbD_and] at unset
      interval_cases i <;> simp_all
  have packed : packRow (payloadBits [b0, b1, b2, b3, b4]) =
      [wordOf 8 (payloadBits [b0, b1, b2, b3, b4]),
        wordOf 8 ((payloadBits [b0, b1, b2, b3, b4]).drop (8 + 0)),
        wordOf 8 ((payloadBits [b0, b1, b2, b3, b4]).drop (8 + (8 + 0))),
        wordOf 8 ((payloadBits [b0, b1, b2, b3, b4]).drop (8 + (8 + (8 + 0)))),
        wordOf 8 ((payloadBits [b0, b1, b2, b3, b4]).drop (8 + (8 + (8 + (8 + 0)))))] := rfl
  rw [packed, bits_eq]
  simp only [skip, List.drop_zero, wordOf_bitsOf_append, last]

/-- The check of a packed CRC succeeds. -/
theorem calculateCrc8_concat (data : List Byte) (poly crc : Byte)
    (odd : poly.getMsbD (8 - 1) = true) :
    calculateCrc8 (data ++ [calculateCrc8 data poly crc]) poly crc = 0 := by
  rw [calculateCrc8_eq, calculateCrc8_eq, List.flatMap_append, List.flatMap_singleton]
  exact (Crc.remainder_append_bitsOf_eq_zero_iff odd _ _ _).mpr rfl

/-- The second byte: battery flag, channel and the upper part of the temperature. -/
private theorem payload1_fields (channel_ge : 1 ≤ channel) (channel_le : channel ≤ 4) :
    let payload1 : Byte := (if batteryOk then (0x80 : Byte) else 0x00) ||| ((channel - 1) <<< 4) |||
      ((temperature.setWidth 16 >>> 8) &&& (0x0F : BitVec 16)).setWidth 8
    ((payload1 &&& 0x30) >>> 4) + 1 = channel ∧ decide (payload1 &&& 0x80 ≠ 0) = batteryOk ∧
      ((payload1 &&& 0x0F).setWidth 16 : BitVec 16) <<< 8 |||
        (((temperature.setWidth 16 : BitVec 16) &&& 0xFF).setWidth 8 : Byte).setWidth 16 =
          temperature.setWidth 16 := by
  have channels : ∀ byte : Byte, 1 ≤ byte → byte ≤ 4 →
      ∃ index : BitVec 2, byte - 1 = index.setWidth 8 ∧ index.setWidth 8 + 1 = byte := by
    decide
  obtain ⟨index, index_eq, channel_eq⟩ := channels channel channel_ge channel_le
  have nibble : ∃ high : BitVec 4, ((temperature.setWidth 16 >>> 8) &&&
      (0x0F : BitVec 16)).setWidth 8 = (high.setWidth 8 : Byte) ∧
      ((high.setWidth 16 : BitVec 16) <<< 8 |||
        (((temperature.setWidth 16 : BitVec 16) &&& 0xFF).setWidth 8 : Byte).setWidth 16 =
          temperature.setWidth 16) := by
    refine ⟨(temperature >>> 8).setWidth 4, ?_, ?_⟩
    · apply BitVec.eq_of_getLsbD_eq
      intro i inside
      interval_cases i <;> simp
    · apply BitVec.eq_of_getLsbD_eq
      intro i inside
      interval_cases i <;> simp
  obtain ⟨high, nibble_eq, joined⟩ := nibble
  have fields : ∀ (flag : Bool) (index : BitVec 2) (high : BitVec 4),
      let payload1 : Byte := (if flag then (0x80 : Byte) else 0x00) ||| (index.setWidth 8 <<< 4) |||
        high.setWidth 8
      (payload1 &&& 0x30) >>> 4 = index.setWidth 8 ∧ decide (payload1 &&& 0x80 ≠ 0) = flag ∧
        (payload1 &&& 0x0F) = high.setWidth 8 := by
    decide
  obtain ⟨channel_bits, battery_bit, low⟩ := fields batteryOk index high
  simp only [index_eq, nibble_eq, channel_bits, battery_bit, low]
  refine ⟨channel_eq, trivial, ?_⟩
  have widened : ∀ high : BitVec 4,
      (high.setWidth 8 : Byte).setWidth 16 = (high.setWidth 16 : BitVec 16) := by decide
  rw [widened]
  exact joined

/-- A payload is decoded to what it was built from. -/
theorem decodeRubicson_buildPayload (channel_ge : 1 ≤ channel) (channel_le : channel ≤ 4) :
    decodeRubicson (buildPayload id channel batteryOk (temperature.setWidth 16)) =
      .ok ⟨id, channel, batteryOk, temperature.toInt, true⟩ := by
  have constant : ∀ crc : Byte, (0xF0 ||| (crc &&& 0xF0) >>> 4) &&& 0xF0 = (0xF0 : Byte) := by
    decide
  have nibbles : ∀ crc : Byte, ((0xF0 ||| (crc &&& 0xF0) >>> 4) &&& 0x0F) <<< 4 |||
      ((0x00 ||| (crc &&& 0x0F) <<< 4) &&& 0xF0) >>> 4 = crc := by
    decide
  obtain ⟨channel_eq, battery_eq, temperature_eq⟩ := payload1_fields batteryOk
    temperature channel_ge channel_le
  simp only [buildPayload]
  rw [decodeRubicson_bytes, constant, nibbles, channel_eq, battery_eq, temperature_eq,
    signExtendNthBit_setWidth]
  exact if_neg (not_not.mpr (calculateCrc8_concat [id, _, _, 0xF0] 0x31 0x6c poly_odd))

/-- The bits of a payload are a row with the right CRC and the fields it was built from. -/
theorem rightCrc_payloadBits (channel_ge : 1 ≤ channel) (channel_le : channel ≤ 4) :
    RightCrc (payloadBits (buildPayload id channel batteryOk (temperature.setWidth 16))) ∧
      readingOf (payloadBits (buildPayload id channel batteryOk (temperature.setWidth 16))) =
        ⟨id, channel, batteryOk, temperature.toInt, true⟩ := by
  have padded : ∀ crc : Byte, (0x00 ||| (crc &&& 0x0F) <<< 4) &&& 0x0F = (0 : Byte) := by decide
  have decoded := decodeRubicson_buildPayload id batteryOk temperature channel_ge
    channel_le
  rw [buildPayload] at decoded ⊢
  rw [← packRow_payloadBits (padded _), decodeRubicson_packRow] at decoded
  by_cases right : RightCrc (payloadBits (buildPayload id channel batteryOk
    (temperature.setWidth 16)))
  · refine ⟨right, ?_⟩
    rw [buildPayload] at right
    rw [if_pos right] at decoded
    exact Except.ok.inj decoded
  · rw [buildPayload] at right
    rw [if_neg right] at decoded
    cases decoded

end Payload

theorem length_payloadBits (b0 b1 b2 b3 b4 : Byte) :
    (payloadBits [b0, b1, b2, b3, b4]).length = bitsInPacket := rfl

/-! ## Noise -/

/-- What a row of bits and the break behind it are decoded to, gap by gap. -/
def rowSymbols (bits : List Bool) : List (Except BreakResetIgnore Byte) :=
  bits.map fun bit => .ok (bitByte bit)

/-- Rows that are ended by breaks, then a last row, and a break behind it or not. -/
def burstSymbols (noise : List (List Bool)) (last : List Bool) (trailing : Bool) :
    List (Except BreakResetIgnore Byte) :=
  noise.flatMap (fun row => rowSymbols row ++ [.error .brk]) ++ rowSymbols last ++
    if trailing then [.error .brk] else []

/-- The gaps spell symbols: with ignored gaps left out, they are decoded to them one by one. -/
def Spells (gaps : List UInt32) (symbols : List (Except BreakResetIgnore Byte)) : Prop :=
  (gaps.filter (!isIgnore ·)).map decodeGap = symbols

instance (gaps : List UInt32) (symbols : List (Except BreakResetIgnore Byte)) :
    Decidable (Spells gaps symbols) :=
  inferInstanceAs (Decidable (_ = _))

/-- The rows that symbols spell, the current one first. -/
def rowsOfSymbols : List (Except BreakResetIgnore Byte) → List (List Bool)
  | [] => [[]]
  | .ok bit :: symbols => (rowsOfSymbols symbols).modifyHead ((bit = 1) :: ·)
  | .error .brk :: symbols => [] :: rowsOfSymbols symbols
  | .error .ignore :: symbols => rowsOfSymbols symbols
  | .error .reset :: _ => [[]]

/-- The rows of a burst are those that its gaps spell. -/
theorem rows_of_spells {gaps : List UInt32} {symbols : List (Except BreakResetIgnore Byte)}
    (spells : Spells gaps symbols) : rows gaps = rowsOfSymbols symbols := by
  subst spells
  induction gaps with
  | nil => rfl
  | cons gap gaps ih =>
      rcases decodeGap_cases gap with ⟨bit, decoded⟩ | decoded | decoded | decoded
      · rw [rows_cons_bit decoded, ih]
        cases bit <;> simp [isIgnore, decoded, rowsOfSymbols, bitByte]
      · rw [rows_cons_ignore decoded, ih]
        simp [isIgnore, decoded]
      · rw [rows_cons_brk decoded, ih]
        simp [isIgnore, decoded, rowsOfSymbols]
      · rw [rows_cons_reset decoded]
        simp [isIgnore, decoded, rowsOfSymbols]

/-- A reset is not ignored. -/
theorem any_isReset_of_spells {gaps : List UInt32}
    {symbols : List (Except BreakResetIgnore Byte)} (spells : Spells gaps symbols)
    (no_reset : .error .reset ∉ symbols) : gaps.any isReset = false := by
  rw [List.any_eq_false]
  intro gap member reset
  have decoded : decodeGap gap = .error .reset := of_decide_eq_true reset
  apply no_reset
  rw [← spells, ← decoded]
  exact List.mem_map_of_mem (List.mem_filter.mpr ⟨member, by simp [isIgnore, decoded]⟩)

theorem rowsOfSymbols_rowSymbols_append (bits : List Bool)
    (rest : List (Except BreakResetIgnore Byte)) :
    rowsOfSymbols (rowSymbols bits ++ rest) = (rowsOfSymbols rest).modifyHead (bits ++ ·) := by
  induction bits with
  | nil =>
      change rowsOfSymbols rest = _
      cases rowsOfSymbols rest <;> rfl
  | cons bit bits ih =>
      have head : rowsOfSymbols (rowSymbols (bit :: bits) ++ rest) =
          (rowsOfSymbols (rowSymbols bits ++ rest)).modifyHead (bit :: ·) := by
        cases bit <;> rfl
      rw [head, ih]
      cases rowsOfSymbols rest <;> rfl

/-- The rows of a noisy burst. -/
theorem rowsOfSymbols_burstSymbols (noise : List (List Bool)) (last : List Bool)
    (trailing : Bool) :
    rowsOfSymbols (burstSymbols noise last trailing) =
      noise ++ [last] ++ if trailing then [[]] else [] := by
  induction noise with
  | nil =>
      rw [burstSymbols, List.flatMap_nil, List.nil_append, rowsOfSymbols_rowSymbols_append]
      cases trailing <;> simp [rowsOfSymbols]
  | cons row noise ih =>
      have head : burstSymbols (row :: noise) last trailing =
          rowSymbols row ++ .error .brk :: burstSymbols noise last trailing := by
        simp [burstSymbols]
      rw [head, rowsOfSymbols_rowSymbols_append, rowsOfSymbols, ih]
      simp

theorem reset_notMem_burstSymbols (noise : List (List Bool)) (last : List Bool)
    (trailing : Bool) : .error .reset ∉ burstSymbols noise last trailing := by
  have row : ∀ bits, (.error .reset : Except BreakResetIgnore Byte) ∉ rowSymbols bits := by
    simp [rowSymbols]
  cases trailing <;> simp [burstSymbols, row]

/-- Decoding undoes encoding behind noise: up to eleven rows that fail the CRC check are skipped,
and twelve of them end the attempt.  No gaps make the decoder index out of bounds. -/
theorem decodes_behind_noise (id channel : Byte) (batteryOk : Bool) (temperature : BitVec 12)
    (noise : List (List Bool)) (trailing : Bool) (gaps : List UInt32)
    (channel_ge : 1 ≤ channel) (channel_le : channel ≤ 4)
    (fails : ∀ row ∈ noise, decodeRubicson (packRow row) = .error (.err .crcMismatch))
    (spells : Spells gaps (burstSymbols noise
      (payloadBits (buildPayload id channel batteryOk (temperature.setWidth 16))) trailing)) :
    (noise.length ≤ 11 → decodeGaps gaps =
        .ok (noise.length, ⟨id, channel, batteryOk, temperature.toInt, true⟩)) ∧
      (noise.length = 12 → ∃ buffer, decodeGaps gaps = .error (.err buffer)) ∧
      ∀ any, decodeGaps any ≠ .error .panic := by
  obtain ⟨right, reading_eq⟩ := rightCrc_payloadBits id batteryOk temperature channel_ge
    channel_le
  have wrong : ∀ row ∈ noise, ¬ RightCrc row := by
    intro row member right
    have failed := fails row member
    rw [decodeRubicson_packRow, if_pos right] at failed
    cases failed
  have rows_eq := rows_of_spells spells
  rw [rowsOfSymbols_burstSymbols] at rows_eq
  have no_reset := any_isReset_of_spells spells (reset_notMem_burstSymbols _ _ _)
  have not_taken : ∀ j < noise.length, ¬ TakenAt gaps j := by
    rintro j before ⟨bits, row_eq, right, -⟩
    rw [rows_eq, List.append_assoc, List.getElem?_append_left before,
      List.getElem?_eq_getElem before] at row_eq
    exact wrong bits (Option.some.inj row_eq ▸ List.getElem_mem before) right
  refine ⟨fun few => ?_, fun many => ?_, decodeGapsIter_ne_panic⟩
  · have row_eq : (rows gaps)[noise.length]? = some
        (payloadBits (buildPayload id channel batteryOk (temperature.setWidth 16))) := by
      rw [rows_eq, List.append_assoc, List.getElem?_append_right le_rfl, Nat.sub_self]
      rfl
    refine decodeGapsIter_eq_ok_iff.mpr ⟨Nat.lt_succ_of_le few, ⟨_, row_eq, reading_eq.symm⟩, ?_,
      not_taken⟩
    exact ⟨_, row_eq, right, .inr ⟨no_reset, length_payloadBits _ _ _ _ _⟩⟩
  · rcases decoded : decodeGaps gaps with (buffer | _) | ⟨k, reading⟩
    · exact ⟨buffer, rfl⟩
    · exact absurd decoded (decodeGapsIter_ne_panic gaps)
    · obtain ⟨inside, -, taken, -⟩ := decodeGapsIter_eq_ok_iff.mp decoded
      exact absurd taken (not_taken k (many ▸ inside))

/-- Two rows of noise and an ignored gap in front of a frame. -/
theorem decodes_behind_noise_sample :
    decodeGaps ([4000, 2000, 500, 3000] ++ payloadToGaps (buildPayload 0xAB 2 true 0xF67)) =
      .ok (2, ⟨0xAB, 2, true, -153, true⟩) :=
  (decodes_behind_noise 0xAB 2 true 0xF67 [[], [true]] true
    ([4000, 2000, 500, 3000] ++ payloadToGaps (buildPayload 0xAB 2 true 0xF67)) (by decide)
    (by decide) (by decide +kernel) (by decide +kernel)).1 (by decide)

end Rubicson
end Motonet
