import Motonet.Foundation.Crc
import Motonet.Rubicson.Decoder
import Mathlib.Data.List.GetD
import Mathlib.Tactic.IntervalCases

/-!
# Rows as packets

A row of the bit buffer holds the first forty bits of a text, with zeros behind a shorter one.  The
packet decoder accepts it exactly if the CRC over the first 36 bits is right.
-/

namespace Motonet
namespace Rubicson

open BitString

/-! ## Bytes -/

/-- The shift of the CRC is division by a zero bit. -/
theorem shiftCrc8_eq (poly crc : Byte) : shiftCrc8 poly crc = Crc.shift poly crc := by
  have top : ∀ byte : Byte, byte &&& 0x80 ≠ 0 ↔ byte.msb = true := by decide
  simp only [shiftCrc8, Crc.shift, top]

/-- The CRC of a text of bytes is the remainder of its bits. -/
theorem calculateCrc8_eq (data : List Byte) (poly crc : Byte) :
    calculateCrc8 data poly crc = Crc.remainder poly crc (data.flatMap bitsOf) := by
  have shift_eq : shiftCrc8 poly = Crc.shift poly := funext (shiftCrc8_eq poly)
  induction data generalizing crc with
  | nil => rfl
  | cons byte data ih =>
      rw [List.flatMap_cons, Crc.remainder_append, ← Crc.iterate_shift_width, ← shift_eq, ← ih]
      rfl

/-- The polynomial of the CRC has a constant term. -/
theorem poly_odd : (0x31 : Byte).getMsbD (8 - 1) = true := by decide

/-! ## Rows -/

/-- The bytes of a row that holds a text of bits. -/
def packRow (bits : List Bool) : List Byte :=
  (List.range bytesInPacket).map fun index => wordOf 8 (bits.drop (8 * index))

/-- A decoded gap that is a bit. -/
def bitByte (bit : Bool) : Byte := if bit then 1 else 0

theorem packRow_nil : packRow [] = List.replicate bytesInPacket 0 := by decide

@[simp]
theorem length_packRow (bits : List Bool) : (packRow bits).length = bytesInPacket := by
  simp [packRow]

private theorem getD_concat (bits : List Bool) (bit : Bool) (i : ℕ) :
    (bits ++ [bit]).getD i false = if i = bits.length then bit else bits.getD i false := by
  rcases Nat.lt_trichotomy i bits.length with before | rfl | after
  · rw [if_neg before.ne, List.getD_append _ _ _ _ before]
  · simp
  · rw [if_neg after.ne', List.getD_eq_default _ _ (by simp; omega),
      List.getD_eq_default _ _ after.le]

private theorem getD_drop (bits : List Bool) (start i : ℕ) :
    (bits.drop start).getD i false = bits.getD (start + i) false := by
  rw [List.getD_eq_getElem?_getD, List.getElem?_drop, ← List.getD_eq_getElem?_getD]

/-- A byte elsewhere does not change when a bit is appended. -/
theorem wordOf_drop_concat_of_ne (bits : List Bool) (bit : Bool) {index : ℕ}
    (elsewhere : index ≠ bits.length / 8) :
    wordOf 8 ((bits ++ [bit]).drop (8 * index)) = wordOf 8 (bits.drop (8 * index)) := by
  apply wordOf_congr
  intro i inside
  rw [getD_drop, getD_drop, getD_concat]
  exact if_neg (by omega)

/-- The bit that `add_bit` sets is the appended one. -/
theorem wordOf_drop_concat (bits : List Bool) (bit : Bool) :
    wordOf 8 ((bits ++ [bit]).drop (8 * (bits.length / 8))) =
      if bit then
        wordOf 8 (bits.drop (8 * (bits.length / 8))) ||| (1 : Byte) <<< (7 - bits.length % 8)
      else wordOf 8 (bits.drop (8 * (bits.length / 8))) := by
  have position := Nat.div_add_mod bits.length 8
  have unset : bits.getD bits.length false = false := List.getD_eq_default _ _ le_rfl
  cases bit with
  | false =>
      apply wordOf_congr
      intro i inside
      rw [getD_drop, getD_drop, getD_concat]
      split
      · rename_i same
        rw [same, unset]
      · rfl
  | true =>
      apply BitVec.eq_of_getMsbD_eq
      intro i inside
      have one : ((1 : Byte) <<< (7 - bits.length % 8)).getMsbD i =
          decide (8 * (bits.length / 8) + i = bits.length) := by
        have small := Nat.mod_lt bits.length (by decide : 8 > 0)
        rw [BitVec.getMsbD_shiftLeft]
        change (1#8).getMsbD _ = _
        rw [BitVec.getMsbD_one]
        rw [← Bool.decide_and, decide_eq_decide]
        omega
      rw [if_pos rfl, BitVec.getMsbD_or, one, getMsbD_wordOf, getMsbD_wordOf,
        decide_eq_true inside, Bool.true_and, Bool.true_and, getD_drop, getD_drop, getD_concat]
      by_cases same : 8 * (bits.length / 8) + i = bits.length
      · rw [if_pos same, decide_eq_true same, Bool.or_true]
      · rw [if_neg same, decide_eq_false same, Bool.or_false]

/-- Adding a bit to the row of a text makes it the row of the longer text. -/
theorem addBit_packRow (bits : List Bool) (bit : Bool) :
    addBit (packRow bits) bits.length (bitByte bit) = packRow (bits ++ [bit]) := by
  rw [addBit, length_packRow]
  by_cases behind : bytesInPacket ≤ bits.length / 8
  · rw [if_pos behind, packRow, packRow]
    apply List.map_congr_left
    intro index member
    rw [wordOf_drop_concat_of_ne]
    have := List.mem_range.mp member
    omega
  · rw [if_neg behind]
    apply List.ext_getElem
    · split <;> simp
    intro index left right
    rw [length_packRow] at right
    by_cases here : index = bits.length / 8
    · subst here
      cases bit with
      | false => simp [packRow, bitByte, wordOf_drop_concat]
      | true => simp [packRow, bitByte, wordOf_drop_concat]
    · cases bit with
      | false => simp [packRow, bitByte, wordOf_drop_concat_of_ne _ _ here]
      | true =>
          simp [packRow, bitByte, wordOf_drop_concat_of_ne _ _ here, Ne.symm here]

/-! ## The packet decoder -/

/-- The first 28 bits of a row. -/
def payload (bits : List Bool) : List Bool :=
  (List.range 28).map fun i => bits.getD i false

/-- The byte behind the payload is its CRC, the payload being filled up with four zero bits. -/
def RightCrc (bits : List Bool) : Prop :=
  Crc.remainder 0x31 0x6c (payload bits ++ List.replicate 4 false) = wordOf 8 (bits.drop 28)

instance : DecidablePred RightCrc := fun _ =>
  inferInstanceAs (Decidable (Crc.remainder 0x31 0x6c _ = _))

/-- The fields of a row: identifier, battery flag, channel, and temperature in two's complement. -/
def readingOf (bits : List Bool) : RubicsonReading where
  id := wordOf 8 bits
  channel := (wordOf 2 (bits.drop 10)).setWidth 8 + 1
  batteryOk := bits.getD 8 false
  temperatureRaw := (wordOf 12 (bits.drop 12)).toInt
  crcOk := true

private theorem bitsOf_byte (byte : Byte) :
    bitsOf byte = [byte.getMsbD 0, byte.getMsbD 1, byte.getMsbD 2, byte.getMsbD 3,
      byte.getMsbD 4, byte.getMsbD 5, byte.getMsbD 6, byte.getMsbD 7] := rfl

/-- The bits over which the CRC is computed. -/
theorem flatMap_bitsOf_crcBuf (bits : List Bool) :
    [wordOf 8 bits, wordOf 8 (bits.drop 8), wordOf 8 (bits.drop 16),
        wordOf 8 (bits.drop 24) &&& 0xF0,
        (wordOf 8 (bits.drop 24) &&& 0x0F) <<< 4 |||
          (wordOf 8 (bits.drop 32) &&& 0xF0) >>> 4].flatMap bitsOf =
      payload bits ++ List.replicate 4 false ++ bitsOf (wordOf 8 (bits.drop 28)) := by
  have bit : ∀ start i, i < 8 → (wordOf 8 (bits.drop start)).getMsbD i =
      bits.getD (start + i) false := by
    intro start i inside
    rw [getMsbD_wordOf, decide_eq_true inside, Bool.true_and, getD_drop]
  have first : ∀ i, i < 8 → (wordOf 8 bits).getMsbD i = bits.getD i false := by
    intro i inside
    rw [getMsbD_wordOf, decide_eq_true inside, Bool.true_and]
  have payload_eq : payload bits = (List.range 8).map (fun i => bits.getD i false) ++
      (List.range 8).map (fun i => bits.getD (8 + i) false) ++
      (List.range 8).map (fun i => bits.getD (16 + i) false) ++
      (List.range 4).map (fun i => bits.getD (24 + i) false) := rfl
  rw [payload_eq]
  simp [bitsOf_byte, bit, first, List.range_succ]

/-- Sign extension of twelve bits. -/
theorem signExtendNthBit_setWidth (value : BitVec 12) :
    (signExtendNthBit (value.setWidth 16) 12).toInt = value.toInt := by
  rw [← BitVec.toInt_signExtend_of_le (show 12 ≤ 16 by decide)]
  congr 1
  apply BitVec.eq_of_getMsbD_eq
  intro i inside
  rw [signExtendNthBit, BitVec.getMsbD_sshiftRight, BitVec.getMsbD_signExtend]
  interval_cases i <;> simp [BitVec.msb_eq_getMsbD_zero]

private theorem channel_eq (bits : List Bool) :
    ((wordOf 8 (bits.drop 8) &&& 0x30) >>> 4) = (wordOf 2 (bits.drop 10)).setWidth 8 := by
  apply BitVec.eq_of_getMsbD_eq
  intro i inside
  rw [BitVec.getMsbD_ushiftRight, BitVec.getMsbD_and, BitVec.getMsbD_setWidth]
  interval_cases i <;> simp

private theorem battery_eq (bits : List Bool) :
    decide (wordOf 8 (bits.drop 8) &&& 0x80 ≠ 0) = bits.getD 8 false := by
  have top : ∀ byte : Byte, decide (byte &&& 0x80 ≠ 0) = byte.getMsbD 0 := by decide
  rw [top, getMsbD_wordOf, getD_drop]
  rfl

private theorem temperature_eq (bits : List Bool) :
    ((wordOf 8 (bits.drop 8) &&& 0x0F).setWidth 16) <<< 8 |||
        (wordOf 8 (bits.drop 16)).setWidth 16 =
      (wordOf 12 (bits.drop 12)).setWidth 16 := by
  apply BitVec.eq_of_getMsbD_eq
  intro i inside
  rw [BitVec.getMsbD_or, BitVec.getMsbD_shiftLeft, BitVec.getMsbD_setWidth,
    BitVec.getMsbD_setWidth, BitVec.getMsbD_setWidth, BitVec.getMsbD_and]
  interval_cases i <;> simp

/-- What the packet decoder does with five bytes. -/
theorem decodeRubicson_bytes (b0 b1 b2 b3 b4 : Byte) :
    decodeRubicson [b0, b1, b2, b3, b4] =
      if calculateCrc8 [b0, b1, b2, b3 &&& 0xF0, (b3 &&& 0x0F) <<< 4 ||| (b4 &&& 0xF0) >>> 4]
          0x31 0x6c ≠ 0 then .error (.err .crcMismatch)
      else .ok {
        id := b0
        channel := ((b1 &&& 0x30) >>> 4) + 1
        batteryOk := b1 &&& 0x80 ≠ 0
        temperatureRaw := (signExtendNthBit (((b1 &&& 0x0F).setWidth 16) <<< 8 |||
          b2.setWidth 16) 12).toInt
        crcOk := true } := rfl

/-- The bytes of a row are accepted exactly if its CRC is right. -/
theorem decodeRubicson_packRow (bits : List Bool) :
    decodeRubicson (packRow bits) =
      if RightCrc bits then .ok (readingOf bits) else .error (.err .crcMismatch) := by
  have right_iff : calculateCrc8 [wordOf 8 bits, wordOf 8 (bits.drop 8), wordOf 8 (bits.drop 16),
        wordOf 8 (bits.drop 24) &&& 0xF0,
        (wordOf 8 (bits.drop 24) &&& 0x0F) <<< 4 |||
          (wordOf 8 (bits.drop 32) &&& 0xF0) >>> 4] 0x31 0x6c = 0 ↔ RightCrc bits := by
    rw [calculateCrc8_eq, flatMap_bitsOf_crcBuf]
    exact Crc.remainder_append_bitsOf_eq_zero_iff poly_odd _ _ _
  have packed : packRow bits = [wordOf 8 bits, wordOf 8 (bits.drop 8), wordOf 8 (bits.drop 16),
      wordOf 8 (bits.drop 24), wordOf 8 (bits.drop 32)] := rfl
  rw [packed, decodeRubicson_bytes]
  by_cases right : RightCrc bits
  · rw [if_neg (not_not.mpr (right_iff.mpr right)), if_pos right, channel_eq, battery_eq,
      temperature_eq, signExtendNthBit_setWidth]
    rfl
  · rw [if_pos (mt right_iff.mp right), if_neg right]

end Rubicson
end Motonet
