import Mathlib.Data.BitVec
import Mathlib.Data.UInt
import Mathlib.Tactic.Common

/-!
# The Rubicson decoder

Gap lengths are classified as bits, breaks and resets, and the bits are collected in a buffer of
twelve rows.  A row is decoded when it is ended by a break, or when the input ends behind 36 bits.
Slices and indexing are checked: `Halt.panic` is the outcome where the code would index out of
bounds.
-/

namespace Motonet
namespace Rubicson

abbrev Byte := BitVec 8

def bitsInPacket : ℕ := 36
def bytesInPacket : ℕ := (bitsInPacket + 7) / 8
def maxPackets : ℕ := 12

/-- A reading; its temperature is in tenths of a degree, before the division by ten. -/
structure RubicsonReading where
  id : Byte
  channel : Byte
  batteryOk : Bool
  temperatureRaw : ℤ
  crcOk : Bool
  deriving DecidableEq, Repr

inductive DecodeError
  | invalidLength
  | crcMismatch
  deriving DecidableEq, Repr

/-- A gap that is not a bit. -/
inductive BreakResetIgnore
  | brk
  | reset
  | ignore
  deriving DecidableEq, Repr

/-- How a function stops without a result. -/
inductive Halt (ε : Type)
  | err (error : ε)
  | panic
  deriving DecidableEq, Repr

/-! ## Gaps and bits -/

def zeroLowerLimit : UInt32 := 750
def zeroUpperLimit : UInt32 := 1500
def oneUpperLimit : UInt32 := 2500
def breakUpperLimit : UInt32 := 4500

/-- Classify a gap by its length in microseconds. -/
def decodeGap (gap : UInt32) : Except BreakResetIgnore Byte :=
  if gap > breakUpperLimit then .error .reset
  else if gap > oneUpperLimit then .error .brk
  else if gap > zeroUpperLimit then .ok 1
  else if gap > zeroLowerLimit then .ok 0
  else .error .ignore

/-- Set a bit of a buffer, unless it lies behind the buffer. -/
def addBit (buf : List Byte) (index : ℕ) (val : Byte) : List Byte :=
  if buf.length ≤ index / 8 then buf
  else if val ≠ 0 then buf.modify (index / 8) (· ||| (1 : Byte) <<< (7 - index % 8))
  else buf

/-- Sign extension from the `n`th bit. -/
def signExtendNthBit (value : BitVec 16) (n : ℕ) : BitVec 16 :=
  (value <<< (16 - n)).sshiftRight (16 - n)

/-! ## Packets -/

/-- One iteration of the inner loop of `calculate_crc8`. -/
def shiftCrc8 (poly crc : Byte) : Byte :=
  if crc &&& 0x80 ≠ 0 then (crc <<< 1) ^^^ poly else crc <<< 1

/-- The CRC of a text. -/
def calculateCrc8 (data : List Byte) (poly crc : Byte) : Byte :=
  data.foldl (fun crc byte => (shiftCrc8 poly)^[8] (crc ^^^ byte)) crc

/-- Checked indexing. -/
def byteAt {ε : Type} (bytes : List Byte) (index : ℕ) : Except (Halt ε) Byte :=
  match bytes[index]? with
  | some byte => pure byte
  | none => throw .panic

/-- Decode a packet if its CRC is right. -/
def decodeRubicson (b : List Byte) : Except (Halt DecodeError) RubicsonReading := do
  let b0 ← byteAt b 0
  let b1 ← byteAt b 1
  let b2 ← byteAt b 2
  let b3 ← byteAt b 3
  let b4 ← byteAt b 4
  -- The last two nibbles are moved together behind the padded payload.
  let crcBuf := [b0, b1, b2, b3 &&& 0xF0, (b3 &&& 0x0F) <<< 4 ||| (b4 &&& 0xF0) >>> 4]
  if calculateCrc8 crcBuf 0x31 0x6c ≠ 0 then throw (.err .crcMismatch)
  let tempHi4 : BitVec 16 := (b1 &&& 0x0F).setWidth 16
  let combined := tempHi4 <<< 8 ||| b2.setWidth 16
  return {
    id := b0
    channel := ((b1 &&& 0x30) >>> 4) + 1
    batteryOk := b1 &&& 0x80 ≠ 0
    temperatureRaw := (signExtendNthBit combined 12).toInt
    crcOk := true }

/-! ## Bursts -/

/-- The bit buffer, the next bit of the current row, and the current row. -/
structure DecodeState where
  bitBuffer : List Byte
  bitIndex : ℕ
  bitBufferRow : ℕ

namespace DecodeState

/-- The state before the first gap. -/
def initial : DecodeState where
  bitBuffer := List.replicate (bytesInPacket * maxPackets) 0
  bitIndex := 0
  bitBufferRow := 0

def rowStartByte (state : DecodeState) : ℕ :=
  state.bitBufferRow * bytesInPacket

/-- The bytes of the current row. -/
def rowSlice {ε : Type} (state : DecodeState) : Except (Halt ε) (List Byte) :=
  if state.rowStartByte + bytesInPacket ≤ state.bitBuffer.length then
    pure ((state.bitBuffer.drop state.rowStartByte).take bytesInPacket)
  else throw .panic

/-- Replace the bytes of the current row. -/
def setRow (state : DecodeState) (row : List Byte) : DecodeState :=
  { state with
    bitBuffer := state.bitBuffer.take state.rowStartByte ++ row ++
      state.bitBuffer.drop (state.rowStartByte + bytesInPacket) }

end DecodeState

/-- Outcome of decoding a burst: the row and its reading, or the bit buffer. -/
abbrev Decoded := Except (Halt (List Byte)) (ℕ × RubicsonReading)

/-- Decode the current row; go on if it is no packet. -/
def decodeRow (state : DecodeState) (otherwise : Unit → Decoded) : Decoded := do
  let row ← state.rowSlice
  match decodeRubicson row with
  | .ok reading => return (state.bitBufferRow, reading)
  | .error (.err _) => otherwise ()
  | .error .panic => throw .panic

/-- The loop over the gaps, and the attempt behind it. -/
def decodeLoop (state : DecodeState) : List UInt32 → Decoded
  | [] =>
      if state.bitIndex = bitsInPacket then
        decodeRow state fun () => throw (.err state.bitBuffer)
      else throw (.err state.bitBuffer)
  | gap :: gaps =>
      if maxPackets ≤ state.bitBufferRow then throw (.err state.bitBuffer)
      else
        match decodeGap gap with
        | .ok bit => do
            let row ← state.rowSlice
            decodeLoop { state.setRow (addBit row state.bitIndex bit) with
              bitIndex := state.bitIndex + 1 } gaps
        | .error .ignore => decodeLoop state gaps
        | .error .brk =>
            decodeRow state fun () => decodeLoop { state with
              bitBufferRow := state.bitBufferRow + 1
              bitIndex := 0 } gaps
        | .error .reset => throw (.err state.bitBuffer)

/-- Decode gap lengths into a reading. -/
def decodeGapsIter (pulses : List UInt32) : Decoded :=
  decodeLoop .initial pulses

/-- `decode_gaps` passes its slice on. -/
def decodeGaps (pulses : List UInt32) : Decoded :=
  decodeGapsIter pulses

end Rubicson
end Motonet
