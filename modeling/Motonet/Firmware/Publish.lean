import Motonet.Firmware.Messages
import Motonet.OtaCore.SignedBytes
import Motonet.OtaCore.UrlGrammar

/-!
# What is published of a reading

The topic names the sensor, and the payload is assembled by hand in a fixed buffer.  The buffers are
large enough for every reading that the decoder produces, so that none is dropped on the way, and
the payload can be read back field by field.
-/

namespace Motonet
namespace Firmware

open OtaCore Rubicson

/-- `write!` into an empty `heapless::String`. -/
def writeString (capacity : ℕ) (text : String) : Option String :=
  if text.utf8ByteSize ≤ capacity then some text else none

/-- `{}` of a signed integer. -/
def integerText (number : ℤ) : String :=
  (if number < 0 then "-" else "") ++ toString number.natAbs

/-- `build_topic`. -/
def buildTopic (reading : RadioReading) : Option String :=
  writeString 64
    ("home/sensors/rubicson/" ++ toString reading.inner.id.toNat ++ "/temperature")

/-- `u32::try_from`, with the largest value instead of an error. -/
def clampToU32 (number : UInt64) : ℕ := min number.toNat (2 ^ 32 - 1)

/-- `build_payload`, with what the time reference gives. -/
def buildPayload (reading : RadioReading) (currentTime : Option UInt64) : Option String :=
  let unixSecs := currentTime.getD 0
  let batt := if reading.inner.batteryOk then "ok" else "low"
  writeString 128
    ("\x7b\"id\":" ++ toString reading.inner.id.toNat ++ ",\"ch\":" ++
      toString reading.inner.channel.toNat ++ ",\"temp\":" ++
      formatTenths (temperatureC reading.inner.temperatureRaw) ++ ",\"batt\":\"" ++ batt ++
      "\",\"rssi\":" ++ integerText reading.rssi ++ ",\"unix_s\":" ++
      toString (clampToU32 unixSecs) ++ "\x7d")

/-- `PublishOutcome`. -/
inductive PublishOutcome
  | published
  | dropped
  | reconnect (reading : RadioReading)
  deriving DecidableEq

/-- `publish_reading`: what `MqttString::from_str` accepts and how the client answers are
parameters. -/
def publishReading (mqttString : String → Option String) (publish : String → String → Bool)
    (reading : RadioReading) (currentTime : Option UInt64) : PublishOutcome :=
  match buildTopic reading with
  | none => .dropped
  | some topic =>
      match buildPayload reading currentTime with
      | none => .dropped
      | some payload =>
          match mqttString topic with
          | none => .dropped
          | some topicName => if publish topicName payload then .published else .reconnect reading

/-! ## The texts fit -/

section Sizes

/-- A number below a power of ten has so many digits. -/
theorem utf8ByteSize_toString {number digits : ℕ} (positive : 0 < digits)
    (below : number < 10 ^ digits) : (toString number).utf8ByteSize ≤ digits := by
  have chars : (toString number).toList = Nat.toDigits 10 number := Nat.toList_repr
  have ascii : ∀ char ∈ (toString number).toList, char.val ≤ 127 := by
    rw [chars]
    exact fun char member =>
      val_le_of_isDigit (Nat.isDigit_of_mem_toDigits (by decide) (by decide) member)
  rw [utf8ByteSize_eq_byteLen, byteLen_eq_length ascii, chars]
  exact (Nat.length_toDigits_le_iff (by decide) positive).mpr below

/-- A decimal number and a sign. -/
theorem utf8ByteSize_integerText {number : ℤ} (low : -32768 ≤ number) (high : number ≤ 32767) :
    (integerText number).utf8ByteSize ≤ 6 := by
  have digits : (toString number.natAbs).utf8ByteSize ≤ 5 :=
    utf8ByteSize_toString (by decide) (by omega)
  rw [integerText, String.utf8ByteSize_append]
  split
  · exact Nat.add_le_add (by decide) digits
  · exact Nat.add_le_add (Nat.zero_le 1) digits

/-- A decimal number, a point and a digit. -/
theorem utf8ByteSize_tenthsText {tenths : ℕ} (few : tenths < 100000) :
    (tenthsText tenths).utf8ByteSize ≤ 6 := by
  have whole : (toString (tenths / 10)).utf8ByteSize ≤ 4 :=
    utf8ByteSize_toString (by decide) (by omega)
  have digit : (toString (tenths % 10)).utf8ByteSize ≤ 1 :=
    utf8ByteSize_toString (by decide) (by omega)
  rw [tenthsText, String.utf8ByteSize_append, String.utf8ByteSize_append]
  exact Nat.add_le_add (Nat.add_le_add whole le_rfl) digit

end Sizes

/-- A byte has at most three digits. -/
private theorem utf8ByteSize_byte (byte : Byte) : (toString byte.toNat).utf8ByteSize ≤ 3 :=
  utf8ByteSize_toString (by decide) (by have := byte.isLt; omega)

section Accepted

variable {bytes : List Byte} {reading : RadioReading}

/-- The topic of a reading. -/
theorem buildTopic_eq (reading : RadioReading) :
    buildTopic reading = some
      ("home/sensors/rubicson/" ++ toString reading.inner.id.toNat ++ "/temperature") := by
  have id := utf8ByteSize_byte reading.inner.id
  rw [buildTopic, writeString, if_pos]
  rw [String.utf8ByteSize_append, String.utf8ByteSize_append]
  exact (Nat.add_le_add (Nat.add_le_add (by decide : _ ≤ 22) id) (by decide : _ ≤ 12)).trans
    (by decide)

/-- The payload of a reading, as text. -/
theorem buildPayload_eq (accepted : decodeRubicson bytes = .ok reading.inner)
    (rssi_low : -32768 ≤ reading.rssi) (rssi_high : reading.rssi ≤ 32767)
    (currentTime : Option UInt64) :
    buildPayload reading currentTime = some
      ("\x7b\"id\":" ++ toString reading.inner.id.toNat ++ ",\"ch\":" ++
        toString reading.inner.channel.toNat ++ ",\"temp\":" ++
        ((if reading.inner.temperatureRaw < 0 then "-" else "") ++
          tenthsText reading.inner.temperatureRaw.natAbs) ++ ",\"batt\":\"" ++
        (if reading.inner.batteryOk then "ok" else "low") ++
        "\",\"rssi\":" ++ integerText reading.rssi ++ ",\"unix_s\":" ++
        toString (clampToU32 (currentTime.getD 0)) ++ "\x7d") := by
  obtain ⟨low, high⟩ := temperatureRaw_range accepted
  have id := utf8ByteSize_byte reading.inner.id
  have channel := utf8ByteSize_byte reading.inner.channel
  have temperature : (tenthsText reading.inner.temperatureRaw.natAbs).utf8ByteSize ≤ 6 :=
    utf8ByteSize_tenthsText (by omega)
  have sign : (if reading.inner.temperatureRaw < 0 then "-" else "").utf8ByteSize ≤ 1 := by
    split <;> decide
  have battery : (if reading.inner.batteryOk then "ok" else "low").utf8ByteSize ≤ 3 := by
    split <;> decide
  have rssi := utf8ByteSize_integerText rssi_low rssi_high
  have seconds : (toString (clampToU32 (currentTime.getD 0))).utf8ByteSize ≤ 10 :=
    utf8ByteSize_toString (by decide) (by rw [clampToU32]; omega)
  have literals : "\x7b\"id\":".utf8ByteSize + ",\"ch\":".utf8ByteSize +
      ",\"temp\":".utf8ByteSize + ",\"batt\":\"".utf8ByteSize + "\",\"rssi\":".utf8ByteSize +
      ",\"unix_s\":".utf8ByteSize + "\x7d".utf8ByteSize = 49 := by decide
  have text := formatTenths_temperatureC (n := reading.inner.temperatureRaw)
    (abs_lt.mpr ⟨by omega, by omega⟩)
  rw [buildPayload, text, writeString, if_pos]
  simp only [String.utf8ByteSize_append]
  omega

/-- No reading is dropped on its way to the client, and one that the client does not take comes
back. -/
theorem publishReading_cases (accepted : decodeRubicson bytes = .ok reading.inner)
    (rssi_low : -32768 ≤ reading.rssi) (rssi_high : reading.rssi ≤ 32767)
    {mqttString : String → Option String}
    (mqttString_total : ∀ text : String, text.utf8ByteSize ≤ 65535 → '\x00' ∉ text.toList →
      mqttString text = some text)
    (publish : String → String → Bool) (currentTime : Option UInt64) :
    ∃ topic payload, buildTopic reading = some topic ∧
      buildPayload reading currentTime = some payload ∧
      publishReading mqttString publish reading currentTime =
        if publish topic payload then .published else .reconnect reading := by
  have topic_eq := buildTopic_eq reading
  have payload_eq := buildPayload_eq accepted rssi_low rssi_high currentTime
  have id := utf8ByteSize_byte reading.inner.id
  have digits : (toString reading.inner.id.toNat).toList = Nat.toDigits 10 reading.inner.id.toNat :=
    Nat.toList_repr
  have named := mqttString_total
    ("home/sensors/rubicson/" ++ toString reading.inner.id.toNat ++ "/temperature") (by
      rw [String.utf8ByteSize_append, String.utf8ByteSize_append]
      exact (Nat.add_le_add (Nat.add_le_add (by decide : _ ≤ 22) id) (by decide : _ ≤ 12)).trans
        (by decide)) (by
      rw [String.toList_append, String.toList_append, digits, List.mem_append, List.mem_append]
      rintro ((inside | inside) | inside)
      · revert inside
        decide
      · have digit := Nat.isDigit_of_mem_toDigits (by decide) (by decide) inside
        exact absurd digit (by decide)
      · revert inside
        decide)
  refine ⟨_, _, topic_eq, payload_eq, ?_⟩
  simp only [publishReading, topic_eq, payload_eq, named]

end Accepted

theorem publishReading_frostReading :
    ∃ topic payload, buildTopic frostReading = some topic ∧
      buildPayload frostReading none = some payload ∧
      publishReading some (fun _ _ => true) frostReading none = .published :=
  publishReading_cases decodeRubicson_frostRow (by decide) (by decide) (fun _ _ _ => rfl)
    (fun _ _ => true) none

/-! ## The payload is read back -/

section Fields

variable {leftTail rightTail : List Char}

/-- Numbers start with a digit. -/
private theorem head?_toString_ne (number : ℕ) (tail : List Char) :
    ((toString number).toList ++ tail).head? ≠ some '-' := by
  have chars : (toString number).toList = Nat.toDigits 10 number := Nat.toList_repr
  cases spelled : Nat.toDigits 10 number with
  | nil =>
      have nonempty := Nat.length_toDigits_pos (b := 10) (n := number)
      rw [spelled] at nonempty
      exact absurd nonempty (lt_irrefl 0)
  | cons char rest =>
      have digit : char.isDigit = true := Nat.isDigit_of_mem_toDigits (by decide) (by decide)
        (spelled ▸ List.mem_cons_self)
      rw [chars, spelled, List.cons_append, List.head?_cons]
      rintro ⟨⟩
      exact absurd digit (by decide)

/-- A sign ends where a number starts. -/
private theorem sign_append_cancel {left right : ℤ} (left_head : leftTail.head? ≠ some '-')
    (right_head : rightTail.head? ≠ some '-')
    (same : (if left < 0 then "-" else "").toList ++ leftTail =
      (if right < 0 then "-" else "").toList ++ rightTail) :
    (left < 0 ↔ right < 0) ∧ leftTail = rightTail := by
  have minus : "-".toList = ['-'] := rfl
  have empty : "".toList = [] := rfl
  by_cases left_sign : left < 0 <;> by_cases right_sign : right < 0
  · rw [if_pos left_sign, if_pos right_sign] at same
    exact ⟨by simp [left_sign, right_sign], List.append_cancel_left same⟩
  · rw [if_pos left_sign, if_neg right_sign, minus, empty] at same
    exact absurd (by rw [← List.nil_append rightTail, ← same]; rfl) right_head
  · rw [if_neg left_sign, if_pos right_sign, minus, empty] at same
    exact absurd (by rw [← List.nil_append leftTail, same]; rfl) left_head
  · rw [if_neg left_sign, if_neg right_sign] at same
    exact ⟨by simp [left_sign, right_sign], List.append_cancel_left same⟩

/-- A signed number ends at the literal that follows it. -/
private theorem integerText_append_cancel {left right : ℤ} (literal : String)
    (not_digit : literal.toList.head?.any (fun char => !char.isDigit) = true)
    (same : (integerText left).toList ++ (literal.toList ++ leftTail) =
      (integerText right).toList ++ (literal.toList ++ rightTail)) :
    left = right ∧ leftTail = rightTail := by
  rw [integerText, integerText, String.toList_append, String.toList_append, List.append_assoc,
    List.append_assoc] at same
  obtain ⟨signs, numbers⟩ :=
    sign_append_cancel (head?_toString_ne _ _) (head?_toString_ne _ _) same
  obtain ⟨magnitudes, tails⟩ := decimal_append_cancel literal not_digit numbers
  exact ⟨by omega, tails⟩

/-- A temperature ends at the literal that follows it. -/
private theorem tenths_append_cancel {left right : ℤ} (literal : String)
    (not_digit : literal.toList.head?.any (fun char => !char.isDigit) = true)
    (same : (if left < 0 then "-" else "").toList ++ ((tenthsText left.natAbs).toList ++
        (literal.toList ++ leftTail)) =
      (if right < 0 then "-" else "").toList ++ ((tenthsText right.natAbs).toList ++
        (literal.toList ++ rightTail))) :
    left = right ∧ leftTail = rightTail := by
  simp only [tenthsText, String.toList_append, List.append_assoc] at same
  obtain ⟨signs, numbers⟩ :=
    sign_append_cancel (head?_toString_ne _ _) (head?_toString_ne _ _) same
  obtain ⟨wholes, fractions⟩ := decimal_append_cancel "." (by decide) numbers
  obtain ⟨digits, tails⟩ := decimal_append_cancel literal not_digit fractions
  exact ⟨by omega, tails⟩

/-- The battery state ends where its word does. -/
private theorem battery_append_cancel {left right : Bool}
    (same : (if left then "ok" else "low").toList ++ leftTail =
      (if right then "ok" else "low").toList ++ rightTail) :
    left = right ∧ leftTail = rightTail := by
  cases left <;> cases right <;> simp_all

end Fields

/-- Nothing of what a payload is assembled from is lost in it. -/
theorem buildPayload_injective {first second : RadioReading} {firstRow secondRow : List Byte}
    {firstTime secondTime : Option UInt64} {payload : String}
    (first_accepted : decodeRubicson firstRow = .ok first.inner)
    (second_accepted : decodeRubicson secondRow = .ok second.inner)
    (first_rssi : -32768 ≤ first.rssi ∧ first.rssi ≤ 32767)
    (second_rssi : -32768 ≤ second.rssi ∧ second.rssi ≤ 32767)
    (first_payload : buildPayload first firstTime = some payload)
    (second_payload : buildPayload second secondTime = some payload) :
    first.inner = second.inner ∧ first.rssi = second.rssi ∧
      clampToU32 (firstTime.getD 0) = clampToU32 (secondTime.getD 0) := by
  have first_crc := (decodeRubicson_ok first_accepted).1
  have second_crc := (decodeRubicson_ok second_accepted).1
  rw [buildPayload_eq first_accepted first_rssi.1 first_rssi.2, Option.some_inj] at first_payload
  rw [buildPayload_eq second_accepted second_rssi.1 second_rssi.2, Option.some_inj]
    at second_payload
  have same := congrArg (fun text => text.toList ++ []) (first_payload.trans second_payload.symm)
  simp only [String.toList_append, List.append_assoc] at same
  obtain ⟨ids, rest⟩ := decimal_append_cancel ",\"ch\":" (by decide) (List.append_cancel_left same)
  obtain ⟨channels, rest⟩ := decimal_append_cancel ",\"temp\":" (by decide) rest
  obtain ⟨temperatures, rest⟩ := tenths_append_cancel ",\"batt\":\"" (by decide) rest
  obtain ⟨batteries, rest⟩ := battery_append_cancel rest
  obtain ⟨rssis, rest⟩ :=
    integerText_append_cancel ",\"unix_s\":" (by decide) (List.append_cancel_left rest)
  obtain ⟨seconds, -⟩ := decimal_append_cancel "\x7d" (by decide) rest
  refine ⟨?_, rssis, seconds⟩
  obtain ⟨⟨⟨firstId, firstChannel, _, _, _⟩, _, _⟩, _⟩ := first
  obtain ⟨⟨⟨secondId, secondChannel, _, _, _⟩, _, _⟩, _⟩ := second
  simp only [RubicsonReading.mk.injEq] at *
  exact ⟨BitVec.eq_of_toNat_eq ids, BitVec.eq_of_toNat_eq channels, batteries, temperatures,
    first_crc.trans second_crc.symm⟩

theorem buildPayload_injective_frostReading :
    frostReading.inner = { frostReading with receivedAt := 9000 }.inner ∧
      frostReading.rssi = frostReading.rssi ∧ clampToU32 0 = clampToU32 0 :=
  @buildPayload_injective frostReading { frostReading with receivedAt := 9000 } frostRow frostRow
    none (some 0) _ decodeRubicson_frostRow decodeRubicson_frostRow (by decide) (by decide)
    (buildPayload_eq decodeRubicson_frostRow (by decide) (by decide) none)
    (buildPayload_eq decodeRubicson_frostRow (by decide) (by decide) (some 0))

end Firmware
end Motonet
