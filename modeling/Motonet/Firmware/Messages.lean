import Motonet.Display.Frame
import Motonet.Foundation.Binary32
import Motonet.Rubicson.NoisyBurst
import Motonet.TelemetryCore.Dedupe

/-!
# Readings in single precision

The decoder divides the temperature of a row by ten, in `f32`.  The telemetry record, the frame key
of the display and the texts for the display and for MQTT multiply it by ten again, each in its own
way.  All of them give the integer that was received.
-/

namespace Motonet
namespace Firmware

open Binary32 Rounding Rubicson TelemetryCore

/-! ## Single precision -/

/-- The literal `10.0`. -/
def ten : Float32.Model := .ofNat 10

/-- The literal `0.5`. -/
def half : Float32.Model := .ofScientific 5 (-1)

/-- The literal `0.0`. -/
def zero : Float32.Model := .ofNat 0

/-- The division in `decode_rubicson`. -/
def temperatureC (temperatureRaw : ℤ) : Float32.Model := .ofInt temperatureRaw / ten

/-- The temperature of `RadioReading::to_telemetry_record`. -/
def temperatureDeciC (temperature : Float32.Model) : Int16 :=
  let scaledTemperature := temperature * ten
  let roundedTemperature :=
    if zero ≤ scaledTemperature then scaledTemperature + half else scaledTemperature - half
  if .ofInt 32767 < roundedTemperature then Int16.maxValue
  else if roundedTemperature < .ofInt (-32768) then Int16.minValue
  else roundedTemperature.toInt16

/-- `RadioReading`. -/
structure RadioReading extends Display.RadioReading where
  receivedAt : UInt64
  deriving DecidableEq

/-- `RadioReading::to_telemetry_record`. -/
def RadioReading.toTelemetryRecord (reading : RadioReading) : TelemetryRecord where
  sensorId := ⟨reading.inner.id⟩
  channel := ⟨reading.inner.channel⟩
  temperatureDeciC := temperatureDeciC (temperatureC reading.inner.temperatureRaw)
  batteryOk := reading.inner.batteryOk
  timestamp := reading.receivedAt

/-- `temp_to_deci`. -/
def tempToDeci (temperature : Float32.Model) : Int16 := (temperature * ten).toInt16

/-- A sign in front of a number. -/
def signText : Float.Model.UnpackedFloat.Sign → String
  | .negative => "-"
  | .positive => ""

/-- A number of tenths. -/
def tenthsText (tenths : ℕ) : String := toString (tenths / 10) ++ "." ++ toString (tenths % 10)

/-- `{:.1}`: the number of tenths that is nearest to the exact value, and of two equally near ones
the even one. -/
def formatTenths (number : Float32.Model) : String :=
  match number.unpack with
  | .notANumber => "NaN"
  | .infinity sign => signText sign ++ "inf"
  | .zero sign => signText sign ++ tenthsText 0
  | .finite sign mantissa exponent _ =>
      signText sign ++ tenthsText (nearestEven (mantissa * 2 ^ exponent * 10))

/-! ## The product of ten and a tenth -/

theorem denotes_ten : Denotes ten 10 := denotes_ofInt (n := 10) (by decide)

theorem denotes_zero : Denotes zero 0 := denotes_ofInt (n := 0) (by decide)

theorem denotes_half : Denotes half (1 / 2) := by
  refine .inr ⟨.positive, 1 / 2, ⟨2 ^ 23, -24, by norm_num, rfl, Nat.log2_two_pow, ?_⟩, rfl⟩
  norm_num

section Tenths

variable {n : ℤ}

/-- The absolute value of an integer that is not zero. -/
private theorem one_le_abs_cast (nonzero : n ≠ 0) : 1 ≤ |(n : ℚ)| := by
  exact_mod_cast Int.one_le_abs nonzero

/-- A tenth of an integer, in single precision. -/
theorem denotes_temperatureC (few : |n| < 2 ^ 20) :
    Denotes (temperatureC n) (rounded (n / 10)) := by
  refine (denotes_ofInt (few.trans (by norm_num))).div denotes_ten (by norm_num) ?_
  rcases eq_or_ne n 0 with rfl | nonzero
  · exact .inl (by simp)
  have low := one_le_abs_cast nonzero
  have high : |(n : ℚ)| < 2 ^ 20 := by exact_mod_cast few
  have tenth : |(n : ℚ) / 10| = |(n : ℚ)| / 10 := by
    rw [abs_div, abs_of_pos (by norm_num : (0 : ℚ) < 10)]
  apply representable_of_abs <;> rw [tenth] <;> linarith

/-- The rounded tenth is close to the tenth. -/
private theorem abs_rounded_tenth_sub_le (n : ℤ) :
    |rounded ((n : ℚ) / 10) * 10 - n| ≤ |(n : ℚ)| / 2 ^ 24 := by
  have moved := abs_rounded_sub_le ((n : ℚ) / 10)
  have scaled : rounded ((n : ℚ) / 10) * 10 - n = (rounded ((n : ℚ) / 10) - n / 10) * 10 := by ring
  rw [abs_div, abs_of_pos (by norm_num : (0 : ℚ) < 10)] at moved
  rw [scaled, abs_mul, abs_of_pos (by norm_num : (0 : ℚ) < 10)]
  linarith

/-- The tenth, multiplied by ten, is the integer. -/
theorem denotes_scaledTemperature (few : |n| < 2 ^ 20) : Denotes (temperatureC n * ten) n := by
  have product := (denotes_temperatureC few).mul denotes_ten
  rw [rounded_tenth_mul_ten (few.trans (by norm_num))] at product
  apply product
  rcases eq_or_ne n 0 with rfl | nonzero
  · exact .inl (by simp [rounded_zero])
  have low := one_le_abs_cast nonzero
  have high : |(n : ℚ)| < 2 ^ 20 := by exact_mod_cast few
  have near := abs_rounded_tenth_sub_le n
  have below := abs_sub_abs_le_abs_sub (n : ℚ) (rounded (n / 10) * 10)
  have above := abs_sub_abs_le_abs_sub (rounded ((n : ℚ) / 10) * 10) n
  rw [abs_sub_comm] at below
  apply representable_of_abs <;> linarith

/-- Up to less than one away from zero, truncation gives the integer. -/
private theorem truncated_of_away {q : ℚ} (nonneg : 0 ≤ n → n ≤ q ∧ q < n + 1)
    (negative : n < 0 → q ≤ n ∧ n - 1 < q) : truncated q = n := by
  obtain ⟨magnitude, rfl | rfl⟩ := n.eq_nat_or_neg
  · obtain ⟨low, high⟩ := nonneg (Int.natCast_nonneg _)
    exact truncated_of_bounds (by exact_mod_cast low) (by exact_mod_cast high)
  · rcases Nat.eq_zero_or_pos magnitude with rfl | positive
    · obtain ⟨low, high⟩ := nonneg (by simp)
      exact truncated_of_bounds (n := 0) (by simpa using low) (by simpa using high)
    · obtain ⟨high, low⟩ := negative (by omega)
      push_cast at high low
      have mirrored : truncated (-q) = magnitude :=
        truncated_of_bounds (by linarith) (by linarith)
      rw [truncated_neg] at mirrored
      omega

/-- A half added away from zero is exact. -/
private theorem denotes_add_half (nonneg : 0 ≤ n) (few : |n| < 2 ^ 20) :
    Denotes (temperatureC n * ten + half) (n + 1 / 2) := by
  have halves : (n : ℚ) + 1 / 2 = (2 * n + 1 : ℤ) * 2 ^ (-1 : ℤ) := by
    push_cast
    ring
  have sum := (denotes_scaledTemperature few).add denotes_half
  rw [halves, rounded_of_bits (by rw [abs_lt] at few ⊢; omega), ← halves] at sum
  have nonneg_cast : (0 : ℚ) ≤ n := by exact_mod_cast nonneg
  have high : (n : ℚ) < 2 ^ 20 := by exact_mod_cast (abs_lt.mp few).2
  apply sum
  apply representable_of_abs <;> rw [abs_of_pos (by linarith)] <;> linarith

private theorem denotes_sub_half (negative : n < 0) (few : |n| < 2 ^ 20) :
    Denotes (temperatureC n * ten - half) (n - 1 / 2) := by
  have halves : (n : ℚ) - 1 / 2 = (2 * n - 1 : ℤ) * 2 ^ (-1 : ℤ) := by
    push_cast
    ring
  have difference := (denotes_scaledTemperature few).sub denotes_half
  rw [halves, rounded_of_bits (by rw [abs_lt] at few ⊢; omega), ← halves] at difference
  have negative_cast : (n : ℚ) < 0 := by exact_mod_cast negative
  have low : -2 ^ 20 < (n : ℚ) := by exact_mod_cast (abs_lt.mp few).1
  apply difference
  apply representable_of_abs <;> rw [abs_of_neg (by linarith)] <;> linarith

end Tenths

/-! ## What was received is what is sent and shown -/

/-- A number in the range of `i16` is converted as it is. -/
private theorem toInt_ofIntClamp {n : ℤ} (low : -32768 ≤ n) (high : n ≤ 32767) :
    (Int16.ofIntClamp n).toInt = n := by
  have low_eq : Int16.minValue.toInt = -32768 := rfl
  have high_eq : Int16.maxValue.toInt = 32767 := rfl
  rw [Int16.ofIntClamp, dif_pos (by omega), dif_pos (by omega), Int16.toInt_ofIntLE]

theorem toInt_tempToDeci {n : ℤ} (low : -32768 ≤ n) (high : n ≤ 32767) :
    (tempToDeci (temperatureC n)).toInt = n := by
  have few : |n| < 2 ^ 20 := abs_lt.mpr ⟨by omega, by omega⟩
  have whole : truncated (n : ℚ) = n := truncated_of_away (fun _ => ⟨le_rfl, by linarith⟩)
    (fun _ => ⟨le_rfl, by linarith⟩)
  rw [tempToDeci, (denotes_scaledTemperature few).toInt16_eq, whole, toInt_ofIntClamp low high]

theorem toInt_temperatureDeciC {n : ℤ} (low : -32768 ≤ n) (high : n ≤ 32767) :
    (temperatureDeciC (temperatureC n)).toInt = n := by
  have few : |n| < 2 ^ 20 := abs_lt.mpr ⟨by omega, by omega⟩
  have largest : Denotes (.ofInt 32767) 32767 := denotes_ofInt (n := 32767) (by decide)
  have smallest : Denotes (.ofInt (-32768)) (-32768) := by
    simpa using denotes_ofInt (n := -32768) (by decide)
  have scaled := denotes_scaledTemperature few
  unfold temperatureDeciC
  dsimp only
  by_cases nonneg : 0 ≤ n
  · have raised := denotes_add_half nonneg few
    have nonneg_cast : (0 : ℚ) ≤ n := by exact_mod_cast nonneg
    rw [if_pos ((denotes_zero.le_iff scaled).mpr nonneg_cast)]
    split_ifs with above below
    · rw [largest.lt_iff raised] at above
      have last : (32766 : ℤ) < n := by
        have last_cast : (32766 : ℚ) < n := by linarith
        exact_mod_cast last_cast
      exact (by omega : (32767 : ℤ) = n)
    · rw [raised.lt_iff smallest] at below
      linarith
    · have whole : truncated ((n : ℚ) + 1 / 2) = n :=
        truncated_of_away (fun _ => ⟨by linarith, by linarith⟩) (by omega)
      rw [raised.toInt16_eq, whole, toInt_ofIntClamp low high]
  · have negative : n < 0 := not_le.mp nonneg
    have lowered := denotes_sub_half negative few
    have negative_cast : (n : ℚ) < 0 := by exact_mod_cast negative
    have below_zero : ¬ zero ≤ temperatureC n * ten := by
      rw [denotes_zero.le_iff scaled]
      linarith
    rw [if_neg below_zero]
    split_ifs with above below
    · rw [largest.lt_iff lowered] at above
      linarith
    · rw [lowered.lt_iff smallest] at below
      have first : n < (-32767 : ℤ) := by
        have first_cast : (n : ℚ) < -32767 := by linarith
        exact_mod_cast first_cast
      exact (by omega : (-32768 : ℤ) = n)
    · have whole : truncated ((n : ℚ) - 1 / 2) = n :=
        truncated_of_away (by omega) (fun _ => ⟨by linarith, by linarith⟩)
      rw [lowered.toInt16_eq, whole, toInt_ofIntClamp low high]

/-- The text of a tenth is the integer with a decimal point. -/
theorem formatTenths_temperatureC {n : ℤ} (few : |n| < 2 ^ 20) :
    formatTenths (temperatureC n) = (if n < 0 then "-" else "") ++ tenthsText n.natAbs := by
  rcases eq_or_ne n 0 with rfl | nonzero
  · rfl
  have size : |(n : ℚ)| < 2 ^ 20 := by exact_mod_cast few
  have near := abs_rounded_tenth_sub_le n
  rcases denotes_temperatureC few with ⟨vanished, -⟩ | ⟨sign, x, normal, value⟩
  · have low := one_le_abs_cast nonzero
    rw [vanished, zero_mul, zero_sub, abs_neg] at near
    linarith
  · have positive := normal.pos
    obtain ⟨m, e, m_pos, unpacked, -, -, -, rfl⟩ := normal
    have text : formatTenths (temperatureC n) =
        signText sign ++ tenthsText (nearestEven (m * 2 ^ e * 10)) := by
      rw [formatTenths, unpacked]
    rw [value, abs_le] at near
    have few_units : |(n : ℚ)| / 2 ^ 24 < 1 / 2 := by linarith
    rw [text]
    cases sign with
    | negative =>
        rw [signed] at near
        have negative : n < 0 := by
          have below : (n : ℚ) < 1 := by linarith
          have below_int : n < 1 := by exact_mod_cast below
          omega
        have magnitude_eq : ((n.natAbs : ℕ) : ℚ) = -n := by
          rw [← Int.cast_natCast, Int.natCast_natAbs, abs_of_neg negative, Int.cast_neg]
        have nearest : nearestEven (m * 2 ^ e * 10) = n.natAbs := by
          apply nearestEven_of_near (by linarith)
          rw [magnitude_eq, abs_lt]
          constructor <;> linarith
        rw [nearest, if_pos negative, signText]
    | positive =>
        rw [signed] at near
        have nonneg : 0 ≤ n := by
          have above : (-1 : ℚ) < n := by linarith
          have above_int : -1 < n := by exact_mod_cast above
          omega
        have magnitude_eq : ((n.natAbs : ℕ) : ℚ) = n := by
          rw [← Int.cast_natCast, Int.natCast_natAbs, abs_of_nonneg nonneg]
        have nearest : nearestEven (m * 2 ^ e * 10) = n.natAbs := by
          apply nearestEven_of_near (by linarith)
          rw [magnitude_eq, abs_lt]
          constructor <;> linarith
        rw [nearest, if_neg (not_lt.mpr nonneg), signText]

/-- An accepted row has a right CRC, and its temperature has sixteen bits. -/
theorem decodeRubicson_ok {bytes : List Byte} {inner : RubicsonReading}
    (accepted : decodeRubicson bytes = .ok inner) :
    inner.crcOk = true ∧ ∃ word : BitVec 16, inner.temperatureRaw = word.toInt := by
  rcases bytes with _ | ⟨b0, _ | ⟨b1, _ | ⟨b2, _ | ⟨b3, _ | ⟨b4, rest⟩⟩⟩⟩⟩
  case cons.cons.cons.cons.cons =>
    have row : decodeRubicson (b0 :: b1 :: b2 :: b3 :: b4 :: rest) =
        decodeRubicson [b0, b1, b2, b3, b4] := rfl
    rw [row, decodeRubicson_bytes] at accepted
    split at accepted
    · cases accepted
    · cases accepted
      exact ⟨rfl, _, rfl⟩
  all_goals cases accepted

/-- The temperature of a row fits into sixteen bits. -/
theorem temperatureRaw_range {bytes : List Byte} {inner : RubicsonReading}
    (accepted : decodeRubicson bytes = .ok inner) :
    -32768 ≤ inner.temperatureRaw ∧ inner.temperatureRaw ≤ 32767 := by
  obtain ⟨-, word, word_eq⟩ := decodeRubicson_ok accepted
  have low := BitVec.le_toInt word
  have high := BitVec.toInt_lt (x := word)
  rw [word_eq]
  constructor <;> omega

/-- Whatever row the decoder accepts, the record, the frame key and the texts on the display and in
the payload show its temperature. -/
theorem temperature_of_row {bytes : List Byte} {reading : RadioReading}
    (accepted : decodeRubicson bytes = .ok reading.inner) :
    reading.toTelemetryRecord.temperatureDeciC.toInt = reading.inner.temperatureRaw ∧
      (tempToDeci (temperatureC reading.inner.temperatureRaw)).toInt =
        Display.tempToDeci reading.inner.temperatureRaw ∧
      formatTenths (temperatureC reading.inner.temperatureRaw) =
        (if reading.inner.temperatureRaw < 0 then "-" else "") ++
          tenthsText reading.inner.temperatureRaw.natAbs := by
  obtain ⟨low, high⟩ := temperatureRaw_range accepted
  exact ⟨toInt_temperatureDeciC low high, toInt_tempToDeci low high,
    formatTenths_temperatureC (abs_lt.mpr ⟨by omega, by omega⟩)⟩

/-- A row at 9.4 degrees of frost. -/
def frostRow : List Byte := buildPayload 0x42 1 true ((0xFA2 : BitVec 12).setWidth 16)

/-- A reading of that row. -/
def frostReading : RadioReading := ⟨⟨⟨0x42, 1, true, -94, true⟩, -71, 16⟩, 5000⟩

theorem decodeRubicson_frostRow : decodeRubicson frostRow = .ok frostReading.inner :=
  decodeRubicson_buildPayload 0x42 true 0xFA2 (by decide) (by decide)

theorem temperature_of_frostRow :
    frostReading.toTelemetryRecord.temperatureDeciC.toInt = -94 ∧
      (tempToDeci (temperatureC frostReading.inner.temperatureRaw)).toInt = -94 ∧
      formatTenths (temperatureC frostReading.inner.temperatureRaw) = "-9.4" := by
  obtain ⟨record, frame, text⟩ := temperature_of_row decodeRubicson_frostRow
  exact ⟨record, frame, text.trans rfl⟩

/-- Accepted rows have one dedupe key exactly if they say the same. -/
theorem toTelemetryRecord_key_eq_iff {first second : RadioReading}
    {firstRow secondRow : List Byte} (first_accepted : decodeRubicson firstRow = .ok first.inner)
    (second_accepted : decodeRubicson secondRow = .ok second.inner) :
    first.toTelemetryRecord.key = second.toTelemetryRecord.key ↔ first.inner = second.inner := by
  obtain ⟨first_low, first_high⟩ := temperatureRaw_range first_accepted
  obtain ⟨second_low, second_high⟩ := temperatureRaw_range second_accepted
  have temperatures : temperatureDeciC (temperatureC first.inner.temperatureRaw) =
      temperatureDeciC (temperatureC second.inner.temperatureRaw) ↔
        first.inner.temperatureRaw = second.inner.temperatureRaw := by
    rw [← Int16.toInt_inj, toInt_temperatureDeciC first_low first_high,
      toInt_temperatureDeciC second_low second_high]
  have first_crc := (decodeRubicson_ok first_accepted).1
  have second_crc := (decodeRubicson_ok second_accepted).1
  obtain ⟨⟨⟨_, _, _, _, _⟩, _, _⟩, _⟩ := first
  obtain ⟨⟨⟨_, _, _, _, _⟩, _, _⟩, _⟩ := second
  simp only [RadioReading.toTelemetryRecord, TelemetryRecord.key, DedupeKey.mk.injEq,
    RubicsonReading.mk.injEq, UInt8.ofBitVec.injEq] at temperatures first_crc second_crc ⊢
  rw [temperatures, first_crc, second_crc]
  tauto

/-- A second reading of that row. -/
def laterFrostReading : RadioReading := { frostReading with rssi := -80, receivedAt := 9000 }

theorem frostReading_key_eq_iff :
    frostReading.toTelemetryRecord.key = laterFrostReading.toTelemetryRecord.key ↔
      frostReading.inner = laterFrostReading.inner :=
  toTelemetryRecord_key_eq_iff decodeRubicson_frostRow decodeRubicson_frostRow

end Firmware
end Motonet
