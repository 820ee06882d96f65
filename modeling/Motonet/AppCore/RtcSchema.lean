import Motonet.AppCore.ConfigRules

/-!
# Settings in RTC memory

The words in which the settings of the power policy, the settings of the radio and its RF profile
are kept in RTC memory: a magic byte, two bytes of payload, and a checksum.
-/

namespace Motonet
namespace AppCore

def powerSchemaVersion : UInt8 := 1
def legacyPowerSchemaVersion : UInt8 := 0
def rfProfileSchemaVersion : UInt8 := 2
def radioSettingsSchemaVersion : UInt8 := 1
def legacyRfProfileSchemaVersion : UInt8 := 1
def powerMagicCurrent : UInt8 := 0xd1
def powerMagicLegacy : UInt8 := 0xa5
def rfProfileMagicCurrent : UInt8 := 0xd2
def rfProfileMagicLegacy : UInt8 := 0xc7
def radioSettingsMagicCurrent : UInt8 := 0xd3
def rfProfileVersionLegacyWord : UInt8 := 1
def checksumSeedCurrent : UInt8 := 0x73
def checksumSeedPowerLegacy : UInt8 := 0x5c
def checksumSeedRfLegacy : UInt8 := 0x39

/-- A decoded value with the schema it was stored in. -/
structure DecodedValue (α : Type*) where
  value : α
  schemaVersion : UInt8
  needsMigration : Bool
  deriving DecidableEq, Repr

/-- Why a word is not decoded. -/
inductive DecodeError
  | unknownSchema
  | unsupportedVersion
  | checksumMismatch
  deriving DecidableEq, Repr

/-- The four bytes of a word, the least significant one first. -/
structure WordBytes where
  byte0 : UInt8
  byte1 : UInt8
  byte2 : UInt8
  byte3 : UInt8
  deriving DecidableEq, Repr

/-- `u32::from_le_bytes`. -/
def fromLeBytes (bytes : WordBytes) : UInt32 :=
  UInt32.ofNat (bytes.byte0.toNat + bytes.byte1.toNat * 2 ^ 8 + bytes.byte2.toNat * 2 ^ 16 +
    bytes.byte3.toNat * 2 ^ 24)

/-- `u32::to_le_bytes`. -/
def toLeBytes (word : UInt32) : WordBytes where
  byte0 := UInt8.ofNat word.toNat
  byte1 := UInt8.ofNat (word.toNat / 2 ^ 8)
  byte2 := UInt8.ofNat (word.toNat / 2 ^ 16)
  byte3 := UInt8.ofNat (word.toNat / 2 ^ 24)

theorem toLeBytes_fromLeBytes (bytes : WordBytes) : toLeBytes (fromLeBytes bytes) = bytes := by
  obtain ⟨byte0, byte1, byte2, byte3⟩ := bytes
  have bound0 := byte0.toNat_lt
  have bound1 := byte1.toNat_lt
  have bound2 := byte2.toNat_lt
  have bound3 := byte3.toNat_lt
  have word : (fromLeBytes ⟨byte0, byte1, byte2, byte3⟩).toNat =
      byte0.toNat + byte1.toNat * 2 ^ 8 + byte2.toNat * 2 ^ 16 + byte3.toNat * 2 ^ 24 := by
    rw [fromLeBytes, UInt32.toNat_ofNat_of_lt']
    change byte0.toNat + byte1.toNat * 2 ^ 8 + byte2.toNat * 2 ^ 16 + byte3.toNat * 2 ^ 24 < 2 ^ 32
    omega
  simp only [toLeBytes, word, WordBytes.mk.injEq, ← UInt8.toNat_inj, UInt8.toNat_ofNat']
  omega

/-- `u8::rotate_left` by one bit. -/
def rotateLeftOne (byte : UInt8) : UInt8 := (byte <<< 1) ||| (byte >>> 7)

/-- The checksum of a payload. -/
def checksum (seed : UInt8) (payload : List UInt8) : UInt8 :=
  payload.foldl (fun acc byte => rotateLeftOne acc + byte) seed

/-- A word with its checksum. -/
def encodeWord (byte0 byte1 byte2 seed : UInt8) : UInt32 :=
  fromLeBytes ⟨byte0, byte1, byte2, checksum seed [byte0, byte1, byte2]⟩

def validateChecksum (payload : List UInt8) (expectedChecksum seed : UInt8) :
    Except DecodeError Unit :=
  if checksum seed payload = expectedChecksum then pure () else throw .checksumMismatch

theorem toLeBytes_encodeWord (byte0 byte1 byte2 seed : UInt8) :
    toLeBytes (encodeWord byte0 byte1 byte2 seed) =
      ⟨byte0, byte1, byte2, checksum seed [byte0, byte1, byte2]⟩ :=
  toLeBytes_fromLeBytes _

/-! ## Power settings -/

/-- A flag and a duration in a byte. -/
def packSleep (settings : PowerSettings) : UInt8 :=
  ((if settings.predictiveSleepEnabled then 1 else 0 : UInt8) <<< 7) |||
    (settings.sleepDurationSecs &&& (0x7f : UInt8))

def encodePowerSettings (settings : PowerSettings) : UInt32 :=
  encodeWord powerMagicCurrent (packSleep settings) settings.uiIdleTimeoutSecs checksumSeedCurrent

def decodePowerSettings (word : UInt32) : Except DecodeError (DecodedValue PowerSettings) := do
  let ⟨byte0, byte1, byte2, byte3⟩ := toLeBytes word
  if byte0 = powerMagicCurrent then
    validateChecksum [byte0, byte1, byte2] byte3 checksumSeedCurrent
    return ⟨{
      predictiveSleepEnabled := byte1 &&& (0x80 : UInt8) ≠ 0
      sleepDurationSecs := byte1 &&& (0x7f : UInt8)
      uiIdleTimeoutSecs := byte2 }, powerSchemaVersion, false⟩
  if byte0 = powerMagicLegacy then
    validateChecksum [byte0, byte1, byte2] byte3 checksumSeedPowerLegacy
    return ⟨{
      predictiveSleepEnabled := byte1 &&& (0x80 : UInt8) ≠ 0
      sleepDurationSecs := byte1 &&& (0x7f : UInt8)
      uiIdleTimeoutSecs := byte2 }, legacyPowerSchemaVersion, true⟩
  throw .unknownSchema

private theorem unpack_sleep : ∀ (enabled : Bool) (secs : Fin 128),
    let packed := packSleep ⟨enabled, UInt8.ofNat secs, 0⟩
    packed &&& (0x7f : UInt8) = UInt8.ofNat secs ∧
      decide (packed &&& (0x80 : UInt8) ≠ 0) = enabled := by
  decide

/-- A duration of seven bits is read back from the byte, and so is the flag. -/
theorem unpack_packSleep (settings : PowerSettings) (fits : settings.sleepDurationSecs ≤ 0x7f) :
    packSleep settings &&& (0x7f : UInt8) = settings.sleepDurationSecs ∧
      decide (packSleep settings &&& (0x80 : UInt8) ≠ 0) = settings.predictiveSleepEnabled := by
  have packed := unpack_sleep settings.predictiveSleepEnabled
    ⟨settings.sleepDurationSecs.toNat, Nat.lt_succ_of_le (UInt8.le_iff_toNat_le.mp fits)⟩
  simp only [UInt8.ofNat_toNat] at packed
  exact packed

/-- Settings whose duration fits are decoded as they were encoded. -/
theorem decodePowerSettings_encodePowerSettings {settings : PowerSettings}
    (fits : settings.sleepDurationSecs ≤ 0x7f) :
    decodePowerSettings (encodePowerSettings settings) =
      .ok ⟨settings, powerSchemaVersion, false⟩ := by
  obtain ⟨duration_eq, enabled_eq⟩ := unpack_packSleep settings fits
  unfold decodePowerSettings encodePowerSettings
  rw [toLeBytes_encodeWord]
  simp [validateChecksum, duration_eq, enabled_eq]
  rfl

/-! ## RF profile -/

def encodeRfProfile (profileIndex : UInt8) : UInt32 :=
  encodeWord rfProfileMagicCurrent profileIndex rfProfileSchemaVersion checksumSeedCurrent

def decodeRfProfile (word : UInt32) : Except DecodeError (DecodedValue UInt8) := do
  let ⟨byte0, byte1, byte2, byte3⟩ := toLeBytes word
  if byte0 = rfProfileMagicCurrent then
    validateChecksum [byte0, byte1, byte2] byte3 checksumSeedCurrent
    if byte2 ≠ rfProfileSchemaVersion then throw .unsupportedVersion
    return ⟨byte1, rfProfileSchemaVersion, false⟩
  if byte0 = rfProfileMagicLegacy then
    validateChecksum [byte0, byte1, byte2] byte3 checksumSeedRfLegacy
    if byte2 ≠ rfProfileVersionLegacyWord then throw .unsupportedVersion
    return ⟨byte1, legacyRfProfileSchemaVersion, true⟩
  throw .unknownSchema

/-- Every index is decoded as it was encoded. -/
theorem decodeRfProfile_encodeRfProfile (profileIndex : UInt8) :
    decodeRfProfile (encodeRfProfile profileIndex) =
      .ok ⟨profileIndex, rfProfileSchemaVersion, false⟩ := by
  unfold decodeRfProfile encodeRfProfile
  rw [toLeBytes_encodeWord]
  simp [validateChecksum]
  rfl

/-! ## Radio settings -/

/-- Three thresholds in a byte. -/
def packThresholds (settings : RadioSettings) : UInt8 :=
  (settings.magnTarget &&& (0x07 : UInt8)) |||
    ((settings.channelBandwidthIndex &&& (0x03 : UInt8)) <<< 3) |||
      ((settings.carrierSenseThreshold &&& (0x07 : UInt8)) <<< 5)

def encodeRadioSettings (settings : RadioSettings) : UInt32 :=
  encodeWord radioSettingsMagicCurrent settings.detectionThresholdDb (packThresholds settings)
    checksumSeedCurrent

def decodeRadioSettings (word : UInt32) : Except DecodeError (DecodedValue RadioSettings) := do
  let ⟨byte0, byte1, byte2, byte3⟩ := toLeBytes word
  if byte0 ≠ radioSettingsMagicCurrent then throw .unknownSchema
  validateChecksum [byte0, byte1, byte2] byte3 checksumSeedCurrent
  return ⟨{
    detectionThresholdDb := byte1
    magnTarget := byte2 &&& (0x07 : UInt8)
    channelBandwidthIndex := (byte2 >>> 3) &&& (0x03 : UInt8)
    carrierSenseThreshold := (byte2 >>> 5) &&& (0x07 : UInt8) }, radioSettingsSchemaVersion, false⟩

private theorem unpack_packed : ∀ (magn : Fin 8) (bandwidth : Fin 4) (carrier : Fin 8),
    let packed := packThresholds
      ⟨0, UInt8.ofNat magn, UInt8.ofNat bandwidth, UInt8.ofNat carrier⟩
    packed &&& (0x07 : UInt8) = UInt8.ofNat magn ∧
      (packed >>> 3) &&& (0x03 : UInt8) = UInt8.ofNat bandwidth ∧
        (packed >>> 5) &&& (0x07 : UInt8) = UInt8.ofNat carrier := by
  decide

/-- Thresholds within their ranges are read back from the byte. -/
theorem unpack_packThresholds (settings : RadioSettings)
    (magn : settings.magnTarget ≤ magnTargetMax)
    (bandwidth : settings.channelBandwidthIndex ≤ channelBandwidthMaxIndex)
    (carrier : settings.carrierSenseThreshold ≤ carrierSenseMax) :
    packThresholds settings &&& (0x07 : UInt8) = settings.magnTarget ∧
      (packThresholds settings >>> 3) &&& (0x03 : UInt8) = settings.channelBandwidthIndex ∧
        (packThresholds settings >>> 5) &&& (0x07 : UInt8) = settings.carrierSenseThreshold := by
  have packed := unpack_packed
    ⟨settings.magnTarget.toNat, Nat.lt_succ_of_le (UInt8.le_iff_toNat_le.mp magn)⟩
    ⟨settings.channelBandwidthIndex.toNat, Nat.lt_succ_of_le (UInt8.le_iff_toNat_le.mp bandwidth)⟩
    ⟨settings.carrierSenseThreshold.toNat, Nat.lt_succ_of_le (UInt8.le_iff_toNat_le.mp carrier)⟩
  simp only [UInt8.ofNat_toNat] at packed
  exact packed

/-- Settings within their ranges are decoded as they were encoded. -/
theorem decodeRadioSettings_encodeRadioSettings {settings : RadioSettings}
    (magn : settings.magnTarget ≤ magnTargetMax)
    (bandwidth : settings.channelBandwidthIndex ≤ channelBandwidthMaxIndex)
    (carrier : settings.carrierSenseThreshold ≤ carrierSenseMax) :
    decodeRadioSettings (encodeRadioSettings settings) =
      .ok ⟨settings, radioSettingsSchemaVersion, false⟩ := by
  obtain ⟨magn_eq, bandwidth_eq, carrier_eq⟩ :=
    unpack_packThresholds settings magn bandwidth carrier
  unfold decodeRadioSettings encodeRadioSettings
  rw [toLeBytes_encodeWord]
  simp [validateChecksum, magn_eq, bandwidth_eq, carrier_eq]
  rfl

end AppCore
end Motonet
