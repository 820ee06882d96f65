import Motonet.AppCore.RtcSchema

/-!
# Persistence of the radio settings

The settings of the radio are kept, clamped, in a word of RTC memory that survives deep sleep.
-/

namespace Motonet
namespace Firmware

open AppCore

/-- The word that `persist_settings` writes. -/
def persistSettings (settings : RadioSettings) : UInt32 :=
  encodeRadioSettings (clampRadioConfig settings)

/-- The settings that `load_settings` reads from a word, and the word that it leaves. -/
def loadSettings (word : UInt32) : Option RadioSettings × UInt32 :=
  match decodeRadioSettings word with
  | .ok decoded =>
      let settings := clampRadioConfig decoded.value
      (some settings, if settings ≠ decoded.value then encodeRadioSettings settings else word)
  | .error _ => (none, word)

/-- `load_settings_or_default`. -/
def loadSettingsOrDefault (word : UInt32) : RadioSettings × UInt32 :=
  ((loadSettings word).1.getD defaultRadioSettings, (loadSettings word).2)

/-- Settings that are decoded within their ranges are loaded, and the word is kept. -/
theorem loadSettings_of_decoded {word : UInt32} {decoded : DecodedValue RadioSettings}
    (read : decodeRadioSettings word = .ok decoded)
    (clamped : clampRadioConfig decoded.value = decoded.value) :
    loadSettings word = (some decoded.value, word) := by
  unfold loadSettings
  rw [read]
  simp [clamped]

theorem decodeRadioSettings_persistSettings (settings : RadioSettings) :
    decodeRadioSettings (persistSettings settings) =
      .ok ⟨clampRadioConfig settings, radioSettingsSchemaVersion, false⟩ := by
  obtain ⟨magn, bandwidth, carrier⟩ := clampRadioConfig_le settings
  rw [persistSettings]
  exact decodeRadioSettings_encodeRadioSettings magn bandwidth carrier

/-- Settings that were persisted are loaded, clamped. -/
theorem loadSettings_persistSettings (settings : RadioSettings) :
    loadSettings (persistSettings settings) =
      (some (clampRadioConfig settings), persistSettings settings) :=
  loadSettings_of_decoded (decodeRadioSettings_persistSettings settings)
    (clampRadioConfig_idem settings)

/-- A load keeps the word, or leaves it as persisting the loaded settings does. -/
theorem loadSettings_cases (word : UInt32) :
    (loadSettings word).2 = word ∨
      ∃ settings, loadSettings word = (some (clampRadioConfig settings),
        persistSettings settings) := by
  unfold loadSettings
  split
  · rename_i decoded read
    by_cases clamped : clampRadioConfig decoded.value = decoded.value
    · left
      simp [clamped]
    · right
      refine ⟨decoded.value, ?_⟩
      simp [clamped, persistSettings]
  · exact Or.inl rfl

/-- Loaded settings are within their ranges. -/
theorem clamp_of_loadSettings {word : UInt32} {settings : RadioSettings}
    (loaded : (loadSettings word).1 = some settings) : clampRadioConfig settings = settings := by
  unfold loadSettings at loaded
  split at loaded
  · cases loaded
    exact clampRadioConfig_idem _
  · cases loaded

end Firmware
end Motonet
