import Motonet.AppCore.RtcCorruption

/-!
# Persistence of the power settings

The settings of the power policy are kept, clamped, in a word of RTC memory that survives deep
sleep.  Settings outside their ranges are not loaded, unlike those of the radio, which are clamped.
-/

namespace Motonet
namespace Firmware
namespace Power

open AppCore

def settingsWithinBounds (settings : PowerSettings) : Bool :=
  (powerSleepDurationMinSecs ≤ settings.sleepDurationSecs &&
    settings.sleepDurationSecs ≤ powerSleepDurationMaxSecs) &&
  (powerUiIdleTimeoutMinSecs ≤ settings.uiIdleTimeoutSecs &&
    settings.uiIdleTimeoutSecs ≤ powerUiIdleTimeoutMaxSecs)

/-- The word that `persist_settings` writes. -/
def persistSettings (settings : PowerSettings) : UInt32 :=
  encodePowerSettings (clampPowerConfig settings)

/-- The settings that `load_settings_or_default` reads from a word, and the word that it leaves. -/
def loadSettingsOrDefault (word : UInt32) : PowerSettings × UInt32 :=
  match decodePowerSettings word with
  | .ok decoded =>
      if settingsWithinBounds decoded.value then
        (decoded.value, if decoded.needsMigration then encodePowerSettings decoded.value else word)
      else (defaultPowerSettings, word)
  | .error _ => (defaultPowerSettings, word)

theorem settingsWithinBounds_iff {settings : PowerSettings} :
    settingsWithinBounds settings = true ↔
      (powerSleepDurationMinSecs ≤ settings.sleepDurationSecs ∧
        settings.sleepDurationSecs ≤ powerSleepDurationMaxSecs) ∧
      (powerUiIdleTimeoutMinSecs ≤ settings.uiIdleTimeoutSecs ∧
        settings.uiIdleTimeoutSecs ≤ powerUiIdleTimeoutMaxSecs) := by
  simp only [settingsWithinBounds, Bool.and_eq_true, decide_eq_true_eq]

theorem settingsWithinBounds_default : settingsWithinBounds defaultPowerSettings = true := by
  decide

theorem settingsWithinBounds_clampPowerConfig (settings : PowerSettings) :
    settingsWithinBounds (clampPowerConfig settings) = true := by
  rw [settingsWithinBounds_iff]
  exact ⟨clampByte_le (by decide) _, clampByte_le (by decide) _⟩

/-- Settings within their bounds are not clamped. -/
theorem clampPowerConfig_of_withinBounds {settings : PowerSettings}
    (bounded : settingsWithinBounds settings = true) : clampPowerConfig settings = settings := by
  obtain ⟨⟨sleep_least, sleep_greatest⟩, idle_least, idle_greatest⟩ :=
    settingsWithinBounds_iff.mp bounded
  rw [clampPowerConfig, clampByte_of_le sleep_least sleep_greatest,
    clampByte_of_le idle_least idle_greatest]

/-- Settings within their bounds are decoded as they were encoded: seven bits hold the duration. -/
theorem decodePowerSettings_of_withinBounds {settings : PowerSettings}
    (bounded : settingsWithinBounds settings = true) :
    decodePowerSettings (encodePowerSettings settings) =
      .ok ⟨settings, powerSchemaVersion, false⟩ := by
  apply decodePowerSettings_encodePowerSettings
  exact UInt8.le_trans (settingsWithinBounds_iff.mp bounded).1.2 (by decide)

/-- Encoded settings within their bounds are loaded, and the word is kept. -/
theorem loadSettingsOrDefault_of_withinBounds {settings : PowerSettings}
    (bounded : settingsWithinBounds settings = true) :
    loadSettingsOrDefault (encodePowerSettings settings) =
      (settings, encodePowerSettings settings) := by
  rw [loadSettingsOrDefault, decodePowerSettings_of_withinBounds bounded]
  simp [bounded]

/-- Settings that were persisted are loaded, clamped. -/
theorem loadSettingsOrDefault_persistSettings (settings : PowerSettings) :
    loadSettingsOrDefault (persistSettings settings) =
      (clampPowerConfig settings, persistSettings settings) :=
  loadSettingsOrDefault_of_withinBounds (settingsWithinBounds_clampPowerConfig settings)

/-- The settings of an accepted word of the legacy schema are loaded, and the word is rewritten. -/
theorem loadSettingsOrDefault_of_legacy {word : UInt32} {decoded : DecodedValue PowerSettings}
    (read : decodePowerSettings word = .ok decoded) (legacy : decoded.needsMigration = true)
    (bounded : settingsWithinBounds decoded.value = true) :
    loadSettingsOrDefault word = (decoded.value, encodePowerSettings decoded.value) := by
  rw [loadSettingsOrDefault, read]
  simp [legacy, bounded]

/-- What a load does: it keeps the word, or rewrites the settings of an accepted legacy word. -/
theorem loadSettingsOrDefault_cases (word : UInt32) :
    (loadSettingsOrDefault word).2 = word ∨
      settingsWithinBounds (loadSettingsOrDefault word).1 = true ∧
        (loadSettingsOrDefault word).2 = encodePowerSettings (loadSettingsOrDefault word).1 := by
  unfold loadSettingsOrDefault
  split
  · split_ifs with bounded legacy
    · exact Or.inr ⟨bounded, rfl⟩
    · exact Or.inl rfl
    · exact Or.inl rfl
  · exact Or.inl rfl

/-- One load settles the word: the next one returns the same. -/
theorem loadSettingsOrDefault_loaded (word : UInt32) :
    loadSettingsOrDefault (loadSettingsOrDefault word).2 = loadSettingsOrDefault word := by
  rcases loadSettingsOrDefault_cases word with kept | ⟨bounded, rewritten⟩
  · rw [kept]
  · rw [rewritten, loadSettingsOrDefault_of_withinBounds bounded, ← rewritten]

/-- Loaded settings are within their bounds. -/
theorem withinBounds_of_load (word : UInt32) :
    settingsWithinBounds (loadSettingsOrDefault word).1 = true := by
  unfold loadSettingsOrDefault
  split
  · split_ifs with bounded legacy
    · exact bounded
    · exact bounded
    · exact settingsWithinBounds_default
  · exact settingsWithinBounds_default

end Power
end Firmware
end Motonet
