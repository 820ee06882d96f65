import Motonet.Firmware.PowerSettings
import Motonet.Tasks.Radio433

/-!
# The records in RTC memory

The settings of the power policy, the settings of the radio and the RF profile are each kept in a
word of RTC memory.  A record is what the firmware knows of such a word: how it is encoded, how it
is decoded, and what a load returns and leaves in the word.
-/

namespace Motonet
namespace Persistence

open AppCore Firmware RadioTasks

/-- A record of RTC memory; a load may rewrite the word. -/
structure RtcRecord (Value Loaded : Type) where
  encode : Value → UInt32
  decode : UInt32 → Except DecodeError (DecodedValue Value)
  load : UInt32 → Loaded × UInt32

def powerRecord : RtcRecord PowerSettings PowerSettings where
  encode := encodePowerSettings
  decode := decodePowerSettings
  load := Power.loadSettingsOrDefault

def radioRecord : RtcRecord RadioSettings RadioSettings where
  encode := encodeRadioSettings
  decode := decodeRadioSettings
  load := loadSettingsOrDefault

def rfProfileRecord : RtcRecord UInt8 (Option ℕ) where
  encode := encodeRfProfile
  decode := decodeRfProfile
  load := loadPersistedRfProfileIndex

namespace RtcRecord

variable {Value Loaded : Type} (record : RtcRecord Value Loaded)

/-- The word has a value of the current schema, and a load returns what is expected and keeps the
word. -/
structure Holds (word : UInt32) (value : Value) (loaded : Loaded) : Prop where
  decoded : ∃ version, record.decode word = .ok ⟨value, version, false⟩
  loads : record.load word = (loaded, word)

/-- A load of a word of an older schema, if its value is accepted, leaves a word of the current
schema from which the same is loaded. -/
def MigratesOnce (accepts : Value → Loaded → Prop) : Prop :=
  ∀ word decoded loaded, record.decode word = .ok decoded → decoded.needsMigration = true →
    accepts decoded.value loaded →
      (record.load word).1 = loaded ∧ record.Holds (record.load word).2 decoded.value loaded

/-- Whatever the word is, a second load returns what the first one did and keeps the word. -/
def Settles : Prop :=
  ∀ word, record.load (record.load word).2 = record.load word

/-- No change in one byte of an encoded value is decoded. -/
def SeesChanges : Prop :=
  ∀ value changed, ChangedInOneByte (record.encode value) changed →
    ∃ error, record.decode changed = .error error

variable {record} in
/-- A load settles the word if it keeps it or writes one that holds what was loaded. -/
theorem settles_of_cases (cases : ∀ word, (record.load word).2 = word ∨
    ∃ value, record.Holds (record.load word).2 value (record.load word).1) : record.Settles := by
  intro word
  rcases cases word with kept | ⟨value, holds⟩
  · rw [kept]
  · exact holds.loads

end RtcRecord

/-! ## Power settings -/

/-- The settings that a load accepts are within their bounds, and are loaded as they are. -/
def AcceptsPower (settings loaded : PowerSettings) : Prop :=
  Power.settingsWithinBounds settings = true ∧ loaded = settings

theorem powerRecord_holds {settings : PowerSettings}
    (bounded : Power.settingsWithinBounds settings = true) :
    powerRecord.Holds (encodePowerSettings settings) settings settings where
  decoded := ⟨_, Power.decodePowerSettings_of_withinBounds bounded⟩
  loads := Power.loadSettingsOrDefault_of_withinBounds bounded

theorem powerRecord_migratesOnce : powerRecord.MigratesOnce AcceptsPower := by
  rintro word decoded loaded read legacy ⟨bounded, rfl⟩
  have migrated := Power.loadSettingsOrDefault_of_legacy read legacy bounded
  change powerRecord.load word = _ at migrated
  rw [migrated]
  exact ⟨rfl, powerRecord_holds bounded⟩

theorem powerRecord_settles : powerRecord.Settles := Power.loadSettingsOrDefault_loaded

/-! ## Radio settings -/

/-- Every decoded value is accepted, and loaded clamped. -/
def AcceptsRadio (settings loaded : RadioSettings) : Prop :=
  loaded = clampRadioConfig settings

theorem radioRecord_holds (settings : RadioSettings) :
    radioRecord.Holds (persistSettings settings) (clampRadioConfig settings)
      (clampRadioConfig settings) where
  decoded := ⟨_, decodeRadioSettings_persistSettings settings⟩
  loads := by
    change loadSettingsOrDefault _ = _
    rw [loadSettingsOrDefault, loadSettings_persistSettings]
    rfl

/-- The radio settings have no older schema. -/
theorem radioRecord_migratesOnce : radioRecord.MigratesOnce AcceptsRadio := by
  intro word decoded loaded read legacy
  rw [(of_decodeRadioSettings read).2] at legacy
  exact absurd legacy Bool.false_ne_true

theorem radioRecord_settles : radioRecord.Settles := by
  apply RtcRecord.settles_of_cases
  intro word
  rcases loadSettings_cases word with kept | ⟨settings, loaded⟩
  · exact Or.inl kept
  · have loads : radioRecord.load word = (clampRadioConfig settings, persistSettings settings) := by
      change loadSettingsOrDefault word = _
      rw [loadSettingsOrDefault, loaded]
      rfl
    rw [loads]
    exact Or.inr ⟨_, radioRecord_holds settings⟩

/-! ## RF profile -/

/-- The index of a candidate is accepted, and loaded as it is. -/
def AcceptsRfProfile (profileIndex : UInt8) (loaded : Option ℕ) : Prop :=
  profileIndex.toNat < rfSweepCandidates.length ∧ loaded = some profileIndex.toNat

theorem rfProfileRecord_holds {profileIndex : UInt8}
    (known : profileIndex.toNat < rfSweepCandidates.length) :
    rfProfileRecord.Holds (encodeRfProfile profileIndex) profileIndex
      (some profileIndex.toNat) where
  decoded := ⟨_, decodeRfProfile_encodeRfProfile profileIndex⟩
  loads := by
    change loadPersistedRfProfileIndex _ = _
    rw [loadPersistedRfProfileIndex, decodeRfProfile_encodeRfProfile]
    exact if_neg (Nat.not_le.mpr known)

/-- The index of a candidate fits in a byte. -/
theorem persistRfProfileIndex_of_lt {index : ℕ} (known : index < rfSweepCandidates.length)
    (word : UInt32) :
    persistRfProfileIndex index word = encodeRfProfile (UInt8.ofNat index) ∧
      (UInt8.ofNat index).toNat = index := by
  have fits : index < 2 ^ 8 := Nat.lt_trans known (by decide)
  exact ⟨if_pos fits, UInt8.toNat_ofNat_of_lt' fits⟩

theorem rfProfileRecord_migratesOnce : rfProfileRecord.MigratesOnce AcceptsRfProfile := by
  rintro word decoded loaded read legacy ⟨known, rfl⟩
  have migrated : rfProfileRecord.load word =
      (some decoded.value.toNat, encodeRfProfile decoded.value) := by
    change loadPersistedRfProfileIndex word = _
    rw [loadPersistedRfProfileIndex, show decodeRfProfile word = .ok decoded from read]
    simp [legacy, Nat.not_le.mpr known]
  rw [migrated]
  exact ⟨rfl, rfProfileRecord_holds known⟩

theorem rfProfileRecord_settles : rfProfileRecord.Settles := by
  apply RtcRecord.settles_of_cases
  intro word
  cases read : decodeRfProfile word with
  | error =>
      left
      change (loadPersistedRfProfileIndex word).2 = word
      rw [loadPersistedRfProfileIndex, read]
  | ok decoded =>
      by_cases unknown : rfSweepCandidates.length ≤ decoded.value.toNat
      · left
        change (loadPersistedRfProfileIndex word).2 = word
        rw [loadPersistedRfProfileIndex, read]
        simp [unknown]
      cases legacy : decoded.needsMigration with
      | false =>
          left
          change (loadPersistedRfProfileIndex word).2 = word
          rw [loadPersistedRfProfileIndex, read]
          simp [unknown, legacy]
      | true =>
          right
          obtain ⟨loaded, holds⟩ := rfProfileRecord_migratesOnce word decoded _ read legacy
            ⟨Nat.not_le.mp unknown, rfl⟩
          rw [loaded]
          exact ⟨_, holds⟩

/-! ## All records -/

/-- What is persisted is loaded, clamped; an accepted word of an older schema is rewritten by the
first load, and no load returns anything else than the one before it; and no change in one byte of
an encoded word is decoded. -/
theorem persisted_records_survive :
    (∀ settings, powerRecord.Holds (Power.persistSettings settings) (clampPowerConfig settings)
        (clampPowerConfig settings)) ∧
      (∀ settings, radioRecord.Holds (persistSettings settings) (clampRadioConfig settings)
        (clampRadioConfig settings)) ∧
      (∀ index word, index < rfSweepCandidates.length →
        rfProfileRecord.Holds (persistRfProfileIndex index word) (UInt8.ofNat index)
          (some index)) ∧
      (powerRecord.MigratesOnce AcceptsPower ∧ radioRecord.MigratesOnce AcceptsRadio ∧
        rfProfileRecord.MigratesOnce AcceptsRfProfile) ∧
      (powerRecord.Settles ∧ radioRecord.Settles ∧ rfProfileRecord.Settles) ∧
      powerRecord.SeesChanges ∧ radioRecord.SeesChanges ∧ rfProfileRecord.SeesChanges := by
  refine ⟨fun settings => ?_, radioRecord_holds, fun index word known => ?_,
    ⟨powerRecord_migratesOnce, radioRecord_migratesOnce, rfProfileRecord_migratesOnce⟩,
    ⟨powerRecord_settles, radioRecord_settles, rfProfileRecord_settles⟩,
    fun settings changed => decodePowerSettings_of_changed,
    fun settings changed => decodeRadioSettings_of_changed,
    fun profileIndex changed => decodeRfProfile_of_changed⟩
  · exact powerRecord_holds (Power.settingsWithinBounds_clampPowerConfig settings)
  · obtain ⟨written, index_eq⟩ := persistRfProfileIndex_of_lt known word
    have known_byte : (UInt8.ofNat index).toNat < rfSweepCandidates.length := by rwa [index_eq]
    have holds := rfProfileRecord_holds known_byte
    rwa [index_eq, ← written] at holds

end Persistence
end Motonet
