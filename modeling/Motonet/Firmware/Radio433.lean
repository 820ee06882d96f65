import Motonet.Foundation.Fallible
import Motonet.Firmware.RadioSettings

/-!
# The CC1101 radio

The driver commands that the radio settings go through, the registers of the chip that they set, and
the settings as the radio object remembers them.  A command may fail, and then has no effect.
-/

namespace Motonet
namespace Firmware

open AppCore Fallible

inductive RadioError
  | spi
  | notResponding
  | configError
  deriving DecidableEq, Repr

inductive RadioMode
  | idle
  | receive
  deriving DecidableEq, Repr

inductive DecisionBoundary
  | db4
  | db8
  | db12
  | db16
  deriving DecidableEq, Repr

inductive TargetAmplitude
  | db24
  | db27
  | db30
  | db33
  | db36
  | db38
  | db40
  | db42
  deriving DecidableEq, Repr

def decisionBoundaryForThreshold (db : UInt8) : DecisionBoundary :=
  let quantized := quantizeDetectionThresholdDb db
  if quantized = 4 then .db4 else if quantized = 8 then .db8 else if quantized = 12 then .db12
  else .db16

def targetAmplitudeForLevel (level : UInt8) : TargetAmplitude :=
  if level = 0 then .db24 else if level = 1 then .db27 else if level = 2 then .db30
  else if level = 3 then .db33 else if level = 4 then .db36 else if level = 5 then .db38
  else if level = 6 then .db40 else .db42

/-- The registers of the chip that the settings and the RF profile set. -/
structure Cc1101Registers where
  mode : RadioMode
  frequencyHz : UInt32
  channelBandwidthHz : UInt32
  filterLength : DecisionBoundary
  magnTarget : TargetAmplitude
  carrierSenseThreshold : UInt8
  deriving DecidableEq, Repr

/-- The registers are set as the settings ask. -/
structure Cc1101Registers.AppliedSettings (registers : Cc1101Registers)
    (settings : RadioSettings) : Prop where
  filterLength : registers.filterLength =
    decisionBoundaryForThreshold settings.detectionThresholdDb
  magnTarget : registers.magnTarget = targetAmplitudeForLevel settings.magnTarget
  channelBandwidth : registers.channelBandwidthHz =
    AppCore.channelBandwidthHz settings.channelBandwidthIndex
  carrierSense : registers.carrierSenseThreshold = settings.carrierSenseThreshold

/-- Commands to the chip. -/
inductive Cc1101Command
  /-- What the reset changes of the registers here is written again by `init`. -/
  | resetChip
  | getHwInfo
  | setRadioMode (mode : RadioMode)
  | setFrequency (hz : UInt32)
  | setChannelBandwidth (hz : UInt32)
  | setFilterLength (boundary : DecisionBoundary)
  | setMagnTarget (amplitude : TargetAmplitude)
  | setCarrierSenseThreshold (threshold : UInt8)
  deriving DecidableEq, Repr

/-- What a command does to the registers. -/
def Cc1101Command.execute (registers : Cc1101Registers) : Cc1101Command → Cc1101Registers
  | .resetChip => { registers with mode := .idle }
  | .getHwInfo => registers
  | .setRadioMode mode => { registers with mode := mode }
  | .setFrequency hz => { registers with frequencyHz := hz }
  | .setChannelBandwidth hz => { registers with channelBandwidthHz := hz }
  | .setFilterLength boundary => { registers with filterLength := boundary }
  | .setMagnTarget amplitude => { registers with magnTarget := amplitude }
  | .setCarrierSenseThreshold threshold => { registers with carrierSenseThreshold := threshold }

/-- `Cc1101Radio`: the registers of the chip, which of the next commands fail, and the settings that
the radio remembers. -/
structure Cc1101Radio where
  registers : Cc1101Registers
  failures : List Bool
  detectionThresholdDb : UInt8
  filterLevel : UInt8
  channelBandwidthIndex : UInt8
  carrierSenseThreshold : UInt8
  deriving DecidableEq, Repr

namespace Cc1101Radio

/-- `Cc1101Radio::new`. -/
def new (registers : Cc1101Registers) (failures : List Bool) : Cc1101Radio where
  registers := registers
  failures := failures
  detectionThresholdDb := defaultRadioSettings.detectionThresholdDb
  filterLevel := defaultRadioSettings.magnTarget
  channelBandwidthIndex := defaultRadioSettings.channelBandwidthIndex
  carrierSenseThreshold := defaultRadioSettings.carrierSenseThreshold

/-- Restore remembered settings before the chip is initialized. -/
def restoreSettingsAfterReset (settings : RadioSettings) (radio : Cc1101Radio) : Cc1101Radio where
  registers := radio.registers
  failures := radio.failures
  detectionThresholdDb := quantizeDetectionThresholdDb settings.detectionThresholdDb
  filterLevel := min settings.magnTarget magnTargetMax
  channelBandwidthIndex := min settings.channelBandwidthIndex channelBandwidthMaxIndex
  carrierSenseThreshold := min settings.carrierSenseThreshold carrierSenseMax

/-- Send a command to the chip. -/
def driver (command : Cc1101Command) : Fallible RadioError Cc1101Radio Unit :=
  ExceptT.mk fun radio =>
    match radio.failures with
    | true :: failures => (Except.error .configError, { radio with failures := failures })
    | false :: failures =>
        (Except.ok (),
          { radio with registers := command.execute radio.registers, failures := failures })
    | [] => (Except.ok (), { radio with registers := command.execute radio.registers })

/-- `Cc1101Radio::init`, as far as it concerns the registers here. -/
def init : Fallible RadioError Cc1101Radio Unit := do
  driver .resetChip
  driver (.setFrequency 433920000)
  let radio ← Fallible.update fun radio => (radio, radio)
  driver (.setChannelBandwidth (channelBandwidthHz radio.channelBandwidthIndex))
  driver (.setMagnTarget (targetAmplitudeForLevel radio.filterLevel))
  let detectionThresholdDb := quantizeDetectionThresholdDb radio.detectionThresholdDb
  driver (.setFilterLength (decisionBoundaryForThreshold detectionThresholdDb))
  Fallible.update fun radio => ((), { radio with detectionThresholdDb := detectionThresholdDb })
  driver (.setCarrierSenseThreshold radio.carrierSenseThreshold)

/-- The part and the version that the chip returns are only logged. -/
def getHwInfo : Fallible RadioError Cc1101Radio Unit :=
  mapError (fun _ => .notResponding) (driver .getHwInfo)

/-- Apply a frequency and a bandwidth and return to RX mode. -/
def applyRfProfile (freqHz bandwidthHz : UInt32) : Fallible RadioError Cc1101Radio Unit := do
  driver (.setRadioMode .idle)
  driver (.setFrequency freqHz)
  driver (.setChannelBandwidth bandwidthHz)
  driver (.setRadioMode .receive)
  Fallible.update fun radio =>
    ((), { radio with channelBandwidthIndex := AppCore.channelBandwidthIndex bandwidthHz })

def setReceiveMode : Fallible RadioError Cc1101Radio Unit :=
  driver (.setRadioMode .receive)

/-- The setters: configure the idle chip, return to RX mode, and remember the setting. -/
def reconfigure (command : Cc1101Command) (remember : Cc1101Radio → Cc1101Radio) :
    Fallible RadioError Cc1101Radio Unit := do
  driver (.setRadioMode .idle)
  driver command
  driver (.setRadioMode .receive)
  Fallible.update fun radio => ((), remember radio)

def getDetectionThreshold (radio : Cc1101Radio) : UInt8 :=
  quantizeDetectionThresholdDb radio.detectionThresholdDb

def setDetectionThreshold (db : UInt8) : Fallible RadioError Cc1101Radio Unit :=
  let quantizedDb := quantizeDetectionThresholdDb db
  reconfigure (.setFilterLength (decisionBoundaryForThreshold quantizedDb)) fun radio =>
    { radio with detectionThresholdDb := quantizedDb }

def setFilterLevel (level : UInt8) : Fallible RadioError Cc1101Radio Unit :=
  let clampedLevel := min level magnTargetMax
  reconfigure (.setMagnTarget (targetAmplitudeForLevel clampedLevel)) fun radio =>
    { radio with filterLevel := clampedLevel }

def setChannelBandwidthIndex (index : UInt8) : Fallible RadioError Cc1101Radio Unit :=
  let clampedIndex := min index channelBandwidthMaxIndex
  reconfigure (.setChannelBandwidth (channelBandwidthHz clampedIndex)) fun radio =>
    { radio with channelBandwidthIndex := clampedIndex }

def setCarrierSenseThreshold (threshold : UInt8) : Fallible RadioError Cc1101Radio Unit :=
  let clampedThreshold := min threshold carrierSenseMax
  reconfigure (.setCarrierSenseThreshold clampedThreshold) fun radio =>
    { radio with carrierSenseThreshold := clampedThreshold }

/-- Apply all user-facing radio settings to the initialized chip. -/
def applySettings (settings : RadioSettings) : Fallible RadioError Cc1101Radio Unit := do
  setDetectionThreshold settings.detectionThresholdDb
  setFilterLevel settings.magnTarget
  setChannelBandwidthIndex settings.channelBandwidthIndex
  setCarrierSenseThreshold settings.carrierSenseThreshold

/-- `current_radio_settings`. -/
def currentSettings (radio : Cc1101Radio) : RadioSettings where
  detectionThresholdDb := radio.getDetectionThreshold
  magnTarget := radio.filterLevel
  channelBandwidthIndex := radio.channelBandwidthIndex
  carrierSenseThreshold := radio.carrierSenseThreshold

/-- Run a setter if a setting differs from the current one; an error is only logged. -/
def setIfNew (wanted current : UInt8) (set : UInt8 → Fallible RadioError Cc1101Radio Unit)
    (radio : Cc1101Radio) : Cc1101Radio :=
  if wanted ≠ current then (exec (set wanted) radio).2 else radio

/-- `apply_pending_settings`, for the settings that are in the watch. -/
def applyPendingSettings (pending : Option RadioSettings) (radio : Cc1101Radio) : Cc1101Radio :=
  match pending with
  | none => radio
  | some settings =>
      let radio := radio.setIfNew settings.detectionThresholdDb radio.getDetectionThreshold
        setDetectionThreshold
      let radio := radio.setIfNew settings.magnTarget radio.filterLevel setFilterLevel
      let radio := radio.setIfNew settings.channelBandwidthIndex radio.channelBandwidthIndex
        setChannelBandwidthIndex
      radio.setIfNew settings.carrierSenseThreshold radio.carrierSenseThreshold
        setCarrierSenseThreshold

/-! ## The commands when none fails -/

/-- No command fails, the chip is configured as the radio remembers, and the remembered settings are
within their ranges. -/
structure Coherent (radio : Cc1101Radio) : Prop where
  reliable : radio.failures = []
  applied : radio.registers.AppliedSettings radio.currentSettings
  filterLevel_le : radio.filterLevel ≤ magnTargetMax
  channelBandwidthIndex_le : radio.channelBandwidthIndex ≤ channelBandwidthMaxIndex
  carrierSenseThreshold_le : radio.carrierSenseThreshold ≤ carrierSenseMax

/-- From a coherent radio a program returns, leaves a coherent radio, and changes the settings. -/
def Sets (program : Fallible RadioError Cc1101Radio Unit)
    (change : RadioSettings → RadioSettings) : Prop :=
  ∀ settings, Triple (fun radio => radio.Coherent ∧ radio.currentSettings = settings) program
    (fun _ radio => radio.Coherent ∧ radio.currentSettings = change settings) fun _ _ => False

/-- Settings of a coherent radio are within their ranges. -/
theorem Coherent.clamped {radio : Cc1101Radio} (coherent : radio.Coherent) :
    clampRadioConfig radio.currentSettings = radio.currentSettings := by
  ext
  · exact congrArg UInt8.toNat (quantizeDetectionThresholdDb_idem _)
  · exact congrArg UInt8.toNat (clampByte_of_le UInt8.zero_le coherent.filterLevel_le)
  · exact congrArg UInt8.toNat (clampByte_of_le UInt8.zero_le coherent.channelBandwidthIndex_le)
  · exact congrArg UInt8.toNat (clampByte_of_le UInt8.zero_le coherent.carrierSenseThreshold_le)

theorem exec_driver {radio : Cc1101Radio} (reliable : radio.failures = [])
    (command : Cc1101Command) :
    exec (driver command) radio =
      (.ok (), { radio with registers := command.execute radio.registers }) := by
  obtain ⟨registers, failures, threshold, level, index, carrier⟩ := radio
  subst reliable
  rfl

theorem exec_reconfigure {radio : Cc1101Radio} (reliable : radio.failures = [])
    (command : Cc1101Command) (remember : Cc1101Radio → Cc1101Radio) :
    exec (reconfigure command remember) radio =
      (.ok (), remember { radio with
        registers := (Cc1101Command.setRadioMode .receive).execute
          (command.execute ((Cc1101Command.setRadioMode .idle).execute radio.registers)) }) := by
  unfold reconfigure
  simp only [exec_bind, exec_driver, reliable, exec_update]

theorem Sets.of_exec {program : Fallible RadioError Cc1101Radio Unit}
    {change : RadioSettings → RadioSettings} {result : Cc1101Radio → Cc1101Radio}
    (executed : ∀ radio, radio.failures = [] → exec program radio = (.ok (), result radio))
    (coherent : ∀ radio, Coherent radio → (result radio).Coherent)
    (current : ∀ radio, Coherent radio →
      (result radio).currentSettings = change radio.currentSettings) : Sets program change := by
  rintro settings radio ⟨holds, rfl⟩
  rw [executed radio holds.reliable]
  exact ⟨coherent radio holds, current radio holds⟩

theorem Sets.bind {first second : Fallible RadioError Cc1101Radio Unit}
    {change next : RadioSettings → RadioSettings} (front : Sets first change)
    (back : Sets second next) : Sets (first >>= fun _ => second) (next ∘ change) :=
  fun settings => Triple.bind (front settings) fun _ => back (change settings)

/-- A program that sets settings returns. -/
theorem Sets.returns {program : Fallible RadioError Cc1101Radio Unit}
    {change : RadioSettings → RadioSettings} (sets : Sets program change) {radio : Cc1101Radio}
    (coherent : radio.Coherent) :
    ∃ after, exec program radio = (.ok (), after) ∧ after.Coherent ∧
      after.currentSettings = change radio.currentSettings := by
  obtain ⟨_, after, executed, held⟩ := (sets radio.currentSettings).returns ⟨coherent, rfl⟩
  exact ⟨after, executed, held⟩

theorem sets_setDetectionThreshold (db : UInt8) :
    Sets (setDetectionThreshold db) fun settings =>
      { settings with detectionThresholdDb := quantizeDetectionThresholdDb db } := by
  apply Sets.of_exec (fun radio reliable => exec_reconfigure reliable _ _)
  · intro radio coherent
    exact { coherent with
      applied := { coherent.applied with
        filterLength := by simp [Cc1101Command.execute, currentSettings, getDetectionThreshold] } }
  · intro radio coherent
    simp [currentSettings, getDetectionThreshold]

theorem sets_setFilterLevel (level : UInt8) :
    Sets (setFilterLevel level) fun settings =>
      { settings with magnTarget := clampByte magnTargetMin magnTargetMax level } := by
  apply Sets.of_exec (fun radio reliable => exec_reconfigure reliable _ _)
  · intro radio coherent
    exact { coherent with
      applied := { coherent.applied with magnTarget := rfl }
      filterLevel_le := min_le_bound _ _ }
  · intro radio coherent
    simp [currentSettings, magnTargetMin, clampByte_zero, getDetectionThreshold]

theorem sets_setChannelBandwidthIndex (index : UInt8) :
    Sets (setChannelBandwidthIndex index) fun settings =>
      { settings with
        channelBandwidthIndex :=
          clampByte channelBandwidthMinIndex channelBandwidthMaxIndex index } := by
  apply Sets.of_exec (fun radio reliable => exec_reconfigure reliable _ _)
  · intro radio coherent
    exact { coherent with
      applied := { coherent.applied with channelBandwidth := rfl }
      channelBandwidthIndex_le := min_le_bound _ _ }
  · intro radio coherent
    simp [currentSettings, channelBandwidthMinIndex, clampByte_zero, getDetectionThreshold]

theorem sets_setCarrierSenseThreshold (threshold : UInt8) :
    Sets (setCarrierSenseThreshold threshold) fun settings =>
      { settings with
        carrierSenseThreshold := clampByte carrierSenseMin carrierSenseMax threshold } := by
  apply Sets.of_exec (fun radio reliable => exec_reconfigure reliable _ _)
  · intro radio coherent
    exact { coherent with
      applied := { coherent.applied with carrierSense := rfl }
      carrierSenseThreshold_le := min_le_bound _ _ }
  · intro radio coherent
    simp [currentSettings, carrierSenseMin, clampByte_zero, getDetectionThreshold]

/-- Applied settings are the current ones, clamped. -/
theorem sets_applySettings (settings : RadioSettings) :
    Sets (applySettings settings) fun _ => clampRadioConfig settings := by
  have front := (sets_setDetectionThreshold settings.detectionThresholdDb).bind
    ((sets_setFilterLevel settings.magnTarget).bind
      ((sets_setChannelBandwidthIndex settings.channelBandwidthIndex).bind
        (sets_setCarrierSenseThreshold settings.carrierSenseThreshold)))
  exact front

/-- A setter that is skipped for the current value sets what it would have set. -/
theorem setIfNew_sets {wanted current : UInt8} {set : UInt8 → Fallible RadioError Cc1101Radio Unit}
    {change : RadioSettings → RadioSettings} {radio : Cc1101Radio} (sets : Sets (set wanted) change)
    (coherent : radio.Coherent)
    (same : wanted = current → change radio.currentSettings = radio.currentSettings) :
    (radio.setIfNew wanted current set).Coherent ∧
      (radio.setIfNew wanted current set).currentSettings = change radio.currentSettings := by
  unfold setIfNew
  split_ifs with differs
  · obtain ⟨after, executed, held⟩ := sets.returns coherent
    rw [executed]
    exact held
  · exact ⟨coherent, (same (not_not.mp differs)).symm⟩

/-- Pending settings become the current ones, clamped. -/
theorem applyPendingSettings_some {radio : Cc1101Radio} (coherent : radio.Coherent)
    (settings : RadioSettings) :
    (radio.applyPendingSettings (some settings)).Coherent ∧
      (radio.applyPendingSettings (some settings)).currentSettings = clampRadioConfig settings := by
  obtain ⟨thresholdCoherent, thresholdCurrent⟩ := setIfNew_sets
    (sets_setDetectionThreshold settings.detectionThresholdDb) coherent
    fun same : settings.detectionThresholdDb = radio.getDetectionThreshold => by
      rw [same]
      exact RadioSettings.ext (quantizeDetectionThresholdDb_idem _) rfl rfl rfl
  obtain ⟨levelCoherent, levelCurrent⟩ := setIfNew_sets
    (sets_setFilterLevel settings.magnTarget) thresholdCoherent fun same => by
      rw [same]
      exact RadioSettings.ext rfl
        (clampByte_of_le UInt8.zero_le thresholdCoherent.filterLevel_le) rfl rfl
  obtain ⟨bandwidthCoherent, bandwidthCurrent⟩ := setIfNew_sets
    (sets_setChannelBandwidthIndex settings.channelBandwidthIndex) levelCoherent fun same => by
      rw [same]
      exact RadioSettings.ext rfl rfl
        (clampByte_of_le UInt8.zero_le levelCoherent.channelBandwidthIndex_le) rfl
  obtain ⟨carrierCoherent, carrierCurrent⟩ := setIfNew_sets
    (sets_setCarrierSenseThreshold settings.carrierSenseThreshold) bandwidthCoherent
    fun same => by
      rw [same]
      exact RadioSettings.ext rfl rfl rfl
        (clampByte_of_le UInt8.zero_le bandwidthCoherent.carrierSenseThreshold_le)
  refine ⟨carrierCoherent, carrierCurrent.trans ?_⟩
  rw [bandwidthCurrent, levelCurrent, thresholdCurrent]
  rfl

/-- An RF profile replaces the bandwidth. -/
theorem sets_applyRfProfile (freqHz : UInt32) {bandwidthHz : UInt32}
    (known : channelBandwidthHz (AppCore.channelBandwidthIndex bandwidthHz) = bandwidthHz) :
    Sets (applyRfProfile freqHz bandwidthHz) fun settings =>
      { settings with channelBandwidthIndex := AppCore.channelBandwidthIndex bandwidthHz } := by
  have executed : ∀ radio : Cc1101Radio, radio.failures = [] →
      exec (applyRfProfile freqHz bandwidthHz) radio = (.ok (), { radio with
        registers := { radio.registers with
          mode := .receive, frequencyHz := freqHz, channelBandwidthHz := bandwidthHz }
        channelBandwidthIndex := AppCore.channelBandwidthIndex bandwidthHz }) := by
    intro radio reliable
    unfold applyRfProfile
    simp only [exec_bind, exec_driver, reliable, exec_update, Cc1101Command.execute]
  apply Sets.of_exec executed
  · intro radio coherent
    exact { coherent with
      applied := { coherent.applied with channelBandwidth := known.symm }
      channelBandwidthIndex_le := channelBandwidthIndex_le _ }
  · intro radio _
    rfl

theorem sets_setReceiveMode : Sets setReceiveMode id := by
  apply Sets.of_exec (fun radio reliable => exec_driver reliable _)
  · intro radio coherent
    exact { coherent with applied := { coherent.applied with } }
  · intro radio _
    rfl

theorem sets_getHwInfo : Sets getHwInfo id := by
  have executed : ∀ radio : Cc1101Radio, radio.failures = [] →
      exec getHwInfo radio = (.ok (), radio) := by
    intro radio reliable
    unfold getHwInfo
    rw [exec_mapError, exec_driver reliable]
    rfl
  exact Sets.of_exec executed (fun _ coherent => coherent) fun _ _ => rfl

/-- A new radio is initialized with the restored settings, clamped. -/
theorem init_restored (registers : Cc1101Registers) (settings : RadioSettings) :
    ∃ radio, exec init (restoreSettingsAfterReset settings (new registers [])) = (.ok (), radio) ∧
      radio.Coherent ∧ radio.currentSettings = clampRadioConfig settings := by
  unfold init
  simp only [exec_bind, exec_driver, exec_update, restoreSettingsAfterReset, new]
  refine ⟨_, rfl, ?_, ?_⟩
  · constructor
    · rfl
    · constructor
      all_goals simp [Cc1101Command.execute, currentSettings, getDetectionThreshold]
    all_goals exact min_le_bound _ _
  · simp [currentSettings, getDetectionThreshold, clampRadioConfig, magnTargetMin,
      channelBandwidthMinIndex, carrierSenseMin, clampByte_zero]

end Cc1101Radio

end Firmware
end Motonet
