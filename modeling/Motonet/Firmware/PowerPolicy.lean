import Motonet.AppCore.RuntimePolicy
import Motonet.Firmware.PowerSettings
import Motonet.OtaCore.Policy

/-!
# The power policy of the firmware

The settings of the power policy and the deadline of the user interface are atomics that the tasks
share.  When a reading has been published, the firmware enters deep sleep, or logs why it does not.
-/

namespace Motonet
namespace Firmware
namespace Power

open AppCore OtaCore

/-- The atomics of the power policy, and the word in RTC memory. -/
structure PowerSave where
  predictiveSleepEnabled : Bool
  sleepDurationSecs : UInt8
  uiIdleTimeoutSecs : UInt8
  uiIdleDeadlineSecs : UInt32
  persistedWord : UInt32
  deriving DecidableEq, Repr

/-- Whether a deep sleep is entered after a publish, and what is logged if it is not. -/
inductive SleepOutcome
  | otaInProgress
  | queueNotEmpty
  /-- The next measurement is expected in less than so many seconds. -/
  | measurementTooOld (nextMeasurementSecs : UInt64)
  | predictiveSleepDisabled
  | uiIdleDeadlineNotElapsed (idleRemainingSecs : UInt32)
  | otaConfirmationPending
  | otaUpdateInProgress
  | deepSleep (sleepSecs : UInt8)
  deriving DecidableEq, Repr

def isOtaSleepBlocked (state : OtaState) : Bool := state ≠ .inactive

def isOtaUpdateInProgress : OtaState → Bool
  | .downloading | .applying => true
  | .inactive | .pendingConfirmation => false

def isOtaConfirmationPending (state : OtaState) : Bool := state = .pendingConfirmation

/-- The seconds since the start, of the seconds of an `Instant`. -/
def nowSecs (instantSecs : UInt64) : UInt32 := wordOrMax instantSecs

namespace PowerSave

/-- The atomics after the start of the firmware, with a word in RTC memory. -/
def initial (persistedWord : UInt32) : PowerSave where
  predictiveSleepEnabled := defaultPowerSettings.predictiveSleepEnabled
  sleepDurationSecs := defaultPowerSettings.sleepDurationSecs
  uiIdleTimeoutSecs := defaultPowerSettings.uiIdleTimeoutSecs
  uiIdleDeadlineSecs := 0
  persistedWord := persistedWord

/-- The settings in the atomics. -/
def stored (power : PowerSave) : PowerSettings where
  predictiveSleepEnabled := power.predictiveSleepEnabled
  sleepDurationSecs := power.sleepDurationSecs
  uiIdleTimeoutSecs := power.uiIdleTimeoutSecs

/-- `apply_settings`. -/
def applySettings (settings : PowerSettings) (persist rearmIdleCountdown : Bool)
    (instantSecs : UInt64) (power : PowerSave) : PowerSave :=
  let clamped := clampPowerConfig settings
  { predictiveSleepEnabled := clamped.predictiveSleepEnabled
    sleepDurationSecs := clamped.sleepDurationSecs
    uiIdleTimeoutSecs := clamped.uiIdleTimeoutSecs
    uiIdleDeadlineSecs := nextUiIdleDeadlineSecs clamped.predictiveSleepEnabled rearmIdleCountdown
      (nowSecs instantSecs) power.uiIdleDeadlineSecs clamped.uiIdleTimeoutSecs
    persistedWord := if persist then persistSettings clamped else power.persistedWord }

def setSettings (settings : PowerSettings) : UInt64 → PowerSave → PowerSave :=
  applySettings settings true true

def restoreSettingsAfterReset (settings : PowerSettings) : UInt64 → PowerSave → PowerSave :=
  applySettings settings false false

/-- `notify_ui_activity`, which puts the deadline off if predictive sleep is enabled. -/
def notifyUiActivity (instantSecs : UInt64) (power : PowerSave) : PowerSave :=
  if power.predictiveSleepEnabled then { power with
    uiIdleDeadlineSecs := saturatingAddWord (nowSecs instantSecs)
      (clampPowerConfig power.stored).uiIdleTimeoutSecs.toUInt32 }
  else power

/-- The start of the firmware: the persisted settings are loaded and restored. -/
def start (persistedWord : UInt32) (instantSecs : UInt64) : PowerSave :=
  let (settings, word) := loadSettingsOrDefault persistedWord
  restoreSettingsAfterReset settings instantSecs (initial word)

def getSettings (power : PowerSave) : Except ArithmeticFault PowerSettings := do
  let sleepDurationSecs ←
    checkedClamp powerSleepDurationMinSecs powerSleepDurationMaxSecs power.sleepDurationSecs
  let uiIdleTimeoutSecs ←
    checkedClamp powerUiIdleTimeoutMinSecs powerUiIdleTimeoutMaxSecs power.uiIdleTimeoutSecs
  return ⟨power.predictiveSleepEnabled, sleepDurationSecs, uiIdleTimeoutSecs⟩

/-- The end of `maybe_sleep_after_publish`, which acts on the decision; the time that is left until
the next measurement is computed for the log only. -/
def actOnDecision (timeSinceMeasurementReceive : Duration) (otaState : OtaState) :
    PredictiveSleepDecision → Except ArithmeticFault SleepOutcome
  | .queueNotEmpty => return .queueNotEmpty
  | .measurementTooOld =>
      return .measurementTooOld (← checkedSub 60 timeSinceMeasurementReceive.asSecs)
  | .predictiveSleepDisabled => return .predictiveSleepDisabled
  | .uiIdleDeadlineNotElapsed idleRemainingSecs =>
      return .uiIdleDeadlineNotElapsed idleRemainingSecs
  | .otaUpdateInProgress =>
      if isOtaConfirmationPending otaState then return .otaConfirmationPending
      else return .otaUpdateInProgress
  | .sleep sleepSecs => return .deepSleep sleepSecs

def maybeSleepAfterPublish (power : PowerSave) (instantSecs : UInt64) (queueEmpty : Bool)
    (timeSinceMeasurementReceive : Duration) (otaState : OtaState) :
    Except ArithmeticFault SleepOutcome := do
  let settings ← power.getSettings
  let now := nowSecs instantSecs
  if isOtaSleepBlocked otaState then return .otaInProgress
  else
    let decision ← predictiveSleepDecision queueEmpty timeSinceMeasurementReceive
      settings.predictiveSleepEnabled settings.sleepDurationSecs now
      (isOtaUpdateInProgress otaState) power.uiIdleDeadlineSecs
    actOnDecision timeSinceMeasurementReceive otaState decision

/-- What `handle_reading` does for the power policy once a publish is confirmed, with the seconds
since the measurement. -/
def afterPublish (power : PowerSave) (instantSecs elapsedSecs : UInt64) (queueEmpty : Bool)
    (otaState : OtaState) : Except ArithmeticFault (Option SleepOutcome) :=
  if otaState = .inactive then
    return some (← power.maybeSleepAfterPublish instantSecs queueEmpty (.fromSecs elapsedSecs)
      otaState)
  else return none

@[simp]
theorem stored_applySettings (settings : PowerSettings) (persist rearm : Bool)
    (instantSecs : UInt64) (power : PowerSave) :
    (applySettings settings persist rearm instantSecs power).stored = clampPowerConfig settings :=
  rfl

@[simp]
theorem stored_notifyUiActivity (instantSecs : UInt64) (power : PowerSave) :
    (notifyUiActivity instantSecs power).stored = power.stored := by
  unfold notifyUiActivity
  split_ifs <;> rfl

@[simp]
theorem persistedWord_notifyUiActivity (instantSecs : UInt64) (power : PowerSave) :
    (notifyUiActivity instantSecs power).persistedWord = power.persistedWord := by
  unfold notifyUiActivity
  split_ifs <;> rfl

theorem getSettings_eq (power : PowerSave) :
    power.getSettings = .ok (clampPowerConfig power.stored) := by
  rw [getSettings, checkedClamp_of_le (by decide), checkedClamp_of_le (by decide)]
  rfl

/-- The decision about the clamped settings that is reached when no update goes on. -/
def idleDecision (power : PowerSave) (instantSecs : UInt64) (queueEmpty : Bool) (age : Duration) :
    Except ArithmeticFault PredictiveSleepDecision :=
  predictiveSleepDecision queueEmpty age power.predictiveSleepEnabled
    (clampPowerConfig power.stored).sleepDurationSecs (nowSecs instantSecs) false
    power.uiIdleDeadlineSecs

theorem exists_idleDecision (power : PowerSave) (instantSecs : UInt64) (queueEmpty : Bool)
    (age : Duration) : ∃ decision, power.idleDecision instantSecs queueEmpty age = .ok decision :=
  ⟨_, predictiveSleepDecision_eq_ok⟩

section Publish

variable {power : PowerSave} {instantSecs : UInt64} {queueEmpty : Bool} {age : Duration}
  {otaState : OtaState}

/-- An update in any state, its confirmation included, keeps the firmware awake. -/
theorem maybeSleepAfterPublish_of_ota (ota : otaState ≠ .inactive) :
    power.maybeSleepAfterPublish instantSecs queueEmpty age otaState = .ok .otaInProgress := by
  have blocked : isOtaSleepBlocked otaState = true := decide_eq_true ota
  rw [maybeSleepAfterPublish, getSettings_eq]
  change (if isOtaSleepBlocked otaState = true then _ else _) = _
  rw [if_pos blocked]
  rfl

/-- Without an update the firmware acts on the decision. -/
theorem maybeSleepAfterPublish_of_decision {decision : PredictiveSleepDecision}
    (decided : power.idleDecision instantSecs queueEmpty age = .ok decision) :
    power.maybeSleepAfterPublish instantSecs queueEmpty age .inactive =
      actOnDecision age .inactive decision := by
  rw [maybeSleepAfterPublish, getSettings_eq]
  change (power.idleDecision instantSecs queueEmpty age >>= _) = _
  rw [decided]
  rfl

/-- Acting on a decision faults in one case: the age of a measurement that is too old is subtracted
from a minute, and may exceed it. -/
theorem actOnDecision_eq_error_iff {decision : PredictiveSleepDecision} {fault : ArithmeticFault} :
    actOnDecision age otaState decision = .error fault ↔
      decision = .measurementTooOld ∧ 60 < age.asSecs ∧ fault = .subtractWithOverflow := by
  cases decision with
  | measurementTooOld =>
      by_cases within : age.asSecs ≤ 60
      · rw [actOnDecision, checkedSub_of_le within]
        simp [UInt64.not_lt.mpr within, bind, pure, Except.bind, Except.pure]
      · rw [actOnDecision, checkedSub, if_neg within]
        simp [UInt64.not_le.mp within, bind, Except.bind, eq_comm]
  | otaUpdateInProgress =>
      unfold actOnDecision
      split_ifs <;> simp [pure, Except.pure]
  | _ => simp [actOnDecision, pure, Except.pure]

theorem actOnDecision_eq_deepSleep_iff {decision : PredictiveSleepDecision} {sleepSecs : UInt8} :
    actOnDecision age otaState decision = .ok (.deepSleep sleepSecs) ↔
      decision = .sleep sleepSecs := by
  cases decision with
  | measurementTooOld =>
      unfold actOnDecision checkedSub
      split_ifs <;> simp [bind, pure, Except.bind, Except.pure]
  | otaUpdateInProgress =>
      unfold actOnDecision
      split_ifs <;> simp [pure, Except.pure]
  | _ => simp [actOnDecision, pure, Except.pure]

/-- The one fault: without an update and with an empty queue, a measurement is over a minute old. -/
theorem maybeSleepAfterPublish_eq_error_iff {fault : ArithmeticFault} :
    power.maybeSleepAfterPublish instantSecs queueEmpty age otaState = .error fault ↔
      (otaState = .inactive ∧ queueEmpty = true ∧ 60 < age.asSecs) ∧
        fault = .subtractWithOverflow := by
  by_cases inactive : otaState = .inactive
  · subst inactive
    obtain ⟨decision, decided⟩ := power.exists_idleDecision instantSecs queueEmpty age
    rw [maybeSleepAfterPublish_of_decision decided, actOnDecision_eq_error_iff]
    constructor
    · rintro ⟨rfl, old, fault_eq⟩
      exact ⟨⟨rfl, (predictiveSleepDecision_eq_measurementTooOld_iff.mp decided).1, old⟩, fault_eq⟩
    · rintro ⟨⟨-, waiting, old⟩, fault_eq⟩
      have longer : Duration.fromSecs predictiveSleepMaxMeasurementAgeSecs < age :=
        Duration.fromSecs_lt_of_lt_asSecs (UInt64.lt_trans (by decide) old)
      rw [idleDecision,
        predictiveSleepDecision_eq_measurementTooOld_iff.mpr ⟨waiting, longer⟩] at decided
      exact ⟨(Except.ok.inj decided).symm, old, fault_eq⟩
  · rw [maybeSleepAfterPublish_of_ota inactive]
    simp [inactive]

/-- The firmware sleeps only when no update goes on, and as it was decided. -/
theorem maybeSleepAfterPublish_eq_deepSleep_iff {sleepSecs : UInt8} :
    power.maybeSleepAfterPublish instantSecs queueEmpty age otaState = .ok (.deepSleep sleepSecs) ↔
      otaState = .inactive ∧
        power.idleDecision instantSecs queueEmpty age = .ok (.sleep sleepSecs) := by
  by_cases inactive : otaState = .inactive
  · subst inactive
    obtain ⟨decision, decided⟩ := power.exists_idleDecision instantSecs queueEmpty age
    rw [maybeSleepAfterPublish_of_decision decided, actOnDecision_eq_deepSleep_iff, decided]
    simp
  · rw [maybeSleepAfterPublish_of_ota inactive]
    simp [inactive]

/-- After a publish the fault needs an age of more than sixty whole seconds. -/
theorem afterPublish_eq_error_iff {elapsedSecs : UInt64} {fault : ArithmeticFault} :
    power.afterPublish instantSecs elapsedSecs queueEmpty otaState = .error fault ↔
      (otaState = .inactive ∧ queueEmpty = true ∧ 60 < elapsedSecs) ∧
        fault = .subtractWithOverflow := by
  unfold afterPublish
  split_ifs with inactive
  · have faults : power.maybeSleepAfterPublish instantSecs queueEmpty (.fromSecs elapsedSecs)
        otaState = .error fault ↔ (otaState = .inactive ∧ queueEmpty = true ∧ 60 < elapsedSecs) ∧
          fault = .subtractWithOverflow :=
      maybeSleepAfterPublish_eq_error_iff
    rw [← faults]
    cases power.maybeSleepAfterPublish instantSecs queueEmpty (.fromSecs elapsedSecs) otaState with
    | error => simp [bind, Except.bind]
    | ok => simp [bind, pure, Except.bind, Except.pure]
  · simp [inactive, pure, Except.pure]

/-- No operation of the decision faults, and a decision to sleep keeps the receive window. -/
def DecidesSafely (queueEmpty : Bool) (age : Duration) (enabled : Bool)
    (configuredSleepSecs : UInt8) (nowSecs : UInt32) (otaUpdateInProgress : Bool)
    (deadlineSecs : UInt32) : Prop :=
  ∃ decision, predictiveSleepDecision queueEmpty age enabled configuredSleepSecs nowSecs
      otaUpdateInProgress deadlineSecs = .ok decision ∧
    ∀ sleepSecs, decision = .sleep sleepSecs → otaUpdateInProgress = false ∧
      KeepsReceiveWindow queueEmpty age enabled configuredSleepSecs nowSecs deadlineSecs sleepSecs

/-- No operation after a publish faults, and a deep sleep that is entered keeps the receive
window. -/
def SleepsSafely (power : PowerSave) (instantSecs : UInt64) (queueEmpty : Bool) (age : Duration)
    (otaState : OtaState) : Prop :=
  ∃ outcome, power.maybeSleepAfterPublish instantSecs queueEmpty age otaState = .ok outcome ∧
    ∀ sleepSecs, outcome = .deepSleep sleepSecs → otaState = .inactive ∧
      KeepsReceiveWindow queueEmpty age power.predictiveSleepEnabled power.sleepDurationSecs
        (nowSecs instantSecs) power.uiIdleDeadlineSecs sleepSecs

theorem decidesSafely {enabled otaUpdateInProgress : Bool} {configuredSleepSecs : UInt8}
    {nowSecs deadlineSecs : UInt32} :
    DecidesSafely queueEmpty age enabled configuredSleepSecs nowSecs otaUpdateInProgress
      deadlineSecs := by
  refine ⟨_, predictiveSleepDecision_eq_ok, ?_⟩
  intro sleepSecs decision_eq
  have sleeps : predictiveSleepDecision queueEmpty age enabled configuredSleepSecs nowSecs
      otaUpdateInProgress deadlineSecs = .ok (.sleep sleepSecs) := by
    rw [predictiveSleepDecision_eq_ok, decision_eq]
  exact ⟨(predictiveSleepDecision_eq_sleep_iff.mp sleeps).2.2.2.2.1,
    keepsReceiveWindow_of_sleep sleeps⟩

/-- A configured duration is not raised by the clamp, except from zero. -/
theorem keepsReceiveWindow_of_idleDecision {sleepSecs : UInt8}
    (sleeps : power.idleDecision instantSecs queueEmpty age = .ok (.sleep sleepSecs)) :
    KeepsReceiveWindow queueEmpty age power.predictiveSleepEnabled power.sleepDurationSecs
      (nowSecs instantSecs) power.uiIdleDeadlineSecs sleepSecs := by
  have keeps := keepsReceiveWindow_of_sleep sleeps
  refine { keeps with configured := ?_ }
  intro configured
  have positive : 1 ≤ (clampPowerConfig power.stored).sleepDurationSecs :=
    (clampByte_le (by decide) power.sleepDurationSecs).1
  exact UInt8.le_trans (keeps.configured positive) (clampByte_le_value configured)

end Publish

/-- The firmware decides without a fault and keeps the receive window unless, without an update and
with an empty queue, the measurement is over a minute old. -/
theorem sleeps_safely_iff (power : PowerSave) (instantSecs : UInt64) (queueEmpty : Bool)
    (age : Duration) (otaState : OtaState) :
    (DecidesSafely queueEmpty age power.predictiveSleepEnabled power.sleepDurationSecs
          (nowSecs instantSecs) (isOtaUpdateInProgress otaState) power.uiIdleDeadlineSecs ∧
        SleepsSafely power instantSecs queueEmpty age otaState) ↔
      ¬ (otaState = .inactive ∧ queueEmpty = true ∧ 60 < age.asSecs) := by
  constructor
  · rintro ⟨-, outcome, returned, -⟩ late
    rw [maybeSleepAfterPublish_eq_error_iff.mpr ⟨late, rfl⟩] at returned
    cases returned
  · intro timely
    refine ⟨decidesSafely, ?_⟩
    cases returned : power.maybeSleepAfterPublish instantSecs queueEmpty age otaState with
    | error fault => exact absurd (maybeSleepAfterPublish_eq_error_iff.mp returned).1 timely
    | ok outcome =>
        refine ⟨outcome, returned, ?_⟩
        rintro sleepSecs rfl
        obtain ⟨inactive, sleeps⟩ := maybeSleepAfterPublish_eq_deepSleep_iff.mp returned
        exact ⟨inactive, keepsReceiveWindow_of_idleDecision sleeps⟩

/-- A reading that was published a minute and a second after it was received. -/
theorem deferred_publish_faults : ¬ ∀ (power : PowerSave) (instantSecs : UInt64)
    (queueEmpty : Bool) (age : Duration) (otaState : OtaState),
    DecidesSafely queueEmpty age power.predictiveSleepEnabled power.sleepDurationSecs
        (nowSecs instantSecs) (isOtaUpdateInProgress otaState) power.uiIdleDeadlineSecs ∧
      SleepsSafely power instantSecs queueEmpty age otaState := by
  intro safe
  obtain ⟨outcome, returned, -⟩ := (safe (.initial 0) 100 true (.fromSecs 61) .inactive).2
  have faults : (PowerSave.initial 0).maybeSleepAfterPublish 100 true (.fromSecs 61) .inactive =
      .error .subtractWithOverflow := by decide
  rw [faults] at returned
  cases returned

end PowerSave
end Power
end Firmware
end Motonet
