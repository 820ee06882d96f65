import Motonet.AppCore.ConfigRules

/-!
# Runtime policies of `app-core`

Whether the firmware goes to deep sleep after a publish and for how long, and when the user counts
as idle.  A subtraction below zero and a clamp between bounds out of order have no result; the
functions that could perform one return an `ArithmeticFault` there.
-/

namespace Motonet
namespace AppCore

/-! ## Arithmetic -/

/-- An operation that has no result in its type. -/
inductive ArithmeticFault
  | subtractWithOverflow
  | clampBounds
  deriving DecidableEq, Repr

section Unsigned

variable {T : Type} [LE T] [DecidableLE T] [Sub T]

/-- The difference of two unsigned integers. -/
def checkedSub (left right : T) : Except ArithmeticFault T :=
  if right ≤ left then .ok (left - right) else .error .subtractWithOverflow

theorem checkedSub_of_le {left right : T} (ordered : right ≤ left) :
    checkedSub left right = .ok (left - right) :=
  if_pos ordered

end Unsigned

/-- `u8::clamp`, which asserts that its bounds are in order. -/
def checkedClamp (low high value : UInt8) : Except ArithmeticFault UInt8 :=
  if low ≤ high then .ok (clampByte low high value) else .error .clampBounds

theorem checkedClamp_of_le {low high : UInt8} (ordered : low ≤ high) (value : UInt8) :
    checkedClamp low high value = .ok (clampByte low high value) :=
  if_pos ordered

/-- `u64::saturating_sub`. -/
def saturatingSub (left right : UInt64) : UInt64 :=
  if right ≤ left then left - right else 0

theorem toNat_saturatingSub (left right : UInt64) :
    (saturatingSub left right).toNat = left.toNat - right.toNat := by
  unfold saturatingSub
  split_ifs with ordered
  · exact UInt64.toNat_sub_of_le _ _ ordered
  · have larger : left.toNat < right.toNat :=
      UInt64.lt_iff_toNat_lt.mp (UInt64.not_le.mp ordered)
    rw [Nat.sub_eq_zero_of_le (Nat.le_of_lt larger)]
    rfl

/-- `u8::try_from`, with the largest byte for what does not fit. -/
def byteOrMax (value : UInt64) : UInt8 :=
  if value.toNat < 2 ^ 8 then UInt8.ofNat value.toNat else 255

theorem toNat_byteOrMax (value : UInt64) : (byteOrMax value).toNat = min value.toNat 255 := by
  unfold byteOrMax
  split_ifs with fits
  · rw [UInt8.toNat_ofNat_of_lt' fits, Nat.min_eq_left (Nat.le_of_lt_succ fits)]
  · rw [Nat.min_eq_right (Nat.le_trans (Nat.le_succ 255) (Nat.not_lt.mp fits))]
    rfl

theorem toNat_min (left right : UInt8) : (min left right).toNat = min left.toNat right.toNat := by
  change (if left ≤ right then left else right).toNat = _
  split_ifs with ordered
  · exact (Nat.min_eq_left (UInt8.le_iff_toNat_le.mp ordered)).symm
  · have smaller := UInt8.lt_iff_toNat_lt.mp (UInt8.not_le.mp ordered)
    exact (Nat.min_eq_right (Nat.le_of_lt smaller)).symm

/-- `u32::try_from`, with the largest word for what does not fit. -/
def wordOrMax (value : UInt64) : UInt32 :=
  if value.toNat < 2 ^ 32 then UInt32.ofNat value.toNat else 0xffffffff

/-- `u32::saturating_add`. -/
def saturatingAddWord (left right : UInt32) : UInt32 :=
  if left.toNat + right.toNat < 2 ^ 32 then left + right else 0xffffffff

/-! ## Durations -/

/-- `core::time::Duration`. -/
structure Duration where
  secs : UInt64
  nanos : UInt32
  nanos_lt : nanos.toNat < 10 ^ 9
  deriving DecidableEq, Repr

namespace Duration

def fromSecs (secs : UInt64) : Duration := ⟨secs, 0, Nat.pow_pos (Nat.zero_lt_succ 9)⟩

/-- The whole seconds. -/
def asSecs (duration : Duration) : UInt64 := duration.secs

instance : LT Duration where
  lt left right := left.secs < right.secs ∨ left.secs = right.secs ∧ left.nanos < right.nanos

instance (left right : Duration) : Decidable (left < right) :=
  inferInstanceAs
    (Decidable (left.secs < right.secs ∨ left.secs = right.secs ∧ left.nanos < right.nanos))

/-- A duration that is not longer than a number of seconds has no more whole seconds. -/
theorem asSecs_le_of_not_lt {secs : UInt64} {duration : Duration}
    (within : ¬ fromSecs secs < duration) : duration.asSecs ≤ secs := by
  by_contra longer
  exact within (Or.inl (UInt64.not_le.mp longer))

/-- A duration with more whole seconds is longer. -/
theorem fromSecs_lt_of_lt_asSecs {secs : UInt64} {duration : Duration}
    (longer : secs < duration.asSecs) : fromSecs secs < duration :=
  Or.inl longer

end Duration

/-! ## Predictive sleep -/

def predictiveSleepMaxMeasurementAgeSecs : UInt64 := 20

/-- The largest duration of a sleep that ends ten seconds before the next measurement. -/
def predictiveSleepWindowCapSecs (timeSinceMeasurementReceive : Duration) : UInt8 :=
  let windowSecs := saturatingSub (saturatingSub 60 timeSinceMeasurementReceive.asSecs) 10
  min powerSleepDurationMaxSecs (byteOrMax windowSecs)

inductive PredictiveSleepDecision
  | queueNotEmpty
  | measurementTooOld
  | predictiveSleepDisabled
  | uiIdleDeadlineNotElapsed (idleRemainingSecs : UInt32)
  | otaUpdateInProgress
  | sleep (sleepSecs : UInt8)
  deriving DecidableEq, Repr

def predictiveSleepDecision (queueEmpty : Bool) (timeSinceMeasurementReceive : Duration)
    (predictiveSleepEnabled : Bool) (configuredSleepSecs : UInt8) (nowSecs : UInt32)
    (otaUpdateInProgress : Bool) (uiIdleDeadlineSecs : UInt32) :
    Except ArithmeticFault PredictiveSleepDecision :=
  if !queueEmpty then return .queueNotEmpty
  else if .fromSecs predictiveSleepMaxMeasurementAgeSecs < timeSinceMeasurementReceive then
    return .measurementTooOld
  else if !predictiveSleepEnabled then return .predictiveSleepDisabled
  else if nowSecs < uiIdleDeadlineSecs then
    return .uiIdleDeadlineNotElapsed (← checkedSub uiIdleDeadlineSecs nowSecs)
  else if otaUpdateInProgress then return .otaUpdateInProgress
  else do
    let maxSleepSecs := predictiveSleepWindowCapSecs timeSinceMeasurementReceive
    return .sleep (← checkedClamp powerSleepDurationMinSecs maxSleepSecs configuredSleepSecs)

/-- The cap is what is left of fifty seconds; the largest configured duration never binds. -/
theorem toNat_predictiveSleepWindowCapSecs (age : Duration) :
    (predictiveSleepWindowCapSecs age).toNat = 50 - age.asSecs.toNat := by
  have window : (saturatingSub (saturatingSub 60 age.asSecs) 10).toNat =
      60 - age.asSecs.toNat - 10 := by
    rw [toNat_saturatingSub, toNat_saturatingSub]
    rfl
  rw [predictiveSleepWindowCapSecs, toNat_min, toNat_byteOrMax, window]
  change min 59 (min (60 - age.asSecs.toNat - 10) 255) = 50 - age.asSecs.toNat
  omega

/-- An age that is not too old leaves room for the shortest sleep. -/
theorem powerSleepDurationMinSecs_le_cap {age : Duration}
    (recent : ¬ Duration.fromSecs predictiveSleepMaxMeasurementAgeSecs < age) :
    powerSleepDurationMinSecs ≤ predictiveSleepWindowCapSecs age := by
  have young : age.asSecs.toNat ≤ 20 :=
    UInt64.le_iff_toNat_le.mp (Duration.asSecs_le_of_not_lt recent)
  rw [UInt8.le_iff_toNat_le, toNat_predictiveSleepWindowCapSecs]
  change 1 ≤ 50 - age.asSecs.toNat
  omega

/-- What is required of a sleep: why it may begin, and that it ends before the next measurement. -/
structure KeepsReceiveWindow (queueEmpty : Bool) (age : Duration) (predictiveSleepEnabled : Bool)
    (configuredSleepSecs : UInt8) (nowSecs deadlineSecs : UInt32) (sleepSecs : UInt8) : Prop where
  drained : queueEmpty = true
  enabled : predictiveSleepEnabled = true
  idle : deadlineSecs ≤ nowSecs
  least : 1 ≤ sleepSecs
  greatest : sleepSecs ≤ 59
  configured : 1 ≤ configuredSleepSecs → sleepSecs ≤ configuredSleepSecs
  window : age.asSecs.toNat + sleepSecs.toNat ≤ 50

section Decision

variable {queueEmpty enabled otaUpdateInProgress : Bool} {age : Duration}
  {configuredSleepSecs : UInt8} {nowSecs deadlineSecs : UInt32}

/-- No decision faults: the remaining time is taken of a deadline ahead, and the bounds of the
clamp are in order for every age that is not too old. -/
theorem predictiveSleepDecision_eq_ok :
    predictiveSleepDecision queueEmpty age enabled configuredSleepSecs nowSecs
        otaUpdateInProgress deadlineSecs =
      .ok (if queueEmpty = false then .queueNotEmpty
        else if .fromSecs predictiveSleepMaxMeasurementAgeSecs < age then .measurementTooOld
        else if enabled = false then .predictiveSleepDisabled
        else if nowSecs < deadlineSecs then .uiIdleDeadlineNotElapsed (deadlineSecs - nowSecs)
        else if otaUpdateInProgress = true then .otaUpdateInProgress
        else .sleep (clampByte powerSleepDurationMinSecs (predictiveSleepWindowCapSecs age)
          configuredSleepSecs)) := by
  simp only [predictiveSleepDecision, Bool.not_eq_true']
  split_ifs with waiting old disabled active updating
  · rfl
  · rfl
  · rfl
  · rw [checkedSub_of_le (UInt32.le_of_lt active)]
    rfl
  · rfl
  · rw [checkedClamp_of_le (powerSleepDurationMinSecs_le_cap old)]
    rfl

/-- When the decision is that the measurement is too old. -/
theorem predictiveSleepDecision_eq_measurementTooOld_iff :
    predictiveSleepDecision queueEmpty age enabled configuredSleepSecs nowSecs
        otaUpdateInProgress deadlineSecs = .ok .measurementTooOld ↔
      queueEmpty = true ∧ Duration.fromSecs predictiveSleepMaxMeasurementAgeSecs < age := by
  rw [predictiveSleepDecision_eq_ok, Except.ok.injEq]
  split_ifs with waiting old
  · simp [waiting]
  · simp [waiting, old]
  all_goals simp [old]

/-- When the decision is to sleep, and for how long. -/
theorem predictiveSleepDecision_eq_sleep_iff {sleepSecs : UInt8} :
    predictiveSleepDecision queueEmpty age enabled configuredSleepSecs nowSecs
        otaUpdateInProgress deadlineSecs = .ok (.sleep sleepSecs) ↔
      queueEmpty = true ∧ ¬ Duration.fromSecs predictiveSleepMaxMeasurementAgeSecs < age ∧
        enabled = true ∧ deadlineSecs ≤ nowSecs ∧ otaUpdateInProgress = false ∧
          sleepSecs = clampByte powerSleepDurationMinSecs (predictiveSleepWindowCapSecs age)
            configuredSleepSecs := by
  rw [predictiveSleepDecision_eq_ok, Except.ok.injEq]
  split_ifs with waiting old disabled active updating
  · simp [waiting]
  · simp [old]
  · simp [disabled]
  · simp only [UInt32.not_le.mpr active, false_and, and_false]
  · simp [updating]
  · simp [waiting, old, disabled, UInt32.not_lt.mp active, updating, eq_comm]

/-- A decision to sleep is taken with an empty queue, with predictive sleep enabled and without an
active user, and the sleep ends ten seconds before the next measurement. -/
theorem keepsReceiveWindow_of_sleep {sleepSecs : UInt8}
    (sleeps : predictiveSleepDecision queueEmpty age enabled configuredSleepSecs nowSecs
      otaUpdateInProgress deadlineSecs = .ok (.sleep sleepSecs)) :
    KeepsReceiveWindow queueEmpty age enabled configuredSleepSecs nowSecs deadlineSecs
      sleepSecs := by
  obtain ⟨drained, recent, enabled_eq, idle, -, sleepSecs_eq⟩ :=
    predictiveSleepDecision_eq_sleep_iff.mp sleeps
  obtain ⟨least, greatest⟩ :=
    clampByte_le (powerSleepDurationMinSecs_le_cap recent) configuredSleepSecs
  rw [← sleepSecs_eq] at least greatest
  have within : sleepSecs.toNat ≤ 50 - age.asSecs.toNat := by
    rw [← toNat_predictiveSleepWindowCapSecs]
    exact UInt8.le_iff_toNat_le.mp greatest
  have positive : 1 ≤ sleepSecs.toNat := UInt8.le_iff_toNat_le.mp least
  have below : sleepSecs.toNat ≤ 59 := by omega
  exact {
    drained := drained
    enabled := enabled_eq
    idle := idle
    least := least
    greatest := UInt8.le_iff_toNat_le.mpr below
    configured := by
      intro configured
      rw [sleepSecs_eq]
      exact clampByte_le_value configured
    window := by omega }

end Decision

/-- The deadline until which the user counts as active: only rearming the countdown puts it off. -/
def nextUiIdleDeadlineSecs (predictiveSleepEnabled rearmIdleCountdown : Bool)
    (nowSecs currentDeadlineSecs : UInt32) (uiIdleTimeoutSecs : UInt8) : UInt32 :=
  if !predictiveSleepEnabled then 0
  else
    let maxDeadline := saturatingAddWord nowSecs uiIdleTimeoutSecs.toUInt32
    if rearmIdleCountdown then maxDeadline else min currentDeadlineSecs maxDeadline

end AppCore
end Motonet
