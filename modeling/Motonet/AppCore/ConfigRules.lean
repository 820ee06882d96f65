import Mathlib.Algebra.Group.Nat.Defs
import Mathlib.Data.List.Basic
import Mathlib.Tactic.Common
import Mathlib.Tactic.SplitIfs

/-!
# Ranges of the settings

The values that the settings of the radio and of the power policy may take, and how a value outside
its range is clamped.
-/

namespace Motonet
namespace AppCore

def detectionThresholdMinDb : UInt8 := 4
def detectionThresholdMaxDb : UInt8 := 16
def detectionThresholdStepDb : UInt8 := 4
def magnTargetMin : UInt8 := 0
def magnTargetMax : UInt8 := 7
def channelBandwidthMinIndex : UInt8 := 0
def channelBandwidthMaxIndex : UInt8 := 3
def carrierSenseMin : UInt8 := 0
def carrierSenseMax : UInt8 := 7
def defaultDetectionThresholdDb : UInt8 := 4
def defaultMagnTarget : UInt8 := 3
def defaultChannelBandwidthIndex : UInt8 := 1
def defaultChannelBandwidthHz : UInt32 := 203000
def defaultCarrierSenseThreshold : UInt8 := carrierSenseMax

/-- The settings of the radio, as `RadioSettings`, as `RadioConfigView` and as
`RadioSettingsPayload`. -/
@[ext]
structure RadioSettings where
  detectionThresholdDb : UInt8
  magnTarget : UInt8
  channelBandwidthIndex : UInt8
  carrierSenseThreshold : UInt8
  deriving DecidableEq, Repr

def defaultRadioSettings : RadioSettings where
  detectionThresholdDb := defaultDetectionThresholdDb
  magnTarget := defaultMagnTarget
  channelBandwidthIndex := defaultChannelBandwidthIndex
  carrierSenseThreshold := defaultCarrierSenseThreshold

def powerSleepDurationMinSecs : UInt8 := 1
def powerSleepDurationMaxSecs : UInt8 := 59
def powerUiIdleTimeoutMinSecs : UInt8 := 5
def powerUiIdleTimeoutMaxSecs : UInt8 := 180

/-- The settings of the power policy, as `PowerSettings` and as `PowerConfigView`. -/
@[ext]
structure PowerSettings where
  predictiveSleepEnabled : Bool
  sleepDurationSecs : UInt8
  uiIdleTimeoutSecs : UInt8
  deriving DecidableEq, Repr

def defaultPowerSettings : PowerSettings where
  predictiveSleepEnabled := true
  sleepDurationSecs := 45
  uiIdleTimeoutSecs := 60

/-- Quantize a detection threshold to the decision boundaries of the hardware. -/
def quantizeDetectionThresholdDb (db : UInt8) : UInt8 :=
  if db ≤ 6 then 4 else if db ≤ 10 then 8 else if db ≤ 14 then 12 else 16

/-- `u8::clamp`. -/
def clampByte (low high value : UInt8) : UInt8 :=
  if value < low then low else if high < value then high else value

/-- Bring settings of the radio into their ranges. -/
def clampRadioConfig (settings : RadioSettings) : RadioSettings where
  detectionThresholdDb := quantizeDetectionThresholdDb settings.detectionThresholdDb
  magnTarget := clampByte magnTargetMin magnTargetMax settings.magnTarget
  channelBandwidthIndex :=
    clampByte channelBandwidthMinIndex channelBandwidthMaxIndex settings.channelBandwidthIndex
  carrierSenseThreshold :=
    clampByte carrierSenseMin carrierSenseMax settings.carrierSenseThreshold

/-- Bring settings of the power policy into their ranges. -/
def clampPowerConfig (settings : PowerSettings) : PowerSettings where
  predictiveSleepEnabled := settings.predictiveSleepEnabled
  sleepDurationSecs :=
    clampByte powerSleepDurationMinSecs powerSleepDurationMaxSecs settings.sleepDurationSecs
  uiIdleTimeoutSecs :=
    clampByte powerUiIdleTimeoutMinSecs powerUiIdleTimeoutMaxSecs settings.uiIdleTimeoutSecs

/-- The channel bandwidth of an index. -/
def channelBandwidthHz (index : UInt8) : UInt32 :=
  if index = 0 then 325000
  else if index = 1 then 203000
  else if index = 2 then 162000
  else if index = 3 then 135000
  else defaultChannelBandwidthHz

/-- The index of a channel bandwidth. -/
def channelBandwidthIndex (bandwidthHz : UInt32) : UInt8 :=
  if bandwidthHz = 325000 then 0
  else if bandwidthHz = 203000 then 1
  else if bandwidthHz = 162000 then 2
  else if bandwidthHz = 135000 then 3
  else defaultChannelBandwidthIndex

theorem quantizeDetectionThresholdDb_mem (db : UInt8) :
    quantizeDetectionThresholdDb db = 4 ∨ quantizeDetectionThresholdDb db = 8 ∨
      quantizeDetectionThresholdDb db = 12 ∨ quantizeDetectionThresholdDb db = 16 := by
  unfold quantizeDetectionThresholdDb
  split_ifs <;> simp

@[simp]
theorem quantizeDetectionThresholdDb_idem (db : UInt8) :
    quantizeDetectionThresholdDb (quantizeDetectionThresholdDb db) =
      quantizeDetectionThresholdDb db := by
  rcases quantizeDetectionThresholdDb_mem db with db | db | db | db <;> rw [db] <;> rfl

theorem clampByte_le {low high : UInt8} (ordered : low ≤ high) (value : UInt8) :
    low ≤ clampByte low high value ∧ clampByte low high value ≤ high := by
  unfold clampByte
  split_ifs with below above
  · exact ⟨UInt8.le_refl low, ordered⟩
  · exact ⟨ordered, UInt8.le_refl high⟩
  · exact ⟨UInt8.not_lt.mp below, UInt8.not_lt.mp above⟩

theorem clampByte_of_le {low high value : UInt8} (above : low ≤ value) (below : value ≤ high) :
    clampByte low high value = value := by
  rw [clampByte, if_neg (UInt8.not_lt.mpr above), if_neg (UInt8.not_lt.mpr below)]

/-- Clamping does not raise a value that has reached the lower bound. -/
theorem clampByte_le_value {low high value : UInt8} (above : low ≤ value) :
    clampByte low high value ≤ value := by
  rw [clampByte, if_neg (UInt8.not_lt.mpr above)]
  split_ifs with beyond
  · exact UInt8.le_of_lt beyond
  · exact UInt8.le_refl value

/-- From zero on, clamping is taking the minimum. -/
theorem clampByte_zero (high value : UInt8) : clampByte 0 high value = min value high := by
  rw [clampByte, if_neg (UInt8.not_lt.mpr UInt8.zero_le)]
  change _ = if value ≤ high then value else high
  split_ifs with above below below
  · exact absurd below (UInt8.not_le.mpr above)
  · rfl
  · rfl
  · exact absurd (UInt8.not_lt.mp above) below

theorem min_le_bound (value high : UInt8) : min value high ≤ high := by
  rw [← clampByte_zero]
  exact (clampByte_le UInt8.zero_le value).2

@[simp]
theorem clampByte_idem {low high : UInt8} (ordered : low ≤ high) (value : UInt8) :
    clampByte low high (clampByte low high value) = clampByte low high value :=
  clampByte_of_le (clampByte_le ordered value).1 (clampByte_le ordered value).2

/-- Clamped settings are within their ranges. -/
theorem clampRadioConfig_le (settings : RadioSettings) :
    (clampRadioConfig settings).magnTarget ≤ magnTargetMax ∧
      (clampRadioConfig settings).channelBandwidthIndex ≤ channelBandwidthMaxIndex ∧
        (clampRadioConfig settings).carrierSenseThreshold ≤ carrierSenseMax :=
  ⟨(clampByte_le UInt8.zero_le _).2, (clampByte_le UInt8.zero_le _).2,
    (clampByte_le UInt8.zero_le _).2⟩

@[simp]
theorem clampRadioConfig_idem (settings : RadioSettings) :
    clampRadioConfig (clampRadioConfig settings) = clampRadioConfig settings := by
  simp [clampRadioConfig, magnTargetMin, magnTargetMax, channelBandwidthMinIndex,
    channelBandwidthMaxIndex, carrierSenseMin, carrierSenseMax]

theorem channelBandwidthIndex_le (bandwidthHz : UInt32) :
    channelBandwidthIndex bandwidthHz ≤ channelBandwidthMaxIndex := by
  unfold channelBandwidthIndex
  split_ifs <;> decide

end AppCore
end Motonet
