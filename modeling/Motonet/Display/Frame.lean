import Motonet.AppCore.ConfigRules
import Motonet.KaruMenu.Integers
import Motonet.KaruMenu.Menu
import Motonet.Rubicson.Decoder

/-!
# Screens and frames

The screens and how they follow one another, and the frame key, by which two pictures of a screen
are compared without drawing them.
-/

namespace Motonet
namespace Display

open AppCore KaruMenu Rubicson

/-- `RadioReading`, without the time at which it was received. -/
structure RadioReading where
  inner : RubicsonReading
  rssi : ℤ
  detectionThreshold : UInt8
  deriving DecidableEq, Repr

/-! ## `state.rs` -/

/-- `RadioState`. -/
inductive RadioState
  | overview
  | settings
  deriving DecidableEq, Repr

/-- `DisplayState`. -/
inductive DisplayState
  | main
  | radio (state : RadioState)
  deriving DecidableEq, Repr

/-- `SettingsMenuOutcome`. -/
inductive SettingsMenuOutcome
  | unchanged
  | valueChanged
  | saveSelected
  deriving DecidableEq, Repr

/-- `TransitionEffects`. -/
structure TransitionEffects where
  resetSettingsMenu : Bool
  syncPendingSettings : Bool
  saveSettings : Bool
  deriving DecidableEq, Repr

namespace TransitionEffects

def none : TransitionEffects := ⟨false, false, false⟩
def resetMenu : TransitionEffects := ⟨true, false, false⟩
def syncPending : TransitionEffects := ⟨false, true, false⟩
def save : TransitionEffects := ⟨false, true, true⟩

end TransitionEffects

/-- `Transition`. -/
structure Transition where
  state : DisplayState
  effects : TransitionEffects
  deriving DecidableEq, Repr

/-- `reduce_navigation`. -/
def reduceNavigation : DisplayState → UiEvent → Transition
  | .main, .nextScreen | .main, .prevScreen => ⟨.radio .overview, .none⟩
  | .main, .select => ⟨.radio .settings, .resetMenu⟩
  | .radio .overview, .nextScreen | .radio .overview, .prevScreen => ⟨.main, .none⟩
  | .radio .overview, .select => ⟨.radio .settings, .resetMenu⟩
  | .radio .settings, _ => ⟨.radio .settings, .none⟩

/-- `reduce_settings_menu`. -/
def reduceSettingsMenu (state : DisplayState) (outcome : SettingsMenuOutcome) : Transition :=
  if state ≠ .radio .settings then ⟨state, .none⟩
  else
    match outcome with
    | .unchanged => ⟨state, .none⟩
    | .valueChanged => ⟨state, .syncPending⟩
    | .saveSelected => ⟨.radio .overview, .save⟩

/-! ## `frame_model.rs` and `frame_map.rs` -/

/-- `MainFrameKey`. -/
structure MainFrameKey where
  tempDeci : ℤ
  sensorId : Byte
  channel : Byte
  batteryOk : Bool
  timeSecs : Option UInt64
  deriving DecidableEq, Repr

/-- `SettingsFrameKey`. -/
structure SettingsFrameKey where
  navIndex : ℕ
  editing : Bool
  threshold : UInt8
  magn : UInt8
  bandwidthIndex : UInt8
  carrierSense : UInt8
  predictiveSleepEnabled : Bool
  sleepDurationSecs : UInt8
  uiIdleTimeoutSecs : UInt8
  deriving DecidableEq, Repr

/-- `RadioFrameKey`. -/
inductive RadioFrameKey
  | overview (rssi : Option ℤ) (detectionThreshold : UInt8)
  | settings (key : SettingsFrameKey)
  deriving DecidableEq, Repr

/-- `FrameKey`. -/
inductive FrameKey
  | waiting
  | main (key : MainFrameKey)
  | radio (key : RadioFrameKey)
  deriving DecidableEq, Repr

/-- `temp_to_deci`: a tenth of an integer that is multiplied by ten again is that integer, also in
`f32`. -/
def tempToDeci (temperatureRaw : ℤ) : ℤ := temperatureRaw

/-- `frame_map::derive_frame_key`, with `derive_frame`. -/
def deriveFrameKey (state : DisplayState) (reading : Option RadioReading) (radio : RadioSettings)
    (power : PowerSettings) (timeSecs : Option UInt64) (settingsNavIndex : ℕ)
    (settingsEditing : Bool) : FrameKey :=
  match state with
  | .main =>
      match reading with
      | none => .waiting
      | some reading =>
          .main {
            tempDeci := tempToDeci reading.inner.temperatureRaw
            sensorId := reading.inner.id
            channel := reading.inner.channel
            batteryOk := reading.inner.batteryOk
            timeSecs := timeSecs }
  | .radio .overview =>
      .radio (.overview (reading.map RadioReading.rssi)
        ((reading.map RadioReading.detectionThreshold).getD radio.detectionThresholdDb))
  | .radio .settings =>
      .radio (.settings {
        navIndex := min settingsNavIndex 255
        editing := settingsEditing
        threshold := radio.detectionThresholdDb
        magn := radio.magnTarget
        bandwidthIndex := radio.channelBandwidthIndex
        carrierSense := radio.carrierSenseThreshold
        predictiveSleepEnabled := power.predictiveSleepEnabled
        sleepDurationSecs := power.sleepDurationSecs
        uiIdleTimeoutSecs := power.uiIdleTimeoutSecs })

end Display
end Motonet
