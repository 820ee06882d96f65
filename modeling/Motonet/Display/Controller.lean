import Motonet.Display.Frame

/-!
# The display controller

The screen that is shown, the last reading, the settings as they are edited, and the menu in which
they are edited.
-/

namespace Motonet
namespace Display

open AppCore KaruMenu

/-- `DisplayLoopEvent`. -/
inductive DisplayLoopEvent
  | reading (reading : RadioReading)
  | navigation (event : UiEvent)
  | tick
  | ignore
  deriving DecidableEq, Repr

/-- `SettingsAction`. -/
inductive SettingsAction
  | save
  deriving DecidableEq, Repr

/-- The command of the display. -/
inductive AppCommand
  | applySettings (radio : RadioSettings) (power : PowerSettings)
  deriving DecidableEq, Repr

def settingsMenuCapacity : ℕ := 8
def thresholdItemIndex : ℕ := 0
def magnItemIndex : ℕ := 1
def bandwidthItemIndex : ℕ := 2
def carrierSenseItemIndex : ℕ := 3
def predictiveSleepItemIndex : ℕ := 4
def sleepDurationItemIndex : ℕ := 5
def uiIdleTimeoutItemIndex : ℕ := 6

/-- `SettingsMenu`. -/
abbrev SettingsMenu := Menu (MenuEntry UInt8 SettingsAction) settingsMenuCapacity

/-! ## Values as text -/

/-- `format_db`. -/
def formatDb (value : UInt8) : String := toString value.toNat ++ "dB"

/-- `format_magn_target`. -/
def formatMagnTarget (value : UInt8) : String :=
  let magnitudeDb : ℕ :=
    if value = 0 then 24
    else if value = 1 then 27
    else if value = 2 then 30
    else if value = 3 then 33
    else if value = 4 then 36
    else if value = 5 then 38
    else if value = 6 then 40
    else 42
  toString magnitudeDb ++ "dB"

/-- `format_bandwidth`. -/
def formatBandwidth (value : UInt8) : String :=
  toString ((channelBandwidthHz value).toNat / 1000) ++ "kHz"

/-- `format_on_off`. -/
def formatOnOff (value : UInt8) : String := if value = 0 then "Off" else "On"

/-- `format_seconds`. -/
def formatSeconds (value : UInt8) : String := toString value.toNat ++ "s"

/-! ## The menu of the settings -/

/-- `add_menu_item`: a full menu is left as it is. -/
def addMenuItem (menu : SettingsMenu) (item : MenuEntry UInt8 SettingsAction) : SettingsMenu :=
  match menu.add item with
  | .ok menu => menu
  | .error _ => menu

/-- `u8::from` of a truth value. -/
def byteOfBool (value : Bool) : UInt8 := if value then 1 else 0

/-- The entries of the settings menu, in the order of the index constants. -/
def settingsEntries (radio : RadioSettings) (power : PowerSettings) :
    List (MenuEntry UInt8 SettingsAction) :=
  [.numeric (.new "Threshold" radio.detectionThresholdDb detectionThresholdMinDb
      detectionThresholdMaxDb detectionThresholdStepDb formatDb),
    .numeric (.new "Magn Tgt" radio.magnTarget magnTargetMin magnTargetMax 1 formatMagnTarget),
    .numeric (.new "Bandwidth" radio.channelBandwidthIndex channelBandwidthMinIndex
      channelBandwidthMaxIndex 1 formatBandwidth),
    .numeric (.new "CS Thrsh" radio.carrierSenseThreshold carrierSenseMin carrierSenseMax 1
      formatDb),
    .numeric (.new "Pred Slp" (byteOfBool power.predictiveSleepEnabled) 0 1 1 formatOnOff),
    .numeric (.new "Sleep" power.sleepDurationSecs powerSleepDurationMinSecs
      powerSleepDurationMaxSecs 1 formatSeconds),
    .numeric (.new "UI Idle" power.uiIdleTimeoutSecs powerUiIdleTimeoutMinSecs
      powerUiIdleTimeoutMaxSecs 1 formatSeconds),
    .command ⟨"Save", .save⟩]

/-- `build_settings_menu`. -/
def buildSettingsMenu (radio : RadioSettings) (power : PowerSettings) : SettingsMenu :=
  (settingsEntries radio power).foldl addMenuItem (.new (.new 128 64))

/-- `numeric_value_at`. -/
def numericValueAt (menu : SettingsMenu) (index : ℕ) : Option UInt8 :=
  match menu.items[index]? with
  | some (.numeric item) => some item.pending
  | some (.command _) | none => none

/-- `sync_pending_from_menu` on the radio settings. -/
def syncPendingRadio (menu : SettingsMenu) (radio : RadioSettings) : RadioSettings where
  detectionThresholdDb :=
    (numericValueAt menu thresholdItemIndex).getD radio.detectionThresholdDb
  magnTarget := (numericValueAt menu magnItemIndex).getD radio.magnTarget
  channelBandwidthIndex :=
    (numericValueAt menu bandwidthItemIndex).getD radio.channelBandwidthIndex
  carrierSenseThreshold :=
    (numericValueAt menu carrierSenseItemIndex).getD radio.carrierSenseThreshold

/-- `sync_pending_from_menu` on the power settings. -/
def syncPendingPower (menu : SettingsMenu) (power : PowerSettings) : PowerSettings where
  predictiveSleepEnabled := (numericValueAt menu predictiveSleepItemIndex).any (· ≠ 0)
  sleepDurationSecs :=
    (numericValueAt menu sleepDurationItemIndex).getD power.sleepDurationSecs
  uiIdleTimeoutSecs :=
    (numericValueAt menu uiIdleTimeoutItemIndex).getD power.uiIdleTimeoutSecs

/-- `reset_settings_menu_for_entry`. -/
def resetSettingsMenuForEntry (menu : SettingsMenu) : SettingsMenu :=
  let menu := if menu.editing then (menu.handleEvent .select).2 else menu
  (menu.setSelected 0).2

/-- `settings_outcome_from_menu_event`. -/
def settingsOutcomeFromMenuEvent : MenuEvent SettingsAction → SettingsMenuOutcome
  | .valueChanged _ => .valueChanged
  | .actionSelected _ .save => .saveSelected
  | _ => .unchanged

/-! ## The controller -/

/-- `DisplayController`. -/
structure DisplayController where
  state : DisplayState
  lastReading : Option RadioReading
  pendingRadioSettings : RadioSettings
  pendingPowerSettings : PowerSettings
  settingsMenu : SettingsMenu
  lastFrame : Option FrameKey

namespace DisplayController

/-- `DisplayController::new`. -/
def new (initialRadioSettings : Option RadioSettings)
    (initialPowerSettings : Option PowerSettings) : DisplayController :=
  let radio := initialRadioSettings.getD defaultRadioSettings
  let power := initialPowerSettings.getD defaultPowerSettings
  let menu := buildSettingsMenu radio power
  { state := .main
    lastReading := none
    pendingRadioSettings := syncPendingRadio menu radio
    pendingPowerSettings := syncPendingPower menu power
    settingsMenu := menu
    lastFrame := none }

/-- `apply_transition` up to the new screen. -/
def enter (transition : Transition) (controller : DisplayController) : DisplayController :=
  let menu :=
    if transition.effects.resetSettingsMenu then
      resetSettingsMenuForEntry controller.settingsMenu
    else controller.settingsMenu
  { controller with
    state := transition.state
    settingsMenu := menu
    pendingRadioSettings :=
      if transition.effects.syncPendingSettings then
        syncPendingRadio menu controller.pendingRadioSettings
      else controller.pendingRadioSettings
    pendingPowerSettings :=
      if transition.effects.syncPendingSettings then
        syncPendingPower menu controller.pendingPowerSettings
      else controller.pendingPowerSettings }

/-- The part of `apply_transition` that saves. -/
def save (controller : DisplayController) : DisplayController :=
  { controller with
    pendingRadioSettings := clampRadioConfig controller.pendingRadioSettings
    pendingPowerSettings := clampPowerConfig controller.pendingPowerSettings
    settingsMenu := controller.settingsMenu.commitAll }

/-- `apply_transition`. -/
def applyTransition (transition : Transition) (controller : DisplayController) :
    Option AppCommand × DisplayController :=
  let controller := controller.enter transition
  if transition.effects.saveSettings then
    let controller := controller.save
    (some (.applySettings controller.pendingRadioSettings controller.pendingPowerSettings),
      controller)
  else (none, controller)

/-- `handle_event`. -/
def handleEvent (event : DisplayLoopEvent) (controller : DisplayController) :
    Option AppCommand × DisplayController :=
  match event with
  | .reading reading => (none, { controller with lastReading := some reading })
  | .navigation event =>
      if controller.state = .radio .settings then
        let (menuEvent, menu) := controller.settingsMenu.handleEvent event
        { controller with settingsMenu := menu }.applyTransition
          (reduceSettingsMenu controller.state (settingsOutcomeFromMenuEvent menuEvent))
      else controller.applyTransition (reduceNavigation controller.state event)
  | .tick | .ignore => (none, controller)

/-- `sync_from_watchers`. -/
def syncFromWatchers (radioSettings : Option RadioSettings) (powerSettings : Option PowerSettings)
    (controller : DisplayController) : DisplayController :=
  if controller.state = .radio .settings then controller
  else
    let radio := radioSettings.getD controller.pendingRadioSettings
    let power := powerSettings.getD controller.pendingPowerSettings
    { controller with
      pendingRadioSettings := radio
      pendingPowerSettings := power
      settingsMenu :=
        if radio ≠ controller.pendingRadioSettings ∨ power ≠ controller.pendingPowerSettings then
          buildSettingsMenu radio power
        else controller.settingsMenu }

/-- `derive_frame_key`. -/
def deriveFrameKey (timeSecs : Option UInt64) (controller : DisplayController) : FrameKey :=
  Display.deriveFrameKey controller.state controller.lastReading controller.pendingRadioSettings
    controller.pendingPowerSettings timeSecs controller.settingsMenu.selectedIndex
    controller.settingsMenu.editing

/-- `should_render`. -/
def shouldRender (frame : FrameKey) (controller : DisplayController) : Bool :=
  some frame ≠ controller.lastFrame

/-- `mark_rendered`. -/
def markRendered (frame : FrameKey) (controller : DisplayController) : DisplayController :=
  { controller with lastFrame := some frame }

end DisplayController
end Display
end Motonet
