import Motonet.Display.SettingsScreen
import Motonet.EuDst.Timezone

/-!
# Pictures

What the display draws for a controller.  A picture is a call of the driver with its arguments, of
which the drawing is a function.
-/

namespace Motonet
namespace Display

open AppCore KaruMenu Rubicson

/-- `TimeReference`, without the instant of its capture. -/
structure TimeReference where
  unixSecs : UInt64
  deriving DecidableEq, Repr

/-- `now_unix_secs`, by the whole seconds since the capture. -/
def TimeReference.nowUnixSecs (elapsedSecs : UInt64) (reference : TimeReference) : UInt64 :=
  reference.unixSecs + elapsedSecs

/-- A number with two digits. -/
def twoDigits (number : ℕ) : String :=
  if number < 10 then "0" ++ toString number else toString number

/-- The text of `format_time`. -/
def formatTime (unixSecs : UInt64) : String :=
  let (hours, minutes, seconds) := EuDst.Timezone.EET.toLocalHms unixSecs
  twoDigits hours ++ ":" ++ twoDigits minutes ++ ":" ++ twoDigits seconds

/-- The calls with which the display is drawn.  The temperature is in tenths of a degree, and
`show_radio_info` does not use its threshold. -/
inductive Picture
  | status (message : String)
  | temperature (temperatureRaw : ℤ) (sensorId channel : Byte) (batteryOk : Bool)
      (timestamp : Option String)
  | radioInfo (rssi : Option ℤ)
  | menu (title : String) (items : List RenderItem) (indicator : Option ScrollIndicator)
  deriving DecidableEq

/-- What `display_task` draws for a controller, at a time. -/
def DisplayController.picture (timeSecs : Option UInt64) (controller : DisplayController) :
    Picture :=
  match controller.state with
  | .main =>
      match controller.lastReading with
      | some reading => .temperature reading.inner.temperatureRaw reading.inner.id
          reading.inner.channel reading.inner.batteryOk (timeSecs.map formatTime)
      | none => .status "Waiting..."
  | .radio .overview => .radioInfo (controller.lastReading.map RadioReading.rssi)
  | .radio .settings =>
      .menu "SETTINGS" controller.settingsMenu.renderItems controller.settingsMenu.scrollIndicator

/-! ## What is left alone -/

namespace DisplayController

theorem applyTransition_lastFrame (transition : Transition) (controller : DisplayController) :
    (controller.applyTransition transition).2.lastFrame = controller.lastFrame := by
  unfold applyTransition
  dsimp only
  split <;> rfl

/-- Only `mark_rendered` marks a frame. -/
theorem handleEvent_lastFrame (event : DisplayLoopEvent) (controller : DisplayController) :
    (controller.handleEvent event).2.lastFrame = controller.lastFrame := by
  cases event with
  | reading | tick | ignore => rfl
  | navigation event =>
      unfold handleEvent
      dsimp only
      split
      · exact applyTransition_lastFrame _ _
      · exact applyTransition_lastFrame _ _

/-- The watches change neither the marked frame nor the state. -/
theorem syncFromWatchers_frame (radio : Option RadioSettings) (power : Option PowerSettings)
    (controller : DisplayController) :
    (controller.syncFromWatchers radio power).lastFrame = controller.lastFrame ∧
      (controller.syncFromWatchers radio power).state = controller.state := by
  rcases syncFromWatchers_cases radio power controller with same | ⟨menu, synced, -⟩
  · rw [same]
    exact ⟨rfl, rfl⟩
  · rw [synced]
    exact ⟨rfl, rfl⟩

end DisplayController

/-! ## The frame key determines the picture -/

namespace DisplayController

variable {before after : DisplayController} {timeBefore timeAfter : Option UInt64}

/-- Away from the settings screen, frames of one key have one picture. -/
theorem picture_eq_of_key (elsewhere : after.state ≠ .radio .settings)
    (same : after.deriveFrameKey timeAfter = before.deriveFrameKey timeBefore) :
    after.picture timeAfter = before.picture timeBefore := by
  obtain ⟨afterState, afterReading, _, _, _, _⟩ := after
  obtain ⟨beforeState, beforeReading, _, _, _, _⟩ := before
  cases afterState with
  | main =>
      cases beforeState with
      | main =>
          cases afterReading <;> cases beforeReading <;>
            simp_all [deriveFrameKey, Display.deriveFrameKey, picture, tempToDeci]
      | radio screen => cases screen <;> cases afterReading <;> cases same
  | radio screen =>
      cases screen with
      | overview =>
          cases beforeState with
          | main => cases beforeReading <;> cases same
          | radio screen =>
              cases screen <;>
                simp_all [deriveFrameKey, Display.deriveFrameKey, picture]
      | settings => exact absurd rfl elsewhere

/-- A frame of the settings has the key of a frame of the settings only. -/
theorem state_of_key (settings : after.state = .radio .settings)
    (same : after.deriveFrameKey timeAfter = before.deriveFrameKey timeBefore) :
    before.state = .radio .settings := by
  obtain ⟨afterState, _, _, _, _, _⟩ := after
  obtain ⟨beforeState, beforeReading, _, _, _, _⟩ := before
  cases settings
  cases beforeState with
  | main => cases beforeReading <;> cases same
  | radio screen =>
      cases screen with
      | overview => cases same
      | settings => rfl

end DisplayController

/-! ## The texts of the settings -/

/-- The texts of the values up to a bound tell the values apart. -/
def Distinct (formatter : UInt8 → String) (high : UInt8) : Prop :=
  ∀ left right, left ≤ high → right ≤ high → formatter left = formatter right → left = right

/-- A number with a unit behind it is read back. -/
theorem distinct_unit (unit : String) (high : UInt8) :
    Distinct (fun value => toString value.toNat ++ unit) high := by
  intro left right _ _ same
  have digits (number : ℕ) : (toString number).toList = Nat.toDigits 10 number :=
    Nat.toList_repr
  have numbers : toString left.toNat = toString right.toNat :=
    (String.append_left_inj unit).mp same
  rw [← UInt8.toNat_inj, ← Nat.ofDigitChars_ten_toDigits (n := left.toNat), ← digits, numbers,
    digits, Nat.ofDigitChars_ten_toDigits]

/-- The texts of a few values are compared one by one. -/
theorem distinct_of_few {formatter : UInt8 → String} {high : UInt8}
    (few : ∀ left right : Fin (high.toNat + 1),
      formatter (.ofNat left) = formatter (.ofNat right) → left = right) :
    Distinct formatter high := by
  intro left right left_le right_le same
  rw [← UInt8.ofNat_toNat (x := left), ← UInt8.ofNat_toNat (x := right)] at same
  have numbers := few ⟨left.toNat, Nat.lt_succ_of_le (UInt8.le_iff_toNat_le.mp left_le)⟩
    ⟨right.toNat, Nat.lt_succ_of_le (UInt8.le_iff_toNat_le.mp right_le)⟩ same
  exact UInt8.toNat_inj.mp (Fin.mk.inj numbers)

/-- A number is within its bounds, and its text tells it apart from the others within them. -/
def Legible : MenuEntry UInt8 SettingsAction → Prop
  | .numeric item => item.min ≤ item.pending ∧ item.pending ≤ item.max ∧
      Distinct item.formatter item.max
  | .command _ => True

theorem legible_new (label : String) (value step : UInt8) {low high : UInt8}
    {formatter : UInt8 → String} (ordered : low ≤ high) (distinct : Distinct formatter high) :
    Legible (.numeric (.new label value low high step formatter)) :=
  ⟨(clampByte_le ordered value).1, (clampByte_le ordered value).2, distinct⟩

theorem legible_settingsEntries (radio : RadioSettings) (power : PowerSettings) :
    ∀ entry ∈ settingsEntries radio power, Legible entry := by
  intro entry member
  simp only [settingsEntries, List.mem_cons, List.not_mem_nil, or_false] at member
  rcases member with rfl | rfl | rfl | rfl | rfl | rfl | rfl | rfl
  · exact legible_new _ _ _ (by decide) (distinct_unit "dB" _)
  · exact legible_new _ _ _ (by decide) (distinct_of_few (by decide +kernel))
  · exact legible_new _ _ _ (by decide) (distinct_of_few (by decide +kernel))
  · exact legible_new _ _ _ (by decide) (distinct_unit "dB" _)
  · exact legible_new _ _ _ (by decide) (distinct_of_few (by decide +kernel))
  · exact legible_new _ _ _ (by decide) (distinct_unit "s" _)
  · exact legible_new _ _ _ (by decide) (distinct_unit "s" _)
  · trivial

/-- A number that is turned stays legible, with another text. -/
theorem Legible.turned {item : NumericItem UInt8} (legible : Legible (.numeric item))
    (event : UiEvent) :
    Legible (.numeric { item with pending := Menu.turned item event }) ∧
      (Menu.turned item event ≠ item.pending →
        item.formatter (Menu.turned item event) ≠ item.formatter item.pending) := by
  obtain ⟨above, below, distinct⟩ := legible
  have bounded : item.min ≤ Menu.turned item event ∧ Menu.turned item event ≤ item.max := by
    cases event with
    | nextScreen => exact addClamped_byte item.step above below
    | prevScreen => exact subClamped_byte item.step above below
    | select => exact ⟨above, below⟩
  exact ⟨⟨bounded.1, bounded.2, distinct⟩,
    fun moved same => moved (distinct _ _ bounded.2 below same)⟩

theorem Legible.commit {entry : MenuEntry UInt8 SettingsAction} (legible : Legible entry) :
    Legible (MenuItem.commit entry) := by
  cases entry with
  | numeric item => exact legible
  | command item => trivial

/-! ## On the settings screen -/

/-- The selection of the menu is on its screen, and the menu has its eight legible items. -/
structure Navigable (menu : SettingsMenu) : Prop where
  wellFormed : menu.WellFormed
  size : menu.items.length = settingsMenuCapacity
  legible : ∀ entry ∈ menu.items, Legible entry

theorem Navigable.of_move {menu moved : SettingsMenu} {event : UiEvent}
    {returned : MenuEvent SettingsAction} (navigable : Navigable menu)
    (move : Menu.Move menu event returned moved) : Navigable moved := by
  have formed := move.wellFormed navigable.wellFormed
  cases move with
  | idle | selected | toggled | acted => exact ⟨formed, navigable.size, navigable.legible⟩
  | turned _ found _ =>
      refine ⟨formed, List.length_set.trans navigable.size, fun entry member => ?_⟩
      rcases List.mem_or_eq_of_mem_set member with member | rfl
      · exact navigable.legible entry member
      · exact ((navigable.legible _ (List.mem_of_getElem? found)).turned event).1

theorem navigable_buildSettingsMenu (radio : RadioSettings) (power : PowerSettings) :
    Navigable (buildSettingsMenu radio power) where
  wellFormed := wellFormed_buildSettingsMenu radio power
  size := by
    rw [buildSettingsMenu_items]
    rfl
  legible := by
    rw [buildSettingsMenu_items]
    exact legible_settingsEntries radio power

namespace DisplayController

variable {timeBefore timeAfter : Option UInt64}

/-- Every event leaves the menu navigable. -/
theorem navigable_handleEvent {controller : DisplayController}
    (navigable : Navigable controller.settingsMenu) (event : DisplayLoopEvent) :
    Navigable (controller.handleEvent event).2.settingsMenu := by
  cases event with
  | reading | tick | ignore => exact navigable
  | navigation event =>
      by_cases settings : controller.state = .radio .settings
      · obtain ⟨returned, menu, -, move, handled⟩ :=
          handleEvent_settings settings navigable.wellFormed event
        have moved := navigable.of_move move
        rw [handled]
        cases settingsOutcomeFromMenuEvent returned with
        | unchanged | valueChanged => exact moved
        | saveSelected =>
            have size : menu.commitAll.items.length = menu.items.length := List.length_map _
            refine ⟨⟨moved.wellFormed.visible, moved.wellFormed.total.trans size.symm⟩,
              size.trans moved.size, fun entry member => ?_⟩
            obtain ⟨before, there, rfl⟩ := List.mem_map.mp member
            exact (moved.legible before there).commit
      · rw [handleEvent_navigation settings event]
        obtain ⟨items, formed⟩ := resetSettingsMenuForEntry_items navigable.wellFormed
        split
        · exact ⟨formed, (congrArg List.length items).trans navigable.size,
            items ▸ navigable.legible⟩
        · exact navigable

/-- Every value of the watches leaves the menu navigable. -/
theorem navigable_syncFromWatchers {controller : DisplayController}
    (navigable : Navigable controller.settingsMenu) (radio : Option RadioSettings)
    (power : Option PowerSettings) :
    Navigable (controller.syncFromWatchers radio power).settingsMenu := by
  rcases syncFromWatchers_cases radio power controller with same | ⟨menu, synced, built⟩
  · rw [same]
    exact navigable
  · have navigable := navigable_buildSettingsMenu (radio.getD controller.pendingRadioSettings)
      (power.getD controller.pendingPowerSettings)
    rw [← built] at navigable
    rw [synced]
    exact navigable

/-- A move of the menu after which the frame has the key that it had leaves the menu as it was, if
a turned number changes the pending settings. -/
theorem menu_eq_of_key {controller : DisplayController} {menu : SettingsMenu}
    {event : UiEvent} {returned : MenuEvent SettingsAction} {radio : RadioSettings}
    {power : PowerSettings} (settings : controller.state = .radio .settings)
    (navigable : Navigable controller.settingsMenu)
    (move : Menu.Move controller.settingsMenu event returned menu)
    (turns : ∀ index, returned = .valueChanged index →
      radio ≠ controller.pendingRadioSettings ∨ power ≠ controller.pendingPowerSettings)
    (same : { controller with
        settingsMenu := menu
        pendingRadioSettings := radio
        pendingPowerSettings := power }.deriveFrameKey timeAfter =
      controller.deriveFrameKey timeBefore) :
    menu = controller.settingsMenu := by
  have keys : menu.editing = controller.settingsMenu.editing ∧
      min menu.selectedIndex 255 = min controller.settingsMenu.selectedIndex 255 ∧
      radio = controller.pendingRadioSettings ∧ power = controller.pendingPowerSettings := by
    simp only [deriveFrameKey, Display.deriveFrameKey, settings, FrameKey.radio.injEq,
      RadioFrameKey.settings.injEq, SettingsFrameKey.mk.injEq] at same
    obtain ⟨index, editing, threshold, magn, bandwidth, carrierSense, predictive, sleep, idle⟩ :=
      same
    exact ⟨editing, index, RadioSettings.ext threshold magn bandwidth carrierSense,
      PowerSettings.ext predictive sleep idle⟩
  obtain ⟨editing, index, radio_eq, power_eq⟩ := keys
  have before := navigable.wellFormed.visible.selected
  rw [navigable.wellFormed.total, navigable.size] at before
  cases move with
  | idle | acted => rfl
  | selected _ visible total moved =>
      have after := visible.selected
      rw [total, navigable.wellFormed.total, navigable.size] at after
      simp only [Menu.selectedIndex, settingsMenuCapacity] at *
      omega
  | turned => exact absurd (turns _ rfl) (by simp [radio_eq, power_eq])
  | toggled =>
      cases editing' : controller.settingsMenu.editing <;> simp [editing'] at editing

/-- A number that is turned changes the picture. -/
theorem picture_ne_of_turned {before after : DisplayController}
    (begun : before.state = .radio .settings) (settings : after.state = .radio .settings)
    (navigable : Navigable before.settingsMenu) {item : NumericItem UInt8} {event : UiEvent}
    (found : before.settingsMenu.items[before.settingsMenu.selectedIndex]? = some (.numeric item))
    (moved : Menu.turned item event ≠ item.pending)
    (menu : after.settingsMenu = { before.settingsMenu with
      items := before.settingsMenu.items.set before.settingsMenu.selectedIndex
        (.numeric { item with pending := Menu.turned item event }) }) :
    after.picture timeAfter ≠ before.picture timeBefore := by
  intro same
  simp only [picture, begun, settings, Picture.menu.injEq] at same
  have inside := (List.getElem?_eq_some_iff.mp found).1
  have turned : after.settingsMenu.items[after.settingsMenu.selectedIndex]? =
      some (.numeric { item with pending := Menu.turned item event }) := by
    rw [menu]
    exact List.getElem?_set_self inside
  have texts := Menu.valueString_eq_of_renderItems navigable.wellFormed found turned
    same.2.1.symm
  exact ((navigable.legible _ (List.mem_of_getElem? found)).turned event).2 moved texts.symm

end DisplayController
end Display
end Motonet
