import Motonet.Display.Controller
import Motonet.Foundation.TransitionSystem
import Mathlib.Tactic.IntervalCases

/-!
# The settings screen

While the settings on the watches are within their ranges, the menu shows the pending settings in
every state, the screen is left by saving only, and what is saved is what was shown.
-/

namespace Motonet
namespace Display

open AppCore KaruMenu

/-- The menu shows settings: each number of the menu is the value of its field. -/
structure MenuShows (menu : SettingsMenu) (radio : RadioSettings) (power : PowerSettings) :
    Prop where
  threshold : numericValueAt menu thresholdItemIndex = some radio.detectionThresholdDb
  magn : numericValueAt menu magnItemIndex = some radio.magnTarget
  bandwidth : numericValueAt menu bandwidthItemIndex = some radio.channelBandwidthIndex
  carrierSense : numericValueAt menu carrierSenseItemIndex = some radio.carrierSenseThreshold
  predictiveSleep : numericValueAt menu predictiveSleepItemIndex =
    some (byteOfBool power.predictiveSleepEnabled)
  sleepDuration : numericValueAt menu sleepDurationItemIndex = some power.sleepDurationSecs
  uiIdleTimeout : numericValueAt menu uiIdleTimeoutItemIndex = some power.uiIdleTimeoutSecs

/-- Settings that the clamping leaves alone. -/
def InRange (radio : RadioSettings) (power : PowerSettings) : Prop :=
  clampRadioConfig radio = radio ∧ clampPowerConfig power = power

/-- The values of the watches, where there are any, are ones that the clamping leaves alone. -/
def WatchedInRange (radio : Option RadioSettings) (power : Option PowerSettings) : Prop :=
  (∀ settings, radio = some settings → clampRadioConfig settings = settings) ∧
    ∀ settings, power = some settings → clampPowerConfig settings = settings

theorem WatchedInRange.getD {radio : Option RadioSettings} {power : Option PowerSettings}
    (watched : WatchedInRange radio power) {oldRadio : RadioSettings} {oldPower : PowerSettings}
    (range : InRange oldRadio oldPower) : InRange (radio.getD oldRadio) (power.getD oldPower) := by
  constructor
  · cases radio with
    | none => exact range.1
    | some settings => exact watched.1 settings rfl
  · cases power with
    | none => exact range.2
    | some settings => exact watched.2 settings rfl

/-- The menu is the one that is built for the pending settings, but for the committed values. -/
structure Consistent (controller : DisplayController) : Prop where
  range : InRange controller.pendingRadioSettings controller.pendingPowerSettings
  items : controller.settingsMenu.items.map MenuItem.commit =
    settingsEntries controller.pendingRadioSettings controller.pendingPowerSettings
  wellFormed : controller.settingsMenu.WellFormed

/-- Items are added in order while there is room. -/
theorem foldl_addMenuItem (entries : List (MenuEntry UInt8 SettingsAction)) (menu : SettingsMenu)
    (room : menu.items.length + entries.length ≤ settingsMenuCapacity)
    (positive : 0 < menu.viewport.maxVisible) (wellFormed : menu.items ≠ [] → menu.WellFormed) :
    (entries.foldl addMenuItem menu).items = menu.items ++ entries ∧
      (menu.items ++ entries ≠ [] → (entries.foldl addMenuItem menu).WellFormed) := by
  induction entries generalizing menu with
  | nil =>
      rw [List.append_nil]
      exact ⟨rfl, wellFormed⟩
  | cons entry entries ih =>
      rw [List.length_cons] at room
      have adds : ∃ added, menu.add entry = .ok added := by
        rw [Menu.add, if_pos (by omega)]
        exact ⟨_, rfl⟩
      obtain ⟨added, adds⟩ := adds
      obtain ⟨items, visible, formed⟩ := Menu.wellFormed_add positive adds
      have same : addMenuItem menu entry = added := by rw [addMenuItem, adds]
      rw [List.foldl_cons, same, List.append_cons, ← items]
      refine ih added ?_ visible fun _ => formed
      rw [items, List.length_append, List.length_singleton]
      omega

theorem buildSettingsMenu_items (radio : RadioSettings) (power : PowerSettings) :
    (buildSettingsMenu radio power).items = settingsEntries radio power :=
  (foldl_addMenuItem (settingsEntries radio power) (.new (.new 128 64)) (Nat.le_refl 8) (by decide)
    (fun nonempty => absurd rfl nonempty)).1

theorem wellFormed_buildSettingsMenu (radio : RadioSettings) (power : PowerSettings) :
    (buildSettingsMenu radio power).WellFormed :=
  (foldl_addMenuItem (settingsEntries radio power) (.new (.new 128 64)) (Nat.le_refl 8) (by decide)
    (fun nonempty => absurd rfl nonempty)).2 nofun

theorem buildSettingsMenu_commit (radio : RadioSettings) (power : PowerSettings) :
    (buildSettingsMenu radio power).items.map MenuItem.commit = settingsEntries radio power := by
  rw [buildSettingsMenu_items]
  rfl

/-- The value of an item, whatever was committed. -/
theorem numericValueAt_of_commit {menu : SettingsMenu}
    {entries : List (MenuEntry UInt8 SettingsAction)}
    (items : menu.items.map MenuItem.commit = entries) (index : ℕ) :
    numericValueAt menu index = match entries[index]? with
      | some (.numeric item) => some item.pending
      | some (.command _) | none => none := by
  rw [← items, List.getElem?_map, numericValueAt]
  cases menu.items[index]? with
  | none => rfl
  | some entry => cases entry <;> rfl

theorem inRange_iff {radio : RadioSettings} {power : PowerSettings} :
    InRange radio power ↔
      quantizeDetectionThresholdDb radio.detectionThresholdDb = radio.detectionThresholdDb ∧
        clampByte magnTargetMin magnTargetMax radio.magnTarget = radio.magnTarget ∧
        clampByte channelBandwidthMinIndex channelBandwidthMaxIndex
          radio.channelBandwidthIndex = radio.channelBandwidthIndex ∧
        clampByte carrierSenseMin carrierSenseMax radio.carrierSenseThreshold =
          radio.carrierSenseThreshold ∧
        clampByte powerSleepDurationMinSecs powerSleepDurationMaxSecs power.sleepDurationSecs =
          power.sleepDurationSecs ∧
        clampByte powerUiIdleTimeoutMinSecs powerUiIdleTimeoutMaxSecs power.uiIdleTimeoutSecs =
          power.uiIdleTimeoutSecs := by
  simp [InRange, clampRadioConfig, clampPowerConfig, RadioSettings.ext_iff, PowerSettings.ext_iff,
    and_assoc]

/-- A threshold that the quantisation leaves alone is within the bounds of its item. -/
theorem clamp_of_quantized {db : UInt8} (quantized : quantizeDetectionThresholdDb db = db) :
    clamp detectionThresholdMinDb detectionThresholdMaxDb db = db := by
  rcases quantizeDetectionThresholdDb_mem db with value | value | value | value <;>
    rw [← quantized, value] <;> rfl

/-- A menu that is built for settings in range shows them. -/
theorem menuShows_of_items {menu : SettingsMenu} {radio : RadioSettings} {power : PowerSettings}
    (range : InRange radio power)
    (items : menu.items.map MenuItem.commit = settingsEntries radio power) :
    MenuShows menu radio power := by
  obtain ⟨threshold, magn, bandwidth, carrierSense, sleep, idle⟩ := inRange_iff.mp range
  constructor
  · rw [numericValueAt_of_commit items]
    exact congrArg some (clamp_of_quantized threshold)
  · rw [numericValueAt_of_commit items]
    exact congrArg some magn
  · rw [numericValueAt_of_commit items]
    exact congrArg some bandwidth
  · rw [numericValueAt_of_commit items]
    exact congrArg some carrierSense
  · rw [numericValueAt_of_commit items]
    cases enabled : power.predictiveSleepEnabled <;> simp [settingsEntries, enabled] <;> rfl
  · rw [numericValueAt_of_commit items]
    exact congrArg some sleep
  · rw [numericValueAt_of_commit items]
    exact congrArg some idle

/-- What the menu shows is what `sync_pending_from_menu` reads from it. -/
theorem MenuShows.sync {menu : SettingsMenu} {radio : RadioSettings} {power : PowerSettings}
    (shows : MenuShows menu radio power) (oldRadio : RadioSettings) (oldPower : PowerSettings) :
    syncPendingRadio menu oldRadio = radio ∧ syncPendingPower menu oldPower = power := by
  obtain ⟨threshold, magn, bandwidth, carrierSense, predictive, sleep, idle⟩ := shows
  constructor
  · simp [syncPendingRadio, threshold, magn, bandwidth, carrierSense]
  · simp only [syncPendingPower, predictive, sleep, idle]
    cases enabled : power.predictiveSleepEnabled <;> ext <;> simp [byteOfBool, enabled]

/-! ## Turning the knob -/

/-- A number that is turned stays within its bounds. -/
theorem clamp_turned {item : NumericItem UInt8} (ordered : item.min ≤ item.max)
    (inside : clampByte item.min item.max item.pending = item.pending) (event : UiEvent) :
    clampByte item.min item.max (Menu.turned item event) = Menu.turned item event := by
  obtain ⟨above, below⟩ := clampByte_le ordered item.pending
  rw [inside] at above below
  cases event with
  | nextScreen =>
      obtain ⟨low, high⟩ := addClamped_byte item.step above below
      exact clampByte_of_le low high
  | prevScreen =>
      obtain ⟨low, high⟩ := subClamped_byte item.step above below
      exact clampByte_of_le low high
  | select => exact inside

/-- A threshold that is turned by the step of its item stays quantized. -/
theorem quantize_turned {item : NumericItem UInt8}
    (bounds : item.min = detectionThresholdMinDb ∧ item.max = detectionThresholdMaxDb ∧
      item.step = detectionThresholdStepDb)
    (quantized : quantizeDetectionThresholdDb item.pending = item.pending) (event : UiEvent) :
    quantizeDetectionThresholdDb (Menu.turned item event) = Menu.turned item event := by
  obtain ⟨low, high, step⟩ := bounds
  have value := quantizeDetectionThresholdDb_mem item.pending
  rw [quantized] at value
  cases event <;> rcases value with value | value | value | value <;>
    simp only [Menu.turned, value, low, high, step] <;> rfl

/-- An item that differs from a new one in its committed value only. -/
theorem fields_of_commit {label : String} {value low high step : UInt8} {formatter : UInt8 → String}
    {item : NumericItem UInt8}
    (entry : (MenuEntry.numeric (.new label value low high step formatter) :
      MenuEntry UInt8 SettingsAction) = MenuItem.commit (.numeric item)) :
    item.label = label ∧ item.pending = clamp low high value ∧ item.min = low ∧ item.max = high ∧
      item.step = step ∧ item.formatter = formatter := by
  have same : NumericItem.new label value low high step formatter = MenuItem.commit item := by
    injection entry
  exact ⟨(congrArg NumericItem.label same).symm, (congrArg NumericItem.pending same).symm,
    (congrArg NumericItem.min same).symm, (congrArg NumericItem.max same).symm,
    (congrArg NumericItem.step same).symm, (congrArg NumericItem.formatter same).symm⟩

/-- A number that is turned to a value within its bounds is the item that is built for it. -/
theorem commit_turned {label : String} {value low high step turned : UInt8}
    {formatter : UInt8 → String} {item : NumericItem UInt8}
    (entry : (MenuEntry.numeric (.new label value low high step formatter) :
      MenuEntry UInt8 SettingsAction) = MenuItem.commit (.numeric item))
    (inside : clamp low high turned = turned) :
    (MenuItem.commit (.numeric { item with pending := turned }) :
      MenuEntry UInt8 SettingsAction) =
        .numeric (.new label turned low high step formatter) := by
  obtain ⟨label_eq, -, low_eq, high_eq, step_eq, formatter_eq⟩ := fields_of_commit entry
  obtain ⟨_, _, _, _, _, _, _⟩ := item
  cases label_eq
  cases low_eq
  cases high_eq
  cases step_eq
  cases formatter_eq
  rw [NumericItem.new, inside]
  rfl

/-- A number that is turned stays within the bounds for which its item is built. -/
theorem clampByte_turned {label : String} {value low high step : UInt8}
    {formatter : UInt8 → String} {item : NumericItem UInt8}
    (entry : (MenuEntry.numeric (.new label value low high step formatter) :
      MenuEntry UInt8 SettingsAction) = MenuItem.commit (.numeric item))
    (ordered : low ≤ high) (inside : clampByte low high value = value) (event : UiEvent) :
    clampByte low high (Menu.turned item event) = Menu.turned item event := by
  obtain ⟨-, pending, low_eq, high_eq, -, -⟩ := fields_of_commit entry
  have pending_eq : item.pending = value := pending.trans inside
  rw [← low_eq, ← high_eq] at ordered inside ⊢
  exact clamp_turned ordered (by rw [pending_eq, inside]) event

/-- Within `0` and `1` a byte is a truth value. -/
theorem exists_byteOfBool {value : UInt8} (inside : clampByte 0 1 value = value) :
    ∃ enabled, byteOfBool enabled = value := by
  obtain ⟨-, below⟩ := clampByte_le (show (0 : UInt8) ≤ 1 by decide) value
  rw [inside, UInt8.le_iff_toNat_le] at below
  have cases : value = 0 ∨ value = 1 := by
    rw [← UInt8.toNat_inj, ← UInt8.toNat_inj]
    change value.toNat ≤ 1 at below
    change value.toNat = 0 ∨ value.toNat = 1
    omega
  rcases cases with rfl | rfl
  · exact ⟨false, rfl⟩
  · exact ⟨true, rfl⟩

/-- A menu in which a number is turned is built for other settings in range. -/
theorem exists_settings_of_turned {items : List (MenuEntry UInt8 SettingsAction)}
    {radio : RadioSettings} {power : PowerSettings} (range : InRange radio power)
    (built : items.map MenuItem.commit = settingsEntries radio power) {index : ℕ}
    {item : NumericItem UInt8} (found : items[index]? = some (.numeric item)) (event : UiEvent) :
    ∃ radio power, InRange radio power ∧
      (items.set index (.numeric { item with pending := Menu.turned item event })).map
        MenuItem.commit = settingsEntries radio power := by
  have entry : (settingsEntries radio power)[index]? = some (MenuItem.commit (.numeric item)) := by
    rw [← built, List.getElem?_map, found]
    rfl
  obtain ⟨threshold, magn, bandwidth, carrierSense, sleep, idle⟩ := inRange_iff.mp range
  have inside : index < 8 := (List.getElem?_eq_some_iff.mp entry).1
  rw [List.map_set, built]
  interval_cases index <;> have entry := Option.some.inj entry
  · obtain ⟨-, pending, low, high, step, -⟩ := fields_of_commit entry
    have quantized := quantize_turned ⟨low, high, step⟩
      (by rw [pending, clamp_of_quantized threshold, threshold]) event
    refine ⟨{ radio with detectionThresholdDb := Menu.turned item event }, power,
      inRange_iff.mpr ⟨quantized, magn, bandwidth, carrierSense, sleep, idle⟩, ?_⟩
    rw [commit_turned entry (clamp_of_quantized quantized)]
    rfl
  · have turned := clampByte_turned entry (by decide) magn event
    refine ⟨{ radio with magnTarget := Menu.turned item event }, power,
      inRange_iff.mpr ⟨threshold, turned, bandwidth, carrierSense, sleep, idle⟩, ?_⟩
    rw [commit_turned entry turned]
    rfl
  · have turned := clampByte_turned entry (by decide) bandwidth event
    refine ⟨{ radio with channelBandwidthIndex := Menu.turned item event }, power,
      inRange_iff.mpr ⟨threshold, magn, turned, carrierSense, sleep, idle⟩, ?_⟩
    rw [commit_turned entry turned]
    rfl
  · have turned := clampByte_turned entry (by decide) carrierSense event
    refine ⟨{ radio with carrierSenseThreshold := Menu.turned item event }, power,
      inRange_iff.mpr ⟨threshold, magn, bandwidth, turned, sleep, idle⟩, ?_⟩
    rw [commit_turned entry turned]
    rfl
  · have truth : clampByte 0 1 (byteOfBool power.predictiveSleepEnabled) =
        byteOfBool power.predictiveSleepEnabled := by
      cases power.predictiveSleepEnabled <;> rfl
    have turned := clampByte_turned entry (by decide) truth event
    obtain ⟨enabled, value⟩ := exists_byteOfBool turned
    refine ⟨radio, { power with predictiveSleepEnabled := enabled },
      inRange_iff.mpr ⟨threshold, magn, bandwidth, carrierSense, sleep, idle⟩, ?_⟩
    rw [commit_turned entry turned, ← value]
    rfl
  · have turned := clampByte_turned entry (by decide) sleep event
    refine ⟨radio, { power with sleepDurationSecs := Menu.turned item event },
      inRange_iff.mpr ⟨threshold, magn, bandwidth, carrierSense, turned, idle⟩, ?_⟩
    rw [commit_turned entry turned]
    rfl
  · have turned := clampByte_turned entry (by decide) idle event
    refine ⟨radio, { power with uiIdleTimeoutSecs := Menu.turned item event },
      inRange_iff.mpr ⟨threshold, magn, bandwidth, carrierSense, sleep, turned⟩, ?_⟩
    rw [commit_turned entry turned]
    rfl
  · cases entry

/-! ## The moves of the controller -/

namespace DisplayController

/-- The menu as it is on entry has the items that it had. -/
theorem resetSettingsMenuForEntry_items {menu : SettingsMenu} (wellFormed : menu.WellFormed) :
    (resetSettingsMenuForEntry menu).items = menu.items ∧
      (resetSettingsMenuForEntry menu).WellFormed := by
  have left : (menu.handleEvent .select).2.items = menu.items ∧
      (menu.handleEvent .select).2.WellFormed := by
    have move := Menu.move_of_handleEvent wellFormed .select
    refine ⟨?_, move.wellFormed wellFormed⟩
    generalize menu.handleEvent UiEvent.select = result at move ⊢
    obtain ⟨returned, after⟩ := result
    dsimp only at move ⊢
    cases move with
    | idle | selected | toggled | acted => rfl
    | turned _ _ changed => exact absurd rfl changed
  have closed : (if menu.editing then (menu.handleEvent .select).2 else menu).items = menu.items ∧
      (if menu.editing then (menu.handleEvent .select).2 else menu).WellFormed := by
    split
    · exact left
    · exact ⟨rfl, wellFormed⟩
  obtain ⟨visible, total, -, -⟩ := closed.2.visible.select 0
  exact ⟨closed.1, visible, total.trans (closed.2.total)⟩

/-- On the settings screen an event is for the menu, and its outcome is for the settings. -/
theorem handleEvent_settings {controller : DisplayController}
    (settings : controller.state = .radio .settings)
    (wellFormed : controller.settingsMenu.WellFormed) (event : UiEvent) :
    ∃ returned menu, controller.settingsMenu.handleEvent event = (returned, menu) ∧
      Menu.Move controller.settingsMenu event returned menu ∧
      controller.handleEvent (.navigation event) =
        match settingsOutcomeFromMenuEvent returned with
        | .unchanged => (none, { controller with settingsMenu := menu })
        | .valueChanged => (none, { controller with
            settingsMenu := menu
            pendingRadioSettings := syncPendingRadio menu controller.pendingRadioSettings
            pendingPowerSettings := syncPendingPower menu controller.pendingPowerSettings })
        | .saveSelected =>
            let radio := clampRadioConfig (syncPendingRadio menu controller.pendingRadioSettings)
            let power := clampPowerConfig (syncPendingPower menu controller.pendingPowerSettings)
            (some (.applySettings radio power), { controller with
              state := .radio .overview
              settingsMenu := menu.commitAll
              pendingRadioSettings := radio
              pendingPowerSettings := power }) := by
  obtain ⟨returned, menu, result⟩ : ∃ returned menu,
      controller.settingsMenu.handleEvent event = (returned, menu) := ⟨_, _, rfl⟩
  have move := Menu.move_of_handleEvent wellFormed event
  rw [result] at move
  refine ⟨returned, menu, result, move, ?_⟩
  rw [handleEvent, if_pos settings, result]
  simp only [reduceSettingsMenu, settings, ne_eq, not_true_eq_false, if_false]
  obtain ⟨_, _, _, _, _, _⟩ := controller
  cases settings
  cases settingsOutcomeFromMenuEvent returned <;> rfl

/-- On the other screens an event opens the settings or another screen. -/
theorem handleEvent_navigation {controller : DisplayController}
    (elsewhere : controller.state ≠ .radio .settings) (event : UiEvent) :
    controller.handleEvent (.navigation event) = (none,
      if event = .select then { controller with
        state := .radio .settings
        settingsMenu := resetSettingsMenuForEntry controller.settingsMenu }
      else { controller with
        state := if controller.state = .main then .radio .overview else .main }) := by
  rw [handleEvent, if_neg elsewhere]
  obtain ⟨state, _, _, _, _, _⟩ := controller
  cases state with
  | main => cases event <;> rfl
  | radio state =>
      cases state with
      | overview => cases event <;> rfl
      | settings => exact absurd rfl elsewhere

/-- The watches change nothing, or the pending settings and with them the menu. -/
theorem syncFromWatchers_cases (radio : Option RadioSettings) (power : Option PowerSettings)
    (controller : DisplayController) :
    controller.syncFromWatchers radio power = controller ∨
      ∃ menu, controller.syncFromWatchers radio power = { controller with
          pendingRadioSettings := radio.getD controller.pendingRadioSettings
          pendingPowerSettings := power.getD controller.pendingPowerSettings
          settingsMenu := menu } ∧
        menu = buildSettingsMenu (radio.getD controller.pendingRadioSettings)
          (power.getD controller.pendingPowerSettings) := by
  unfold syncFromWatchers
  split
  · exact .inl rfl
  dsimp only
  split
  next => exact .inr ⟨_, rfl, rfl⟩
  next same =>
      rw [not_or, not_not, not_not] at same
      rw [same.1, same.2]
      exact .inl rfl

end DisplayController

/-! ## Every state shows what is pending -/

namespace Consistent

variable {controller : DisplayController}

theorem menuShows (consistent : Consistent controller) :
    MenuShows controller.settingsMenu controller.pendingRadioSettings
      controller.pendingPowerSettings :=
  menuShows_of_items consistent.range consistent.items

/-- Other items in a menu are consistent with the settings that are read from it. -/
theorem of_sync (controller : DisplayController) {menu : SettingsMenu}
    (wellFormed : menu.WellFormed) (built : ∃ radio power, InRange radio power ∧
      menu.items.map MenuItem.commit = settingsEntries radio power) :
    Consistent { controller with
      settingsMenu := menu
      pendingRadioSettings := syncPendingRadio menu controller.pendingRadioSettings
      pendingPowerSettings := syncPendingPower menu controller.pendingPowerSettings } := by
  obtain ⟨radio, power, range, items⟩ := built
  obtain ⟨radio_eq, power_eq⟩ := (menuShows_of_items range items).sync
    controller.pendingRadioSettings controller.pendingPowerSettings
  rw [radio_eq, power_eq]
  exact ⟨range, items, wellFormed⟩

/-- An event keeps the menu consistent, leaves the settings by saving only, and saves what the menu
shows. -/
theorem handleEvent (consistent : Consistent controller) (event : DisplayLoopEvent) :
    Consistent (controller.handleEvent event).2 ∧
      (controller.state = .radio .settings →
        (controller.handleEvent event).2.state = .radio .settings ∨
          event = .navigation .select ∧
            ∃ item, item.actionId = .save ∧
              controller.settingsMenu.items[controller.settingsMenu.selectedIndex]? =
                some (.command item)) ∧
      ∀ radio power, (controller.handleEvent event).1 = some (.applySettings radio power) →
        radio = controller.pendingRadioSettings ∧ power = controller.pendingPowerSettings := by
  cases event with
  | reading reading => exact ⟨⟨consistent.range, consistent.items, consistent.wellFormed⟩,
      fun settings => .inl settings, nofun⟩
  | tick | ignore => exact ⟨consistent, fun settings => .inl settings, nofun⟩
  | navigation event =>
      by_cases settings : controller.state = .radio .settings
      · obtain ⟨returned, menu, -, move, handled⟩ :=
          DisplayController.handleEvent_settings settings consistent.wellFormed event
        have formed := move.wellFormed consistent.wellFormed
        rw [handled]
        cases move with
        | idle => exact ⟨⟨consistent.range, consistent.items, formed⟩,
            fun settings => .inl settings, nofun⟩
        | selected => exact ⟨⟨consistent.range, consistent.items, formed⟩,
            fun settings => .inl settings, nofun⟩
        | toggled _ kind =>
            have unchanged : settingsOutcomeFromMenuEvent returned = .unchanged := by
              rcases kind with rfl | rfl <;> rfl
            rw [unchanged]
            exact ⟨⟨consistent.range, consistent.items, formed⟩,
              fun settings => .inl settings, nofun⟩
        | turned editing found changed =>
            have after := of_sync controller formed
              (exists_settings_of_turned consistent.range consistent.items found event)
            exact ⟨after, fun settings => .inl settings, nofun⟩
        | @acted item found =>
            obtain ⟨radio, power⟩ := consistent.menuShows.sync
              controller.pendingRadioSettings controller.pendingPowerSettings
            have saves : settingsOutcomeFromMenuEvent (MenuEvent.actionSelected
                controller.settingsMenu.selectedIndex item.actionId) = .saveSelected := rfl
            rw [saves]
            simp only [radio, power, consistent.range.1, consistent.range.2]
            refine ⟨⟨consistent.range, ?_, formed.visible, ?_⟩,
              fun _ => .inr ⟨trivial, item, trivial, found⟩, ?_⟩
            · rw [← consistent.items]
              simp only [Menu.commitAll, List.map_map]
              refine List.map_congr_left fun entry _ => ?_
              cases entry <;> rfl
            · exact formed.total.trans (List.length_map MenuItem.commit).symm
            · rintro _ _ ⟨⟩
              exact ⟨rfl, rfl⟩
      · rw [DisplayController.handleEvent_navigation settings event]
        refine ⟨?_, fun inside => absurd inside settings, nofun⟩
        obtain ⟨items, formed⟩ :=
          DisplayController.resetSettingsMenuForEntry_items consistent.wellFormed
        split
        · exact ⟨consistent.range, by rw [items, consistent.items], formed⟩
        · exact ⟨consistent.range, consistent.items, consistent.wellFormed⟩

/-- The watched values keep the menu consistent, and they leave the settings screen alone. -/
theorem syncFromWatchers (consistent : Consistent controller) {radio : Option RadioSettings}
    {power : Option PowerSettings} (watched : WatchedInRange radio power) :
    Consistent (controller.syncFromWatchers radio power) ∧
      (controller.syncFromWatchers radio power).state = controller.state := by
  have range : InRange (radio.getD controller.pendingRadioSettings)
      (power.getD controller.pendingPowerSettings) := watched.getD consistent.range
  rcases DisplayController.syncFromWatchers_cases radio power controller with
    same | ⟨menu, synced, built⟩
  · rw [same]
    exact ⟨consistent, rfl⟩
  · have items := buildSettingsMenu_commit (radio.getD controller.pendingRadioSettings)
      (power.getD controller.pendingPowerSettings)
    have formed := wellFormed_buildSettingsMenu (radio.getD controller.pendingRadioSettings)
      (power.getD controller.pendingPowerSettings)
    rw [← built] at items formed
    rw [synced]
    exact ⟨⟨range, items, formed⟩, rfl⟩

/-- The controller begins consistently. -/
theorem new {radio : Option RadioSettings} {power : Option PowerSettings}
    (watched : WatchedInRange radio power) : Consistent (.new radio power) := by
  have range : InRange (radio.getD defaultRadioSettings) (power.getD defaultPowerSettings) :=
    watched.getD ⟨rfl, rfl⟩
  have built := buildSettingsMenu_commit (radio.getD defaultRadioSettings)
    (power.getD defaultPowerSettings)
  have formed := wellFormed_buildSettingsMenu (radio.getD defaultRadioSettings)
    (power.getD defaultPowerSettings)
  unfold DisplayController.new
  dsimp only
  generalize buildSettingsMenu (radio.getD defaultRadioSettings)
    (power.getD defaultPowerSettings) = menu at built formed ⊢
  obtain ⟨radio_eq, power_eq⟩ := (menuShows_of_items range built).sync
    (radio.getD defaultRadioSettings) (power.getD defaultPowerSettings)
  rw [radio_eq, power_eq]
  exact ⟨range, built, formed⟩

end Consistent

/-! ## Runs -/

/-- What is done with the controller. -/
inductive ControllerAction
  | handle (event : DisplayLoopEvent)
  | sync (radio : Option RadioSettings) (power : Option PowerSettings)
  | mark (frame : FrameKey)

/-- What an action leaves. -/
def DisplayController.after (controller : DisplayController) :
    ControllerAction → DisplayController
  | .handle event => (controller.handleEvent event).2
  | .sync radio power => controller.syncFromWatchers radio power
  | .mark frame => controller.markRendered frame

/-- The controller, with the settings that were watched when it began. -/
def controllerSystem : TransitionSystem DisplayController ControllerAction where
  initial controller := ∃ radio power, WatchedInRange radio power ∧ controller = .new radio power
  step controller action := some (controller.after action)

/-- The settings that are watched are within their ranges. -/
def ControllerAction.InRange : ControllerAction → Prop
  | .handle _ | .mark _ => True
  | .sync radio power => WatchedInRange radio power

/-- An action in range keeps the controller consistent, and only saving leaves the settings. -/
theorem Consistent.after {controller : DisplayController} (consistent : Consistent controller)
    {action : ControllerAction} (range : action.InRange) :
    Consistent (controller.after action) ∧
      (controller.state = .radio .settings →
        (controller.after action).state = .radio .settings ∨
          action = .handle (.navigation .select) ∧
            ∃ item, item.actionId = .save ∧
              controller.settingsMenu.items[controller.settingsMenu.selectedIndex]? =
                some (.command item)) := by
  cases action with
  | handle event =>
      obtain ⟨after, left, -⟩ := consistent.handleEvent event
      refine ⟨after, fun settings => (left settings).imp_right ?_⟩
      rintro ⟨rfl, saved⟩
      exact ⟨rfl, saved⟩
  | sync radio power =>
      obtain ⟨after, same⟩ := consistent.syncFromWatchers range
      exact ⟨after, fun settings => .inl (same.trans settings)⟩
  | mark frame =>
      exact ⟨⟨consistent.range, consistent.items, consistent.wellFormed⟩,
        fun settings => .inl settings⟩

/-- With settings in range on the watches, the menu shows the pending settings in every state, the
settings screen is left by selecting `Save` only, and a command carries what the menu shows, which
the clamping leaves alone. -/
theorem settings_screen_consistent {start finish : DisplayController}
    {actions : List ControllerAction} (started : controllerSystem.initial start)
    (path : controllerSystem.Path (fun _ action => action.InRange) start actions finish) :
    MenuShows finish.settingsMenu finish.pendingRadioSettings finish.pendingPowerSettings ∧
      (∀ action : ControllerAction, action.InRange → finish.state = .radio .settings →
        (finish.after action).state ≠ .radio .settings →
          action = .handle (.navigation .select) ∧
            ∃ item, item.actionId = .save ∧
              finish.settingsMenu.items[finish.settingsMenu.selectedIndex]? =
                some (.command item)) ∧
      ∀ event radio power, (finish.handleEvent event).1 = some (.applySettings radio power) →
        MenuShows finish.settingsMenu radio power ∧ clampRadioConfig radio = radio ∧
          clampPowerConfig power = power := by
  have consistent : Consistent finish := by
    refine path.invariant Consistent ?_ ?_
    · rintro before action _ held range ⟨⟩
      exact (held.after range).1
    · obtain ⟨radio, power, watched, rfl⟩ := started
      exact .new watched
  refine ⟨consistent.menuShows, ?_, ?_⟩
  · intro action range settings left
    exact ((consistent.after range).2 settings).resolve_left left
  · intro event radio power emitted
    obtain ⟨rfl, rfl⟩ := (consistent.handleEvent event).2.2 radio power emitted
    exact ⟨consistent.menuShows, consistent.range⟩

/-- A threshold is read from the watch, the settings are entered, and it is turned. -/
theorem settings_screen_consistent_turned :
    ∃ finish, controllerSystem.run (.new none none)
        [.sync (some { defaultRadioSettings with detectionThresholdDb := 12 }) none,
          .handle (.navigation .select), .handle (.navigation .select),
          .handle (.navigation .nextScreen)] = some finish ∧
      numericValueAt finish.settingsMenu thresholdItemIndex = some 16 ∧
      MenuShows finish.settingsMenu finish.pendingRadioSettings finish.pendingPowerSettings := by
  have watched : ControllerAction.InRange
      (.sync (some { defaultRadioSettings with detectionThresholdDb := 12 }) none) := by
    refine ⟨?_, nofun⟩
    rintro _ ⟨⟩
    rfl
  have begun : controllerSystem.Path (fun _ action => action.InRange) (.new none none) []
      (.new none none) := .nil
  have navigated (event : UiEvent) :
      ControllerAction.InRange (.handle (.navigation event)) := trivial
  have entered := (begun.snoc watched rfl).snoc (navigated .select) rfl
  have path := (entered.snoc (navigated .select) rfl).snoc (navigated .nextScreen) rfl
  exact ⟨_, rfl, rfl, (settings_screen_consistent ⟨none, none, ⟨nofun, nofun⟩, rfl⟩ path).1⟩

end Display
end Motonet
