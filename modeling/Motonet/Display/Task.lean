import Motonet.Display.Picture
import Motonet.OtaCore.Policy

/-!
# The display task

The loop that draws the screens.  A frame is drawn when its key is not that of the frame that was
marked last; a status message of an update is drawn without being marked.
-/

namespace Motonet
namespace Display

open AppCore KaruMenu OtaCore

/-- The state of `display_task`: the controller, and what was drawn last, if it was drawn without
an error. -/
structure DisplayTask where
  controller : DisplayController
  screen : Option Picture

/-- What one iteration of the loop finds: the event, the values on the watches, the whole seconds
since the capture of the time at both readings of the clock, and whether the drawing succeeds. -/
structure Iteration where
  event : DisplayLoopEvent
  radioSettings : Option RadioSettings
  powerSettings : Option PowerSettings
  otaState : Option OtaState
  currentTime : Option TimeReference
  elapsedAtKey : UInt64
  elapsedAtDrawing : UInt64
  succeeds : Bool

namespace Iteration

/-- The status message of the iteration. -/
def message (iteration : Iteration) : Option String :=
  displayMessage (iteration.otaState.getD .inactive)

/-- The time of the frame key. -/
def timeSecs (iteration : Iteration) : Option UInt64 :=
  iteration.currentTime.map (·.nowUnixSecs iteration.elapsedAtKey)

/-- The time that `format_time` reads. -/
def drawnSecs (iteration : Iteration) : Option UInt64 :=
  iteration.currentTime.map (·.nowUnixSecs iteration.elapsedAtDrawing)

end Iteration

namespace DisplayTask

/-- `display_task` up to its loop. -/
def start (radioSettings : Option RadioSettings) (powerSettings : Option PowerSettings)
    (succeeds : Bool) : DisplayTask where
  controller := .new radioSettings powerSettings
  screen := if succeeds then some (.status "Waiting...") else none

/-- The controller after the event and the watches of an iteration, with the command that is
sent. -/
def handle (iteration : Iteration) (controller : DisplayController) :
    Option AppCommand × DisplayController :=
  let (command, controller) := controller.handleEvent iteration.event
  (command, controller.syncFromWatchers iteration.radioSettings iteration.powerSettings)

/-- The part of an iteration that draws the frame. -/
def render (iteration : Iteration) (task : DisplayTask) : DisplayTask :=
  let frame := task.controller.deriveFrameKey iteration.timeSecs
  if task.controller.shouldRender frame then
    if iteration.succeeds then
      { controller := task.controller.markRendered frame
        screen := some (task.controller.picture iteration.drawnSecs) }
    else { task with screen := none }
  else task

/-- An iteration of the loop of `display_task`, with the command that is sent. -/
def iterate (iteration : Iteration) (task : DisplayTask) : Option AppCommand × DisplayTask :=
  if iteration.event = .ignore then (none, task)
  else
    let (command, controller) := handle iteration task.controller
    match iteration.message with
    | some message => (command,
        { controller := controller
          screen := if iteration.succeeds then some (.status message) else none })
    | none => (command, render iteration { task with controller := controller })

end DisplayTask

/-- The loop of `display_task`. -/
def displaySystem : TransitionSystem DisplayTask Iteration where
  initial task := ∃ radio power succeeds, task = .start radio power succeeds
  step task iteration := some (task.iterate iteration).2

namespace DisplayTask

/-- The controller after the event and the watches. -/
def handled (task : DisplayTask) (iteration : Iteration) : DisplayController :=
  (handle iteration task.controller).2

/-- An iteration gets to the drawing of its frame: it is not skipped and has no message to show. -/
def ReachesFrame (iteration : Iteration) : Prop :=
  iteration.event ≠ .ignore ∧ iteration.message = none

/-- The frame of the iteration differs from the one that was marked. -/
def redraws (task : DisplayTask) (iteration : Iteration) : Bool :=
  (task.handled iteration).shouldRender
    ((task.handled iteration).deriveFrameKey iteration.timeSecs)

/-- An iteration that gets to its frame and meets no error when it draws leaves the picture of the
frame on the screen. -/
def Fresh (task : DisplayTask) (iteration : Iteration) : Prop :=
  ReachesFrame iteration → (task.redraws iteration = true → iteration.succeeds = true) →
    (task.iterate iteration).2.screen =
      some ((task.iterate iteration).2.controller.picture iteration.timeSecs)

/-- The screen holds a frame: what was drawn last was neither a status message of an update nor a
drawing that failed. -/
def HoldsFrame (task : DisplayTask) : Prop :=
  ∃ picture, task.screen = some picture ∧
    ∀ state message, displayMessage state = some message → picture ≠ .status message

/-- The condition under which an iteration is fresh. -/
structure Meets (task : DisplayTask) (iteration : Iteration) : Prop where
  /-- A frame that is not drawn again is still on the screen. -/
  holds : ReachesFrame iteration → task.redraws iteration = false → task.HoldsFrame
  /-- Where a reading is drawn, the clock shows the time of the key. -/
  clock : ReachesFrame iteration → task.redraws iteration = true → iteration.succeeds = true →
    (task.handled iteration).state = .main → (task.handled iteration).lastReading ≠ none →
      iteration.drawnSecs.map formatTime = iteration.timeSecs.map formatTime
  /-- A number that is turned without drawing the frame again changes the pending settings. -/
  turns : ReachesFrame iteration → task.redraws iteration = false →
    ∀ event, iteration.event = .navigation event → task.controller.state = .radio .settings →
      ∀ index, (task.controller.settingsMenu.handleEvent event).1 = .valueChanged index →
        syncPendingRadio (task.controller.settingsMenu.handleEvent event).2
            task.controller.pendingRadioSettings ≠ task.controller.pendingRadioSettings ∨
          syncPendingPower (task.controller.settingsMenu.handleEvent event).2
            task.controller.pendingPowerSettings ≠ task.controller.pendingPowerSettings

/-! ## The marked frame and the screen -/

/-- The marked frame is that of the controller, and if the screen holds a frame it holds this
one. -/
structure Tracked (task : DisplayTask) : Prop where
  navigable : Navigable task.controller.settingsMenu
  marked : ∀ frame, task.controller.lastFrame = some frame → task.HoldsFrame →
    ∃ timeSecs, task.controller.deriveFrameKey timeSecs = frame ∧
      task.screen = some (task.controller.picture timeSecs)

section Iterate

variable {task : DisplayTask} {iteration : Iteration}

theorem iterate_skipped (skipped : iteration.event = .ignore) :
    (task.iterate iteration).2 = task := by
  rw [iterate, if_pos skipped]

theorem iterate_message (goes_on : iteration.event ≠ .ignore) {message : String}
    (shows : iteration.message = some message) : (task.iterate iteration).2 =
      { controller := task.handled iteration
        screen := if iteration.succeeds then some (.status message) else none } := by
  rw [iterate, if_neg goes_on]
  dsimp only
  rw [shows]
  rfl

theorem iterate_frame (reaches : ReachesFrame iteration) : (task.iterate iteration).2 =
    render iteration { task with controller := task.handled iteration } := by
  rw [iterate, if_neg reaches.1]
  dsimp only
  rw [reaches.2]
  rfl

/-- A frame that is drawn is marked. -/
theorem iterate_drawn (reaches : ReachesFrame iteration) (redraws : task.redraws iteration = true)
    (succeeds : iteration.succeeds = true) : (task.iterate iteration).2 =
      { controller := (task.handled iteration).markRendered
          ((task.handled iteration).deriveFrameKey iteration.timeSecs)
        screen := some ((task.handled iteration).picture iteration.drawnSecs) } := by
  rw [iterate_frame reaches]
  exact (if_pos redraws).trans (if_pos succeeds)

theorem iterate_failed (reaches : ReachesFrame iteration) (redraws : task.redraws iteration = true)
    (fails : ¬iteration.succeeds = true) : (task.iterate iteration).2 =
      { controller := task.handled iteration, screen := none } := by
  rw [iterate_frame reaches]
  exact (if_pos redraws).trans (if_neg fails)

/-- A frame that is not drawn leaves the screen as it is. -/
theorem iterate_kept (reaches : ReachesFrame iteration) (same : task.redraws iteration = false) :
    (task.iterate iteration).2 = { task with controller := task.handled iteration } := by
  rw [iterate_frame reaches]
  exact if_neg (Bool.eq_false_iff.mp same)

end Iterate

theorem handled_lastFrame (task : DisplayTask) (iteration : Iteration) :
    (task.handled iteration).lastFrame = task.controller.lastFrame :=
  (DisplayController.syncFromWatchers_frame _ _ _).1.trans
    (DisplayController.handleEvent_lastFrame _ _)

theorem handled_navigable {task : DisplayTask} (iteration : Iteration)
    (navigable : Navigable task.controller.settingsMenu) :
    Navigable (task.handled iteration).settingsMenu :=
  DisplayController.navigable_syncFromWatchers
    (DisplayController.navigable_handleEvent navigable iteration.event) _ _

/-- The settings screen is left alone by the watches. -/
theorem handled_of_settings {task : DisplayTask} {iteration : Iteration}
    (settings : (task.controller.handleEvent iteration.event).2.state = .radio .settings) :
    task.handled iteration = (task.controller.handleEvent iteration.event).2 :=
  if_pos settings

/-- A frame whose key stays the same keeps its picture. -/
theorem picture_handled {task : DisplayTask} {iteration : Iteration}
    (navigable : Navigable task.controller.settingsMenu) (meets : task.Meets iteration)
    (reaches : ReachesFrame iteration) (drawn : task.redraws iteration = false)
    {timeSecs : Option UInt64}
    (same : (task.handled iteration).deriveFrameKey iteration.timeSecs =
      task.controller.deriveFrameKey timeSecs) :
    (task.handled iteration).picture iteration.timeSecs = task.controller.picture timeSecs := by
  by_cases settings : (task.handled iteration).state = .radio .settings
  swap
  · exact DisplayController.picture_eq_of_key settings same
  have begun : task.controller.state = .radio .settings :=
    DisplayController.state_of_key settings same
  have shown : ∀ controller : DisplayController, controller.state = .radio .settings →
      controller.settingsMenu = task.controller.settingsMenu →
      controller.picture iteration.timeSecs = task.controller.picture timeSecs := by
    intro controller there menu
    simp only [DisplayController.picture, there, begun, menu]
  have state := (DisplayController.syncFromWatchers_frame iteration.radioSettings
    iteration.powerSettings (task.controller.handleEvent iteration.event).2).2
  have unwatched := handled_of_settings (state.symm.trans settings)
  refine shown _ settings ?_
  rw [unwatched] at same settings ⊢
  cases event : iteration.event with
  | reading | tick | ignore => rfl
  | navigation navigation =>
      rw [event] at same settings
      obtain ⟨returned, menu, result, move, handled⟩ :=
        DisplayController.handleEvent_settings begun navigable.wellFormed navigation
      have turns := meets.turns reaches drawn navigation event begun
      rw [result] at turns
      rw [handled] at same settings ⊢
      cases outcome : settingsOutcomeFromMenuEvent returned with
      | unchanged =>
          rw [outcome] at same
          refine DisplayController.menu_eq_of_key begun navigable move ?_ same
          rintro index rfl
          cases outcome
      | valueChanged =>
          rw [outcome] at same
          exact DisplayController.menu_eq_of_key begun navigable move turns same
      | saveSelected =>
          rw [outcome] at settings
          cases settings

theorem redraws_eq_false {task : DisplayTask} {iteration : Iteration}
    (same : task.redraws iteration = false) :
    task.controller.lastFrame =
      some ((task.handled iteration).deriveFrameKey iteration.timeSecs) := by
  rw [redraws, DisplayController.shouldRender, handled_lastFrame, decide_eq_false_iff_not,
    not_not] at same
  exact same.symm

/-- Where the clock shows the time of the key, the drawing is the picture at that time. -/
theorem picture_eq_of_clock {controller : DisplayController} {iteration : Iteration}
    (clock : controller.state = .main → controller.lastReading ≠ none →
      iteration.drawnSecs.map formatTime = iteration.timeSecs.map formatTime) :
    controller.picture iteration.drawnSecs = controller.picture iteration.timeSecs := by
  obtain ⟨state, reading, _, _, _, _⟩ := controller
  cases state with
  | main =>
      cases reading with
      | none => rfl
      | some reading =>
          simp only [DisplayController.picture, clock rfl (Option.some_ne_none reading)]
  | radio screen => cases screen <;> rfl

/-- An iteration that meets the condition keeps track of the screen. -/
theorem Tracked.iterate {task : DisplayTask} (tracked : Tracked task) {iteration : Iteration}
    (meets : task.Meets iteration) : Tracked (task.iterate iteration).2 := by
  have navigable := handled_navigable iteration tracked.navigable
  by_cases skipped : iteration.event = .ignore
  · rw [iterate_skipped skipped]
    exact tracked
  cases shows : iteration.message with
  | some message =>
      rw [iterate_message skipped shows]
      refine ⟨navigable, fun frame _ holds => absurd holds ?_⟩
      rintro ⟨picture, screen, differs⟩
      dsimp only at screen
      split at screen
      · exact differs _ message shows (Option.some.inj screen).symm
      · cases screen
  | none =>
      have reaches : ReachesFrame iteration := ⟨skipped, shows⟩
      cases drawn : task.redraws iteration with
      | true =>
          by_cases succeeds : iteration.succeeds = true
          · rw [iterate_drawn reaches drawn succeeds,
              picture_eq_of_clock (meets.clock reaches drawn succeeds)]
            refine ⟨navigable, ?_⟩
            rintro frame ⟨⟩ -
            exact ⟨iteration.timeSecs, rfl, rfl⟩
          · rw [iterate_failed reaches drawn succeeds]
            refine ⟨navigable, fun frame _ holds => ?_⟩
            obtain ⟨picture, screen, -⟩ := holds
            cases screen
      | false =>
          rw [iterate_kept reaches drawn]
          refine ⟨navigable, fun frame marked holds => ?_⟩
          rw [handled_lastFrame] at marked
          rw [← Option.some.inj ((redraws_eq_false drawn).symm.trans marked)]
          obtain ⟨timeSecs, same, screen⟩ := tracked.marked _ (redraws_eq_false drawn) holds
          refine ⟨iteration.timeSecs, rfl, ?_⟩
          rw [picture_handled tracked.navigable meets reaches drawn same.symm]
          exact screen

/-- An iteration that meets the condition is fresh. -/
theorem Tracked.fresh {task : DisplayTask} (tracked : Tracked task) {iteration : Iteration}
    (meets : task.Meets iteration) : task.Fresh iteration := by
  intro reaches succeeds
  cases drawn : task.redraws iteration with
  | true =>
      rw [iterate_drawn reaches drawn (succeeds drawn),
        picture_eq_of_clock (meets.clock reaches drawn (succeeds drawn))]
      rfl
  | false =>
      obtain ⟨timeSecs, same, screen⟩ :=
        tracked.marked _ (redraws_eq_false drawn) (meets.holds reaches drawn)
      rw [iterate_kept reaches drawn,
        picture_handled tracked.navigable meets reaches drawn same.symm]
      exact screen

/-- A frame is not a status message of an update. -/
theorem picture_ne_message (controller : DisplayController) (timeSecs : Option UInt64)
    {state : OtaState} {message : String} (shows : displayMessage state = some message) :
    controller.picture timeSecs ≠ .status message := by
  have waiting : ("Waiting..." : String) ≠ message := by
    rintro rfl
    cases state <;> simp [displayMessage] at shows
  obtain ⟨screen, reading, _, _, _, _⟩ := controller
  cases screen with
  | main =>
      cases reading with
      | none => exact fun same => waiting (Picture.status.inj same)
      | some reading => nofun
  | radio screen => cases screen <;> nofun

/-- A fresh iteration meets the condition. -/
theorem Tracked.meets {task : DisplayTask} (tracked : Tracked task) {iteration : Iteration}
    (fresh : task.Fresh iteration) : task.Meets iteration := by
  have kept : ReachesFrame iteration → task.redraws iteration = false →
      task.screen = some ((task.handled iteration).picture iteration.timeSecs) := by
    intro reaches drawn
    have shown := fresh reaches fun redraws => absurd (drawn.symm.trans redraws) nofun
    rw [iterate_kept reaches drawn] at shown
    exact shown
  have holds : ReachesFrame iteration → task.redraws iteration = false → task.HoldsFrame :=
    fun reaches drawn => ⟨_, kept reaches drawn, fun _ _ => picture_ne_message _ _⟩
  refine ⟨holds, ?_, ?_⟩
  · intro reaches drawn succeeds main reading
    have shown := fresh reaches fun _ => succeeds
    rw [iterate_drawn reaches drawn succeeds] at shown
    have same : (task.handled iteration).picture iteration.drawnSecs =
        (task.handled iteration).picture iteration.timeSecs := Option.some.inj shown
    obtain ⟨reading, present⟩ := Option.ne_none_iff_exists'.mp reading
    simp only [DisplayController.picture, main, present, Picture.temperature.injEq] at same
    exact same.2.2.2.2
  · intro reaches drawn event occurs begun index changed
    obtain ⟨returned, menu, result, move, handled⟩ :=
      DisplayController.handleEvent_settings begun tracked.navigable.wellFormed event
    rw [result] at changed ⊢
    obtain rfl : returned = .valueChanged index := changed
    have after : (task.controller.handleEvent iteration.event).2 = { task.controller with
        settingsMenu := menu
        pendingRadioSettings := syncPendingRadio menu task.controller.pendingRadioSettings
        pendingPowerSettings := syncPendingPower menu task.controller.pendingPowerSettings } := by
      rw [occurs, handled]
      rfl
    have settings : (task.controller.handleEvent iteration.event).2.state = .radio .settings := by
      rw [after]
      exact begun
    have unwatched := handled_of_settings settings
    obtain ⟨timeSecs, -, screen⟩ :=
      tracked.marked _ (redraws_eq_false drawn) (holds reaches drawn)
    have same := Option.some.inj ((kept reaches drawn).symm.trans screen)
    rw [unwatched] at same
    cases move with
    | turned editing found moved =>
        refine absurd same (DisplayController.picture_ne_of_turned begun settings
          tracked.navigable found moved ?_)
        rw [after]
    | toggled _ kind => rcases kind with kind | kind <;> cases kind

theorem tracked_start (radio : Option RadioSettings) (power : Option PowerSettings)
    (succeeds : Bool) : Tracked (.start radio power succeeds) := by
  have unmarked : (start radio power succeeds).controller.lastFrame = none := rfl
  have built := navigable_buildSettingsMenu (radio.getD defaultRadioSettings)
    (power.getD defaultPowerSettings)
  refine ⟨?_, fun frame marked => ?_⟩
  · unfold start DisplayController.new
    dsimp only
    exact built
  · rw [unmarked] at marked
    cases marked

/-- In a run of the display task every iteration is fresh exactly if every iteration meets the
condition. -/
theorem screen_fresh_iff {start finish : DisplayTask} {iterations : List Iteration}
    (started : displaySystem.initial start) :
    displaySystem.Path Fresh start iterations finish ↔
      displaySystem.Path Meets start iterations finish := by
  refine TransitionSystem.path_congr Tracked ?_ ?_ ?_
  · intro before iteration after tracked _
    exact ⟨tracked.meets, tracked.fresh⟩
  · rintro before iteration _ tracked meets ⟨⟩
    exact tracked.iterate meets
  · obtain ⟨radio, power, succeeds, rfl⟩ := started
    exact tracked_start radio power succeeds

/-- An iteration with nothing on the watches but the time and the state of the update. -/
def quiet (event : DisplayLoopEvent) (otaState : OtaState) : Iteration where
  event := event
  radioSettings := none
  powerSettings := none
  otaState := some otaState
  currentTime := some ⟨1710000000⟩
  elapsedAtKey := 5
  elapsedAtDrawing := 5
  succeeds := true

/-- A reading is drawn, and the next screen after it. -/
theorem screen_fresh_iff_overview :
    ∃ finish, displaySystem.Path Fresh (.start none none true)
        [quiet (.reading ⟨⟨42, 3, true, 214, true⟩, -70, 12⟩) .inactive,
          quiet (.navigation .nextScreen) .inactive] finish ∧
      finish.screen = some (.radioInfo (some (-70))) := by
  have reading : (start none none true).Meets
      (quiet (.reading ⟨⟨42, 3, true, 214, true⟩, -70, 12⟩) .inactive) :=
    ⟨fun _ same => absurd same (by decide), fun _ _ _ _ _ => rfl, fun _ _ => nofun⟩
  have navigation : ((start none none true).iterate
      (quiet (.reading ⟨⟨42, 3, true, 214, true⟩, -70, 12⟩) .inactive)).2.Meets
      (quiet (.navigation .nextScreen) .inactive) :=
    ⟨fun _ same => absurd same (by decide), fun _ _ _ _ _ => rfl, fun _ _ _ _ => nofun⟩
  have begun : displaySystem.Path Meets (.start none none true) [] (.start none none true) := .nil
  exact ⟨_, (screen_fresh_iff ⟨none, none, true, rfl⟩).mpr
    ((begun.snoc reading rfl).snoc navigation rfl), rfl⟩

/-- The status message of an update is still shown when the update has ended. -/
theorem message_kept :
    ∃ finish : DisplayTask, displaySystem.run (.start none none true)
        [quiet .tick .inactive, quiet .tick .downloading] = some finish ∧
      ¬finish.Fresh (quiet .tick .inactive) ∧
      (finish.iterate (quiet .tick .inactive)).2.screen = some (.status "OTA download...") ∧
      (finish.iterate (quiet .tick .inactive)).2.controller.picture none =
        .status "Waiting..." := by
  refine ⟨_, rfl, fun fresh => ?_, rfl, rfl⟩
  have screen := fresh ⟨nofun, rfl⟩ fun _ => rfl
  exact absurd screen (by decide)

end DisplayTask
end Display
end Motonet
