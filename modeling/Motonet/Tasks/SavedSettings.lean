import Motonet.Tasks.Radio433

/-!
# Saved radio settings

A save is sent on the watch and written to RTC memory at once.  The start-up sequence loads the
written settings when it has prepared the radio, and reports on the same watch, some seconds later,
the settings that it loaded.  A save between the two is written over on the watch, and the settings
task reads the watch only when the report has been made.
-/

namespace Motonet
namespace RadioTasks

open AppCore Firmware Fallible

/-- The start-up sequence has not yet loaded the persisted settings. -/
def RxTask.isPreparing : RxTask → Bool
  | .notStarted | .sweeping _ _ => true
  | .sampling | .capturing | .stopped => false

/-- What holds in every run. -/
structure Sound (system : System) : Prop where
  coherent : system.radio.Coherent
  running : system.rxTask ≠ .stopped
  seen : system.settingsSeen ≤ system.settingsWatch.sent

/-- The three tasks have processed their pending work. -/
structure Quiescent (system : System) : Prop where
  commands : system.commands = []
  rxTask : system.rxTask = .capturing
  settingsTask : system.settingsTask = .waiting
  settingsWatch : system.settingsWatch.changed system.settingsSeen = false

/-- The chip, the radio, the watch and RTC memory all hold the clamped settings. -/
structure Agrees (settings : RadioSettings) (system : System) : Prop where
  applied : system.radio.registers.AppliedSettings (clampRadioConfig settings)
  radio : system.radio.currentSettings = clampRadioConfig settings
  settingsWatch : system.settingsWatch.value = some (clampRadioConfig settings)
  persisted : (loadSettings system.settingsWord).1 = some (clampRadioConfig settings)

/-- No settings are dispatched. -/
def NoSave (before : System) (action : Action) : Prop :=
  action = .dispatch → ∀ settings commands, before.commands ≠ .applySettings settings :: commands

/-- The settings are not dispatched while the radio samples, unless it has them already, and those
that are dispatched later are within their ranges. -/
def KeptBy (settings : RadioSettings) (before : System) : Prop :=
  match before.rxTask with
  | .notStarted | .sweeping _ _ | .stopped => True
  | .sampling => before.radio.currentSettings = clampRadioConfig settings
  | .capturing => clampRadioConfig settings = settings

/-- What a step changes. -/
inductive Moves (before : System) (action : Action) (after : System) : Prop
  | queued (commands : List AppCommand) :
      after = { before with commands := commands } → Moves before action after
  | saved (settings : RadioSettings) (commands : List AppCommand) :
      action = .dispatch → before.commands = .applySettings settings :: commands →
      after = { before with
        commands := commands
        settingsWatch := before.settingsWatch.send settings
        settingsWord := persistSettings settings } → Moves before action after
  /-- The start-up sequence prepares the radio. -/
  | prepared (radio : Cc1101Radio) (rfProfileWord : UInt32) (rxTask : RxTask) :
      before.rxTask.isPreparing = true → rxTask.isPreparing = true → radio.Coherent →
      after = { before with radio := radio, rfProfileWord := rfProfileWord, rxTask := rxTask } →
      Moves before action after
  /-- The start-up sequence loads the persisted settings. -/
  | loaded (radio : Cc1101Radio) (rfProfileWord : UInt32) :
      before.rxTask.isPreparing = true → radio.Coherent →
      (∀ settings, (loadSettings before.settingsWord).1 = some settings →
        radio.currentSettings = settings) →
      after = { before with
        radio := radio
        rfProfileWord := rfProfileWord
        settingsWord := (loadSettings before.settingsWord).2
        rxTask := .sampling } → Moves before action after
  | reported :
      before.rxTask = .sampling →
      after = { before with
        settingsWatch := before.settingsWatch.send before.radio.currentSettings
        rxTask := .capturing } → Moves before action after
  | woken :
      before.settingsWatch.changed before.settingsSeen = true →
      after = { before with
        settingsTask := .lockingRadio
        settingsSeen := before.settingsWatch.sent } → Moves before action after
  | applied :
      before.rxTask ≠ .sampling →
      after = { before with
        radio := before.radio.applyPendingSettings before.settingsWatch.value
        settingsTask := .waiting
        settingsSeen := before.settingsWatch.sent } → Moves before action after

/-! ## The start-up sequence -/

/-- The bandwidth of a candidate is that of its index. -/
theorem rfSweepCandidates_known {candidate : RfSweepCandidate}
    (member : candidate ∈ rfSweepCandidates) :
    channelBandwidthHz (channelBandwidthIndex candidate.bandwidthHz) = candidate.bandwidthHz := by
  revert candidate
  decide

theorem applyRfProfile_returns {system : System} (coherent : system.radio.Coherent)
    {candidate : RfSweepCandidate} (member : candidate ∈ rfSweepCandidates) :
    ∃ radio, exec (Cc1101Radio.applyRfProfile candidate.freqHz candidate.bandwidthHz)
      system.radio = (.ok (), radio) ∧ radio.Coherent := by
  have sets := Cc1101Radio.sets_applyRfProfile candidate.freqHz (rfSweepCandidates_known member)
  obtain ⟨radio, executed, held, _⟩ := sets.returns coherent
  exact ⟨radio, executed, held⟩

theorem restoreSettings_eq (system : System) (coherent : system.radio.Coherent) :
    ∃ radio, radio.Coherent ∧
      (∀ settings, (loadSettings system.settingsWord).1 = some settings →
        radio.currentSettings = settings) ∧
      system.restoreSettings = { system with
        radio := radio
        settingsWord := (loadSettings system.settingsWord).2
        rxTask := .sampling } := by
  unfold System.restoreSettings
  cases loaded : loadSettings system.settingsWord with
  | mk settings word =>
      cases settings with
      | none => exact ⟨system.radio, coherent, fun _ absent => (nomatch absent), rfl⟩
      | some settings =>
          obtain ⟨radio, executed, held, current⟩ :=
            (Cc1101Radio.sets_applySettings settings).returns coherent
          refine ⟨radio, held, ?_, by simp only [executed]⟩
          intro persisted same
          cases same
          rw [current]
          exact clamp_of_loadSettings (congrArg Prod.fst loaded)

theorem applyPersistedRfProfile_eq (system : System) (coherent : system.radio.Coherent) :
    ∃ radio word, radio.Coherent ∧
      system.applyPersistedRfProfile = { system with radio := radio, rfProfileWord := word } := by
  unfold System.applyPersistedRfProfile
  dsimp only
  split
  · rename_i candidate found
    obtain ⟨index, -, located⟩ := Option.bind_eq_some_iff.mp found
    obtain ⟨radio, executed, held⟩ :=
      applyRfProfile_returns coherent (List.mem_of_getElem? located)
    exact ⟨radio, _, held, by rw [executed]⟩
  · exact ⟨system.radio, _, coherent, rfl⟩

private theorem moves_of_dispatch {before after : System} (taken : before.dispatch = some after) :
    Moves before .dispatch after := by
  unfold System.dispatch at taken
  split at taken
  · cases taken
  · rename_i command commands queue
    cases command with
    | applySettings settings =>
        exact .saved settings commands rfl queue (Option.some.inj taken).symm
    | publishTelemetry => exact .queued commands (Option.some.inj taken).symm
    | otaConfirmed => exact .queued commands (Option.some.inj taken).symm

private theorem moves_of_start {before : System} (sound : Sound before) (action : Action)
    (notStarted : before.rxTask = .notStarted) : Moves before action before.start := by
  have preparing : before.rxTask.isPreparing = true := by rw [notStarted]; rfl
  obtain ⟨radio, executed, coherent, -⟩ := (Cc1101Radio.sets_getHwInfo.bind
    Cc1101Radio.sets_setReceiveMode).returns sound.coherent
  unfold System.start
  rw [executed]
  dsimp only
  split
  · exact .prepared radio before.rfProfileWord _ preparing rfl coherent rfl
  · obtain ⟨profiled, word, held, profile⟩ := applyPersistedRfProfile_eq
      { before with radio := radio } coherent
    rw [profile]
    obtain ⟨restored, kept, loads, restore⟩ := restoreSettings_eq
      { before with radio := profiled, rfProfileWord := word } held
    exact .loaded restored word preparing kept loads restore

private theorem moves_of_sweepNext {before : System} (sound : Sound before) (action : Action)
    {next : ℕ} {measured : List ℕ} (sweeping : before.rxTask = .sweeping next measured)
    {candidate : RfSweepCandidate} (member : candidate ∈ rfSweepCandidates) :
    Moves before action (before.sweepNext next measured candidate) := by
  have preparing : before.rxTask.isPreparing = true := by rw [sweeping]; rfl
  obtain ⟨radio, executed, coherent⟩ := applyRfProfile_returns sound.coherent member
  unfold System.sweepNext
  rw [executed]
  exact .prepared radio before.rfProfileWord _ preparing rfl coherent rfl

private theorem moves_of_sweepSelect {before : System} (sound : Sound before) (action : Action)
    (preparing : before.rxTask.isPreparing = true) {best : Option (ℕ × RfSweepCandidate)}
    (member : ∀ selected ∈ best, selected.2 ∈ rfSweepCandidates) :
    Moves before action (before.sweepSelect best).restoreSettings := by
  cases best with
  | none =>
      obtain ⟨restored, kept, loads, restore⟩ := restoreSettings_eq before sound.coherent
      exact .loaded restored before.rfProfileWord preparing kept loads restore
  | some selected =>
      obtain ⟨index, candidate⟩ := selected
      obtain ⟨radio, executed, coherent⟩ :=
        applyRfProfile_returns sound.coherent (member _ rfl)
      unfold System.sweepSelect
      simp only [executed]
      obtain ⟨restored, kept, loads, restore⟩ := restoreSettings_eq { before with
        radio := radio
        rfProfileWord := persistRfProfileIndex index before.rfProfileWord } coherent
      exact .loaded restored _ preparing kept loads restore

/-- Every step of a sound system is one of the moves. -/
theorem moves_of_step {before after : System} (sound : Sound before) {action : Action}
    (taken : step before action = some after) : Moves before action after := by
  cases action with
  | send command =>
      obtain ⟨commands, -, rfl⟩ := Option.map_eq_some_iff.mp taken
      exact .queued commands rfl
  | dispatch => exact moves_of_dispatch taken
  | start =>
      obtain ⟨notStarted, same⟩ := Option.ite_none_right_eq_some.mp taken
      cases same
      exact moves_of_start sound _ notStarted
  | sweepNext =>
      simp only [step] at taken
      split at taken
      · rename_i next measured sweeping
        obtain ⟨candidate, found, rfl⟩ := Option.map_eq_some_iff.mp taken
        exact moves_of_sweepNext sound _ sweeping (List.mem_of_getElem? found)
      · cases taken
  | sweepSelect best =>
      simp only [step] at taken
      split at taken
      · rename_i next measured sweeping
        have preparing : before.rxTask.isPreparing = true := by rw [sweeping]; rfl
        obtain ⟨-, taken⟩ := Option.ite_none_left_eq_some.mp taken
        cases best with
        | none =>
            obtain ⟨-, same⟩ := Option.ite_none_right_eq_some.mp taken
            cases same
            exact moves_of_sweepSelect sound _ preparing fun _ absent => (nomatch absent)
        | some index =>
            obtain ⟨-, taken⟩ := Option.ite_none_right_eq_some.mp taken
            obtain ⟨candidate, found, rfl⟩ := Option.map_eq_some_iff.mp taken
            apply moves_of_sweepSelect sound _ preparing
            intro selected same
            cases same
            exact List.mem_of_getElem? found
      · cases taken
  | report =>
      obtain ⟨sampling, same⟩ := Option.ite_none_right_eq_some.mp taken
      cases same
      exact .reported sampling rfl
  | settingsChanged =>
      obtain ⟨⟨-, changed⟩, same⟩ := Option.ite_none_right_eq_some.mp taken
      cases same
      exact .woken changed rfl
  | applyPending =>
      obtain ⟨⟨-, free⟩, same⟩ := Option.ite_none_right_eq_some.mp taken
      cases same
      refine .applied ?_ rfl
      intro sampling
      rw [System.radioFree, sampling] at free
      cases free

/-! ## Invariants -/

theorem applyPendingSettings_coherent {radio : Cc1101Radio} (coherent : radio.Coherent)
    (pending : Option RadioSettings) : (radio.applyPendingSettings pending).Coherent := by
  cases pending with
  | none => exact coherent
  | some settings => exact (Cc1101Radio.applyPendingSettings_some coherent settings).1

private theorem running_of_isPreparing {rxTask : RxTask} (preparing : rxTask.isPreparing = true) :
    rxTask ≠ .stopped := by
  rintro rfl
  cases preparing

theorem Sound.move {before after : System} {action : Action} (sound : Sound before)
    (moves : Moves before action after) : Sound after := by
  cases moves with
  | queued _ same =>
      subst same
      exact { sound with }
  | saved _ _ _ _ same =>
      subst same
      exact { sound with seen := Nat.le_succ_of_le sound.seen }
  | prepared _ _ _ _ preparing coherent same =>
      subst same
      exact { sound with coherent, running := running_of_isPreparing preparing }
  | loaded _ _ _ coherent _ same =>
      subst same
      exact { sound with coherent, running := nofun }
  | reported _ same =>
      subst same
      exact { sound with running := nofun, seen := Nat.le_succ_of_le sound.seen }
  | woken _ same =>
      subst same
      exact { sound with seen := Nat.le_refl _ }
  | applied _ same =>
      subst same
      exact { sound with
        coherent := applyPendingSettings_coherent sound.coherent _
        seen := Nat.le_refl _ }

theorem sound_of_initial {system : System} (initial : radioSystem.initial system) :
    Sound system := by
  obtain ⟨coldBoot, settingsWord, rfProfileWord, registers, radio, executed, rfl⟩ := initial
  obtain ⟨initialized, returned, coherent, -⟩ :=
    Cc1101Radio.init_restored registers (loadSettingsOrDefault settingsWord).1
  cases executed.symm.trans returned
  exact ⟨coherent, nofun, Nat.zero_le _⟩

theorem sound_of_reachable {system : System} (reachable : radioSystem.Reachable system) :
    Sound system :=
  reachable.invariant Sound (fun _ initial => sound_of_initial initial)
    fun _ _ _ sound taken => sound.move (moves_of_step sound taken)

/-- Without a save, the persisted settings stay. -/
theorem settingsWord_of_moves {before after : System} {action : Action} {settings : RadioSettings}
    (moves : Moves before action after) (noSave : NoSave before action)
    (persisted : before.settingsWord = persistSettings settings) :
    after.settingsWord = persistSettings settings := by
  cases moves with
  | saved saved commands dispatched queue _ => exact absurd queue (noSave dispatched saved commands)
  | loaded _ _ _ _ _ same =>
      rw [same]
      change (loadSettings before.settingsWord).2 = _
      rw [persisted, loadSettings_persistSettings]
  | queued _ same | prepared _ _ _ _ _ _ same | reported _ same | woken _ same
  | applied _ same =>
      rw [same]
      exact persisted

/-- What is in the watch and in the radio is, or will be, what the start-up sequence loaded. -/
inductive Reported (current : RadioSettings) (system : System) : Prop
  | sampling : system.rxTask = .sampling → system.radio.currentSettings = current →
      Reported current system
  | capturing : system.rxTask = .capturing → system.radio.currentSettings = current →
      system.settingsWatch.value = some current → Reported current system

/-- The settings are in the watch, after the report, and the radio has them or will get them. -/
structure Delivered (settings : RadioSettings) (system : System) : Prop where
  capturing : system.rxTask = .capturing
  settingsWatch : system.settingsWatch.value = some settings
  pending : system.radio.currentSettings = clampRadioConfig settings ∨
    system.settingsTask = .lockingRadio ∨
      system.settingsWatch.changed system.settingsSeen = true

/-- The persisted settings are still to be loaded, or were loaded. -/
def Unread (settings : RadioSettings) (system : System) : Prop :=
  system.rxTask.isPreparing = true ∨ Reported (clampRadioConfig settings) system

private theorem Reported.not_preparing {current : RadioSettings} {system : System}
    (reported : Reported current system) : ¬system.rxTask.isPreparing = true := by
  cases reported with
  | sampling sampling _ =>
      rw [sampling]
      exact nofun
  | capturing capturing _ _ =>
      rw [capturing]
      exact nofun

/-- A report stands until settings are saved. -/
theorem Reported.move {before after : System} {action : Action} {current : RadioSettings}
    (reported : Reported current before) (sound : Sound before)
    (moves : Moves before action after) (noSave : NoSave before action) :
    Reported current after := by
  cases moves with
  | saved saved commands dispatched queue _ => exact absurd queue (noSave dispatched saved commands)
  | prepared _ _ _ preparing | loaded _ _ preparing => exact absurd preparing reported.not_preparing
  | queued _ same | woken _ same =>
      subst same
      cases reported with
      | sampling sampling held => exact .sampling sampling held
      | capturing capturing held sent => exact .capturing capturing held sent
  | reported sampling same =>
      subst same
      cases reported with
      | sampling _ held => exact .capturing rfl held (congrArg some held)
      | capturing capturing => cases sampling.symm.trans capturing
  | applied notSampling same =>
      subst same
      cases reported with
      | sampling sampling => exact absurd sampling notSampling
      | capturing capturing held sent =>
          have clamped := sound.coherent.clamped
          rw [held] at clamped
          refine .capturing capturing ?_ sent
          rw [sent, (Cc1101Radio.applyPendingSettings_some sound.coherent current).2, clamped]

/-- The persisted settings are loaded, and the report stands, until settings are saved. -/
theorem unread_move {before after : System} {action : Action} {settings : RadioSettings}
    (unread : Unread settings before) (sound : Sound before)
    (persisted : before.settingsWord = persistSettings settings)
    (moves : Moves before action after) (noSave : NoSave before action) :
    Unread settings after := by
  obtain preparing | reported := unread
  · cases moves with
    | saved saved commands dispatched queue _ =>
        exact absurd queue (noSave dispatched saved commands)
    | queued _ same | woken _ same | applied _ same =>
        subst same
        exact .inl preparing
    | prepared _ _ _ _ still _ same =>
        subst same
        exact .inl still
    | loaded radio _ _ _ loads same =>
        subst same
        refine .inr (.sampling rfl (loads _ ?_))
        rw [persisted, loadSettings_persistSettings]
    | reported sampling _ =>
        rw [sampling] at preparing
        cases preparing
  · exact .inr (reported.move sound moves noSave)

/-- Settings that were sent after the report reach the radio. -/
theorem Delivered.move {before after : System} {action : Action} {settings : RadioSettings}
    (delivered : Delivered settings before) (sound : Sound before)
    (moves : Moves before action after) (noSave : NoSave before action) :
    Delivered settings after := by
  obtain ⟨capturing, sent, pending⟩ := delivered
  cases moves with
  | saved saved commands dispatched queue _ => exact absurd queue (noSave dispatched saved commands)
  | prepared _ _ _ preparing | loaded _ _ preparing =>
      rw [capturing] at preparing
      cases preparing
  | reported sampling _ => cases sampling.symm.trans capturing
  | queued _ same =>
      subst same
      exact ⟨capturing, sent, pending⟩
  | woken _ same =>
      subst same
      exact ⟨capturing, sent, .inr (.inl rfl)⟩
  | applied _ same =>
      subst same
      refine ⟨capturing, sent, .inl ?_⟩
      rw [sent]
      exact (Cc1101Radio.applyPendingSettings_some sound.coherent settings).2

/-- A phase that every step without a save keeps holds at the end of such a run. -/
theorem phase_of_path {start finish : System} {actions : List Action} {settings : RadioSettings}
    (phase : System → Prop)
    (preserved : ∀ before action after, phase before → Sound before →
      before.settingsWord = persistSettings settings → Moves before action after →
      NoSave before action → phase after)
    (path : radioSystem.Path NoSave start actions finish) (sound : Sound start)
    (persisted : start.settingsWord = persistSettings settings) (holds : phase start) :
    phase finish ∧ Sound finish ∧ finish.settingsWord = persistSettings settings := by
  apply path.invariant fun system =>
    phase system ∧ Sound system ∧ system.settingsWord = persistSettings settings
  · rintro before action after ⟨held, sound, persisted⟩ noSave taken
    have moves := moves_of_step sound taken
    exact ⟨preserved _ _ _ held sound persisted moves noSave, sound.move moves,
      settingsWord_of_moves moves noSave persisted⟩
  · exact ⟨holds, sound, persisted⟩

/-! ## Agreement -/

theorem agrees_iff {system : System} {settings : RadioSettings} (sound : Sound system)
    (persisted : system.settingsWord = persistSettings settings) :
    Agrees settings system ↔ system.radio.currentSettings = clampRadioConfig settings ∧
      system.settingsWatch.value = some (clampRadioConfig settings) := by
  constructor
  · intro agrees
    exact ⟨agrees.radio, agrees.settingsWatch⟩
  · rintro ⟨current, sent⟩
    refine ⟨current ▸ sound.coherent.applied, current, sent, ?_⟩
    rw [persisted, loadSettings_persistSettings]

theorem Reported.agrees_iff {system : System} {current settings : RadioSettings}
    (reported : Reported current system) (quiescent : Quiescent system) (sound : Sound system)
    (persisted : system.settingsWord = persistSettings settings) :
    Agrees settings system ↔ current = clampRadioConfig settings := by
  rw [RadioTasks.agrees_iff sound persisted]
  cases reported with
  | sampling sampling => cases sampling.symm.trans quiescent.rxTask
  | capturing _ held sent =>
      rw [held, sent, Option.some.injEq, and_self]

theorem Delivered.agrees_iff {system : System} {settings : RadioSettings}
    (delivered : Delivered settings system) (quiescent : Quiescent system) (sound : Sound system)
    (persisted : system.settingsWord = persistSettings settings) :
    Agrees settings system ↔ clampRadioConfig settings = settings := by
  rw [RadioTasks.agrees_iff sound persisted, delivered.settingsWatch, Option.some.injEq]
  obtain current | locking | changed := delivered.pending
  · rw [current]
    exact (and_iff_right rfl).trans eq_comm
  · cases locking.symm.trans quiescent.settingsTask
  · cases changed.symm.trans quiescent.settingsWatch

/-- What a save leaves. -/
theorem of_dispatch {before middle : System} {settings : RadioSettings}
    {commands : List AppCommand} (queue : before.commands = .applySettings settings :: commands)
    (dispatched : step before .dispatch = some middle) :
    middle = { before with
      commands := commands
      settingsWatch := before.settingsWatch.send settings
      settingsWord := persistSettings settings } := by
  simp only [step, System.dispatch, queue, classifyControlDispatch] at dispatched
  exact (Option.some.inj dispatched).symm

/-- In every run, once the tasks have processed everything after the last save, the chip, the radio,
the watch and RTC memory agree on the saved settings if and only if the save did not fall between
the loading of the persisted settings and their report. -/
theorem saved_settings_kept_iff {before middle finish : System} {settings : RadioSettings}
    {commands : List AppCommand} {actions : List Action}
    (reachable : radioSystem.Reachable before)
    (queue : before.commands = .applySettings settings :: commands)
    (dispatched : step before .dispatch = some middle)
    (path : radioSystem.Path NoSave middle actions finish) (quiescent : Quiescent finish) :
    Agrees settings finish ↔ KeptBy settings before := by
  have sound := sound_of_reachable reachable
  have saved := of_dispatch queue dispatched
  have persisted : middle.settingsWord = persistSettings settings := by rw [saved]
  have soundMiddle : Sound middle :=
    sound.move (.saved settings commands rfl queue saved)
  have unread : before.rxTask.isPreparing = true → Agrees settings finish := by
    intro preparing
    obtain ⟨held, soundFinish, word⟩ := phase_of_path (Unread settings)
      (fun _ _ _ held sound word moves noSave => unread_move held sound word moves noSave)
      path soundMiddle persisted (.inl (by rw [saved]; exact preparing))
    obtain still | reported := held
    · rw [quiescent.rxTask] at still
      cases still
    · exact (reported.agrees_iff quiescent soundFinish word).mpr rfl
  unfold KeptBy
  split
  · rename_i notStarted
    exact iff_of_true (unread (by rw [notStarted]; rfl)) trivial
  · rename_i sweeping
    exact iff_of_true (unread (by rw [sweeping]; rfl)) trivial
  · rename_i stopped
    exact absurd stopped sound.running
  · rename_i sampling
    obtain ⟨held, soundFinish, word⟩ := phase_of_path (Reported before.radio.currentSettings)
      (fun _ _ _ held sound _ moves noSave => held.move sound moves noSave)
      path soundMiddle persisted (.sampling (by rw [saved]; exact sampling) (by rw [saved]))
    exact held.agrees_iff quiescent soundFinish word
  · rename_i capturing
    have delivered : Delivered settings middle := by
      subst saved
      refine ⟨capturing, rfl, .inr (.inr ?_)⟩
      exact decide_eq_true (Nat.lt_succ_of_le sound.seen)
    obtain ⟨held, soundFinish, word⟩ := phase_of_path (Delivered settings)
      (fun _ _ _ held sound _ moves noSave => held.move sound moves noSave)
      path soundMiddle persisted delivered
    exact held.agrees_iff quiescent soundFinish word

/-! ## Two saves -/

def resetRegisters : Cc1101Registers := ⟨.idle, 0, 0, .db8, .db24, 0⟩

/-- The radio, initialized with the default settings. -/
def initializedRadio : Cc1101Radio where
  registers := ⟨.idle, 433920000, 203000, .db4, .db33, 7⟩
  failures := []
  detectionThresholdDb := 4
  filterLevel := 3
  channelBandwidthIndex := 1
  carrierSenseThreshold := 7

def receivingRadio : Cc1101Radio :=
  { initializedRadio with registers := ⟨.receive, 433920000, 203000, .db4, .db33, 7⟩ }

def higherThreshold : RadioSettings := ⟨8, 3, 1, 7⟩

/-- A wake from deep sleep with nothing in RTC memory. -/
def wokenSystem : System := System.booted false 0 0 initializedRadio

/-- Settings are saved while the radio samples. -/
def samplingSystem : System :=
  { wokenSystem with
    commands := [.applySettings higherThreshold]
    radio := receivingRadio
    rxTask := .sampling }

/-- Settings are saved after the report. -/
def reportedSystem : System :=
  { samplingSystem with
    settingsWatch := ⟨some defaultRadioSettings, 2⟩
    rxTask := .capturing }

/-- The settings that were saved after the report are applied. -/
def settledSystem : System :=
  { reportedSystem with
    commands := []
    settingsWatch := ⟨some higherThreshold, 3⟩
    settingsWord := persistSettings higherThreshold
    radio := { receivingRadio with
      registers := ⟨.receive, 433920000, 203000, .db8, .db33, 7⟩, detectionThresholdDb := 8 }
    settingsSeen := 3 }

private theorem initial_wokenSystem : radioSystem.initial wokenSystem :=
  ⟨false, 0, 0, resetRegisters, initializedRadio, rfl, rfl⟩

private theorem reachable_samplingSystem : radioSystem.Reachable samplingSystem := by
  have executed : radioSystem.run wokenSystem [.start, .send (.applySettings higherThreshold)] =
      some samplingSystem := rfl
  exact ⟨wokenSystem, _, initial_wokenSystem,
    TransitionSystem.path_of_run executed fun _ _ _ => trivial⟩

private theorem reachable_reportedSystem : radioSystem.Reachable reportedSystem := by
  have executed : radioSystem.run wokenSystem
      [.start, .report, .send (.applySettings higherThreshold)] = some reportedSystem := rfl
  exact ⟨wokenSystem, _, initial_wokenSystem,
    TransitionSystem.path_of_run executed fun _ _ _ => trivial⟩

/-- The report of a sampling radio overwrites a save on the watch, and the radio keeps what it has;
only RTC memory has the saved settings. -/
theorem save_overwritten : ¬∀ (before middle finish : System) (settings : RadioSettings)
    (commands : List AppCommand) (actions : List Action), radioSystem.Reachable before →
    before.commands = .applySettings settings :: commands →
    step before .dispatch = some middle → radioSystem.Path NoSave middle actions finish →
    Quiescent finish → Agrees settings finish := by
  intro kept
  have executed : radioSystem.run
      { samplingSystem with
        commands := []
        settingsWatch := ⟨some higherThreshold, 2⟩
        settingsWord := persistSettings higherThreshold }
      [.report, .settingsChanged, .applyPending] =
      some { reportedSystem with
        commands := []
        settingsWatch := ⟨some defaultRadioSettings, 3⟩
        settingsWord := persistSettings higherThreshold
        settingsSeen := 3 } := rfl
  have path : radioSystem.Path NoSave _ _ _ :=
    TransitionSystem.path_of_run executed (by simp [NoSave])
  have agrees := kept samplingSystem _ _ higherThreshold [] _ reachable_samplingSystem rfl rfl path
    ⟨rfl, rfl, rfl, rfl⟩
  have watched := agrees.settingsWatch
  revert watched
  decide

/-- A save after the report is kept. -/
theorem saved_settings_kept_iff_sample :
    Quiescent settledSystem ∧ Agrees higherThreshold settledSystem := by
  have quiescent : Quiescent settledSystem := ⟨rfl, rfl, rfl, rfl⟩
  have executed : radioSystem.run
      { reportedSystem with
        commands := []
        settingsWatch := ⟨some higherThreshold, 3⟩
        settingsWord := persistSettings higherThreshold }
      [.settingsChanged, .applyPending] = some settledSystem := rfl
  have path : radioSystem.Path NoSave _ _ _ :=
    TransitionSystem.path_of_run executed (by simp [NoSave])
  have kept : KeptBy higherThreshold reportedSystem := rfl
  exact ⟨quiescent,
    (saved_settings_kept_iff reachable_reportedSystem rfl rfl path quiescent).mpr kept⟩

end RadioTasks
end Motonet
