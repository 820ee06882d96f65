import Motonet.Firmware.Radio433

/-!
# Failing commands to the radio

A setter idles the chip, configures it, returns it to RX mode and only then remembers the setting,
and each of its commands may fail.  If the first one fails, nothing has happened.  If a later one
fails, the chip stays idle, and it may hold a setting that the radio does not remember.
-/

namespace Motonet
namespace Firmware

open AppCore Fallible

/-- The calls that set up a receiving radio. -/
inductive RadioCall
  | setDetectionThreshold (db : UInt8)
  | setFilterLevel (level : UInt8)
  | setChannelBandwidthIndex (index : UInt8)
  | setCarrierSenseThreshold (threshold : UInt8)
  | applySettings (settings : RadioSettings)
  | applyRfProfile (freqHz bandwidthHz : UInt32)
  deriving DecidableEq, Repr

namespace RadioCall

/-- The method that a call runs. -/
def program : RadioCall → Fallible RadioError Cc1101Radio Unit
  | setDetectionThreshold db => Cc1101Radio.setDetectionThreshold db
  | setFilterLevel level => Cc1101Radio.setFilterLevel level
  | setChannelBandwidthIndex index => Cc1101Radio.setChannelBandwidthIndex index
  | setCarrierSenseThreshold threshold => Cc1101Radio.setCarrierSenseThreshold threshold
  | applySettings settings => Cc1101Radio.applySettings settings
  | applyRfProfile freqHz bandwidthHz => Cc1101Radio.applyRfProfile freqHz bandwidthHz

end RadioCall

/-- The four settings. -/
inductive RadioSetting
  | detectionThreshold
  | filterLevel
  | channelBandwidth
  | carrierSense
  deriving DecidableEq, Repr

namespace RadioSetting

/-- A setting as the radio remembers it. -/
def remembered : RadioSetting → Cc1101Radio → UInt8
  | detectionThreshold, radio => radio.getDetectionThreshold
  | filterLevel, radio => radio.filterLevel
  | channelBandwidth, radio => radio.channelBandwidthIndex
  | carrierSense, radio => radio.carrierSenseThreshold

/-- A setting among pending ones. -/
def pending : RadioSetting → RadioSettings → UInt8
  | detectionThreshold, settings => settings.detectionThresholdDb
  | filterLevel, settings => settings.magnTarget
  | channelBandwidth, settings => settings.channelBandwidthIndex
  | carrierSense, settings => settings.carrierSenseThreshold

/-- The setter of a setting. -/
def set : RadioSetting → UInt8 → Fallible RadioError Cc1101Radio Unit
  | detectionThreshold => Cc1101Radio.setDetectionThreshold
  | filterLevel => Cc1101Radio.setFilterLevel
  | channelBandwidth => Cc1101Radio.setChannelBandwidthIndex
  | carrierSense => Cc1101Radio.setCarrierSenseThreshold

/-- The chip has a value of a setting. -/
def Programmed : RadioSetting → UInt8 → Cc1101Registers → Prop
  | detectionThreshold, db, registers => registers.filterLength = decisionBoundaryForThreshold db
  | filterLevel, level, registers => registers.magnTarget = targetAmplitudeForLevel level
  | channelBandwidth, index, registers =>
      registers.channelBandwidthHz = AppCore.channelBandwidthHz index
  | carrierSense, threshold, registers => registers.carrierSenseThreshold = threshold

/-- A setting in the chip and as the radio remembers it. -/
def view (setting : RadioSetting) (radio : Cc1101Radio) : (UInt8 → Prop) × UInt8 :=
  (fun value => setting.Programmed value radio.registers, setting.remembered radio)

end RadioSetting

/-- The next commands do not fail. -/
def Succeed : ℕ → List Bool → Prop
  | 0, _ => True
  | commands + 1, failures => failures.headD false = false ∧ Succeed commands failures.tail

/-- In each of a number of setters one after the other no command fails, or the first one does and
ends the sequence. -/
def Undisturbed : ℕ → List Bool → Prop
  | 0, _ => True
  | setters + 1, failures =>
      failures.headD false = true ∨
        (Succeed 3 failures ∧ Undisturbed setters failures.tail.tail.tail)

/-- No command of a call fails after one has idled the chip, and the bandwidth of an RF profile is
one that has an index. -/
def RadioCall.Completes (failures : List Bool) : RadioCall → Prop
  | applySettings _ => Undisturbed 4 failures
  | applyRfProfile _ bandwidthHz =>
      failures.headD false = true ∨
        (Succeed 4 failures ∧
          channelBandwidthHz (channelBandwidthIndex bandwidthHz) = bandwidthHz)
  | _ => Undisturbed 1 failures

namespace Cc1101Radio

/-- The radio after calls one after the other, whether they fail or not. -/
def serve (radio : Cc1101Radio) (calls : List RadioCall) : Cc1101Radio :=
  calls.foldl (fun radio call => (exec call.program radio).2) radio

/-- The chip is configured as the radio remembers, and receives. -/
structure Synchronized (radio : Cc1101Radio) : Prop where
  applied : radio.registers.AppliedSettings radio.currentSettings
  receiving : radio.registers.mode = .receive

/-- A pending setting that is skipped because it is the remembered one is in the chip when the
pending settings have been applied. -/
def SkipsProgrammed (radio : Cc1101Radio) (settings : RadioSettings) : Prop :=
  ∀ setting : RadioSetting, setting.pending settings = setting.remembered radio →
    setting.Programmed (setting.pending settings)
      (radio.applyPendingSettings (some settings)).registers

theorem exec_driver_of_fails {radio : Cc1101Radio} (fails : radio.failures.headD false = true)
    (command : Cc1101Command) :
    exec (driver command) radio =
      (.error .configError, { radio with failures := radio.failures.tail }) := by
  obtain ⟨registers, failures, threshold, level, index, carrier⟩ := radio
  match failures, fails with
  | true :: failures, _ => rfl

theorem exec_driver_of_succeeds {radio : Cc1101Radio}
    (succeeds : radio.failures.headD false = false) (command : Cc1101Command) :
    exec (driver command) radio =
      (.ok (), { radio with
        registers := command.execute radio.registers
        failures := radio.failures.tail }) := by
  obtain ⟨registers, failures, threshold, level, index, carrier⟩ := radio
  match failures, succeeds with
  | [], _ => rfl
  | false :: failures, _ => rfl

/-- What the setters have in common, from a synchronized radio: the failure of the first command is
without effect, if no command fails the radio is synchronized again, and any other failure leaves
the chip idle. -/
structure Setter (program : Fallible RadioError Cc1101Radio Unit) : Prop where
  refused : ∀ radio, radio.failures.headD false = true →
    exec program radio = (.error .configError, { radio with failures := radio.failures.tail })
  completed : ∀ radio, radio.Synchronized → Succeed 3 radio.failures →
    ∃ after, exec program radio = (.ok (), after) ∧ after.Synchronized ∧
      after.failures = radio.failures.tail.tail.tail
  disturbed : ∀ radio, radio.failures.headD false = false → ¬ Succeed 3 radio.failures →
    ∃ error after, exec program radio = (.error error, after) ∧ after.registers.mode = .idle

theorem Synchronized.of_failures {radio : Cc1101Radio} (synchronized : radio.Synchronized)
    (failures : List Bool) : Synchronized { radio with failures := failures } :=
  ⟨{ synchronized.applied with }, synchronized.receiving⟩

/-- A command that keeps the mode is the middle of a setter, if the radio then remembers what it has
set. -/
theorem setter_reconfigure {command : Cc1101Command} {remember : Cc1101Radio → Cc1101Radio}
    (keeps : ∀ registers, (command.execute registers).mode = registers.mode)
    (unspent : ∀ radio, (remember radio).failures = radio.failures)
    (remembered : ∀ radio : Cc1101Radio, radio.Synchronized → ∀ failures,
      (remember { radio with
        registers := (Cc1101Command.setRadioMode .receive).execute
          (command.execute ((Cc1101Command.setRadioMode .idle).execute radio.registers))
        failures := failures }).Synchronized) : Setter (reconfigure command remember) := by
  constructor
  · intro radio fails
    rw [reconfigure, exec_bind, exec_driver_of_fails fails]
  · rintro radio synchronized ⟨first, second, third, -⟩
    simp only [reconfigure, exec_bind, exec_driver_of_succeeds, exec_update, first, second, third]
    exact ⟨_, rfl, remembered radio synchronized radio.failures.tail.tail.tail, unspent _⟩
  · intro radio first disturbed
    rw [reconfigure, exec_bind, exec_driver_of_succeeds first]
    dsimp only
    cases second : radio.failures.tail.headD false with
    | true =>
        rw [exec_bind, exec_driver_of_fails second]
        exact ⟨_, _, rfl, rfl⟩
    | false =>
        rw [exec_bind, exec_driver_of_succeeds second]
        dsimp only
        cases third : radio.failures.tail.tail.headD false with
        | true =>
            rw [exec_bind, exec_driver_of_fails third]
            exact ⟨_, _, rfl, keeps _⟩
        | false => exact absurd ⟨first, second, third, trivial⟩ disturbed

theorem setter_setDetectionThreshold (db : UInt8) : Setter (setDetectionThreshold db) :=
  setter_reconfigure (fun _ => rfl) (fun _ => rfl) fun _ synchronized _ =>
    ⟨{ synchronized.applied with
        filterLength := by simp [Cc1101Command.execute, currentSettings, getDetectionThreshold] },
      rfl⟩

theorem setter_setFilterLevel (level : UInt8) : Setter (setFilterLevel level) :=
  setter_reconfigure (fun _ => rfl) (fun _ => rfl) fun _ synchronized _ =>
    ⟨{ synchronized.applied with magnTarget := rfl }, rfl⟩

theorem setter_setChannelBandwidthIndex (index : UInt8) : Setter (setChannelBandwidthIndex index) :=
  setter_reconfigure (fun _ => rfl) (fun _ => rfl) fun _ synchronized _ =>
    ⟨{ synchronized.applied with channelBandwidth := rfl }, rfl⟩

theorem setter_setCarrierSenseThreshold (threshold : UInt8) :
    Setter (setCarrierSenseThreshold threshold) :=
  setter_reconfigure (fun _ => rfl) (fun _ => rfl) fun _ synchronized _ =>
    ⟨{ synchronized.applied with carrierSense := rfl }, rfl⟩

/-- From a synchronized radio a program leaves a synchronized one exactly if its setters are
undisturbed. -/
def Keeps (setters : ℕ) (program : Fallible RadioError Cc1101Radio Unit) : Prop :=
  ∀ radio, radio.Synchronized →
    ((exec program radio).2.Synchronized ↔ Undisturbed setters radio.failures)

theorem not_synchronized_of_idle {radio : Cc1101Radio} (idle : radio.registers.mode = .idle) :
    ¬ radio.Synchronized := by
  intro synchronized
  rw [synchronized.receiving] at idle
  cases idle

/-- A setter before other setters. -/
theorem Setter.keeps_bind {setters : ℕ} {program next : Fallible RadioError Cc1101Radio Unit}
    (setter : Setter program) (rest : Keeps setters next) :
    Keeps (setters + 1) (program >>= fun _ => next) := by
  intro radio synchronized
  rw [exec_bind]
  cases first : radio.failures.headD false with
  | true =>
      rw [setter.refused radio first]
      exact iff_of_true (synchronized.of_failures _) (.inl first)
  | false =>
      by_cases succeed : Succeed 3 radio.failures
      · obtain ⟨after, executed, again, spent⟩ := setter.completed radio synchronized succeed
        rw [executed]
        dsimp only
        rw [rest after again, spent]
        constructor
        · exact fun undisturbed => .inr ⟨succeed, undisturbed⟩
        · rintro (fails | ⟨-, undisturbed⟩)
          · rw [fails] at first
            cases first
          · exact undisturbed
      · obtain ⟨error, after, executed, idle⟩ := setter.disturbed radio first succeed
        rw [executed]
        refine iff_of_false (not_synchronized_of_idle idle) ?_
        rintro (fails | ⟨succeeded, -⟩)
        · rw [fails] at first
          cases first
        · exact succeed succeeded

theorem Setter.keeps {program : Fallible RadioError Cc1101Radio Unit} (setter : Setter program) :
    Keeps 1 program := by
  have done : Keeps 0 (pure () : Fallible RadioError Cc1101Radio Unit) :=
    fun radio synchronized => iff_of_true synchronized trivial
  have same (radio : Cc1101Radio) :
      (exec (program >>= fun _ => pure ()) radio).2 = (exec program radio).2 := by
    rw [exec_bind]
    rcases exec program radio with ⟨error | value, after⟩ <;> rfl
  intro radio synchronized
  rw [← same]
  exact setter.keeps_bind done radio synchronized

theorem keeps_applySettings (settings : RadioSettings) : Keeps 4 (applySettings settings) :=
  (setter_setDetectionThreshold _).keeps_bind <| (setter_setFilterLevel _).keeps_bind <|
    (setter_setChannelBandwidthIndex _).keeps_bind (setter_setCarrierSenseThreshold _).keeps

/-- A command that fails while the chip is idle ends a program there. -/
theorem not_synchronized_of_driver_fails {radio : Cc1101Radio} {command : Cc1101Command}
    {next : Unit → Fallible RadioError Cc1101Radio Unit}
    (fails : radio.failures.headD false = true) (idle : radio.registers.mode = .idle) :
    ¬ (exec (driver command >>= next) radio).2.Synchronized := by
  rw [exec_bind, exec_driver_of_fails fails]
  exact not_synchronized_of_idle idle

theorem applyRfProfile_synchronized_iff (freqHz bandwidthHz : UInt32) {radio : Cc1101Radio}
    (synchronized : radio.Synchronized) :
    (exec (applyRfProfile freqHz bandwidthHz) radio).2.Synchronized ↔
      (RadioCall.applyRfProfile freqHz bandwidthHz).Completes radio.failures := by
  unfold applyRfProfile RadioCall.Completes
  cases first : radio.failures.headD false with
  | true =>
      rw [exec_bind, exec_driver_of_fails first]
      exact iff_of_true (synchronized.of_failures _) (.inl rfl)
  | false =>
      simp only [Bool.false_eq_true, false_or, Succeed, first, true_and, and_true]
      rw [exec_bind, exec_driver_of_succeeds first]
      dsimp only
      cases second : radio.failures.tail.headD false with
      | true => simpa using not_synchronized_of_driver_fails second rfl
      | false =>
          rw [exec_bind, exec_driver_of_succeeds second]
          dsimp only
          cases third : radio.failures.tail.tail.headD false with
          | true => simpa using not_synchronized_of_driver_fails third rfl
          | false =>
              rw [exec_bind, exec_driver_of_succeeds third]
              dsimp only
              cases fourth : radio.failures.tail.tail.tail.headD false with
              | true => simpa using not_synchronized_of_driver_fails fourth rfl
              | false =>
                  rw [exec_bind, exec_driver_of_succeeds fourth]
                  simp only [exec_update, true_and]
                  constructor
                  · exact fun after => after.applied.channelBandwidth.symm
                  · exact fun known =>
                      ⟨{ synchronized.applied with channelBandwidth := known.symm }, rfl⟩

/-- A call leaves a synchronized radio synchronized exactly if it completes. -/
theorem call_synchronized_iff (call : RadioCall) {radio : Cc1101Radio}
    (synchronized : radio.Synchronized) :
    (exec call.program radio).2.Synchronized ↔ call.Completes radio.failures := by
  cases call with
  | setDetectionThreshold db =>
      exact (setter_setDetectionThreshold db).keeps radio synchronized
  | setFilterLevel level => exact (setter_setFilterLevel level).keeps radio synchronized
  | setChannelBandwidthIndex index =>
      exact (setter_setChannelBandwidthIndex index).keeps radio synchronized
  | setCarrierSenseThreshold threshold =>
      exact (setter_setCarrierSenseThreshold threshold).keeps radio synchronized
  | applySettings settings => exact keeps_applySettings settings radio synchronized
  | applyRfProfile freqHz bandwidthHz =>
      exact applyRfProfile_synchronized_iff freqHz bandwidthHz synchronized

/-! ## Settings that are skipped -/

theorem preserves_driver {γ : Type} {view : Cc1101Radio → γ} {command : Cc1101Command}
    (unspent : ∀ radio failures, view { radio with failures := failures } = view radio)
    (same : ∀ radio, view { radio with registers := command.execute radio.registers } =
      view radio) : Preserves view (driver command) := by
  intro radio
  cases fails : radio.failures.headD false with
  | true =>
      rw [exec_driver_of_fails fails]
      exact unspent _ _
  | false =>
      rw [exec_driver_of_succeeds fails]
      exact (unspent _ _).trans (same _)

/-- What shows neither the mode nor what a setter configures and remembers is the same after it,
wherever it fails. -/
theorem preserves_reconfigure {γ : Type} {view : Cc1101Radio → γ} {command : Cc1101Command}
    {remember : Cc1101Radio → Cc1101Radio}
    (unspent : ∀ radio failures, view { radio with failures := failures } = view radio)
    (modeless : ∀ mode radio, view { radio with
      registers := (Cc1101Command.setRadioMode mode).execute radio.registers } = view radio)
    (configured : ∀ radio, view { radio with
      registers := command.execute radio.registers } = view radio)
    (remembered : ∀ radio, view (remember radio) = view radio) :
    Preserves view (reconfigure command remember) :=
  (preserves_driver unspent (modeless .idle)).bind fun _ =>
    (preserves_driver unspent configured).bind fun _ =>
      (preserves_driver unspent (modeless .receive)).bind fun _ => Preserves.update remembered

/-- A setter leaves the other settings alone. -/
theorem preserves_set {setting other : RadioSetting} (differs : setting ≠ other) (value : UInt8) :
    Preserves other.view (setting.set value) := by
  cases setting <;> cases other <;> first
    | exact absurd rfl differs
    | exact preserves_reconfigure (fun _ _ => rfl) (fun _ _ => rfl) (fun _ => rfl) (fun _ => rfl)

/-- A pending setting is applied. -/
def applyPending (settings : RadioSettings) (radio : Cc1101Radio) (setting : RadioSetting) :
    Cc1101Radio :=
  radio.setIfNew (setting.pending settings) (setting.remembered radio) setting.set

/-- The pending settings are applied one after the other. -/
theorem applyPendingSettings_eq (radio : Cc1101Radio) (settings : RadioSettings) :
    radio.applyPendingSettings (some settings) =
      [.detectionThreshold, .filterLevel, .channelBandwidth, .carrierSense].foldl
        (applyPending settings) radio := rfl

/-- A setting whose remembered value is the pending one is left alone. -/
theorem view_applyPending {settings : RadioSettings} {setting : RadioSetting}
    (order : List RadioSetting) (radio : Cc1101Radio)
    (skipped : setting.pending settings = setting.remembered radio) :
    setting.view (order.foldl (applyPending settings) radio) = setting.view radio := by
  induction order generalizing radio with
  | nil => rfl
  | cons next order ih =>
      have kept : setting.view (applyPending settings radio next) = setting.view radio := by
        unfold applyPending setIfNew
        split_ifs with differs
        · have other : next ≠ setting := fun same => differs (by rw [same, skipped])
          exact preserves_set other _ radio
        · rfl
      have still : setting.pending settings =
          setting.remembered (applyPending settings radio next) :=
        skipped.trans (congrArg Prod.snd kept).symm
      exact (ih _ still).trans kept

/-- A synchronized radio has programmed what it skips. -/
theorem Synchronized.skipsProgrammed {radio : Cc1101Radio} (synchronized : radio.Synchronized)
    (settings : RadioSettings) : radio.SkipsProgrammed settings := by
  intro setting skipped
  have programmed : setting.Programmed (setting.remembered radio) radio.registers := by
    cases setting with
    | detectionThreshold => exact synchronized.applied.filterLength
    | filterLevel => exact synchronized.applied.magnTarget
    | channelBandwidth => exact synchronized.applied.channelBandwidth
    | carrierSense => exact synchronized.applied.carrierSense
  have kept := view_applyPending
    [.detectionThreshold, .filterLevel, .channelBandwidth, .carrierSense] radio skipped
  rw [← skipped] at programmed
  rw [applyPendingSettings_eq]
  exact (congrFun (congrArg Prod.fst kept) _).mpr programmed

/-! ## Sequences of calls -/

theorem serve_concat (radio : Cc1101Radio) (calls : List RadioCall) (call : RadioCall) :
    radio.serve (calls ++ [call]) = (exec call.program (radio.serve calls)).2 :=
  List.foldl_concat _ _ _ _

/-- From a synchronized radio on, every call of a sequence leaves the chip receiving, configured as
the radio remembers, and with every pending value that would be skipped, exactly if every call
completes. -/
theorem serve_synchronized_iff {radio : Cc1101Radio} (synchronized : radio.Synchronized)
    (calls : List RadioCall) :
    (∀ front call back, calls = front ++ call :: back →
      (radio.serve (front ++ [call])).Synchronized ∧
        ∀ settings, (radio.serve (front ++ [call])).SkipsProgrammed settings) ↔
      ∀ front call back, calls = front ++ call :: back →
        call.Completes (radio.serve front).failures := by
  constructor
  · intro holds front call back split
    have before : (radio.serve front).Synchronized := by
      obtain rfl | ⟨front, last, rfl⟩ := front.eq_nil_or_concat'
      · exact synchronized
      · exact (holds front last (call :: back) (by rw [split]; simp)).1
    have after := (holds front call back split).1
    rw [serve_concat] at after
    exact (call_synchronized_iff call before).mp after
  · intro completes front
    induction front using List.reverseRecOn with
    | nil =>
        intro call back split
        have after := (call_synchronized_iff call synchronized).mpr (completes [] call back split)
        exact ⟨after, after.skipsProgrammed⟩
    | append_singleton front last ih =>
        intro call back split
        have before := (ih last (call :: back) (by rw [split]; simp)).1
        have after := (call_synchronized_iff call before).mpr (completes _ call back split)
        rw [← serve_concat] at after
        exact ⟨after, after.skipsProgrammed⟩

/-- A radio that was initialized with the default settings and receives. -/
def receivingRadio (failures : List Bool) : Cc1101Radio where
  registers := ⟨.receive, 433920000, 203000, .db4, .db33, 7⟩
  failures := failures
  detectionThresholdDb := 4
  filterLevel := 3
  channelBandwidthIndex := 1
  carrierSenseThreshold := 7

theorem receivingRadio_eq (registers : Cc1101Registers) :
    exec (init >>= fun _ => setReceiveMode) (new registers []) = (.ok (), receivingRadio []) := rfl

theorem synchronized_receivingRadio (failures : List Bool) :
    (receivingRadio failures).Synchronized := ⟨⟨rfl, rfl, rfl, rfl⟩, rfl⟩

theorem serve_synchronized_iff_receiving :
    (∀ front call back, [RadioCall.setFilterLevel 7, .setCarrierSenseThreshold 0] =
        front ++ call :: back →
      ((receivingRadio [true]).serve (front ++ [call])).Synchronized ∧
        ∀ settings, ((receivingRadio [true]).serve (front ++ [call])).SkipsProgrammed settings) ↔
      ∀ front call back, [RadioCall.setFilterLevel 7, .setCarrierSenseThreshold 0] =
        front ++ call :: back → call.Completes ((receivingRadio [true]).serve front).failures :=
  serve_synchronized_iff (synchronized_receivingRadio _) _

/-- The return to RX mode fails after the filter level was set: the chip stays idle.  Another setter
lets it receive again, and then the old filter level, which the radio still remembers, is skipped
as a pending setting although the chip has the new one. -/
theorem filter_level_forgotten :
    let radio := receivingRadio [false, false, true]
    let settings : RadioSettings := ⟨4, 3, 1, 0⟩
    radio.Synchronized ∧ (radio.serve [.setFilterLevel 7]).registers.mode = .idle ∧
      ((radio.serve [.setFilterLevel 7, .setCarrierSenseThreshold 0]).applyPendingSettings
        (some settings)).registers.mode = .receive ∧
      settings.magnTarget =
        (radio.serve [.setFilterLevel 7, .setCarrierSenseThreshold 0]).filterLevel ∧
      ((radio.serve [.setFilterLevel 7, .setCarrierSenseThreshold 0]).applyPendingSettings
        (some settings)).registers.magnTarget ≠ targetAmplitudeForLevel settings.magnTarget := by
  refine ⟨⟨⟨rfl, rfl, rfl, rfl⟩, rfl⟩, ?_⟩
  decide

end Cc1101Radio
end Firmware
end Motonet
