import Motonet.Tasks.System

/-!
# The OTA task and the confirmation task

One step for every stretch of `ota_task` and of `ota_confirm_task` between two await points.  An
action carries what the step meets outside the device: the server of a download, the outcome of a
boot metadata operation, the time that has passed.
-/

namespace Motonet
namespace Tasks

open OtaCore Firmware Fallible

def otaConfirmationDelaySecs : ℕ := 30

/-! ## `ota_task` -/

/-- Parse and verify a manifest, and check its URL and its encryption key. -/
def acceptManifest (config : Config) (bytes : List UInt8) : Option OtaManifest :=
  match OtaManifest.parseAndVerify config.serde config.otaManifestVerifier bytes with
  | .error _ => none
  | .ok manifest =>
      match validateOtaUrlPolicy manifest.url with
      | .error _ => none
      | .ok () =>
          if manifest.enc.keyId = config.otaEncryptionKeyId then some manifest else none

/-- Download, write and activate the image of a manifest, with the keys of the configuration. -/
def install (config : Config) (env : Environment) (manifest : OtaManifest) (device : Device) :
    Except Halt Unit × Device :=
  exec (downloadAndWriteToFlash config.crypto config.serde env config.otaEncryptionMasterKey
    manifest) device

/-- The steps of `ota_task`. -/
inductive OtaAction
  | receive
  | standDown
  | standDownTimeout
  | lockFlash
  | finish (env : Environment)

/-- One step of `ota_task`. -/
def otaStep (config : Config) (system : System) : OtaAction → Option System
  | .receive =>
      match system.otaTask, system.otaCommands with
      | .receiving, command :: commands =>
          match acceptManifest config command.bytes with
          | none => some { system with otaCommands := commands }
          | some manifest =>
              some { system with
                otaCommands := commands
                otaState := system.otaState.send .downloading
                otaTask := .standingDown manifest }
      | _, _ => none
  | .standDown =>
      match system.otaTask with
      | .standingDown manifest =>
          if system.mqttHealth.value = some .disconnected then
            some { system with
              otaState := system.otaState.send .applying
              otaTask := .lockingFlash manifest }
          else none
      | _ => none
  | .standDownTimeout =>
      match system.otaTask with
      | .standingDown _ =>
          if system.mqttHealth.value = some .disconnected then none
          else
            some { system with
              otaState := system.otaState.send .inactive
              otaTask := .receiving }
      | _ => none
  | .lockFlash =>
      match system.otaTask with
      | .lockingFlash manifest => some { system with otaTask := .downloading manifest }
      | _ => none
  | .finish env =>
      match system.otaTask with
      | .downloading manifest =>
          match install config env manifest system.device with
          | (.ok _, device) => some (system.reset device)
          | (.error _, device) =>
              some { system with
                device := device
                otaState := system.otaState.send .inactive
                otaTask := .receiving }
      | _ => none

/-- What the steps of `ota_task` do. -/
inductive OtaStep (config : Config) (system : System) : OtaAction → System → Prop
  | rejected {command : OtaCommand} {commands : List OtaCommand} :
      system.otaTask = .receiving → system.otaCommands = command :: commands →
      acceptManifest config command.bytes = none →
      OtaStep config system .receive { system with otaCommands := commands }
  | accepted {command : OtaCommand} {commands : List OtaCommand} {manifest : OtaManifest} :
      system.otaTask = .receiving → system.otaCommands = command :: commands →
      acceptManifest config command.bytes = some manifest →
      OtaStep config system .receive
        { system with
          otaCommands := commands
          otaState := system.otaState.send .downloading
          otaTask := .standingDown manifest }
  | standDown {manifest : OtaManifest} :
      system.otaTask = .standingDown manifest → system.mqttHealth.value = some .disconnected →
      OtaStep config system .standDown
        { system with
          otaState := system.otaState.send .applying
          otaTask := .lockingFlash manifest }
  | standDownTimeout {manifest : OtaManifest} :
      system.otaTask = .standingDown manifest →
      OtaStep config system .standDownTimeout
        { system with
          otaState := system.otaState.send .inactive
          otaTask := .receiving }
  | lockFlash {manifest : OtaManifest} :
      system.otaTask = .lockingFlash manifest →
      OtaStep config system .lockFlash { system with otaTask := .downloading manifest }
  | installed {env : Environment} {manifest : OtaManifest} {device : Device} :
      system.otaTask = .downloading manifest →
      install config env manifest system.device = (.ok (), device) →
      OtaStep config system (.finish env) (system.reset device)
  | failed {env : Environment} {manifest : OtaManifest} {halt : Halt} {device : Device} :
      system.otaTask = .downloading manifest →
      install config env manifest system.device = (.error halt, device) →
      OtaStep config system (.finish env)
        { system with
          device := device
          otaState := system.otaState.send .inactive
          otaTask := .receiving }

theorem OtaStep.of_step {config : Config} {system after : System} {action : OtaAction}
    (taken : otaStep config system action = some after) : OtaStep config system action after := by
  cases action with
  | receive =>
      simp only [otaStep] at taken
      split at taken
      · rename_i command commands task queue
        split at taken <;> cases taken
        · exact .rejected task queue ‹_›
        · exact .accepted task queue ‹_›
      · cases taken
  | standDown =>
      simp only [otaStep] at taken
      split at taken
      · split at taken <;> cases taken
        exact .standDown ‹_› ‹_›
      · cases taken
  | standDownTimeout =>
      simp only [otaStep] at taken
      split at taken
      · split at taken <;> cases taken
        exact .standDownTimeout ‹_›
      · cases taken
  | lockFlash =>
      simp only [otaStep] at taken
      split at taken <;> cases taken
      exact .lockFlash ‹_›
  | finish env =>
      simp only [otaStep] at taken
      split at taken
      · split at taken <;> cases taken
        · exact .installed ‹_› ‹_›
        · exact .failed ‹_› ‹_›
      · cases taken

/-! ## `ota_confirm_task` -/

/-- The steps of `ota_confirm_task`. -/
inductive OtaConfirmAction
  | start
  | check (openFault readFault : Option PartitionError)
  /-- A timer or a change of the MQTT health wakes the task some seconds after the warm-up. -/
  | poll (elapsed : ℕ)
  | mark (openFault markFault : Option PartitionError)
  | sendConfirmed

/-- Read from the boot metadata whether the current image awaits confirmation. -/
def readPending (openFault readFault : Option PartitionError) :
    Fallible PartitionError Device Bool := do
  OtaBootMetadata.new openFault
  OtaBootMetadata.currentAppPendingConfirmation readFault

/-- Mark the current image valid in the boot metadata. -/
def markValid (openFault markFault : Option PartitionError) :
    Fallible PartitionError Device Unit := do
  OtaBootMetadata.new openFault
  OtaBootMetadata.markCurrentAppValid markFault

/-- The head of the loop that waits for a heartbeat and the uptime window. -/
def pollHealth (elapsed : ℕ) (system : System) : System :=
  if system.mqttHealth.value.getD .disconnected = .heartbeatPublished then
    { system with
      mqttHealthSeen := system.mqttHealth.sent
      confirmTask :=
        if otaConfirmationDelaySecs ≤ elapsed then .lockingForMark else .awaitingUptime }
  else
    { system with
      mqttHealthSeen := system.mqttHealth.sent
      confirmTask := .awaitingHealth }

/-- One step of `ota_confirm_task`. -/
def otaConfirmStep (system : System) : OtaConfirmAction → Option System
  | .start =>
      match system.confirmTask with
      | .notStarted =>
          some { system with
            otaState := system.otaState.send .pendingConfirmation
            confirmTask := .lockingForCheck }
      | _ => none
  | .check openFault readFault =>
      match system.confirmTask with
      | .lockingForCheck =>
          if system.flashFree then
            match exec (readPending openFault readFault) system.device with
            | (.ok true, device) =>
                some { system with
                  device := device
                  confirmTask := .warmingUp }
            | (_, device) =>
                some { system with
                  device := device
                  otaState := system.otaState.send .inactive
                  confirmTask := .alreadyConfirmed }
          else none
      | _ => none
  | .poll elapsed =>
      match system.confirmTask with
      | .warmingUp | .awaitingUptime => some (pollHealth elapsed system)
      | .awaitingHealth =>
          if system.mqttHealth.changed system.mqttHealthSeen then some (pollHealth elapsed system)
          else none
      | _ => none
  | .mark openFault markFault =>
      match system.confirmTask with
      | .lockingForMark =>
          if system.flashFree then
            match exec (markValid openFault markFault) system.device with
            | (.ok _, device) =>
                some { system with
                  device := device
                  unconfirmed := false
                  otaState := system.otaState.send .inactive
                  confirmTask := .sendingConfirmed }
            | (.error _, device) =>
                some { system with
                  device := device
                  confirmTask := .notMarked }
          else none
      | _ => none
  | .sendConfirmed =>
      match system.confirmTask with
      | .sendingConfirmed =>
          match Channel.trySend mqttCommandChannelDepth .otaConfirmed system.mqttCommands with
          | some commands =>
              some { system with
                mqttCommands := commands
                confirmTask := .confirmed }
          | none => none
      | _ => none

/-- From finding the image pending until marking it valid, or for good if marking it fails. -/
def OtaConfirmTask.holdsPending : OtaConfirmTask → Bool
  | .warmingUp | .awaitingHealth | .awaitingUptime | .lockingForMark | .notMarked => true
  | .notStarted | .lockingForCheck | .sendingConfirmed | .alreadyConfirmed | .confirmed => false

/-- A failed read of the boot metadata gives an error, and no read changes the device. -/
theorem exec_readPending (openFault readFault : Option PartitionError) (device : Device) :
    (openFault = none ∧ readFault = none ∧ exec (readPending openFault readFault) device =
        (.ok (device.imageState device.selected).awaitsConfirmation, device)) ∨
      ((openFault ≠ none ∨ readFault ≠ none) ∧
        ∃ error, exec (readPending openFault readFault) device = (.error error, device)) := by
  cases openFault with
  | some error => exact .inr ⟨.inl nofun, error, rfl⟩
  | none =>
      cases readFault with
      | some error => exact .inr ⟨.inr nofun, error, rfl⟩
      | none => exact .inl ⟨rfl, rfl, rfl⟩

/-- Marking the image valid records the call unless the metadata cannot be opened, and has an effect
unless it fails. -/
theorem exec_markValid (openFault markFault : Option PartitionError) (device : Device) :
    exec (markValid openFault markFault) device =
        (.ok (), (device.log (.setState device.selected .valid)).setState .valid) ∨
      ∃ error after, exec (markValid openFault markFault) device = (.error error, after) ∧
        (after = device ∨ after = device.log (.setState device.selected .valid)) := by
  cases openFault with
  | some error => exact .inr ⟨error, device, rfl, .inl rfl⟩
  | none =>
      cases markFault with
      | some error => exact .inr ⟨error, _, rfl, .inr rfl⟩
      | none => exact .inl rfl

/-- What the steps of `ota_confirm_task` do. -/
inductive OtaConfirmStep (system : System) : OtaConfirmAction → System → Prop
  | started :
      system.confirmTask = .notStarted →
      OtaConfirmStep system .start
        { system with
          otaState := system.otaState.send .pendingConfirmation
          confirmTask := .lockingForCheck }
  | foundPending {openFault readFault : Option PartitionError} :
      system.confirmTask = .lockingForCheck →
      (system.device.imageState system.device.selected).awaitsConfirmation = true →
      openFault = none → readFault = none →
      OtaConfirmStep system (.check openFault readFault) { system with confirmTask := .warmingUp }
  /-- Not pending, or a failed read, which counts as not pending. -/
  | notPending {openFault readFault : Option PartitionError} :
      system.confirmTask = .lockingForCheck →
      ((system.device.imageState system.device.selected).awaitsConfirmation = true →
        openFault ≠ none ∨ readFault ≠ none) →
      OtaConfirmStep system (.check openFault readFault)
        { system with
          otaState := system.otaState.send .inactive
          confirmTask := .alreadyConfirmed }
  | polled {elapsed : ℕ} {task : OtaConfirmTask} {seen : ℕ} :
      system.confirmTask.holdsPending = true → task.holdsPending = true →
      OtaConfirmStep system (.poll elapsed)
        { system with
          mqttHealthSeen := seen
          confirmTask := task }
  | marked {openFault markFault : Option PartitionError} :
      system.confirmTask = .lockingForMark →
      OtaConfirmStep system (.mark openFault markFault)
        { system with
          device := (system.device.log (.setState system.device.selected .valid)).setState .valid
          unconfirmed := false
          otaState := system.otaState.send .inactive
          confirmTask := .sendingConfirmed }
  | notMarked {openFault markFault : Option PartitionError} {device : Device} :
      system.confirmTask = .lockingForMark →
      (device = system.device ∨
        device = system.device.log (.setState system.device.selected .valid)) →
      OtaConfirmStep system (.mark openFault markFault)
        { system with
          device := device
          confirmTask := .notMarked }
  | sent {commands : List AppCommand} :
      system.confirmTask = .sendingConfirmed →
      Channel.trySend mqttCommandChannelDepth .otaConfirmed system.mqttCommands = some commands →
      OtaConfirmStep system .sendConfirmed
        { system with
          mqttCommands := commands
          confirmTask := .confirmed }

theorem OtaConfirmStep.of_step {system after : System} {action : OtaConfirmAction}
    (taken : otaConfirmStep system action = some after) : OtaConfirmStep system action after := by
  cases action with
  | start =>
      simp only [otaConfirmStep] at taken
      split at taken <;> cases taken
      exact .started ‹_›
  | check openFault readFault =>
      simp only [otaConfirmStep] at taken
      split at taken <;> [skip; cases taken]
      split at taken <;> [skip; cases taken]
      rename_i task _
      rcases exec_readPending openFault readFault system.device with
        ⟨opened, read, executed⟩ | ⟨faulty, error, executed⟩
      · rw [executed] at taken
        cases pending : (system.device.imageState system.device.selected).awaitsConfirmation with
        | true =>
            rw [pending] at taken
            cases taken
            exact .foundPending task pending opened read
        | false =>
            rw [pending] at taken
            cases taken
            exact .notPending task (by simp [pending])
      · rw [executed] at taken
        cases taken
        exact .notPending task fun _ => faulty
  | poll elapsed =>
      have polled : system.confirmTask.holdsPending = true →
          OtaConfirmStep system (.poll elapsed) (pollHealth elapsed system) := by
        intro holds
        unfold pollHealth
        split
        · exact .polled holds (by split <;> rfl)
        · exact .polled holds rfl
      simp only [otaConfirmStep] at taken
      split at taken
      · cases taken
        exact polled (by simp [*, OtaConfirmTask.holdsPending])
      · cases taken
        exact polled (by simp [*, OtaConfirmTask.holdsPending])
      · split at taken <;> cases taken
        exact polled (by simp [*, OtaConfirmTask.holdsPending])
      · cases taken
  | mark openFault markFault =>
      simp only [otaConfirmStep] at taken
      split at taken <;> [skip; cases taken]
      split at taken <;> [skip; cases taken]
      rename_i task _
      rcases exec_markValid openFault markFault system.device with
        executed | ⟨error, device, executed, device_eq⟩
      · rw [executed] at taken
        cases taken
        exact .marked task
      · rw [executed] at taken
        cases taken
        exact .notMarked task device_eq
  | sendConfirmed =>
      simp only [otaConfirmStep] at taken
      split at taken <;> [skip; cases taken]
      split at taken <;> cases taken
      exact .sent ‹_› ‹_›

end Tasks
end Motonet
