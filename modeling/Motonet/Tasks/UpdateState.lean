import Motonet.Tasks.ConfirmationWindow

/-!
# The OTA state during an update

While `ota_task` is in an update, the OTA state has to be Downloading or Applying.  The other writer
of the state is `ota_confirm_task`, which publishes without regard to an update.
-/

namespace Motonet
namespace Tasks

open OtaCore Firmware Fallible

/-- From publishing Downloading for a manifest to publishing Inactive. -/
def OtaTask.isUpdating : OtaTask → Bool
  | .receiving => false
  | .standingDown _ | .lockingFlash _ | .downloading _ => true

/-- During an update the OTA state is Downloading or Applying. -/
def UpdateShown (system : System) : Prop :=
  system.otaTask.isUpdating = true →
    system.otaState.value = some .downloading ∨ system.otaState.value = some .applying

/-- The step of `ota_confirm_task` publishes an OTA state. -/
def OtaConfirmAction.publishes (system : System) : OtaConfirmAction → Bool
  | .start => true
  | .check openFault readFault =>
      openFault.isSome || readFault.isSome ||
        !(system.device.imageState system.device.selected).awaitsConfirmation
  | .mark openFault markFault => openFault.isNone && markFault.isNone
  | .poll _ | .sendConfirmed => false

/-- `ota_confirm_task` publishes nothing during an update. -/
def ConfirmStaysOut (system : System) : Action → Prop
  | .confirm action => system.otaTask.isUpdating = true → action.publishes system = false
  | _ => True

section Shown

variable {config : Config} {before after : System}

/-- A step of `ota_confirm_task` leaves `ota_task` alone; what it publishes are the states outside
an update. -/
theorem otaConfirmStep_otaState {action : OtaConfirmAction}
    (taken : otaConfirmStep before action = some after) :
    after.otaTask = before.otaTask ∧
      (action.publishes before = true ∧ (after.otaState.value = some .pendingConfirmation ∨
          after.otaState.value = some .inactive) ∨
        action.publishes before = false ∧ after.otaState = before.otaState) := by
  cases action with
  | start =>
      simp only [otaConfirmStep] at taken
      split at taken <;> cases taken
      exact ⟨rfl, .inl ⟨rfl, .inl rfl⟩⟩
  | check openFault readFault =>
      simp only [otaConfirmStep] at taken
      split at taken <;> [skip; cases taken]
      split at taken <;> [skip; cases taken]
      rcases exec_readPending openFault readFault before.device with
        ⟨rfl, rfl, executed⟩ | ⟨faulty, error, executed⟩
      · rw [executed] at taken
        cases pending : (before.device.imageState before.device.selected).awaitsConfirmation with
        | true =>
            rw [pending] at taken
            cases taken
            exact ⟨rfl, .inr ⟨by simp [OtaConfirmAction.publishes, pending], rfl⟩⟩
        | false =>
            rw [pending] at taken
            cases taken
            exact ⟨rfl, .inl ⟨by simp [OtaConfirmAction.publishes, pending], .inr rfl⟩⟩
      · rw [executed] at taken
        cases taken
        refine ⟨rfl, .inl ⟨?_, .inr rfl⟩⟩
        rcases faulty with faulty | faulty <;>
          simp [OtaConfirmAction.publishes, Option.isSome_iff_ne_none.mpr faulty]
  | poll elapsed =>
      have polled : (pollHealth elapsed before).otaTask = before.otaTask ∧
          (pollHealth elapsed before).otaState = before.otaState := by
        unfold pollHealth
        split <;> exact ⟨rfl, rfl⟩
      simp only [otaConfirmStep] at taken
      split at taken
      · cases taken
        exact ⟨polled.1, .inr ⟨rfl, polled.2⟩⟩
      · cases taken
        exact ⟨polled.1, .inr ⟨rfl, polled.2⟩⟩
      · split at taken <;> cases taken
        exact ⟨polled.1, .inr ⟨rfl, polled.2⟩⟩
      · cases taken
  | mark openFault markFault =>
      simp only [otaConfirmStep] at taken
      split at taken <;> [skip; cases taken]
      split at taken <;> [skip; cases taken]
      cases openFault with
      | some error =>
          cases taken
          exact ⟨rfl, .inr ⟨rfl, rfl⟩⟩
      | none =>
          cases markFault with
          | some error =>
              cases taken
              exact ⟨rfl, .inr ⟨rfl, rfl⟩⟩
          | none =>
              cases taken
              exact ⟨rfl, .inl ⟨rfl, .inr rfl⟩⟩
  | sendConfirmed =>
      simp only [otaConfirmStep] at taken
      split at taken <;> [skip; cases taken]
      split at taken <;> cases taken
      exact ⟨rfl, .inr ⟨rfl, rfl⟩⟩

theorem updateShown_booted (device : Device) (broker : Broker) (handedOver : List ℕ) :
    UpdateShown (System.booted device broker handedOver) := nofun

theorem UpdateShown.otaStep {action : OtaAction} (shown : UpdateShown before)
    (taken : OtaStep config before action after) : UpdateShown after := by
  cases taken with
  | rejected => exact shown
  | accepted => exact fun _ => .inl rfl
  | standDown => exact fun _ => .inr rfl
  | standDownTimeout | failed => exact nofun
  | lockFlash task => exact fun _ => shown (by rw [task]; rfl)
  | installed => exact updateShown_booted _ _ _

/-- A step in which `ota_confirm_task` publishes nothing during an update keeps it shown. -/
theorem UpdateShown.step {action : Action} (shown : UpdateShown before)
    (out : ConfirmStaysOut before action)
    (taken : (taskSystem config).step before action = some after) : UpdateShown after := by
  cases action with
  | ota action => exact shown.otaStep (.of_step taken)
  | confirm action =>
      obtain ⟨task, ⟨publishes, -⟩ | ⟨-, otaState⟩⟩ := otaConfirmStep_otaState taken
      · intro updating
        rw [task] at updating
        rw [out updating] at publishes
        cases publishes
      · rw [UpdateShown, task, otaState]
        exact shown
  | mqtt action =>
      rcases (MqttStep.of_step taken).outside with outside | rfl
      · rw [UpdateShown, outside.otaTask, outside.otaState]
        exact shown
      · exact updateShown_booted _ _ _
  | operatorPublish payload retain =>
      cases taken
      exact shown
  | queueReading reading =>
      obtain ⟨commands, rfl⟩ := step_queueReading taken
      exact shown
  | powerCycle progress =>
      cases taken
      exact updateShown_booted _ _ _

/-- A step after which the update is shown is none with which `ota_confirm_task` publishes during
an update. -/
theorem UpdateShown.staysOut {action : Action} (shown : UpdateShown after)
    (taken : (taskSystem config).step before action = some after) :
    ConfirmStaysOut before action := by
  cases action with
  | confirm action =>
      intro updating
      obtain ⟨task, ⟨-, otaState⟩ | ⟨quiet, -⟩⟩ := otaConfirmStep_otaState taken
      · rw [UpdateShown, task] at shown
        have update := shown updating
        rcases otaState with otaState | otaState <;> rw [otaState] at update <;> simp at update
      · exact quiet
  | _ => trivial

/-- In a run of the whole system the OTA state is Downloading or Applying throughout every update
exactly if `ota_confirm_task` publishes nothing during an update. -/
theorem update_shown_iff {start finish : System} {actions : List Action} (initial : Initial start) :
    (taskSystem config).Path (fun before action => UpdateShown before ∧
        ∀ after, (taskSystem config).step before action = some after → UpdateShown after)
        start actions finish ↔
      (taskSystem config).Path ConfirmStaysOut start actions finish := by
  refine TransitionSystem.path_holds_iff (fun _ _ _ (_ : True) _ => trivial) ?_ trivial ?_
  · intro before action after _ shown taken
    exact ⟨fun still => still.staysOut taken, fun out => shown.step out taken⟩
  · obtain ⟨device, broker, -, rfl⟩ := initial
    exact updateShown_booted _ _ _

end Shown

/-- The check of `ota_confirm_task` comes before the update, and the update is shown throughout. -/
theorem update_shown_sample :
    ∃ finish, (taskSystem (smallConfig false)).Path (fun before action => UpdateShown before ∧
        ∀ after, (taskSystem (smallConfig false)).step before action = some after →
          UpdateShown after)
        (unconfirmedStart quietBroker)
        (confirmActions none ++ liveActions (smallPayload false) unreachable) finish ∧
      finish.otaState.value = some .inactive := by
  obtain ⟨finish, executed, attempted⟩ := run_live (waiting_pendingStart quietBroker) rfl rfl
    (smallPayload_ne_nil false) (length_smallPayload_le false) (acceptManifest_small false)
    (install_unreachable false _)
  have start : (taskSystem (smallConfig false)).Path ConfirmStaysOut (unconfirmedStart quietBroker)
      [] (unconfirmedStart quietBroker) := .nil
  have started := start.snoc (show ConfirmStaysOut _ (.confirm .start) from nofun)
    (show _ = some _ from rfl)
  have checked := started.snoc (show ConfirmStaysOut _ (.confirm (.check none none)) from nofun)
    (show _ = some (pendingStart quietBroker) from rfl)
  have updated : (taskSystem (smallConfig false)).Path ConfirmStaysOut (pendingStart quietBroker)
      (liveActions (smallPayload false) unreachable) finish :=
    TransitionSystem.path_of_run executed (by simp [liveActions, updateActions, ConfirmStaysOut])
  exact ⟨finish, (update_shown_iff (initial_unconfirmedStart (by simp [quietBroker]))).mpr
    (checked.trans updated), attempted.otaState⟩

/-- `mqtt_task` opens a session. -/
def openActions : List Action :=
  [.mqtt (.openSession true), .mqtt (.connect true), .mqtt (.setupEvent (.suback true))]

/-- A heartbeat is seen within the confirmation window; `mqtt_task` hands a manifest over and opens
its next session before `ota_task` receives the manifest, and the image is confirmed while
`ota_task` waits for MQTT to stand down. -/
def lateConfirmationActions (payload : List UInt8) : List Action :=
  confirmActions none ++ openActions ++
    [.confirm (.poll 0), .operatorPublish payload false, .mqtt (.event .publish),
        .mqtt .handOver] ++
    openActions ++ [.ota .receive, .confirm (.poll 30), .confirm (.mark none none)]

theorem run_lateConfirmation {payload : List UInt8} {manifest : OtaManifest}
    (nonempty : payload ≠ []) (fits : payload.length ≤ maxManifestBytes)
    (accepted : acceptManifest (smallConfig false) payload = some manifest) :
    ∃ final, (taskSystem (smallConfig false)).run (unconfirmedStart quietBroker)
        (lateConfirmationActions payload) = some final ∧
      final.otaTask = .standingDown manifest ∧ final.otaState.value = some .inactive := by
  have copied : copyOtaManifest ⟨(smallConfig false).otaTopic, payload, false, 0⟩
      (smallConfig false).otaTopic = some ⟨⟨payload, 0⟩, false⟩ :=
    copyOtaManifest_of_fits false 0 nonempty fits
  have waiting := waiting_pendingStart quietBroker
  let connected : System := { pendingStart quietBroker with
    mqttHealth := ⟨some .heartbeatPublished, 2⟩
    broker := ⟨none, true, [], 0⟩
    confirmTask := .awaitingUptime
    mqttTask := .connected
    otaStateSeen := 2
    mqttHealthSeen := 2 }
  let handed : System := { connected with
    handedOver := [0]
    mqttHealth := ⟨some .disconnected, 3⟩
    otaCommands := [⟨payload, 0⟩]
    broker := ⟨none, false, [], 1⟩
    mqttTask := .sessionBackoff }
  let reconnected : System := { handed with
    mqttHealth := ⟨some .heartbeatPublished, 4⟩
    broker := ⟨none, true, [], 1⟩
    mqttTask := .connected }
  let updating : System := { reconnected with
    otaState := reconnected.otaState.send .downloading
    otaCommands := []
    otaTask := .standingDown manifest }
  have first : (taskSystem (smallConfig false)).run (unconfirmedStart quietBroker)
      (confirmActions none ++ openActions ++ [.confirm (.poll 0)]) = some connected := rfl
  have second : (taskSystem (smallConfig false)).run connected
      [.operatorPublish payload false, .mqtt (.event .publish), .mqtt .handOver] = some handed := by
    simp [TransitionSystem.run_cons, taskSystem, step, mqttStep, Broker.publish, handleMqttEvent,
      nextPublish, copied, resolveOtaManifestAction_live, handOver, Channel.trySend,
      otaCommandChannelDepth, System.endSession, Broker.disconnect, waiting.deferredReading,
      waiting.otaCommands, connected, handed]
    exact ⟨rfl, rfl, rfl⟩
  have third : (taskSystem (smallConfig false)).run handed openActions = some reconnected := rfl
  have fourth :
      (taskSystem (smallConfig false)).run reconnected [.ota .receive] = some updating := by
    simp [TransitionSystem.run_cons, taskSystem, step, otaStep, waiting.otaTask, accepted,
      connected, handed, reconnected, updating]
  have fifth : (taskSystem (smallConfig false)).run updating
      [.confirm (.poll 30), .confirm (.mark none none)] = some _ := rfl
  have executed := TransitionSystem.run_trans first (TransitionSystem.run_trans second
    (TransitionSystem.run_trans third (TransitionSystem.run_trans fourth fifth)))
  exact ⟨_, executed, rfl, rfl⟩

/-- While `ota_task` waits for MQTT to stand down, the OTA state becomes inactive. -/
theorem confirmed_during_update :
    ∃ system, (taskSystem (smallConfig false)).Reachable system ∧
      system.otaTask = .standingDown (smallManifest false) ∧
      system.otaState.value = some .inactive ∧ ¬UpdateShown system := by
  obtain ⟨system, executed, task, inactive⟩ := run_lateConfirmation (smallPayload_ne_nil false)
    (length_smallPayload_le false) (acceptManifest_small false)
  refine ⟨system, ⟨_, _, initial_unconfirmedStart (by simp [quietBroker]),
    TransitionSystem.path_of_run executed (by simp)⟩, task, inactive, fun shown => ?_⟩
  have update := shown (by rw [task]; rfl)
  rw [inactive] at update
  simp at update

end Tasks
end Motonet
