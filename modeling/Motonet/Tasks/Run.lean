import Motonet.Foundation.TransitionSystem
import Motonet.RoundTrip
import Motonet.Tasks.MqttMoves
import Motonet.Tasks.Ota

/-!
# Runs of the whole system

The three tasks run interleaved at their await points, with the operator publishing commands, the
radio delivering readings, and resets at any time.
-/

namespace Motonet
namespace Tasks

open OtaCore Firmware Fallible

/-- Everything that can happen next. -/
inductive Action
  | ota (action : OtaAction)
  | confirm (action : OtaConfirmAction)
  | mqtt (action : MqttAction)
  /-- A message is published on the OTA command topic. -/
  | operatorPublish (payload : List UInt8) (retain : Bool)
  /-- The radio router queues a reading. -/
  | queueReading (reading : RadioReading)
  /-- The power fails.  What a running download has done by then is what it does with an environment
  in which the next operation fails. -/
  | powerCycle (progress : Environment)

/-- The flash as a power failure leaves it. -/
def interrupted (config : Config) (progress : Environment) (system : System) : Device :=
  match system.otaTask with
  | .downloading manifest => (install config progress manifest system.device).2
  | _ => system.device

/-- One step of the system. -/
def step (config : Config) (system : System) : Action → Option System
  | .ota action => otaStep config system action
  | .confirm action => otaConfirmStep system action
  | .mqtt action => mqttStep config system action
  | .operatorPublish payload retain =>
      some { system with broker := system.broker.publish config.otaTopic payload retain }
  | .queueReading reading =>
      match Channel.trySend mqttCommandChannelDepth (.publishTelemetry reading)
          system.mqttCommands with
      | some commands => some { system with mqttCommands := commands }
      | none => none
  | .powerCycle progress => some (system.reset (interrupted config progress system))

/-- A system just after a boot, of any device, with any message retained by the broker. -/
def Initial (system : System) : Prop :=
  ∃ device broker, (∀ kept ∈ broker.retained, kept.id < broker.published) ∧
    system = System.booted device broker []

/-- The system as a transition system. -/
def taskSystem (config : Config) : TransitionSystem System Action where
  initial := Initial
  step := step config

/-- How a download by the OTA task ends. -/
theorem install_outcome (config : Config) (env : Environment) (manifest : OtaManifest)
    (device : Device) :
    Outcome config.crypto config.serde env config.otaEncryptionMasterKey manifest device
      (install config env manifest device) :=
  downloadAndWriteToFlash_outcome device

/-- A step of the radio router changes nothing but the queue of the MQTT task. -/
theorem step_queueReading {config : Config} {before after : System} {reading : RadioReading}
    (taken : (taskSystem config).step before (.queueReading reading) = some after) :
    ∃ commands, after = { before with mqttCommands := commands } := by
  simp only [taskSystem, step] at taken
  split at taken <;> cases taken
  exact ⟨_, rfl⟩

/-! ## Failed attempts -/

/-- No attempt is under way, and the next thing that `mqtt_task` does is to open a session. -/
structure Waiting (system : System) : Prop where
  mqttTask : system.mqttTask = .notStarted ∨
    (system.mqttTask = .setupBackoff ∨ system.mqttTask = .sessionBackoff) ∧
      system.mqttHealth.value = some .disconnected
  deferredReading : system.deferredReading = none
  otaTask : system.otaTask = .receiving
  otaCommands : system.otaCommands = []
  inbox : system.broker.inbox = []

theorem waiting_booted (device : Device) (broker : Broker) (handedOver : List ℕ) :
    Waiting (System.booted device broker handedOver) :=
  ⟨.inl rfl, rfl, rfl, rfl, rfl⟩

/-- An attempt with the manifest of a message has failed: the flash is as the download left it, and
the OTA state is inactive. -/
structure Attempted (id : ℕ) (device : Device) (before after : System) : Prop where
  waiting : Waiting after
  device : after.device = device
  running : after.running = before.running
  unconfirmed : after.unconfirmed = before.unconfirmed
  confirmTask : after.confirmTask = before.confirmTask
  otaState : after.otaState.value = some .inactive
  handedOver : after.handedOver = before.handedOver ++ [id]
  retained : after.broker.retained = before.broker.retained
  published : before.broker.published ≤ after.broker.published

/-- A manifest in the channel is downloaded. -/
def updateActions (env : Environment) : List Action :=
  [.ota .receive, .ota .standDown, .ota .lockFlash, .ota (.finish env)]

/-- A session is opened, the operator sends a live command, and it is downloaded. -/
def liveActions (payload : List UInt8) (env : Environment) : List Action :=
  [.mqtt (.openSession true), .mqtt (.connect true), .mqtt (.setupEvent (.suback true)),
    .operatorPublish payload false, .mqtt (.event .publish), .mqtt .handOver] ++ updateActions env

/-- A session is opened, the broker sends its retained command, and it is downloaded. -/
def retainedActions (env : Environment) : List Action :=
  [.mqtt (.openSession true), .mqtt (.connect true), .mqtt (.setupEvent .publish),
    .mqtt .handOverEarly] ++ updateActions env

section Attempts

variable {config : Config} {before : System} {payload : List UInt8} {manifest : OtaManifest}
  {env : Environment} {halt : Halt} {device : Device}

/-- A download that fails leaves the OTA state inactive, whatever it was before. -/
theorem run_update {id : ℕ} (otaTask : before.otaTask = .receiving)
    (otaCommands : before.otaCommands = [⟨payload, id⟩])
    (mqttHealth : before.mqttHealth.value = some .disconnected)
    (accepted : acceptManifest config payload = some manifest)
    (installs : install config env manifest before.device = (.error halt, device)) :
    (taskSystem config).run before (updateActions env) = some { before with
      device := device
      otaState := ((before.otaState.send .downloading).send .applying).send .inactive
      otaCommands := []
      otaTask := .receiving } := by
  simp [updateActions, TransitionSystem.run, taskSystem, step, otaStep, otaTask, otaCommands,
    mqttHealth, accepted, installs]

/-- A waiting task starts to connect, while MQTT is allowed. -/
theorem run_openSession (config : Config) (waiting : Waiting before)
    (allowed : isMqttAllowed before.currentOtaState = true) :
    ∃ mqttHealth, mqttHealth.value = some .disconnected ∧
      (taskSystem config).step before (.mqtt (.openSession true)) = some { before with
        mqttHealth := mqttHealth
        otaStateSeen := before.otaState.sent
        mqttTask := .connecting before.currentOtaState } := by
  have opened : ∀ system : System, system.otaState = before.otaState →
      system.openSession config true = { system with
        otaStateSeen := before.otaState.sent
        mqttTask := .connecting before.currentOtaState } := by
    intro system same
    have current : system.currentOtaState = before.currentOtaState := by
      rw [System.currentOtaState, same, System.currentOtaState]
    simp [System.openSession, current, allowed, same]
  rcases waiting.mqttTask with task | ⟨task | task, mqttHealth⟩
  · refine ⟨before.mqttHealth.send .disconnected, rfl, ?_⟩
    simp only [taskSystem, step, mqttStep, task]
    exact congrArg some (opened _ rfl)
  · refine ⟨before.mqttHealth, mqttHealth, ?_⟩
    simp only [taskSystem, step, mqttStep, task]
    exact congrArg some (opened _ rfl)
  · refine ⟨before.mqttHealth, mqttHealth, ?_⟩
    simp only [taskSystem, step, mqttStep, task]
    exact congrArg some (opened _ rfl)

/-- A live command is downloaded, whatever the OTA state says about confirmation. -/
theorem run_live (waiting : Waiting before) (retained : before.broker.retained = none)
    (allowed : isMqttAllowed before.currentOtaState = true) (nonempty : payload ≠ [])
    (fits : payload.length ≤ maxManifestBytes)
    (accepted : acceptManifest config payload = some manifest)
    (installs : install config env manifest before.device = (.error halt, device)) :
    ∃ after, (taskSystem config).run before (liveActions payload env) = some after ∧
      Attempted before.broker.published device before after := by
  obtain ⟨mqttHealth, disconnected, opened⟩ := run_openSession config waiting allowed
  have copied : copyOtaManifest ⟨config.otaTopic, payload, false, before.broker.published⟩
      config.otaTopic = some ⟨⟨payload, before.broker.published⟩, false⟩ :=
    copyOtaManifest_of_fits false _ nonempty fits
  let handed : System := { before with
    handedOver := before.handedOver ++ [before.broker.published]
    mqttHealth := (mqttHealth.send .heartbeatPublished).send .disconnected
    otaCommands := [⟨payload, before.broker.published⟩]
    broker := ⟨none, false, [], before.broker.published + 1⟩
    mqttTask := .sessionBackoff
    otaStateSeen := before.otaState.sent }
  have connected : (taskSystem config).run before (liveActions payload env) =
      (taskSystem config).run handed (updateActions env) := by
    rw [liveActions, TransitionSystem.run_append]
    simp only [TransitionSystem.run_cons, opened, TransitionSystem.run_nil]
    simp [taskSystem, step, mqttStep, Broker.subscribe, Broker.publish, waiting.inbox, retained,
        handleSetupEvent, waiting.deferredReading, handleMqttEvent, nextPublish, copied,
        resolveOtaManifestAction_live, handOver, Channel.trySend, waiting.otaCommands,
        otaCommandChannelDepth, System.endSession, Broker.disconnect, handed]
  have idle : handed.otaTask = .receiving := waiting.otaTask
  rw [connected, run_update idle rfl rfl accepted installs]
  exact ⟨_, rfl, ⟨.inr ⟨.inr rfl, rfl⟩, waiting.deferredReading, rfl, rfl, rfl⟩, rfl, rfl, rfl, rfl,
    rfl, rfl, retained.symm, Nat.le_succ _⟩

/-- A retained command that is not only to be cleared is downloaded, and the broker keeps it. -/
theorem run_retained {id : ℕ} (waiting : Waiting before)
    (retained : before.broker.retained = some ⟨payload, id⟩)
    (allowed : isMqttAllowed before.currentOtaState = true) (nonempty : payload ≠ [])
    (fits : payload.length ≤ maxManifestBytes)
    (action : resolveOtaManifestAction config before.currentOtaState true payload =
      .forwardAndClearRetained)
    (accepted : acceptManifest config payload = some manifest)
    (installs : install config env manifest before.device = (.error halt, device)) :
    ∃ after, (taskSystem config).run before (retainedActions env) = some after ∧
      Attempted id device before after := by
  obtain ⟨mqttHealth, disconnected, opened⟩ := run_openSession config waiting allowed
  have copied : copyOtaManifest ⟨config.otaTopic, payload, true, id⟩ config.otaTopic =
      some ⟨⟨payload, id⟩, true⟩ :=
    copyOtaManifest_of_fits true _ nonempty fits
  let handed : System := { before with
    handedOver := before.handedOver ++ [id]
    mqttHealth := mqttHealth
    otaCommands := [⟨payload, id⟩]
    broker := { before.broker with subscribed := false, inbox := [] }
    mqttTask := .setupBackoff
    otaStateSeen := before.otaState.sent }
  have connected : (taskSystem config).run before (retainedActions env) =
      (taskSystem config).run handed (updateActions env) := by
    rw [retainedActions, TransitionSystem.run_append]
    simp only [TransitionSystem.run_cons, opened, TransitionSystem.run_nil]
    simp [taskSystem, step, mqttStep, Broker.subscribe, waiting.inbox, retained,
        handleSetupEvent, nextPublish, copied, action, handOver, Channel.trySend,
        waiting.otaCommands, otaCommandChannelDepth, System.failSetup, Broker.disconnect, handed]
  have idle : handed.otaTask = .receiving := waiting.otaTask
  have stood_down : handed.mqttHealth.value = some .disconnected := disconnected
  rw [connected, run_update idle rfl stood_down accepted installs]
  exact ⟨_, rfl, ⟨.inr ⟨.inl rfl, disconnected⟩, waiting.deferredReading, rfl, rfl, rfl⟩, rfl, rfl,
    rfl, rfl, rfl, rfl, rfl, le_rfl⟩

end Attempts

/-! ## A small configuration -/

/-- A device that is configured for the small manifest. -/
def smallConfig (force : Bool) : Config where
  crypto := sampleCrypto
  serde := smallSerde force
  otaManifestVerifier := smallVerifier force
  otaEncryptionMasterKey := sampleInputs.masterKey
  otaEncryptionKeyId := 1001
  otaTopic := "motonet/test-sensor/cmd/ota"
  mqttUseTls := false

/-- A broker without messages. -/
def quietBroker : Broker := ⟨none, false, [], 0⟩

/-- The small manifest as it is published. -/
def smallPayload (force : Bool) : List UInt8 :=
  asBytes (smallSignedText force)

/-- A broker that keeps the small manifest. -/
def keepingBroker (force : Bool) : Broker :=
  ⟨some ⟨smallPayload force, 0⟩, false, [], 1⟩

theorem smallPayload_ne_nil (force : Bool) : smallPayload force ≠ [] := by
  cases force <;> decide +kernel

theorem length_smallPayload_le (force : Bool) : (smallPayload force).length ≤ maxManifestBytes := by
  rw [smallPayload, length_asBytes]
  cases force <;> decide +kernel

/-- The kept manifest is copied from a message that delivers it. -/
theorem copyOtaManifest_keepingBroker (force : Bool) :
    copyOtaManifest ⟨(smallConfig force).otaTopic, smallPayload force, true, 0⟩
      (smallConfig force).otaTopic = some ⟨⟨smallPayload force, 0⟩, true⟩ :=
  copyOtaManifest_of_fits true 0 (smallPayload_ne_nil force) (length_smallPayload_le force)

theorem parseAndVerify_smallPayload (force : Bool) :
    OtaManifest.parseAndVerify (smallConfig force).serde (smallConfig force).otaManifestVerifier
      (smallPayload force) = .ok (smallManifest force) := parseAndVerify_small force

theorem acceptManifest_small (force : Bool) :
    acceptManifest (smallConfig force) (smallPayload force) = some (smallManifest force) := by
  have url : validateOtaUrlPolicy (smallManifest force).url = .ok () := by
    cases force <;> decide +kernel
  have parsed := parseAndVerify_smallPayload force
  simp only [acceptManifest, parsed, url]
  exact if_pos rfl

/-- Nothing fails but the requests. -/
def unreachable : Environment :=
  { smallUpdate FlashFaults.none with server := fun _ _ => .requestFailed }

/-- If the server does not answer, the inactive slot has been erased. -/
theorem install_unreachable (force : Bool) (device : Device) :
    install (smallConfig force) unreachable (smallManifest force) device =
      (.error (.err .httpConnect), device.prepared device.selected.next 9) := by
  have parsed : parseNoncePrefix (smallManifest force).enc.noncePrefix = .ok sampleNonce := by
    cases force <;> decide +kernel
  have keys_eq : ∃ keys, downloadKeys sampleCrypto (smallSerde force) sampleInputs.masterKey
      (smallManifest force) = .ok keys := by
    simp only [downloadKeys, parsed, canonicalUnsignedJson_small]
    exact ⟨_, rfl⟩
  obtain ⟨keys, keys_eq⟩ := keys_eq
  have bounded : boundedUrl (smallManifest force).url = .ok (smallManifest force).url := by
    cases force <;> decide +kernel
  have acquired : acquireForUrl (smallManifest force).url (fun _ => true) = .ok () := by
    cases force <;> decide +kernel
  have fits : 9 ≤ (0x1c0000 : UInt32).toNat - flashSectorSize := by
    decide +kernel
  exact exec_downloadAndWriteToFlash_unreachable device keys_eq rfl rfl fits rfl bounded acquired
    rfl

end Tasks
end Motonet
