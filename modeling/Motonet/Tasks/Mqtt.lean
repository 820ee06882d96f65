import Motonet.Tasks.System

/-!
# The MQTT task

One step for every stretch of `mqtt_task` between two await points: opening a session, the session
set-up with its subscription to the OTA command topic, and the connected loop.
-/

namespace Motonet
namespace Tasks

open OtaCore Firmware

/-! ## Incoming manifests -/

/-- A manifest that arrived on the OTA command topic. -/
structure IncomingOtaManifest where
  command : OtaCommand
  retained : Bool

/-- Copy the manifest out of a message. -/
def copyOtaManifest (publish : Publish) (otaTopic : String) : Option IncomingOtaManifest :=
  if publish.topic ≠ otaTopic then none
  else if !isOtaManifestPayloadCandidate publish.payload.length then none
  else if publish.payload.length > maxManifestBytes then none
  else some ⟨⟨publish.payload, publish.id⟩, publish.retain⟩

/-- Resolve the action for an incoming OTA manifest. -/
def resolveOtaManifestAction (config : Config) (otaState : OtaState) (retained : Bool)
    (manifestBytes : List UInt8) : OtaManifestDeliveryAction :=
  let action := classifyOtaManifestDelivery otaState retained
  match action with
  | .clearRetainedOnly =>
      match OtaManifest.parseAndVerify config.serde config.otaManifestVerifier manifestBytes with
      | .ok incoming => if incoming.force then .forwardAndClearRetained else action
      | .error _ => action
  | _ => action

/-- A message on the OTA command topic with a payload within the limit carries a manifest. -/
theorem copyOtaManifest_of_fits {otaTopic : String} {payload : List UInt8} (retain : Bool) (id : ℕ)
    (nonempty : payload ≠ []) (fits : payload.length ≤ maxManifestBytes) :
    copyOtaManifest ⟨otaTopic, payload, retain, id⟩ otaTopic =
      some ⟨⟨payload, id⟩, retain⟩ := by
  simp [copyOtaManifest, isOtaManifestPayloadCandidate, nonempty, fits]

/-- A live command is always forwarded. -/
theorem resolveOtaManifestAction_live (config : Config) (otaState : OtaState)
    (manifestBytes : List UInt8) :
    resolveOtaManifestAction config otaState false manifestBytes = .forwardOnly := by
  cases otaState <;> rfl

/-! ## Sessions -/

namespace System

/-- A failed session set-up: the connection is dropped and the task waits. -/
def failSetup (system : System) : System :=
  { system with
    broker := system.broker.disconnect
    mqttTask := .setupBackoff }

/-- The connected loop ends: the connection is dropped and the task waits. -/
def endSession (system : System) : System :=
  { system with
    broker := system.broker.disconnect
    mqttHealth := system.mqttHealth.send .disconnected
    mqttTask := .sessionBackoff }

/-- The head of the session loop: wait while MQTT is not allowed, then open a session, with the TLS
workspace if it is free. -/
def openSession (config : Config) (workspaceFree : Bool) (system : System) : System :=
  let otaState := system.currentOtaState
  let system := { system with otaStateSeen := system.otaState.sent }
  if !isMqttAllowed otaState then { system with mqttTask := .standingDown }
  else if config.mqttUseTls && !workspaceFree then { system with mqttTask := .workspaceBackoff }
  else { system with mqttTask := .connecting otaState }

/-- `handle_reading` up to its publish: after a long idle time reconnect first. -/
def startReading (idle : Bool) (reading : RadioReading) (system : System) : System :=
  let otaState := system.currentOtaState
  let system := { system with otaStateSeen := system.otaState.sent }
  if idle then { system.endSession with deferredReading := some reading }
  else { system with mqttTask := .publishing reading otaState }

end System

/-- What an MQTT poll returns. -/
inductive Event
  /-- The next message of the broker. -/
  | publish
  | suback (accepted : Bool)
  | other

/-- How the publish of a reading ends. -/
inductive PublishOutcome
  /-- Published; the power policy may decide to sleep. -/
  | published (sleeps : Bool)
  | dropped
  | reconnect

/-- The steps of `mqtt_task`. -/
inductive MqttAction
  | openSession (workspaceFree : Bool)
  | connect (succeeds : Bool)
  | setupFailed
  | setupEvent (event : Event)
  | handOverEarly
  | clearedEarly (succeeds : Bool)
  | retryDeferred (idle : Bool)
  | takeCommand (idle : Bool)
  | pollFailed
  | event (event : Event)
  | handOver
  | cleared (succeeds : Bool)
  | published (outcome : PublishOutcome)
  | confirmedPublished (succeeds : Bool)
  | pingDue
  | pinged (succeeds : Bool)
  | stateChanged

/-- Hand a manifest to the OTA task, if its channel is free. -/
def handOver (command : OtaCommand) (system : System) : Option System :=
  match Channel.trySend otaCommandChannelDepth command system.otaCommands with
  | none => none
  | some commands =>
      some { system with
        otaCommands := commands
        handedOver := system.handedOver ++ [command.id] }

/-- Take the next message from the broker. -/
def nextPublish (system : System) : Option (Publish × System) :=
  match system.broker.inbox with
  | [] => none
  | publish :: inbox =>
      some (publish, { system with broker := { system.broker with inbox := inbox } })

/-- An empty retained message is published, if the publish succeeds. -/
def clearOtaRetained (config : Config) (succeeds : Bool) (system : System) : System :=
  if succeeds then { system with broker := system.broker.publish config.otaTopic [] true }
  else system

/-- An event while the subscription is acknowledged. -/
def handleSetupEvent (config : Config) (otaState : OtaState) (system : System) :
    Event → Option System
  | .publish =>
      match nextPublish system with
      | none => none
      | some (publish, system) =>
          match copyOtaManifest publish config.otaTopic with
          | none => some system
          | some manifest =>
              match resolveOtaManifestAction config otaState manifest.retained
                  manifest.command.bytes with
              | .forwardOnly | .forwardAndClearRetained =>
                  some { system with mqttTask := .forwardingEarly manifest.command }
              | .clearRetainedOnly => some { system with mqttTask := .clearingEarly otaState }
  | .suback true =>
      some { system with
        mqttHealth := system.mqttHealth.send .heartbeatPublished
        mqttTask := .connected }
  | .suback false => some system.failSetup
  | .other => some system

/-- An event in the connected loop. -/
def handleMqttEvent (config : Config) (system : System) : Event → Option System
  | .publish =>
      match nextPublish system with
      | none => none
      | some (publish, system) =>
          let otaState := system.currentOtaState
          let system := { system with otaStateSeen := system.otaState.sent }
          match copyOtaManifest publish config.otaTopic with
          | none => some system
          | some manifest =>
              match resolveOtaManifestAction config otaState manifest.retained
                  manifest.command.bytes with
              | .forwardOnly | .forwardAndClearRetained =>
                  some { system with mqttTask := .forwarding manifest.command }
              | .clearRetainedOnly => some { system with mqttTask := .clearing }
  | .suback _ | .other => some { system with otaStateSeen := system.otaState.sent }

/-- One step of `mqtt_task`. -/
def mqttStep (config : Config) (system : System) : MqttAction → Option System
  | .openSession workspaceFree =>
      match system.mqttTask with
      | .notStarted =>
          some ({ system with
            mqttHealth := system.mqttHealth.send .disconnected }.openSession config workspaceFree)
      | .standingDown =>
          if system.otaState.changed system.otaStateSeen then
            some (system.openSession config workspaceFree)
          else none
      | .workspaceBackoff | .setupBackoff | .sessionBackoff =>
          some (system.openSession config workspaceFree)
      | _ => none
  | .connect succeeds =>
      match system.mqttTask with
      | .connecting otaState =>
          if succeeds then
            some { system with
              broker := system.broker.subscribe config.otaTopic
              mqttTask := .awaitingSuback otaState }
          else some system.failSetup
      | _ => none
  | .setupFailed =>
      match system.mqttTask with
      | .awaitingSuback _ => some system.failSetup
      | _ => none
  | .setupEvent event =>
      match system.mqttTask with
      | .awaitingSuback otaState => handleSetupEvent config otaState system event
      | _ => none
  | .handOverEarly =>
      match system.mqttTask with
      | .forwardingEarly command => (handOver command system).map System.failSetup
      | _ => none
  | .clearedEarly succeeds =>
      match system.mqttTask with
      | .clearingEarly otaState =>
          some { clearOtaRetained config succeeds system with mqttTask := .awaitingSuback otaState }
      | _ => none
  | .retryDeferred idle =>
      match system.mqttTask, system.deferredReading with
      | .connected, some reading =>
          some ({ system with deferredReading := none }.startReading idle reading)
      | _, _ => none
  | .takeCommand idle =>
      match system.mqttTask, system.deferredReading, system.mqttCommands with
      | .connected, none, command :: commands =>
          let system := { system with mqttCommands := commands }
          match command with
          | .publishTelemetry reading => some (system.startReading idle reading)
          | .otaConfirmed => some { system with mqttTask := .publishingConfirmed }
          | .applySettings => some system
      | _, _, _ => none
  | .pollFailed =>
      match system.mqttTask, system.deferredReading with
      | .connected, none => some system.endSession
      | _, _ => none
  | .event event =>
      match system.mqttTask, system.deferredReading with
      | .connected, none => handleMqttEvent config system event
      | _, _ => none
  | .handOver =>
      match system.mqttTask with
      | .forwarding command => (handOver command system).map System.endSession
      | _ => none
  | .cleared succeeds =>
      match system.mqttTask with
      | .clearing =>
          some { clearOtaRetained config succeeds system with mqttTask := .connected }
      | _ => none
  | .published outcome =>
      match system.mqttTask with
      | .publishing reading otaState =>
          match outcome with
          | .published true =>
              -- The power policy asks for an idle OTA state and an empty queue.
              if otaState = .inactive ∧ system.mqttCommands = [] then
                some (system.reset system.device)
              else none
          | .published false | .dropped => some { system with mqttTask := .connected }
          | .reconnect => some { system.endSession with deferredReading := some reading }
      | _ => none
  | .confirmedPublished succeeds =>
      match system.mqttTask with
      | .publishingConfirmed =>
          some (if succeeds then { system with mqttTask := .connected } else system.endSession)
      | _ => none
  | .pingDue =>
      match system.mqttTask, system.deferredReading with
      | .connected, none => some { system with mqttTask := .pinging }
      | _, _ => none
  | .pinged succeeds =>
      match system.mqttTask with
      | .pinging =>
          some (if succeeds then { system with mqttTask := .connected } else system.endSession)
      | _ => none
  | .stateChanged =>
      match system.mqttTask, system.deferredReading with
      | .connected, none =>
          if system.otaState.changed system.otaStateSeen then
            let otaState := system.currentOtaState
            let system := { system with otaStateSeen := system.otaState.sent }
            some (if isMqttAllowed otaState then system else system.endSession)
          else none
      | _, _ => none

end Tasks
end Motonet
