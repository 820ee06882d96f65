import Motonet.Tasks.Mqtt

/-!
# What a step of the MQTT task does

The branches of a step, each with the place that the task must be in and with what it leaves, and
what the steps do to the state that the other tasks and the broker share with the task.
-/

namespace Motonet
namespace Tasks

open OtaCore Firmware

/-- The task is at the head of the session loop. -/
def MqttTask.opensSession : MqttTask → Bool
  | .notStarted | .standingDown | .workspaceBackoff | .setupBackoff | .sessionBackoff => true
  | .connecting _ | .awaitingSuback _ | .forwardingEarly _ | .clearingEarly _ | .connected
  | .publishing _ _ | .publishingConfirmed | .forwarding _ | .clearing | .pinging => false

/-- The branches of `mqttStep`: when each is taken and what it leaves. -/
inductive MqttMove (config : Config) (before : System) : MqttAction → System → Prop
  | opened (workspaceFree : Bool) (mqttHealth : Watch MqttHealth) :
      before.mqttTask.opensSession = true →
      MqttMove config before (.openSession workspaceFree)
        ({ before with mqttHealth := mqttHealth }.openSession config workspaceFree)
  | subscribed (otaState : OtaState) :
      before.mqttTask = .connecting otaState →
      MqttMove config before (.connect true) { before with
        broker := before.broker.subscribe config.otaTopic
        mqttTask := .awaitingSuback otaState }
  | connectFailed (otaState : OtaState) :
      before.mqttTask = .connecting otaState →
      MqttMove config before (.connect false) before.failSetup
  | setupFailed (otaState : OtaState) :
      before.mqttTask = .awaitingSuback otaState →
      MqttMove config before .setupFailed before.failSetup
  | acknowledged (otaState : OtaState) :
      before.mqttTask = .awaitingSuback otaState →
      MqttMove config before (.setupEvent (.suback true)) { before with
        mqttHealth := before.mqttHealth.send .heartbeatPublished
        mqttTask := .connected }
  | refused (otaState : OtaState) :
      before.mqttTask = .awaitingSuback otaState →
      MqttMove config before (.setupEvent (.suback false)) before.failSetup
  | setupIgnored (otaState : OtaState) :
      before.mqttTask = .awaitingSuback otaState →
      MqttMove config before (.setupEvent .other) before
  | setupUncopied (otaState : OtaState) (publish : Publish) (inbox : List Publish) :
      before.mqttTask = .awaitingSuback otaState → before.broker.inbox = publish :: inbox →
      copyOtaManifest publish config.otaTopic = none →
      MqttMove config before (.setupEvent .publish)
        { before with broker := { before.broker with inbox := inbox } }
  | setupForwards (otaState : OtaState) (publish : Publish) (inbox : List Publish)
      (manifest : IncomingOtaManifest) :
      before.mqttTask = .awaitingSuback otaState → before.broker.inbox = publish :: inbox →
      copyOtaManifest publish config.otaTopic = some manifest →
      resolveOtaManifestAction config otaState manifest.retained manifest.command.bytes ≠
        .clearRetainedOnly →
      MqttMove config before (.setupEvent .publish) { before with
        broker := { before.broker with inbox := inbox }
        mqttTask := .forwardingEarly manifest.command }
  | setupClears (otaState : OtaState) (publish : Publish) (inbox : List Publish)
      (manifest : IncomingOtaManifest) :
      before.mqttTask = .awaitingSuback otaState → before.broker.inbox = publish :: inbox →
      copyOtaManifest publish config.otaTopic = some manifest →
      resolveOtaManifestAction config otaState manifest.retained manifest.command.bytes =
        .clearRetainedOnly →
      MqttMove config before (.setupEvent .publish) { before with
        broker := { before.broker with inbox := inbox }
        mqttTask := .clearingEarly otaState }
  | handedOverEarly (command : OtaCommand) (commands : List OtaCommand) :
      before.mqttTask = .forwardingEarly command →
      Channel.trySend otaCommandChannelDepth command before.otaCommands = some commands →
      MqttMove config before .handOverEarly (System.failSetup { before with
        otaCommands := commands
        handedOver := before.handedOver ++ [command.id] })
  | clearedEarly (otaState : OtaState) (succeeds : Bool) :
      before.mqttTask = .clearingEarly otaState →
      MqttMove config before (.clearedEarly succeeds)
        { clearOtaRetained config succeeds before with mqttTask := .awaitingSuback otaState }
  | retried (idle : Bool) (reading : RadioReading) :
      before.mqttTask = .connected → before.deferredReading = some reading →
      MqttMove config before (.retryDeferred idle)
        ({ before with deferredReading := none }.startReading idle reading)
  | tookReading (idle : Bool) (reading : RadioReading) (commands : List AppCommand) :
      before.mqttTask = .connected → before.deferredReading = none →
      before.mqttCommands = .publishTelemetry reading :: commands →
      MqttMove config before (.takeCommand idle)
        ({ before with mqttCommands := commands }.startReading idle reading)
  | tookConfirmed (idle : Bool) (commands : List AppCommand) :
      before.mqttTask = .connected → before.deferredReading = none →
      before.mqttCommands = .otaConfirmed :: commands →
      MqttMove config before (.takeCommand idle)
        { before with mqttCommands := commands, mqttTask := .publishingConfirmed }
  | tookSettings (idle : Bool) (commands : List AppCommand) :
      before.mqttTask = .connected → before.deferredReading = none →
      before.mqttCommands = .applySettings :: commands →
      MqttMove config before (.takeCommand idle) { before with mqttCommands := commands }
  | pollFailed :
      before.mqttTask = .connected → before.deferredReading = none →
      MqttMove config before .pollFailed before.endSession
  | eventIgnored (event : Event) :
      before.mqttTask = .connected → event ≠ .publish →
      MqttMove config before (.event event) { before with otaStateSeen := before.otaState.sent }
  | uncopied (publish : Publish) (inbox : List Publish) :
      before.mqttTask = .connected → before.broker.inbox = publish :: inbox →
      copyOtaManifest publish config.otaTopic = none →
      MqttMove config before (.event .publish) { before with
        broker := { before.broker with inbox := inbox }
        otaStateSeen := before.otaState.sent }
  | forwards (publish : Publish) (inbox : List Publish) (manifest : IncomingOtaManifest) :
      before.mqttTask = .connected → before.broker.inbox = publish :: inbox →
      copyOtaManifest publish config.otaTopic = some manifest →
      resolveOtaManifestAction config before.currentOtaState manifest.retained
        manifest.command.bytes ≠ .clearRetainedOnly →
      MqttMove config before (.event .publish) { before with
        broker := { before.broker with inbox := inbox }
        otaStateSeen := before.otaState.sent
        mqttTask := .forwarding manifest.command }
  | clears (publish : Publish) (inbox : List Publish) (manifest : IncomingOtaManifest) :
      before.mqttTask = .connected → before.broker.inbox = publish :: inbox →
      copyOtaManifest publish config.otaTopic = some manifest →
      resolveOtaManifestAction config before.currentOtaState manifest.retained
        manifest.command.bytes = .clearRetainedOnly →
      MqttMove config before (.event .publish) { before with
        broker := { before.broker with inbox := inbox }
        otaStateSeen := before.otaState.sent
        mqttTask := .clearing }
  | handedOver (command : OtaCommand) (commands : List OtaCommand) :
      before.mqttTask = .forwarding command →
      Channel.trySend otaCommandChannelDepth command before.otaCommands = some commands →
      MqttMove config before .handOver (System.endSession { before with
        otaCommands := commands
        handedOver := before.handedOver ++ [command.id] })
  | cleared (succeeds : Bool) :
      before.mqttTask = .clearing →
      MqttMove config before (.cleared succeeds)
        { clearOtaRetained config succeeds before with mqttTask := .connected }
  | slept (reading : RadioReading) :
      before.mqttTask = .publishing reading .inactive → before.mqttCommands = [] →
      MqttMove config before (.published (.published true)) (before.reset before.device)
  | published (reading : RadioReading) (otaState : OtaState) :
      before.mqttTask = .publishing reading otaState →
      MqttMove config before (.published (.published false))
        { before with mqttTask := .connected }
  | dropped (reading : RadioReading) (otaState : OtaState) :
      before.mqttTask = .publishing reading otaState →
      MqttMove config before (.published .dropped) { before with mqttTask := .connected }
  | reconnected (reading : RadioReading) (otaState : OtaState) :
      before.mqttTask = .publishing reading otaState →
      MqttMove config before (.published .reconnect)
        { before.endSession with deferredReading := some reading }
  | confirmed :
      before.mqttTask = .publishingConfirmed →
      MqttMove config before (.confirmedPublished true) { before with mqttTask := .connected }
  | confirmFailed :
      before.mqttTask = .publishingConfirmed →
      MqttMove config before (.confirmedPublished false) before.endSession
  | pinging :
      before.mqttTask = .connected → before.deferredReading = none →
      MqttMove config before .pingDue { before with mqttTask := .pinging }
  | pinged :
      before.mqttTask = .pinging →
      MqttMove config before (.pinged true) { before with mqttTask := .connected }
  | pingFailed :
      before.mqttTask = .pinging → MqttMove config before (.pinged false) before.endSession
  | stayed :
      before.mqttTask = .connected → isMqttAllowed before.currentOtaState = true →
      MqttMove config before .stateChanged { before with otaStateSeen := before.otaState.sent }
  | stoodDown :
      before.mqttTask = .connected → isMqttAllowed before.currentOtaState = false →
      MqttMove config before .stateChanged
        (System.endSession { before with otaStateSeen := before.otaState.sent })

section Moves

variable {config : Config} {before after : System}

theorem nextPublish_eq_some {publish : Publish} {popped : System}
    (taken : nextPublish before = some (publish, popped)) :
    ∃ inbox, before.broker.inbox = publish :: inbox ∧
      popped = { before with broker := { before.broker with inbox := inbox } } := by
  unfold nextPublish at taken
  split at taken
  · cases taken
  · cases taken
    exact ⟨_, ‹_›, rfl⟩

theorem handOver_eq_some {command : OtaCommand} {handed : System}
    (taken : handOver command before = some handed) :
    ∃ commands, Channel.trySend otaCommandChannelDepth command before.otaCommands = some commands ∧
      handed = { before with
        otaCommands := commands
        handedOver := before.handedOver ++ [command.id] } := by
  unfold handOver at taken
  split at taken
  · cases taken
  · cases taken
    exact ⟨_, ‹_›, rfl⟩

private theorem mqttMove_of_openSession {workspaceFree : Bool}
    (taken : mqttStep config before (.openSession workspaceFree) = some after) :
    MqttMove config before (.openSession workspaceFree) after := by
  simp only [mqttStep] at taken
  split at taken
  · cases taken
    exact .opened workspaceFree _ (by simp [*, MqttTask.opensSession])
  · obtain ⟨-, same⟩ := Option.ite_none_right_eq_some.mp taken
    cases same
    exact .opened workspaceFree before.mqttHealth (by simp [*, MqttTask.opensSession])
  · cases taken
    exact .opened workspaceFree before.mqttHealth (by simp [*, MqttTask.opensSession])
  · cases taken
    exact .opened workspaceFree before.mqttHealth (by simp [*, MqttTask.opensSession])
  · cases taken
    exact .opened workspaceFree before.mqttHealth (by simp [*, MqttTask.opensSession])
  · cases taken

private theorem mqttMove_of_handleSetupEvent {otaState : OtaState} {event : Event}
    (task : before.mqttTask = .awaitingSuback otaState)
    (taken : handleSetupEvent config otaState before event = some after) :
    MqttMove config before (.setupEvent event) after := by
  cases event with
  | publish =>
      simp only [handleSetupEvent] at taken
      split at taken
      · cases taken
      rename_i publish popped next
      obtain ⟨inbox, queue, rfl⟩ := nextPublish_eq_some next
      split at taken
      · rename_i uncopied
        cases taken
        exact .setupUncopied otaState publish inbox task queue uncopied
      rename_i manifest copied
      split at taken
      · rename_i forwards
        cases taken
        exact .setupForwards otaState publish inbox manifest task queue copied (by simp [forwards])
      · rename_i forwards
        cases taken
        exact .setupForwards otaState publish inbox manifest task queue copied (by simp [forwards])
      · rename_i clears
        cases taken
        exact .setupClears otaState publish inbox manifest task queue copied clears
  | suback accepted =>
      cases accepted with
      | true =>
          cases taken
          exact .acknowledged otaState task
      | false =>
          cases taken
          exact .refused otaState task
  | other =>
      cases taken
      exact .setupIgnored otaState task

private theorem mqttMove_of_handleMqttEvent {event : Event} (task : before.mqttTask = .connected)
    (taken : handleMqttEvent config before event = some after) :
    MqttMove config before (.event event) after := by
  cases event with
  | publish =>
      simp only [handleMqttEvent] at taken
      split at taken
      · cases taken
      rename_i publish popped next
      obtain ⟨inbox, queue, rfl⟩ := nextPublish_eq_some next
      split at taken
      · rename_i uncopied
        cases taken
        exact .uncopied publish inbox task queue uncopied
      rename_i manifest copied
      have current : System.currentOtaState
          { before with broker := { before.broker with inbox := inbox } } =
            before.currentOtaState := rfl
      rw [current] at taken
      split at taken
      · rename_i forwards
        cases taken
        exact .forwards publish inbox manifest task queue copied (by simp [forwards])
      · rename_i forwards
        cases taken
        exact .forwards publish inbox manifest task queue copied (by simp [forwards])
      · rename_i clears
        cases taken
        exact .clears publish inbox manifest task queue copied clears
  | suback accepted =>
      cases taken
      exact .eventIgnored _ task nofun
  | other =>
      cases taken
      exact .eventIgnored _ task nofun

/-- Every step is one of the moves. -/
theorem mqttMove_of_step {action : MqttAction}
    (taken : mqttStep config before action = some after) : MqttMove config before action after := by
  cases action with
  | openSession workspaceFree => exact mqttMove_of_openSession taken
  | connect succeeds =>
      simp only [mqttStep] at taken
      split at taken <;> [skip; cases taken]
      rename_i otaState task
      cases succeeds with
      | true =>
          cases taken
          exact .subscribed otaState task
      | false =>
          cases taken
          exact .connectFailed otaState task
  | setupFailed =>
      simp only [mqttStep] at taken
      split at taken <;> cases taken
      exact .setupFailed _ ‹_›
  | setupEvent event =>
      simp only [mqttStep] at taken
      split at taken <;> [skip; cases taken]
      exact mqttMove_of_handleSetupEvent ‹_› taken
  | handOverEarly =>
      simp only [mqttStep] at taken
      split at taken <;> [skip; cases taken]
      rename_i command task
      obtain ⟨handed, sent, rfl⟩ := Option.map_eq_some_iff.mp taken
      obtain ⟨commands, queue, rfl⟩ := handOver_eq_some sent
      exact .handedOverEarly command commands task queue
  | clearedEarly succeeds =>
      simp only [mqttStep] at taken
      split at taken <;> cases taken
      exact .clearedEarly _ succeeds ‹_›
  | retryDeferred idle =>
      simp only [mqttStep] at taken
      split at taken <;> cases taken
      exact .retried idle _ ‹_› ‹_›
  | takeCommand idle =>
      simp only [mqttStep] at taken
      split at taken <;> [skip; cases taken]
      rename_i command commands task deferred queue
      cases command with
      | publishTelemetry reading =>
          cases taken
          exact .tookReading idle reading commands task deferred queue
      | otaConfirmed =>
          cases taken
          exact .tookConfirmed idle commands task deferred queue
      | applySettings =>
          cases taken
          exact .tookSettings idle commands task deferred queue
  | pollFailed =>
      simp only [mqttStep] at taken
      split at taken <;> cases taken
      exact .pollFailed ‹_› ‹_›
  | event event =>
      simp only [mqttStep] at taken
      split at taken <;> [skip; cases taken]
      exact mqttMove_of_handleMqttEvent ‹_› taken
  | handOver =>
      simp only [mqttStep] at taken
      split at taken <;> [skip; cases taken]
      rename_i command task
      obtain ⟨handed, sent, rfl⟩ := Option.map_eq_some_iff.mp taken
      obtain ⟨commands, queue, rfl⟩ := handOver_eq_some sent
      exact .handedOver command commands task queue
  | cleared succeeds =>
      simp only [mqttStep] at taken
      split at taken <;> cases taken
      exact .cleared succeeds ‹_›
  | published outcome =>
      simp only [mqttStep] at taken
      split at taken <;> [skip; cases taken]
      rename_i reading otaState task
      split at taken
      · obtain ⟨⟨rfl, empty⟩, same⟩ := Option.ite_none_right_eq_some.mp taken
        cases same
        exact .slept reading task empty
      · cases taken
        exact .published reading otaState task
      · cases taken
        exact .dropped reading otaState task
      · cases taken
        exact .reconnected reading otaState task
  | confirmedPublished succeeds =>
      simp only [mqttStep] at taken
      split at taken <;> [skip; cases taken]
      cases succeeds with
      | true =>
          cases taken
          exact .confirmed ‹_›
      | false =>
          cases taken
          exact .confirmFailed ‹_›
  | pingDue =>
      simp only [mqttStep] at taken
      split at taken <;> cases taken
      exact .pinging ‹_› ‹_›
  | pinged succeeds =>
      simp only [mqttStep] at taken
      split at taken <;> [skip; cases taken]
      cases succeeds with
      | true =>
          cases taken
          exact .pinged ‹_›
      | false =>
          cases taken
          exact .pingFailed ‹_›
  | stateChanged =>
      simp only [mqttStep] at taken
      split at taken <;> [skip; cases taken]
      rename_i task deferred
      obtain ⟨-, same⟩ := Option.ite_none_right_eq_some.mp taken
      cases allowed : isMqttAllowed before.currentOtaState with
      | true =>
          rw [allowed] at same
          cases same
          exact .stayed task allowed
      | false =>
          rw [allowed] at same
          cases same
          exact .stoodDown task allowed

end Moves

/-! ## What the other tasks and the broker see -/

namespace MqttTask

/-- The manifest that waits to be handed over. -/
def pending : MqttTask → Option OtaCommand
  | .forwardingEarly command | .forwarding command => some command
  | _ => none

/-- The OTA state that a call was given when it started. -/
def given : MqttTask → Option OtaState
  | .connecting otaState | .awaitingSuback otaState | .clearingEarly otaState
  | .publishing _ otaState => some otaState
  | _ => none

/-- The task has a session in which it is subscribed. -/
def inSession : MqttTask → Bool
  | .awaitingSuback _ | .forwardingEarly _ | .clearingEarly _ | .connected | .forwarding _
  | .clearing | .publishing _ _ | .publishingConfirmed | .pinging => true
  | .notStarted | .standingDown | .workspaceBackoff | .connecting _ | .setupBackoff
  | .sessionBackoff => false

end MqttTask

/-- The OTA state with which an incoming manifest is handled: during the session set-up the one that
the set-up was given. -/
def System.deliveryState (system : System) : OtaState :=
  system.mqttTask.given.getD system.currentOtaState

/-- A step that leaves alone what belongs to the other tasks. -/
structure Outside (before after : System) : Prop where
  device : after.device = before.device
  running : after.running = before.running
  unconfirmed : after.unconfirmed = before.unconfirmed
  otaState : after.otaState = before.otaState
  otaTask : after.otaTask = before.otaTask
  confirmTask : after.confirmTask = before.confirmTask

/-- A step that hands nothing over either. -/
structure Quiet (before after : System) : Prop extends Outside before after where
  otaCommands : after.otaCommands = before.otaCommands
  handedOver : after.handedOver = before.handedOver

/-- Every OTA state that a call is given is the current one or was given before. -/
def GivenCurrent (before after : System) : Prop :=
  ∀ otaState, after.mqttTask.given = some otaState →
    before.mqttTask.given = some otaState ∨ otaState = before.currentOtaState

/-- The action neither subscribes, nor takes a message from the broker, nor clears the retained
one. -/
def MqttAction.isSilent : MqttAction → Bool
  | .connect true | .setupEvent .publish | .event .publish | .clearedEarly true | .cleared true =>
      false
  | _ => true

/-- What the steps of `mqtt_task` do to the state shared with the other tasks and the broker. -/
inductive MqttStep (config : Config) (before : System) : MqttAction → System → Prop
  /-- The session is as before, or it ends. -/
  | moved {action : MqttAction} {after : System} :
      Quiet before after → GivenCurrent before after → before.mqttTask.pending = none →
      after.mqttTask.pending = none →
      ((after.broker = before.broker ∧ after.mqttTask.inSession = before.mqttTask.inSession) ∨
        (after.broker = before.broker.disconnect ∧ after.mqttTask.inSession = false)) →
      action.isSilent = true → MqttStep config before action after
  | subscribed {after : System} :
      Quiet before after → GivenCurrent before after → before.mqttTask.pending = none →
      after.mqttTask.pending = none → before.mqttTask.inSession = false →
      after.mqttTask.inSession = true → after.broker = before.broker.subscribe config.otaTopic →
      MqttStep config before (.connect true) after
  /-- A message is taken from the broker; a manifest in it is forwarded unless the retained copy of
  it is only to be cleared. -/
  | received {action : MqttAction} {after : System} {publish : Publish} {inbox : List Publish} :
      action = .setupEvent .publish ∨ action = .event .publish →
      Quiet before after → GivenCurrent before after → before.mqttTask.pending = none →
      before.mqttTask.inSession = true → after.mqttTask.inSession = true →
      before.broker.inbox = publish :: inbox →
      after.broker = { before.broker with inbox := inbox } →
      (after.mqttTask.pending = none ∧ (∀ manifest,
          copyOtaManifest publish config.otaTopic = some manifest →
          resolveOtaManifestAction config before.deliveryState manifest.retained
            manifest.command.bytes = .clearRetainedOnly) ∨
        ∃ manifest, copyOtaManifest publish config.otaTopic = some manifest ∧
          resolveOtaManifestAction config before.deliveryState manifest.retained
            manifest.command.bytes ≠ .clearRetainedOnly ∧
          after.mqttTask.pending = some manifest.command) →
      MqttStep config before action after
  | handedOver {action : MqttAction} {after : System} {command : OtaCommand} :
      Outside before after → before.mqttTask.pending = some command →
      Channel.trySend otaCommandChannelDepth command before.otaCommands = some after.otaCommands →
      after.handedOver = before.handedOver ++ [command.id] → after.mqttTask.pending = none →
      after.mqttTask.given = none → after.mqttTask.inSession = false →
      after.broker = before.broker.disconnect → action.isSilent = true →
      MqttStep config before action after
  | cleared {action : MqttAction} {after : System} :
      action = .clearedEarly true ∨ action = .cleared true →
      Quiet before after → GivenCurrent before after → before.mqttTask.pending = none →
      after.mqttTask.pending = none → before.mqttTask.inSession = true →
      after.mqttTask.inSession = true →
      after.broker = before.broker.publish config.otaTopic [] true →
      MqttStep config before action after
  | slept {action : MqttAction} :
      before.mqttTask.pending = none → action.isSilent = true →
      MqttStep config before action (before.reset before.device)

theorem inSession_of_opensSession {task : MqttTask} (opens : task.opensSession = true) :
    task.inSession = false := by
  cases task <;> first | rfl | cases opens

theorem pending_of_opensSession {task : MqttTask} (opens : task.opensSession = true) :
    task.pending = none := by
  cases task <;> first | rfl | cases opens

section Inversion

variable {config : Config} {before after : System}

/-- A step that changes only what belongs to `mqtt_task` and its channels is quiet. -/
private theorem quiet_own {mqttHealth : Watch MqttHealth} {mqttCommands : List AppCommand}
    {broker : Broker} {mqttTask : MqttTask} {deferredReading : Option RadioReading}
    {otaStateSeen : ℕ} :
    Quiet before { before with
      mqttHealth := mqttHealth
      mqttCommands := mqttCommands
      broker := broker
      mqttTask := mqttTask
      deferredReading := deferredReading
      otaStateSeen := otaStateSeen } :=
  ⟨⟨rfl, rfl, rfl, rfl, rfl, rfl⟩, rfl, rfl⟩

private theorem openSession_moved {action : MqttAction} (workspaceFree : Bool) {ready : System}
    (quiet : Quiet before ready) (broker : ready.broker = before.broker)
    (outside : before.mqttTask.inSession = false) (idle : before.mqttTask.pending = none)
    (silent : action.isSilent = true) :
    MqttStep config before action (ready.openSession config workspaceFree) := by
  obtain ⟨⟨device, running, unconfirmed, otaState, otaTask, confirmTask⟩, otaCommands,
    handedOver⟩ := quiet
  have current : ready.currentOtaState = before.currentOtaState := by
    rw [System.currentOtaState, otaState, System.currentOtaState]
  unfold System.openSession
  simp only
  split
  · exact .moved ⟨⟨device, running, unconfirmed, otaState, otaTask, confirmTask⟩, otaCommands,
      handedOver⟩ nofun idle rfl (.inl ⟨broker, outside.symm⟩) silent
  split
  · exact .moved ⟨⟨device, running, unconfirmed, otaState, otaTask, confirmTask⟩, otaCommands,
      handedOver⟩ nofun idle rfl (.inl ⟨broker, outside.symm⟩) silent
  · refine .moved ⟨⟨device, running, unconfirmed, otaState, otaTask, confirmTask⟩, otaCommands,
      handedOver⟩ ?_ idle rfl (.inl ⟨broker, outside.symm⟩) silent
    intro given same
    cases same
    exact .inr current

private theorem failSetup_moved {action : MqttAction} (idle : before.mqttTask.pending = none)
    (silent : action.isSilent = true) : MqttStep config before action before.failSetup :=
  .moved quiet_own nofun idle rfl (.inr ⟨rfl, rfl⟩) silent

private theorem endSession_moved {action : MqttAction} (idle : before.mqttTask.pending = none)
    (silent : action.isSilent = true) : MqttStep config before action before.endSession :=
  .moved quiet_own nofun idle rfl (.inr ⟨rfl, rfl⟩) silent

private theorem startReading_moved {action : MqttAction} (idle : Bool) (reading : RadioReading)
    {ready : System} (quiet : Quiet before ready) (broker : ready.broker = before.broker)
    (session : before.mqttTask.inSession = true) (nothing : before.mqttTask.pending = none)
    (silent : action.isSilent = true) :
    MqttStep config before action (ready.startReading idle reading) := by
  obtain ⟨⟨device, running, unconfirmed, otaState, otaTask, confirmTask⟩, otaCommands,
    handedOver⟩ := quiet
  have current : ready.currentOtaState = before.currentOtaState := by
    rw [System.currentOtaState, otaState, System.currentOtaState]
  have disconnected : ready.broker.disconnect = before.broker.disconnect := by rw [broker]
  unfold System.startReading
  simp only
  split
  · exact .moved ⟨⟨device, running, unconfirmed, otaState, otaTask, confirmTask⟩, otaCommands,
      handedOver⟩ nofun nothing rfl (.inr ⟨disconnected, rfl⟩) silent
  · refine .moved ⟨⟨device, running, unconfirmed, otaState, otaTask, confirmTask⟩, otaCommands,
      handedOver⟩ ?_ nothing rfl (.inl ⟨broker, session.symm⟩) silent
    intro given same
    cases same
    exact .inr current

theorem MqttStep.of_step {action : MqttAction}
    (taken : mqttStep config before action = some after) :
    MqttStep config before action after := by
  cases mqttMove_of_step taken with
  | opened workspaceFree mqttHealth opens =>
      exact openSession_moved workspaceFree quiet_own rfl (inSession_of_opensSession opens)
        (pending_of_opensSession opens) rfl
  | subscribed otaState task =>
      have given : before.mqttTask.given = some otaState := congrArg MqttTask.given task
      exact .subscribed quiet_own (fun _ same => .inl (given.trans same))
        (congrArg MqttTask.pending task) rfl (congrArg MqttTask.inSession task) rfl rfl
  | connectFailed _ task | setupFailed _ task | refused _ task =>
      exact failSetup_moved (congrArg MqttTask.pending task) rfl
  | setupUncopied otaState publish inbox task queue uncopied =>
      have nothing : before.mqttTask.pending = none := congrArg MqttTask.pending task
      have session : before.mqttTask.inSession = true := congrArg MqttTask.inSession task
      exact .received (.inl rfl) quiet_own (fun _ same => .inl same) nothing session session queue
        rfl (.inl ⟨nothing, fun _ copied => nomatch uncopied.symm.trans copied⟩)
  | setupForwards otaState publish inbox manifest task queue copied forwards =>
      have seen : before.deliveryState = otaState := by
        rw [System.deliveryState, task]
        rfl
      exact .received (.inl rfl) quiet_own nofun (congrArg MqttTask.pending task)
        (congrArg MqttTask.inSession task) rfl queue rfl
        (.inr ⟨manifest, copied, by rwa [seen], rfl⟩)
  | setupClears otaState publish inbox manifest task queue copied clears =>
      have given : before.mqttTask.given = some otaState := congrArg MqttTask.given task
      have seen : before.deliveryState = otaState := by rw [System.deliveryState, given]; rfl
      refine .received (.inl rfl) quiet_own (fun _ same => .inl (given.trans same))
        (congrArg MqttTask.pending task) (congrArg MqttTask.inSession task) rfl queue rfl
        (.inl ⟨rfl, fun other also => ?_⟩)
      obtain rfl := Option.some.inj (copied.symm.trans also)
      rwa [seen]
  | uncopied publish inbox task queue uncopied =>
      have nothing : before.mqttTask.pending = none := congrArg MqttTask.pending task
      have session : before.mqttTask.inSession = true := congrArg MqttTask.inSession task
      exact .received (.inr rfl) quiet_own (fun _ same => .inl same) nothing session session queue
        rfl (.inl ⟨nothing, fun _ copied => nomatch uncopied.symm.trans copied⟩)
  | forwards publish inbox manifest task queue copied forwards =>
      have seen : before.deliveryState = before.currentOtaState := by
        rw [System.deliveryState, task]
        rfl
      exact .received (.inr rfl) quiet_own nofun (congrArg MqttTask.pending task)
        (congrArg MqttTask.inSession task) rfl queue rfl
        (.inr ⟨manifest, copied, by rwa [seen], rfl⟩)
  | clears publish inbox manifest task queue copied clears =>
      have seen : before.deliveryState = before.currentOtaState := by
        rw [System.deliveryState, task]
        rfl
      refine .received (.inr rfl) quiet_own nofun (congrArg MqttTask.pending task)
        (congrArg MqttTask.inSession task) rfl queue rfl (.inl ⟨rfl, fun other also => ?_⟩)
      obtain rfl := Option.some.inj (copied.symm.trans also)
      rwa [seen]
  | handedOverEarly command commands task queue | handedOver command commands task queue =>
      exact .handedOver ⟨rfl, rfl, rfl, rfl, rfl, rfl⟩ (congrArg MqttTask.pending task) queue rfl
        rfl rfl rfl rfl rfl
  | clearedEarly otaState succeeds task =>
      have given : before.mqttTask.given = some otaState := congrArg MqttTask.given task
      have nothing : before.mqttTask.pending = none := congrArg MqttTask.pending task
      have session : before.mqttTask.inSession = true := congrArg MqttTask.inSession task
      cases succeeds with
      | true =>
          exact .cleared (.inl rfl) quiet_own (fun _ same => .inl (given.trans same)) nothing rfl
            session rfl rfl
      | false =>
          exact .moved quiet_own (fun _ same => .inl (given.trans same)) nothing rfl
            (.inl ⟨rfl, session.symm⟩) rfl
  | cleared succeeds task =>
      have nothing : before.mqttTask.pending = none := congrArg MqttTask.pending task
      have session : before.mqttTask.inSession = true := congrArg MqttTask.inSession task
      cases succeeds with
      | true => exact .cleared (.inr rfl) quiet_own nofun nothing rfl session rfl rfl
      | false => exact .moved quiet_own nofun nothing rfl (.inl ⟨rfl, session.symm⟩) rfl
  | retried idle reading task | tookReading idle reading commands task =>
      exact startReading_moved idle reading quiet_own rfl (congrArg MqttTask.inSession task)
        (congrArg MqttTask.pending task) rfl
  | slept _ task => exact .slept (congrArg MqttTask.pending task) rfl
  | reconnected _ _ task =>
      exact .moved quiet_own nofun (congrArg MqttTask.pending task) rfl (.inr ⟨rfl, rfl⟩) rfl
  | pollFailed task | confirmFailed task | pingFailed task =>
      exact endSession_moved (congrArg MqttTask.pending task) rfl
  | stoodDown task =>
      exact .moved quiet_own nofun (congrArg MqttTask.pending task) rfl (.inr ⟨rfl, rfl⟩) rfl
  | setupIgnored _ task | tookSettings _ _ task | stayed task =>
      have nothing : before.mqttTask.pending = none := congrArg MqttTask.pending task
      exact .moved quiet_own (fun _ same => .inl same) nothing nothing (.inl ⟨rfl, rfl⟩) rfl
  | eventIgnored event task other =>
      have nothing : before.mqttTask.pending = none := congrArg MqttTask.pending task
      have silent : (MqttAction.event event).isSilent = true := by
        cases event with
        | publish => exact absurd rfl other
        | suback accepted | other => rfl
      exact .moved quiet_own (fun _ same => .inl same) nothing nothing (.inl ⟨rfl, rfl⟩) silent
  | acknowledged _ task | tookConfirmed _ _ task | published _ _ task | dropped _ _ task
  | confirmed task | pinging task | pinged task =>
      have session : before.mqttTask.inSession = true := congrArg MqttTask.inSession task
      exact .moved quiet_own nofun (congrArg MqttTask.pending task) rfl
        (.inl ⟨rfl, session.symm⟩) rfl

/-- A step leaves alone what belongs to the other tasks, unless the device sleeps. -/
theorem MqttStep.outside {action : MqttAction} (taken : MqttStep config before action after) :
    Outside before after ∨ after = before.reset before.device := by
  cases taken with
  | moved quiet => exact .inl quiet.toOutside
  | subscribed quiet => exact .inl quiet.toOutside
  | received _ quiet => exact .inl quiet.toOutside
  | handedOver outside => exact .inl outside
  | cleared _ quiet => exact .inl quiet.toOutside
  | slept => exact .inr rfl

/-- A task that was not polled yet opens a session first. -/
theorem mqttStep_notStarted {action : MqttAction} (task : before.mqttTask = .notStarted)
    (taken : mqttStep config before action = some after) :
    ∃ workspaceFree, action = .openSession workspaceFree := by
  cases action with
  | openSession workspaceFree => exact ⟨workspaceFree, rfl⟩
  | _ => simp [mqttStep, task] at taken

end Inversion

end Tasks
end Motonet
