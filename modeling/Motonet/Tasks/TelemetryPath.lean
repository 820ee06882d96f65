import Motonet.Firmware.Messages
import Motonet.Firmware.Telemetry
import Motonet.Tasks.CommandDelivery

/-!
# The way of a reading through the device

The capture task decodes a reading and offers it to a channel, the event router moves it to the
channel of `mqtt_task`, and `mqtt_task` publishes it.  Both pause while an update is in progress.
Readings leave in the order in which they were queued, each of them once; what is lost is lost in a
reset.
-/

namespace Motonet
namespace Tasks

open OtaCore Firmware TelemetryCore

def radioTelemetryChannelDepth : ℕ := 16

/-- The capacity of the dedupe cache of the capture task. -/
def dedupeCapacity : ℕ := 32

/-! ## `app_bus.rs` -/

/-- `AppEvent`. -/
inductive AppEvent
  | navigation
  | applySettings
  | radioFrameDecoded (reading : RadioReading)
  | timeUpdated

/-- `route_event`. -/
def routeEvent : AppEvent → Option AppCommand
  | .applySettings => some .applySettings
  | .radioFrameDecoded reading => some (.publishTelemetry reading)
  | .navigation | .timeUpdated => none

/-- `route_event_to_mqtt_command`. -/
def routeEventToMqttCommand (event : AppEvent) : Option AppCommand :=
  match routeEvent event with
  | some (.publishTelemetry reading) => some (.publishTelemetry reading)
  | some .otaConfirmed | some .applySettings | none => none

/-! ## Tasks -/

/-- Where `PulseCapture::run` is suspended. -/
inductive CaptureTask
  | notStarted
  | quiesced
  | receiving
  /-- A row is decoded, and the radio is asked for the signal strength. -/
  | measuring (inner : Rubicson.RubicsonReading)
  | holdingOff
  deriving DecidableEq

/-- Where `radio_433_event_router_task` is suspended. -/
inductive RouterTask
  | notStarted
  | quiesced
  | receiving
  | sending (reading : RadioReading)
  deriving DecidableEq

/-- The tasks between the radio and the broker.  A reading has the number of its place among the
readings captured so far, which exist for the statements only. -/
structure TelemetryPath where
  tasks : System
  adapter : TelemetryPipelineAdapter dedupeCapacity
  captureTask : CaptureTask
  captureSeen : ℕ
  routerTask : RouterTask
  routerSeen : ℕ
  radioTelemetry : List RadioReading
  captured : List Firmware.RadioReading

namespace TelemetryPath

/-- After a boot, before any task was polled. -/
def booted (tasks : System) (captured : List Firmware.RadioReading) : TelemetryPath where
  tasks := tasks
  adapter := .new
  captureTask := .notStarted
  captureSeen := 0
  routerTask := .notStarted
  routerSeen := 0
  radioTelemetry := []
  captured := captured

/-- The head of the capture loop. -/
def captureHead (path : TelemetryPath) : TelemetryPath :=
  { path with
    captureSeen := path.tasks.otaState.sent
    captureTask :=
      if isRadioCaptureAllowed path.tasks.currentOtaState then .receiving else .quiesced }

/-- The head of the loop of the router. -/
def routerHead (path : TelemetryPath) : TelemetryPath :=
  { path with
    routerSeen := path.tasks.otaState.sent
    routerTask :=
      if isRadioCaptureAllowed path.tasks.currentOtaState then .receiving else .quiesced }

/-- The offer of a reading to the channel. -/
def offer (path : TelemetryPath) (reading : Firmware.RadioReading) (nowMs : UInt64) :
    TelemetryEnqueueOutcome × TelemetryPipelineAdapter dedupeCapacity :=
  path.adapter.enqueueWith RadioReading.toTelemetryRecord
    ⟨reading, nowMs, fun _ => path.radioTelemetry.length < radioTelemetryChannelDepth⟩

end TelemetryPath

/-- The steps of the tasks. -/
inductive PathAction
  /-- The first poll of the capture task, a change of the OTA state, or the end of a pause. -/
  | captureWake
  /-- The peripheral fails, nothing is decoded, or the OTA state changes. -/
  | captureAborted
  | decoded (inner : Rubicson.RubicsonReading)
  | measured (rssi : ℤ) (detectionThreshold : UInt8) (receivedAt nowMs : UInt64)
  | routerWake
  | routerReceive
  | routerSend
  | tasks (action : Action)

/-- A step of the other tasks ends in a reset: the power fails, the device sleeps, or an update is
installed. -/
def resets (config : Config) (system : System) : Action → Bool
  | .powerCycle _ => true
  | .mqtt (.published (.published true)) => true
  | .ota (.finish env) =>
      match system.otaTask with
      | .downloading manifest =>
          match install config env manifest system.device with
          | (.ok _, _) => true
          | (.error _, _) => false
      | _ => false
  | _ => false

/-- One step of the tasks between the radio and the broker. -/
def pathStep (config : Config) (path : TelemetryPath) : PathAction → Option TelemetryPath
  | .captureWake =>
      match path.captureTask with
      | .notStarted | .holdingOff => some path.captureHead
      | .quiesced =>
          if path.tasks.otaState.changed path.captureSeen then some path.captureHead else none
      | _ => none
  | .captureAborted =>
      match path.captureTask with
      | .receiving => some path.captureHead
      | _ => none
  | .decoded inner =>
      match path.captureTask with
      | .receiving => some { path with captureTask := .measuring inner }
      | _ => none
  | .measured rssi detectionThreshold receivedAt nowMs =>
      match path.captureTask with
      | .measuring inner =>
          let reading : Firmware.RadioReading := ⟨⟨inner, rssi, detectionThreshold⟩, receivedAt⟩
          let (outcome, adapter) := path.offer reading nowMs
          some { path with
            adapter := adapter
            captureTask := .holdingOff
            radioTelemetry :=
              if outcome = .queued then path.radioTelemetry ++ [path.captured.length]
              else path.radioTelemetry
            captured := path.captured ++ [reading] }
      | _ => none
  | .routerWake =>
      match path.routerTask with
      | .notStarted => some path.routerHead
      | .quiesced =>
          if path.tasks.otaState.changed path.routerSeen then some path.routerHead else none
      | _ => none
  | .routerReceive =>
      match path.routerTask, path.radioTelemetry with
      | .receiving, reading :: radioTelemetry =>
          match routeEventToMqttCommand (.radioFrameDecoded reading) with
          | some (.publishTelemetry reading) =>
              some { path with radioTelemetry := radioTelemetry, routerTask := .sending reading }
          | _ => some { path with radioTelemetry := radioTelemetry }.routerHead
      | _, _ => none
  | .routerSend =>
      match path.routerTask with
      | .sending reading =>
          (step config path.tasks (.queueReading reading)).map fun tasks =>
            { path with tasks := tasks }.routerHead
      | _ => none
  -- Only the router queues readings.
  | .tasks (.queueReading _) => none
  | .tasks action =>
      (step config path.tasks action).map fun tasks =>
        if resets config path.tasks action then .booted tasks path.captured
        else { path with tasks := tasks }

/-- What the steps do. -/
inductive PathMove (config : Config) (path : TelemetryPath) : PathAction → TelemetryPath → Prop
  | captureStarted :
      path.captureTask = .notStarted → PathMove config path .captureWake path.captureHead
  | captureRested :
      path.captureTask = .holdingOff → PathMove config path .captureWake path.captureHead
  | captureChanged :
      path.captureTask = .quiesced → path.tasks.otaState.changed path.captureSeen = true →
      PathMove config path .captureWake path.captureHead
  | captureAborted :
      path.captureTask = .receiving → PathMove config path .captureAborted path.captureHead
  | decoded {inner : Rubicson.RubicsonReading} :
      path.captureTask = .receiving →
      PathMove config path (.decoded inner) { path with captureTask := .measuring inner }
  | measured {inner : Rubicson.RubicsonReading} {rssi : ℤ} {detectionThreshold : UInt8}
      {receivedAt nowMs : UInt64} {outcome : TelemetryEnqueueOutcome}
      {adapter : TelemetryPipelineAdapter dedupeCapacity} :
      path.captureTask = .measuring inner →
      path.offer ⟨⟨inner, rssi, detectionThreshold⟩, receivedAt⟩ nowMs = (outcome, adapter) →
      PathMove config path (.measured rssi detectionThreshold receivedAt nowMs) { path with
        adapter := adapter
        captureTask := .holdingOff
        radioTelemetry :=
          if outcome = .queued then path.radioTelemetry ++ [path.captured.length]
          else path.radioTelemetry
        captured := path.captured ++ [⟨⟨inner, rssi, detectionThreshold⟩, receivedAt⟩] }
  | routerStarted :
      path.routerTask = .notStarted → PathMove config path .routerWake path.routerHead
  | routerChanged :
      path.routerTask = .quiesced → path.tasks.otaState.changed path.routerSeen = true →
      PathMove config path .routerWake path.routerHead
  | routerReceived {reading : RadioReading} {radioTelemetry : List RadioReading} :
      path.routerTask = .receiving → path.radioTelemetry = reading :: radioTelemetry →
      PathMove config path .routerReceive
        { path with radioTelemetry := radioTelemetry, routerTask := .sending reading }
  | routerSent {reading : RadioReading} {commands : List AppCommand} :
      path.routerTask = .sending reading →
      Channel.trySend mqttCommandChannelDepth (.publishTelemetry reading)
        path.tasks.mqttCommands = some commands →
      PathMove config path .routerSend
        { path with tasks := { path.tasks with mqttCommands := commands } }.routerHead
  | others {action : Action} {tasks : System} :
      (∀ reading, action ≠ .queueReading reading) → resets config path.tasks action = false →
      step config path.tasks action = some tasks →
      PathMove config path (.tasks action) { path with tasks := tasks }
  | reset {action : Action} {tasks : System} :
      resets config path.tasks action = true → step config path.tasks action = some tasks →
      PathMove config path (.tasks action) (.booted tasks path.captured)

section Moves

variable {config : Config} {path after : TelemetryPath}

private theorem PathMove.of_tasks {action : Action}
    (taken : pathStep config path (.tasks action) = some after) :
    PathMove config path (.tasks action) after := by
  obtain ⟨tasks, moved, others, rfl⟩ : ∃ tasks, step config path.tasks action = some tasks ∧
      (∀ reading, action ≠ .queueReading reading) ∧
        (if resets config path.tasks action then .booted tasks path.captured
          else { path with tasks := tasks }) = after := by
    cases action with
    | queueReading => cases taken
    | _ =>
        simp only [pathStep, Option.map_eq_some_iff] at taken
        obtain ⟨tasks, moved, same⟩ := taken
        exact ⟨tasks, moved, by simp, same⟩
  cases resetting : resets config path.tasks action with
  | true => exact .reset resetting moved
  | false => exact .others others resetting moved

private theorem PathMove.of_routerSend (taken : pathStep config path .routerSend = some after) :
    PathMove config path .routerSend after := by
  simp only [pathStep, step] at taken
  split at taken
  · rename_i reading task
    split at taken
    · cases taken
      exact .routerSent task ‹_›
    · cases taken
  · cases taken

theorem PathMove.of_step {action : PathAction} (taken : pathStep config path action = some after) :
    PathMove config path action after := by
  cases action with
  | captureWake =>
      simp only [pathStep] at taken
      split at taken
      · cases taken
        exact .captureStarted ‹_›
      · cases taken
        exact .captureRested ‹_›
      · obtain ⟨changed, same⟩ := Option.ite_none_right_eq_some.mp taken
        cases same
        exact .captureChanged ‹_› changed
      · cases taken
  | captureAborted =>
      simp only [pathStep] at taken
      split at taken <;> cases taken
      exact .captureAborted ‹_›
  | decoded inner =>
      simp only [pathStep] at taken
      split at taken <;> cases taken
      exact .decoded ‹_›
  | measured rssi detectionThreshold receivedAt nowMs =>
      simp only [pathStep] at taken
      split at taken <;> cases taken
      exact .measured ‹_› rfl
  | routerWake =>
      simp only [pathStep] at taken
      split at taken
      · cases taken
        exact .routerStarted ‹_›
      · obtain ⟨changed, same⟩ := Option.ite_none_right_eq_some.mp taken
        cases same
        exact .routerChanged ‹_› changed
      · cases taken
  | routerReceive =>
      simp only [pathStep] at taken
      split at taken
      · cases taken
        exact .routerReceived ‹_› ‹_›
      · cases taken
  | routerSend => exact .of_routerSend taken
  | tasks action => exact .of_tasks taken

end Moves

/-! ## What happens to readings -/

/-- What happens to the readings of the capture task. -/
inductive PathEvent
  | answered (reading : RadioReading) (outcome : TelemetryEnqueueOutcome)
  /-- Published, or dropped because it cannot be formatted. -/
  | settled (reading : RadioReading)
  | lost (readings : List RadioReading)

/-- The readings among commands. -/
def readingsOf (commands : List AppCommand) : List RadioReading :=
  commands.filterMap fun
    | .publishTelemetry reading => some reading
    | .applySettings | .otaConfirmed => none

/-- The readings that `mqtt_task` holds, and those in its channel. -/
def System.readings (system : System) : List RadioReading :=
  readingsOf system.heldCommands ++ readingsOf system.mqttCommands

/-- The reading that a router holds. -/
def RouterTask.held : RouterTask → List RadioReading
  | .sending reading => [reading]
  | .notStarted | .quiesced | .receiving => []

/-- The readings on their way, the oldest first. -/
def TelemetryPath.inFlight (path : TelemetryPath) : List RadioReading :=
  path.tasks.readings ++ path.routerTask.held ++ path.radioTelemetry

/-- The reading that a step publishes or drops. -/
def settledReading (before : System) : Action → List RadioReading
  | .mqtt (.published (.published _)) | .mqtt (.published .dropped) =>
      readingsOf before.mqttTask.inFlight
  | _ => []

/-- What a step does to readings; a reset loses those that are then on their way. -/
def pathEvents (config : Config) (before : TelemetryPath) (action : PathAction)
    (_ : TelemetryPath) : List PathEvent :=
  match action with
  | .measured rssi detectionThreshold receivedAt nowMs =>
      match before.captureTask with
      | .measuring inner =>
          [.answered before.captured.length
            (before.offer ⟨⟨inner, rssi, detectionThreshold⟩, receivedAt⟩ nowMs).1]
      | _ => []
  | .tasks action =>
      let settled := settledReading before.tasks action
      (if resets config before.tasks action then [.lost (before.inFlight.drop settled.length)]
        else []) ++ settled.reverse.map .settled
  | _ => []

/-- The tasks with a journal of what happens to readings. -/
def telemetrySystem (config : Config) :
    TransitionSystem (TelemetryPath × List PathEvent) PathAction :=
  TransitionSystem.journaled ⟨fun path => ∃ tasks, Initial tasks ∧ path = .booted tasks [],
    pathStep config⟩ (pathEvents config)

/-- The readings that were queued, the first one first. -/
def queuedReadings (journal : List PathEvent) : List RadioReading :=
  journal.reverse.flatMap fun
    | .answered reading .queued => [reading]
    | _ => []

/-- The readings that have left, the first one first. -/
def leftReadings (journal : List PathEvent) : List RadioReading :=
  journal.reverse.flatMap fun
    | .settled reading => [reading]
    | .lost readings => readings
    | .answered _ _ => []

/-! ## The steps of `mqtt_task` -/

section Readings

variable {config : Config} {before after : System}

@[simp]
theorem readingsOf_append (first second : List AppCommand) :
    readingsOf (first ++ second) = readingsOf first ++ readingsOf second :=
  List.filterMap_append

@[simp]
theorem readingsOf_nil : readingsOf [] = [] := rfl

@[simp]
theorem readingsOf_publishTelemetry (reading : RadioReading) (commands : List AppCommand) :
    readingsOf (.publishTelemetry reading :: commands) = reading :: readingsOf commands := rfl

@[simp]
theorem readingsOf_otaConfirmed (commands : List AppCommand) :
    readingsOf (.otaConfirmed :: commands) = readingsOf commands := rfl

@[simp]
theorem readingsOf_applySettings (commands : List AppCommand) :
    readingsOf (.applySettings :: commands) = readingsOf commands := rfl

private theorem readings_of_kept (held : after.heldCommands = before.heldCommands)
    (queue : after.mqttCommands = before.mqttCommands) :
    before.readings = [] ++ after.readings := by
  simp only [System.readings, held, queue, List.nil_append]

/-- A step of `mqtt_task` settles a reading or keeps those that it holds and that are queued for
it. -/
private theorem readings_of_mqttStep {action : MqttAction} (single : before.heldCommands.length ≤ 1)
    (kept : resets config before (.mqtt action) = false)
    (taken : mqttStep config before action = some after) :
    before.readings = settledReading before (.mqtt action) ++ after.readings := by
  have alone {command : AppCommand} (flies : before.mqttTask.inFlight = [command]) :
      before.deferredReading = none := by
    simpa [System.heldCommands, flies] using single
  cases mqttMove_of_step taken with
  | opened workspaceFree mqttHealth opens =>
      refine readings_of_kept
        (heldCommands_openSession workspaceFree (inFlight_of_opensSession opens)) ?_
      unfold System.openSession
      dsimp only
      split
      · rfl
      · split <;> rfl
  | subscribed _ task | connectFailed _ task | setupFailed _ task | acknowledged _ task
  | refused _ task | setupForwards _ _ _ _ task | setupClears _ _ _ _ task
  | handedOverEarly _ _ task | pollFailed task | forwards _ _ _ task | clears _ _ _ task
  | handedOver _ _ task | pinging task | pinged task | pingFailed task | stoodDown task =>
      exact readings_of_kept (heldCommands_eq_of_idle (congrArg MqttTask.inFlight task) rfl rfl) rfl
  | setupIgnored | setupUncopied | eventIgnored | uncopied | stayed =>
      exact readings_of_kept rfl rfl
  | clearedEarly _ succeeds task | cleared succeeds task =>
      have idle : before.mqttTask.inFlight = [] := congrArg MqttTask.inFlight task
      cases succeeds <;> exact readings_of_kept (heldCommands_eq_of_idle idle rfl rfl) rfl
  | retried idle reading task deferred =>
      have held : before.heldCommands = [.publishTelemetry reading] := by
        rw [heldCommands_of_idle (congrArg MqttTask.inFlight task), deferred]
        rfl
      cases idle <;> exact readings_of_kept held.symm rfl
  | tookReading idle reading commands task deferred queue =>
      have held : before.heldCommands = [] := by
        rw [heldCommands_of_idle (congrArg MqttTask.inFlight task), deferred]
        rfl
      rw [System.readings, held, queue]
      cases idle with
      | true => rfl
      | false => simp [System.readings, System.startReading, System.heldCommands,
          MqttTask.inFlight, deferred, settledReading]
  | tookConfirmed idle commands task deferred queue =>
      simp [System.readings, System.heldCommands, MqttTask.inFlight, task, deferred, queue,
        settledReading]
  | tookSettings idle commands task deferred queue =>
      simp [System.readings, System.heldCommands, MqttTask.inFlight, task, deferred, queue,
        settledReading]
  | slept => cases kept
  | published reading otaState task | dropped reading otaState task =>
      have nothing := alone (congrArg MqttTask.inFlight task)
      simp [System.readings, System.heldCommands, MqttTask.inFlight, task, nothing, settledReading]
  | reconnected reading otaState task =>
      have nothing := alone (congrArg MqttTask.inFlight task)
      simp [System.readings, System.heldCommands, MqttTask.inFlight, task, nothing, settledReading,
        System.endSession]
  | confirmed task =>
      have nothing := alone (congrArg MqttTask.inFlight task)
      simp [System.readings, System.heldCommands, MqttTask.inFlight, task, nothing, settledReading]
  | confirmFailed task =>
      have nothing := alone (congrArg MqttTask.inFlight task)
      simp [System.readings, System.heldCommands, MqttTask.inFlight, task, nothing, settledReading,
        System.endSession]

private theorem length_heldCommands_of_mqttStep {action : MqttAction}
    (single : before.heldCommands.length ≤ 1) (taken : mqttStep config before action = some after) :
    after.heldCommands.length ≤ 1 := by
  have commands : CommandStep "" before action after := .of_step single taken
  cases commands with
  | kept _ _ held => exact held ▸ single
  | received _ _ _ _ held | settled _ _ _ _ held | lost _ _ _ held => simp [held]

/-- Without a reset the tasks settle a reading or keep those that `mqtt_task` holds and that are
queued for it. -/
theorem readings_of_step {action : Action} (single : before.heldCommands.length ≤ 1)
    (kept : resets config before action = false)
    (others : ∀ reading, action ≠ .queueReading reading)
    (taken : step config before action = some after) :
    before.readings = settledReading before action ++ after.readings ∧
      after.heldCommands.length ≤ 1 := by
  have unchanged (held : after.heldCommands = before.heldCommands)
      (queue : after.mqttCommands = before.mqttCommands) :
      before.readings = [] ++ after.readings ∧ after.heldCommands.length ≤ 1 :=
    ⟨readings_of_kept held queue, held ▸ single⟩
  cases action with
  | mqtt action =>
      exact ⟨readings_of_mqttStep single kept taken, length_heldCommands_of_mqttStep single taken⟩
  | ota action =>
      cases OtaStep.of_step taken with
      | rejected | accepted | standDown | standDownTimeout | lockFlash | failed =>
          exact unchanged rfl rfl
      | installed task installs => simp [resets, task, installs] at kept
  | confirm action =>
      cases OtaConfirmStep.of_step taken with
      | started | foundPending | notPending | polled | marked | notMarked => exact unchanged rfl rfl
      | sent _ queue =>
          obtain ⟨-, rfl⟩ := Channel.trySend_eq_some_iff.mp queue
          refine ⟨?_, single⟩
          simp [System.readings, System.heldCommands, settledReading]
  | operatorPublish payload retain =>
      cases taken
      exact unchanged rfl rfl
  | queueReading reading => exact absurd rfl (others reading)
  | powerCycle progress => cases kept

/-- A reset leaves nothing with `mqtt_task`; what the step settles was with it. -/
theorem readings_of_reset {action : Action}
    (resetting : resets config before action = true)
    (taken : step config before action = some after) :
    after.readings = [] ∧ after.heldCommands = [] ∧
      settledReading before action <+: before.readings := by
  cases action with
  | mqtt action =>
      cases mqttMove_of_step taken with
      | slept reading task queue =>
          refine ⟨rfl, rfl, ?_⟩
          simp [settledReading, System.readings, System.heldCommands, task, MqttTask.inFlight]
      | _ => cases resetting
  | ota action =>
      cases OtaStep.of_step taken with
      | installed => exact ⟨rfl, rfl, List.nil_prefix⟩
      | failed task fails => simp [resets, task, fails] at resetting
      | _ => cases resetting
  | powerCycle progress =>
      cases taken
      exact ⟨rfl, rfl, List.nil_prefix⟩
  | _ => cases resetting

end Readings

/-! ## Runs -/

section Journal

variable (new old : List PathEvent)

@[simp]
theorem queuedReadings_append :
    queuedReadings (new ++ old) = queuedReadings old ++ queuedReadings new := by
  simp [queuedReadings]

@[simp]
theorem leftReadings_append :
    leftReadings (new ++ old) = leftReadings old ++ leftReadings new := by
  simp [leftReadings]

end Journal

/-- Every reading that was queued has left or is on its way, and the order is that of the
captures. -/
structure TelemetryConserved (state : TelemetryPath × List PathEvent) : Prop where
  queued : queuedReadings state.2 = leftReadings state.2 ++ state.1.inFlight
  ordered : (queuedReadings state.2).Pairwise (· < ·)
  numbered : ∀ reading ∈ queuedReadings state.2, reading < state.1.captured.length
  single : state.1.tasks.heldCommands.length ≤ 1

section Runs

variable {config : Config} {before after : TelemetryPath × List PathEvent} {action : PathAction}

theorem telemetrySystem_step_eq_some_iff :
    (telemetrySystem config).step before action = some after ↔
      pathStep config before.1 action = some after.1 ∧
        after.2 = pathEvents config before.1 action after.1 ++ before.2 :=
  TransitionSystem.journaled_step_eq_some_iff

/-- A step that shows nothing and leaves the readings where they are. -/
private theorem TelemetryConserved.of_quiet (conserved : TelemetryConserved before)
    (journal : after.2 = before.2) (inFlight : after.1.inFlight = before.1.inFlight)
    (captured : after.1.captured = before.1.captured)
    (tasks : after.1.tasks.heldCommands = before.1.tasks.heldCommands) :
    TelemetryConserved after where
  queued := by rw [journal, inFlight, conserved.queued]
  ordered := journal ▸ conserved.ordered
  numbered := by
    rw [journal, captured]
    exact conserved.numbered
  single := tasks ▸ conserved.single

/-- A reading that is not queued leaves no trace. -/
private theorem TelemetryConserved.of_refused {number : ℕ} {outcome : TelemetryEnqueueOutcome}
    {reading : Firmware.RadioReading} (conserved : TelemetryConserved before)
    (refused : outcome ≠ .queued) (journal : after.2 = .answered number outcome :: before.2)
    (inFlight : after.1.inFlight = before.1.inFlight)
    (captured : after.1.captured = before.1.captured ++ [reading])
    (tasks : after.1.tasks.heldCommands = before.1.tasks.heldCommands) :
    TelemetryConserved after := by
  have queued : queuedReadings after.2 = queuedReadings before.2 := by
    rw [journal, ← List.singleton_append, queuedReadings_append]
    cases outcome with
    | queued => exact absurd rfl refused
    | droppedByPolicy | rejectedAsDuplicate => exact List.append_nil _
  have left : leftReadings after.2 = leftReadings before.2 := by
    rw [journal, ← List.singleton_append, leftReadings_append]
    exact List.append_nil _
  refine ⟨?_, queued ▸ conserved.ordered, fun earlier member => ?_, tasks ▸ conserved.single⟩
  · rw [queued, left, inFlight, conserved.queued]
  · rw [captured, List.length_append, List.length_singleton]
    exact (conserved.numbered earlier (queued ▸ member)).trans (Nat.lt_succ_self _)

/-- What settles readings and loses others. -/
private theorem journal_of_leaving (settled lost : List RadioReading) (reset : Bool) :
    leftReadings ((if reset then [.lost lost] else []) ++ settled.reverse.map .settled) =
        settled ++ (if reset then lost else []) ∧
      queuedReadings ((if reset then [.lost lost] else []) ++ settled.reverse.map .settled) =
        [] := by
  have settled_left : leftReadings (settled.reverse.map .settled) = settled := by
    rw [leftReadings, List.map_reverse, List.reverse_reverse, List.flatMap_map]
    exact List.flatMap_singleton' settled
  have settled_queued : queuedReadings (settled.reverse.map .settled) = [] := by
    rw [queuedReadings, List.map_reverse, List.reverse_reverse, List.flatMap_map]
    exact List.flatMap_eq_nil_iff.mpr fun _ _ => rfl
  rw [leftReadings_append, queuedReadings_append, settled_left, settled_queued]
  cases reset with
  | true => exact ⟨congrArg (settled ++ ·) (List.append_nil lost), rfl⟩
  | false => exact ⟨rfl, rfl⟩

/-- At the head of its loop the router holds no reading. -/
theorem TelemetryPath.inFlight_routerHead (path : TelemetryPath) :
    path.routerHead.inFlight = path.tasks.readings ++ path.radioTelemetry := by
  have held : path.routerHead.routerTask.held = [] := by
    unfold routerHead
    dsimp only
    split <;> rfl
  rw [inFlight, held, List.append_nil]
  rfl

/-- A reading that is queued is the newest one. -/
private theorem TelemetryConserved.of_queued {reading : Firmware.RadioReading}
    (conserved : TelemetryConserved before)
    (journal : after.2 = .answered before.1.captured.length .queued :: before.2)
    (inFlight : after.1.inFlight = before.1.inFlight ++ [before.1.captured.length])
    (captured : after.1.captured = before.1.captured ++ [reading])
    (tasks : after.1.tasks.heldCommands = before.1.tasks.heldCommands) :
    TelemetryConserved after := by
  have queued : queuedReadings after.2 = queuedReadings before.2 ++ [before.1.captured.length] := by
    rw [journal, ← List.singleton_append, queuedReadings_append]
    rfl
  have left : leftReadings after.2 = leftReadings before.2 := by
    rw [journal, ← List.singleton_append, leftReadings_append]
    exact List.append_nil _
  refine ⟨?_, ?_, ?_, tasks ▸ conserved.single⟩
  · rw [queued, left, inFlight, conserved.queued, List.append_assoc]
  · rw [queued, List.pairwise_append]
    refine ⟨conserved.ordered, List.pairwise_singleton _ _, fun earlier member newest only => ?_⟩
    rw [List.mem_singleton.mp only]
    exact conserved.numbered earlier member
  · intro reading member
    rw [queued, List.mem_append, List.mem_singleton] at member
    rw [captured, List.length_append, List.length_singleton]
    rcases member with earlier | rfl
    · exact (conserved.numbered reading earlier).trans (Nat.lt_succ_self _)
    · exact Nat.lt_succ_self _

/-- What leaves was on its way. -/
private theorem TelemetryConserved.of_leaving {settled lost : List RadioReading} {reset : Bool}
    (conserved : TelemetryConserved before)
    (journal : after.2 =
      (if reset then [.lost lost] else []) ++ settled.reverse.map .settled ++ before.2)
    (inFlight : before.1.inFlight =
      settled ++ (if reset then lost else []) ++ after.1.inFlight)
    (captured : after.1.captured = before.1.captured)
    (single : after.1.tasks.heldCommands.length ≤ 1) : TelemetryConserved after := by
  obtain ⟨left, queued⟩ := journal_of_leaving settled lost reset
  have same : queuedReadings after.2 = queuedReadings before.2 := by
    rw [journal, queuedReadings_append, queued, List.append_nil]
  refine ⟨?_, same ▸ conserved.ordered, ?_, single⟩
  · rw [same, conserved.queued, journal, leftReadings_append, left, inFlight, List.append_assoc,
      List.append_assoc, List.append_assoc]
  · rw [same, captured]
    exact conserved.numbered

/-- A step keeps the readings conserved. -/
theorem TelemetryConserved.step (conserved : TelemetryConserved before)
    (stepped : (telemetrySystem config).step before action = some after) :
    TelemetryConserved after := by
  obtain ⟨moved, journal⟩ := telemetrySystem_step_eq_some_iff.mp stepped
  obtain ⟨path, events⟩ := before
  obtain ⟨next, newer⟩ := after
  dsimp only at moved journal
  cases PathMove.of_step moved with
  | captureStarted | captureRested | captureChanged | captureAborted | decoded =>
      exact conserved.of_quiet journal rfl rfl rfl
  | @measured inner rssi detectionThreshold receivedAt nowMs outcome adapter task offered =>
      have shown (next : TelemetryPath) :
          pathEvents config path (.measured rssi detectionThreshold receivedAt nowMs) next =
            [.answered path.captured.length outcome] := by
        simp only [pathEvents, task, offered]
      rw [shown] at journal
      by_cases queued : outcome = .queued
      · subst queued
        exact conserved.of_queued journal (by simp [TelemetryPath.inFlight]) rfl rfl
      · refine conserved.of_refused queued journal ?_ rfl rfl
        simp [TelemetryPath.inFlight, queued]
  | routerStarted task | routerChanged task =>
      refine conserved.of_quiet journal ?_ rfl rfl
      rw [TelemetryPath.inFlight_routerHead, TelemetryPath.inFlight, task]
      exact congrArg (· ++ path.radioTelemetry) (List.append_nil _).symm
  | routerReceived task queue =>
      refine conserved.of_quiet journal ?_ rfl rfl
      simp [TelemetryPath.inFlight, RouterTask.held, task, queue]
  | routerSent task queue =>
      obtain ⟨-, rfl⟩ := Channel.trySend_eq_some_iff.mp queue
      refine conserved.of_quiet journal ?_ rfl rfl
      rw [TelemetryPath.inFlight_routerHead]
      simp [TelemetryPath.inFlight, System.readings, RouterTask.held, task, System.heldCommands]
  | others outside resetting taken =>
      obtain ⟨readings, single⟩ := readings_of_step conserved.single resetting outside taken
      rw [pathEvents, resetting] at journal
      refine conserved.of_leaving journal ?_ rfl single
      simp [TelemetryPath.inFlight, readings]
  | @reset action tasks resetting taken =>
      obtain ⟨readings, held, prior⟩ := readings_of_reset resetting taken
      rw [pathEvents, resetting] at journal
      have emptied : (TelemetryPath.booted tasks path.captured).inFlight = [] := by
        change tasks.readings ++ [] ++ [] = []
        rw [readings]
        rfl
      have prior_path : settledReading path.tasks action <+: path.inFlight :=
        prior.trans ((List.prefix_append _ _).trans (List.prefix_append _ _))
      refine conserved.of_leaving journal ?_ rfl ?_
      · rw [emptied, List.append_nil, if_pos rfl]
        exact (List.prefix_append_drop prior_path)
      · change tasks.heldCommands.length ≤ 1
        simp [held]

theorem telemetryConserved_of_reachable {state : TelemetryPath × List PathEvent}
    (reachable : (telemetrySystem config).Reachable state) : TelemetryConserved state := by
  apply reachable.invariant TelemetryConserved
  · rintro ⟨path, journal⟩ ⟨⟨tasks, ⟨device, broker, -, rfl⟩, rfl⟩, nothing⟩
    cases nothing
    exact ⟨rfl, .nil, by simp [queuedReadings], Nat.zero_le 1⟩
  · exact fun before action after conserved stepped => conserved.step stepped

/-- In every run, with any number of resets, the readings that were queued are those that have left
and then those on their way, in the order in which they were captured, each of them once. -/
theorem readings_conserved {state : TelemetryPath × List PathEvent}
    (reachable : (telemetrySystem config).Reachable state) :
    queuedReadings state.2 = leftReadings state.2 ++ state.1.inFlight ∧
      (queuedReadings state.2).Pairwise (· < ·) := by
  have conserved := telemetryConserved_of_reachable reachable
  exact ⟨conserved.queued, conserved.ordered⟩

/-- When the device sleeps behind a publish, the readings that `mqtt_task` has seen have all left;
what is lost is with the router and in front of it. -/
theorem lost_in_sleep (reachable : (telemetrySystem config).Reachable before)
    (stepped : (telemetrySystem config).step before
      (.tasks (.mqtt (.published (.published true)))) = some after) :
    ∃ reading, before.1.tasks.readings = [reading] ∧
      after.2 = .lost (before.1.routerTask.held ++ before.1.radioTelemetry) ::
        .settled reading :: before.2 := by
  have conserved := telemetryConserved_of_reachable reachable
  obtain ⟨moved, journal⟩ := telemetrySystem_step_eq_some_iff.mp stepped
  obtain ⟨next, newer⟩ := after
  dsimp only at moved journal
  cases PathMove.of_step moved with
  | others _ resetting => cases resetting
  | @reset _ tasks _ taken =>
      have sleeps :
          mqttStep config before.1.tasks (.published (.published true)) = some tasks := taken
      cases mqttMove_of_step sleeps with
      | slept reading task queue =>
          have nothing : before.1.tasks.deferredReading = none := by
            simpa [System.heldCommands, task, MqttTask.inFlight] using conserved.single
          have readings : before.1.tasks.readings = [reading] := by
            simp [System.readings, System.heldCommands, task, MqttTask.inFlight, nothing, queue]
          refine ⟨reading, readings, journal.trans ?_⟩
          simp [pathEvents, resets, settledReading, task, MqttTask.inFlight,
            TelemetryPath.inFlight, readings]

end Runs

/-! ## An update in progress -/

/-- How many readings the capture task can still offer while capture is not allowed. -/
def CaptureTask.pending : CaptureTask → ℕ
  | .receiving | .measuring _ => 1
  | .notStarted | .quiesced | .holdingOff => 0

/-- How many readings the router can still send while capture is not allowed. -/
def RouterTask.pending : RouterTask → ℕ
  | .receiving | .sending _ => 1
  | .notStarted | .quiesced => 0

/-- The capture task offers a reading. -/
def PathAction.isOffer : PathAction → Bool
  | .measured .. => true
  | _ => false

/-- The router sends a reading. -/
def PathAction.isSend : PathAction → Bool
  | .routerSend => true
  | _ => false

section StandDown

variable {config : Config}

/-- An update is in progress, or an image awaits its confirmation. -/
def CaptureForbidden (state : TelemetryPath × List PathEvent) : Prop :=
  isRadioCaptureAllowed state.1.tasks.currentOtaState = false

private theorem pending_of_step {before after : TelemetryPath} {action : PathAction}
    (forbidden : isRadioCaptureAllowed before.tasks.currentOtaState = false)
    (moved : pathStep config before action = some after) :
    action.isOffer.toNat + after.captureTask.pending ≤ before.captureTask.pending ∧
      action.isSend.toNat + after.routerTask.pending ≤ before.routerTask.pending := by
  have captureHead : before.captureHead.captureTask = .quiesced := by
    simp [TelemetryPath.captureHead, forbidden]
  have routerHead (commands : List AppCommand) : (TelemetryPath.routerHead
      { before with tasks := { before.tasks with mqttCommands := commands } }).routerTask =
        .quiesced := by
    have same : System.currentOtaState { before.tasks with mqttCommands := commands } =
        before.tasks.currentOtaState := rfl
    simp [TelemetryPath.routerHead, same, forbidden]
  have routerPending : before.routerHead.routerTask.pending = 0 := by
    rw [routerHead before.tasks.mqttCommands]
    rfl
  cases PathMove.of_step moved with
  | captureStarted | captureRested | captureChanged | captureAborted =>
      rw [captureHead]
      exact ⟨Nat.zero_le _, (Nat.zero_add _).le⟩
  | decoded task | measured task =>
      simp [task, CaptureTask.pending, PathAction.isOffer, PathAction.isSend]
  | routerStarted | routerChanged =>
      rw [routerPending]
      exact ⟨(Nat.zero_add _).le, Nat.zero_le _⟩
  | routerReceived task queue =>
      simp [task, RouterTask.pending, PathAction.isOffer, PathAction.isSend]
  | routerSent task queue =>
      rw [routerHead, task]
      exact ⟨(Nat.zero_add _).le, le_rfl⟩
  | others => exact ⟨(Nat.zero_add _).le, (Nat.zero_add _).le⟩
  | reset => exact ⟨Nat.zero_le _, Nat.zero_le _⟩

/-- As long as an update is in progress or an image awaits its confirmation, the capture task offers
at most one more reading, and the router sends at most one more. -/
theorem quiesces {start finish : TelemetryPath × List PathEvent} {actions : List PathAction}
    (path : (telemetrySystem config).Path (fun state _ => CaptureForbidden state) start actions
      finish) :
    actions.countP PathAction.isOffer + finish.1.captureTask.pending ≤
        start.1.captureTask.pending ∧
      actions.countP PathAction.isSend + finish.1.routerTask.pending ≤
        start.1.routerTask.pending ∧
      start.1.captureTask.pending ≤ 1 ∧ start.1.routerTask.pending ≤ 1 := by
  have bounds : start.1.captureTask.pending ≤ 1 ∧ start.1.routerTask.pending ≤ 1 := by
    constructor
    · cases start.1.captureTask <;> simp [CaptureTask.pending]
    · cases start.1.routerTask <;> simp [RouterTask.pending]
  refine ⟨?_, ?_, bounds⟩
  · induction path with
    | nil => exact (Nat.zero_add _).le
    | @snoc _ middle finish action _ forbidden stepped ih =>
        have one := (pending_of_step forbidden (telemetrySystem_step_eq_some_iff.mp stepped).1).1
        rw [List.countP_append, List.countP_singleton]
        cases offers : action.isOffer <;> simp [offers] at one ⊢ <;> omega
  · induction path with
    | nil => exact (Nat.zero_add _).le
    | @snoc _ middle finish action _ forbidden stepped ih =>
        have one := (pending_of_step forbidden (telemetrySystem_step_eq_some_iff.mp stepped).1).2
        rw [List.countP_append, List.countP_singleton]
        cases sends : action.isSend <;> simp [sends] at one ⊢ <;> omega

end StandDown

/-! ## A run -/

/-- The device after a boot with a confirmed image. -/
def freshPath : TelemetryPath := .booted (.booted sampleDevice quietBroker []) []

/-- A row is received and offered to the channel. -/
def captureActions (inner : Rubicson.RubicsonReading) (nowMs : UInt64) : List PathAction :=
  [.captureWake, .decoded inner, .measured (-71) 16 nowMs nowMs]

/-- A reading is on its way to the broker, and another one waits in front of the router. -/
def publishingActions : List PathAction :=
  captureActions frostReading.inner 5000 ++ [.routerWake, .routerReceive, .routerSend] ++
    [.tasks (.mqtt (.openSession true)), .tasks (.mqtt (.connect true)),
      .tasks (.mqtt (.setupEvent (.suback true))), .tasks (.mqtt (.takeCommand false))] ++
    captureActions { frostReading.inner with temperatureRaw := 215 } 65000

private theorem initial_freshPath :
    (telemetrySystem (smallConfig false)).initial (freshPath, []) :=
  ⟨⟨_, ⟨sampleDevice, quietBroker, by simp [quietBroker], rfl⟩, rfl⟩, rfl⟩

/-- Both readings of the run are on their way. -/
theorem readings_conserved_publishing :
    ∃ state, (telemetrySystem (smallConfig false)).run (freshPath, []) publishingActions =
        some state ∧ state.1.inFlight = [0, 1] ∧
      queuedReadings state.2 = leftReadings state.2 ++ state.1.inFlight ∧
        (queuedReadings state.2).Pairwise (· < ·) := by
  have executed : (telemetrySystem (smallConfig false)).run (freshPath, []) publishingActions =
      some _ := rfl
  exact ⟨_, executed, rfl, readings_conserved ⟨_, _, initial_freshPath,
    TransitionSystem.path_of_run executed (by simp)⟩⟩

/-- The first reading is published, and the device sleeps with the second one in the channel. -/
theorem lost_in_sleep_publishing :
    ∃ before after, (telemetrySystem (smallConfig false)).step before
        (.tasks (.mqtt (.published (.published true)))) = some after ∧
      before.1.radioTelemetry = [1] ∧
        ∃ reading, before.1.tasks.readings = [reading] ∧
          after.2 = .lost (before.1.routerTask.held ++ before.1.radioTelemetry) ::
            .settled reading :: before.2 := by
  have executed : (telemetrySystem (smallConfig false)).run (freshPath, []) publishingActions =
      some _ := rfl
  exact ⟨_, _, rfl, rfl, lost_in_sleep ⟨_, _, initial_freshPath,
    TransitionSystem.path_of_run executed (by simp)⟩ rfl⟩

/-- An image awaits its confirmation when a row is decoded. -/
def awaitingPath : TelemetryPath :=
  { freshPath with
    tasks := { freshPath.tasks with
      otaState := freshPath.tasks.otaState.send .pendingConfirmation }
    captureTask := .measuring frostReading.inner }

/-- That row is offered, and then the task pauses. -/
theorem quiesces_awaiting :
    ∃ finish actions, (telemetrySystem (smallConfig false)).Path
        (fun state _ => CaptureForbidden state) (awaitingPath, []) actions finish ∧
      actions.countP PathAction.isOffer = 1 ∧
        actions.countP PathAction.isOffer + finish.1.captureTask.pending ≤
          CaptureTask.pending (.measuring frostReading.inner) := by
  have offered : (telemetrySystem (smallConfig false)).step (awaitingPath, [])
      (.measured (-71) 16 5000 5000) = some _ := rfl
  have path : (telemetrySystem (smallConfig false)).Path (fun state _ => CaptureForbidden state)
      (awaitingPath, []) ([] ++ [.measured (-71) 16 5000 5000]) _ := .snoc .nil rfl offered
  exact ⟨_, _, path, rfl, (quiesces path).1⟩

end Tasks
end Motonet
