import Motonet.Tasks.MqttEnvironment

/-!
# Delivery of commands

What becomes of the commands that `mqtt_task` takes from its channel.  At any time the commands
taken are those published or dropped as unformattable, in the same order, and then the one the task
holds; what breaks this is the publish of an OTA confirmation that fails, after which the
confirmation is neither published nor held.
-/

namespace Motonet
namespace Tasks

open OtaCore Firmware

def mqttTopicMaxLen : ℕ := 96

/-- Build the OTA status topic a device publishes post-reboot confirmation results to. -/
def otaStatusTopic (deviceId : String) : Option String :=
  let topic := "motonet/" ++ deviceId ++ "/ota/status"
  if topic.utf8ByteSize ≤ mqttTopicMaxLen then some topic else none

/-- What happens to a command that is to be published. -/
inductive CommandEvent
  | received (command : AppCommand)
  | published (command : AppCommand)
  | unformattable (command : AppCommand)
  deriving DecidableEq, Repr

/-- The command is to be published. -/
def AppCommand.isPublish : AppCommand → Bool
  | .publishTelemetry _ | .otaConfirmed => true
  | .applySettings => false

/-- What a step of the task does to the commands that are to be published. -/
def mqttCommandEvents (deviceId : String) (before : System) : MqttAction → List CommandEvent
  | .takeCommand _ =>
      (before.mqttCommands.head?.filter AppCommand.isPublish).toList.map .received
  | .published outcome =>
      match before.mqttTask, outcome with
      | .publishing reading _, .published _ => [.published (.publishTelemetry reading)]
      | .publishing reading _, .dropped => [.unformattable (.publishTelemetry reading)]
      | _, _ => []
  | .confirmedPublished true => [.published .otaConfirmed]
  | .confirmedPublished false =>
      if otaStatusTopic deviceId = none then [.unformattable .otaConfirmed] else []
  | _ => []

/-- What a step shows of the commands that are to be published. -/
def commandEvents (deviceId : String) (before : System) (action : OpenAction) (_ : System) :
    List CommandEvent :=
  match action with
  | .run action => mqttCommandEvents deviceId before action
  | .others _ => []

/-- The MQTT task with a journal of its commands. -/
def deliverySystem (config : Config) (deviceId : String) :
    TransitionSystem (System × List CommandEvent) OpenAction :=
  (mqttSystem config).journaled (commandEvents deviceId)

/-- The commands received, the first one first. -/
def receivedCommands (journal : List CommandEvent) : List AppCommand :=
  (journal.filterMap fun
    | .received command => some command
    | .published _ | .unformattable _ => none).reverse

/-- The commands published or dropped because they cannot be formatted, the first one first. -/
def settledCommands (journal : List CommandEvent) : List AppCommand :=
  (journal.filterMap fun
    | .published command | .unformattable command => some command
    | .received _ => none).reverse

/-- The command that a task is publishing. -/
def MqttTask.inFlight : MqttTask → List AppCommand
  | .publishing reading _ => [.publishTelemetry reading]
  | .publishingConfirmed => [.otaConfirmed]
  | _ => []

/-- The commands that the task holds. -/
def System.heldCommands (system : System) : List AppCommand :=
  system.mqttTask.inFlight ++ system.deferredReading.toList.map .publishTelemetry

/-- No command is lost: those received are those settled and then those held, of which there is at
most one. -/
structure Conserved (state : System × List CommandEvent) : Prop where
  received : receivedCommands state.2 = settledCommands state.2 ++ state.1.heldCommands
  single : state.1.heldCommands.length ≤ 1

/-- The publish of an OTA confirmation fails, although its topic can be formatted. -/
def losesConfirmed (deviceId : String) : OpenAction → Bool
  | .run (.confirmedPublished false) => (otaStatusTopic deviceId).isSome
  | _ => false

section Held

variable {config : Config} {before after : System} {deviceId : String}

theorem heldCommands_of_idle {system : System} (idle : system.mqttTask.inFlight = []) :
    system.heldCommands = system.deferredReading.toList.map .publishTelemetry := by
  rw [System.heldCommands, idle, List.nil_append]

theorem heldCommands_eq_of_idle (idle : before.mqttTask.inFlight = [])
    (still : after.mqttTask.inFlight = [])
    (deferredReading : after.deferredReading = before.deferredReading) :
    after.heldCommands = before.heldCommands := by
  rw [heldCommands_of_idle idle, heldCommands_of_idle still, deferredReading]

theorem inFlight_of_opensSession {task : MqttTask} (opens : task.opensSession = true) :
    task.inFlight = [] := by
  cases task <;> first | rfl | cases opens

theorem heldCommands_openSession (workspaceFree : Bool) (idle : before.mqttTask.inFlight = []) :
    (before.openSession config workspaceFree).heldCommands = before.heldCommands := by
  rw [heldCommands_of_idle idle]
  unfold System.openSession
  dsimp only
  split
  · rfl
  · split <;> rfl

/-- What the steps of `mqtt_task` do to the commands that are to be published. -/
inductive CommandStep (deviceId : String) (before : System) (action : MqttAction) (after : System) :
    Prop
  | kept :
      mqttCommandEvents deviceId before action = [] →
      losesConfirmed deviceId (.run action) = false → after.heldCommands = before.heldCommands →
      CommandStep deviceId before action after
  | received (command : AppCommand) :
      before.heldCommands = [] →
      mqttCommandEvents deviceId before action = [.received command] →
      losesConfirmed deviceId (.run action) = false → after.heldCommands = [command] →
      CommandStep deviceId before action after
  | settled (command : AppCommand) :
      before.heldCommands = [command] →
      mqttCommandEvents deviceId before action = [.published command] ∨
        mqttCommandEvents deviceId before action = [.unformattable command] →
      losesConfirmed deviceId (.run action) = false → after.heldCommands = [] →
      CommandStep deviceId before action after
  | lost :
      before.heldCommands = [.otaConfirmed] → mqttCommandEvents deviceId before action = [] →
      losesConfirmed deviceId (.run action) = true → after.heldCommands = [] →
      CommandStep deviceId before action after

/-- A task with a command in flight holds that one only, if it holds one command at most. -/
private theorem held_of_inFlight {command : AppCommand} (single : before.heldCommands.length ≤ 1)
    (flies : before.mqttTask.inFlight = [command]) :
    before.deferredReading = none ∧ before.heldCommands = [command] := by
  have nothing : before.deferredReading = none := by
    simpa [System.heldCommands, flies] using single
  refine ⟨nothing, ?_⟩
  rw [System.heldCommands, flies, nothing]
  rfl

private theorem heldCommands_eq_nil {system : System} (idle : system.mqttTask.inFlight = [])
    (nothing : system.deferredReading = none) : system.heldCommands = [] := by
  rw [heldCommands_of_idle idle, nothing]
  rfl

theorem CommandStep.of_step {action : MqttAction} (single : before.heldCommands.length ≤ 1)
    (taken : mqttStep config before action = some after) :
    CommandStep deviceId before action after := by
  cases mqttMove_of_step taken with
  | opened workspaceFree mqttHealth opens =>
      exact .kept rfl rfl (heldCommands_openSession workspaceFree (inFlight_of_opensSession opens))
  | subscribed _ task | connectFailed _ task | setupFailed _ task | acknowledged _ task
  | refused _ task | setupForwards _ _ _ _ task | setupClears _ _ _ _ task
  | handedOverEarly _ _ task | pollFailed task | forwards _ _ _ task | clears _ _ _ task
  | handedOver _ _ task | pinging task | pinged task | pingFailed task | stoodDown task =>
      exact .kept rfl rfl (heldCommands_eq_of_idle (congrArg MqttTask.inFlight task) rfl rfl)
  | setupIgnored | setupUncopied | eventIgnored | uncopied | stayed => exact .kept rfl rfl rfl
  | clearedEarly _ succeeds task | cleared succeeds task =>
      have idle : before.mqttTask.inFlight = [] := congrArg MqttTask.inFlight task
      cases succeeds <;> exact .kept rfl rfl (heldCommands_eq_of_idle idle rfl rfl)
  | retried idle reading task deferred =>
      have held : before.heldCommands = [.publishTelemetry reading] := by
        rw [heldCommands_of_idle (congrArg MqttTask.inFlight task), deferred]
        rfl
      cases idle <;> exact .kept rfl rfl held.symm
  | tookReading idle reading commands task deferred queue =>
      have held := heldCommands_eq_nil (congrArg MqttTask.inFlight task) deferred
      have events : mqttCommandEvents deviceId before (.takeCommand idle) =
          [.received (.publishTelemetry reading)] := by
        rw [mqttCommandEvents, queue]
        rfl
      refine .received _ held events rfl ?_
      cases idle with
      | true => rfl
      | false => simp [System.startReading, System.heldCommands, MqttTask.inFlight, deferred]
  | tookConfirmed idle commands task deferred queue =>
      have held := heldCommands_eq_nil (congrArg MqttTask.inFlight task) deferred
      have events : mqttCommandEvents deviceId before (.takeCommand idle) =
          [.received .otaConfirmed] := by
        rw [mqttCommandEvents, queue]
        rfl
      refine .received _ held events rfl ?_
      simp [System.heldCommands, MqttTask.inFlight, deferred]
  | tookSettings idle commands task deferred queue =>
      refine .kept ?_ rfl rfl
      rw [mqttCommandEvents, queue]
      rfl
  | slept reading task =>
      obtain ⟨-, held⟩ := held_of_inFlight single (congrArg MqttTask.inFlight task)
      exact .settled _ held (.inl (by simp [mqttCommandEvents, task])) rfl rfl
  | published reading otaState task =>
      obtain ⟨nothing, held⟩ := held_of_inFlight single (congrArg MqttTask.inFlight task)
      exact .settled _ held (.inl (by simp [mqttCommandEvents, task])) rfl
        (heldCommands_eq_nil rfl nothing)
  | dropped reading otaState task =>
      obtain ⟨nothing, held⟩ := held_of_inFlight single (congrArg MqttTask.inFlight task)
      exact .settled _ held (.inr (by simp [mqttCommandEvents, task])) rfl
        (heldCommands_eq_nil rfl nothing)
  | reconnected reading otaState task =>
      obtain ⟨-, held⟩ := held_of_inFlight single (congrArg MqttTask.inFlight task)
      exact .kept (by simp [mqttCommandEvents, task]) rfl held.symm
  | confirmed task =>
      obtain ⟨nothing, held⟩ := held_of_inFlight single (congrArg MqttTask.inFlight task)
      exact .settled _ held (.inl rfl) rfl (heldCommands_eq_nil rfl nothing)
  | confirmFailed task =>
      obtain ⟨nothing, held⟩ := held_of_inFlight single (congrArg MqttTask.inFlight task)
      have dropped : before.endSession.heldCommands = [] := heldCommands_eq_nil rfl nothing
      cases topic : otaStatusTopic deviceId with
      | none =>
          exact .settled _ held (.inr (by simp [mqttCommandEvents, topic]))
            (by simp [losesConfirmed, topic]) dropped
      | some _ =>
          exact .lost held (by simp [mqttCommandEvents, topic])
            (by simp [losesConfirmed, topic]) dropped

end Held

/-! ## Runs -/

section Journal

variable (command : AppCommand) (journal : List CommandEvent)

@[simp]
theorem receivedCommands_received :
    receivedCommands (.received command :: journal) = receivedCommands journal ++ [command] := by
  simp [receivedCommands]

@[simp]
theorem receivedCommands_published :
    receivedCommands (.published command :: journal) = receivedCommands journal := by
  simp [receivedCommands]

@[simp]
theorem receivedCommands_unformattable :
    receivedCommands (.unformattable command :: journal) = receivedCommands journal := by
  simp [receivedCommands]

@[simp]
theorem settledCommands_received :
    settledCommands (.received command :: journal) = settledCommands journal := by
  simp [settledCommands]

@[simp]
theorem settledCommands_published :
    settledCommands (.published command :: journal) = settledCommands journal ++ [command] := by
  simp [settledCommands]

@[simp]
theorem settledCommands_unformattable :
    settledCommands (.unformattable command :: journal) = settledCommands journal ++ [command] := by
  simp [settledCommands]

end Journal

section Runs

variable {config : Config} {deviceId : String} {before after : System × List CommandEvent}
  {action : OpenAction}

/-- The commands received, settled and held after a step, and what the step has lost. -/
structure Accounted (deviceId : String) (before : System × List CommandEvent) (action : OpenAction)
    (after : System × List CommandEvent) : Prop where
  single : after.1.heldCommands.length ≤ 1
  balance : ∃ received settled lost,
    receivedCommands after.2 = receivedCommands before.2 ++ received ∧
      settledCommands after.2 = settledCommands before.2 ++ settled ∧
        before.1.heldCommands ++ received = settled ++ lost ++ after.1.heldCommands ∧
          lost = if losesConfirmed deviceId action then [.otaConfirmed] else []

theorem Accounted.of_step (single : before.1.heldCommands.length ≤ 1)
    (relied : Relied before.1 action)
    (taken : (deliverySystem config deviceId).step before action = some after) :
    Accounted deviceId before action after := by
  obtain ⟨moved, journal⟩ := TransitionSystem.journaled_step_eq_some_iff.mp taken
  cases action with
  | others others =>
      cases Option.some.inj moved
      have held : after.1.heldCommands = before.1.heldCommands := by
        rw [System.heldCommands, relied.mqttTask, relied.deferredReading, System.heldCommands]
      refine ⟨held ▸ single, [], [], [], ?_, ?_, by simp [held], rfl⟩ <;> rw [journal] <;>
        simp [commandEvents]
  | run action =>
      replace journal : after.2 = mqttCommandEvents deviceId before.1 action ++ before.2 := journal
      have commands : CommandStep deviceId before.1 action after.1 := .of_step single moved
      cases commands with
      | kept events kept held =>
          rw [events, List.nil_append] at journal
          exact ⟨held ▸ single, [], [], [], by simp [journal], by simp [journal], by simp [held],
            by simp [kept]⟩
      | received command idle events kept held =>
          rw [events] at journal
          exact ⟨by simp [held], [command], [], [], by simp [journal], by simp [journal],
            by simp [idle, held], by simp [kept]⟩
      | settled command holds events kept held =>
          refine ⟨by simp [held], [], [command], [], ?_, ?_, by simp [holds, held], by simp [kept]⟩
          · rcases events with events | events <;> simp [journal, events]
          · rcases events with events | events <;> simp [journal, events]
      | lost holds events loses held =>
          rw [events, List.nil_append] at journal
          exact ⟨by simp [held], [], [], [.otaConfirmed], by simp [journal], by simp [journal],
            by simp [holds, held], by simp [loses]⟩

/-- A step that loses no confirmation keeps the commands conserved. -/
theorem Conserved.step (conserved : Conserved before) (relied : Relied before.1 action)
    (kept : losesConfirmed deviceId action = false)
    (taken : (deliverySystem config deviceId).step before action = some after) :
    Conserved after := by
  obtain ⟨single, received, settled, lost, received_eq, settled_eq, balance, lost_eq⟩ :=
    Accounted.of_step conserved.single relied taken
  rw [if_neg (by simp [kept])] at lost_eq
  subst lost_eq
  refine ⟨?_, single⟩
  rw [received_eq, conserved.received, List.append_assoc, balance, settled_eq]
  simp

/-- In every run the commands received are as many as those settled, held and lost. -/
theorem commands_counted {start : System} {actions : List OpenAction}
    {finish : System × List CommandEvent} (unpolled : Unpolled start)
    (path : (deliverySystem config deviceId).Path (fun state action => Relied state.1 action)
      (start, []) actions finish) :
    finish.1.heldCommands.length ≤ 1 ∧
      (receivedCommands finish.2).length = (settledCommands finish.2).length +
        finish.1.heldCommands.length + actions.countP (losesConfirmed deviceId) := by
  induction path with
  | nil =>
      have nothing : start.heldCommands = [] := by
        rw [System.heldCommands, unpolled.mqttTask, unpolled.deferredReading]
        rfl
      simp [nothing, receivedCommands, settledCommands]
  | @snoc _ middle finish action _ relied taken ih =>
      obtain ⟨single, counted⟩ := ih
      obtain ⟨single, received, settled, lost, received_eq, settled_eq, balance, lost_eq⟩ :=
        Accounted.of_step single relied taken
      have lengths := congrArg List.length balance
      have losses : lost.length = [action].countP (losesConfirmed deviceId) := by
        rw [lost_eq, List.countP_singleton]
        split <;> rfl
      refine ⟨single, ?_⟩
      rw [received_eq, settled_eq, List.countP_append, List.length_append, List.length_append,
        ← losses]
      simp only [List.length_append] at lengths
      omega

/-- In a run of `mqtt_task` in any environment no command is lost exactly if no publish of an OTA
confirmation fails whose topic can be formatted. -/
theorem commands_conserved_iff {start : System} {actions : List OpenAction}
    {finish : System × List CommandEvent} (unpolled : Unpolled start)
    (path : (deliverySystem config deviceId).Path (fun state action => Relied state.1 action)
      (start, []) actions finish) :
    Conserved finish ↔ ∀ action ∈ actions, losesConfirmed deviceId action = false := by
  constructor
  · intro conserved
    obtain ⟨-, counted⟩ := commands_counted unpolled path
    rw [conserved.received, List.length_append] at counted
    have none_lost : actions.countP (losesConfirmed deviceId) = 0 := by omega
    simpa using List.countP_eq_zero.mp none_lost
  · intro kept
    induction path with
    | nil =>
        have nothing : start.heldCommands = [] := by
          rw [System.heldCommands, unpolled.mqttTask, unpolled.deferredReading]
          rfl
        exact ⟨by rw [nothing]; rfl, by simp [nothing]⟩
    | snoc _ relied taken ih =>
        have conserved := ih fun action member => kept action (List.mem_append_left _ member)
        exact conserved.step relied (kept _ (by simp)) taken

end Runs

/-- A confirmation and a reading wait when the task is first polled. -/
def waitingStart : System :=
  { System.booted sampleDevice quietBroker [] with
    mqttCommands := [.otaConfirmed, .publishTelemetry 7] }

/-- The confirmation is published, and the reading after a reconnect. -/
def deliveryActions : List OpenAction :=
  sessionActions ++
    [.run (.takeCommand false), .run (.confirmedPublished true), .run (.takeCommand true)] ++
    sessionActions ++ [.run (.retryDeferred false), .run (.published (.published false))]

/-- Both commands of the waiting start are published. -/
theorem commands_conserved_sample :
    ∃ finish, (deliverySystem (smallConfig false) "test-sensor").run (waitingStart, [])
        deliveryActions = some finish ∧
      settledCommands finish.2 = [.otaConfirmed, .publishTelemetry 7] ∧ Conserved finish := by
  have executed : (deliverySystem (smallConfig false) "test-sensor").run (waitingStart, [])
      deliveryActions = some _ := rfl
  have path : (deliverySystem (smallConfig false) "test-sensor").Path
      (fun state action => Relied state.1 action) (waitingStart, []) deliveryActions _ :=
    TransitionSystem.path_of_run executed (by simp [deliveryActions, sessionActions, Relied])
  have conserved := (commands_conserved_iff ⟨rfl, rfl, rfl⟩ path).mpr (by
    simp [deliveryActions, sessionActions, losesConfirmed])
  exact ⟨_, executed, rfl, conserved⟩

/-- A confirmation that arrives in a session, and whose publish fails, is neither published nor held
for the next session. -/
theorem confirmation_lost :
    ∃ actions finish, (deliverySystem (smallConfig false) "test-sensor").Path
        (fun state action => Relied state.1 action) (System.booted sampleDevice quietBroker [], [])
        actions finish ∧
      receivedCommands finish.2 = [.otaConfirmed] ∧ settledCommands finish.2 = [] ∧
        finish.1.heldCommands = [] ∧ ¬Conserved finish := by
  have front : (deliverySystem (smallConfig false) "test-sensor").run
      (System.booted sampleDevice quietBroker [], []) sessionActions = some _ := rfl
  have connected : (deliverySystem (smallConfig false) "test-sensor").Path
      (fun state action => Relied state.1 action) _ sessionActions _ :=
    TransitionSystem.path_of_run front (by simp [sessionActions, Relied])
  let sent : System := { System.booted sampleDevice quietBroker [] with
    mqttHealth := ⟨some .heartbeatPublished, 2⟩
    broker := ⟨none, true, [], 0⟩
    mqttCommands := [.otaConfirmed]
    mqttTask := .connected
    otaStateSeen := 1 }
  have relied : Rely { sent with mqttCommands := [] } sent :=
    ⟨rfl, rfl, rfl, List.nil_prefix, .inl rfl⟩
  have queued := connected.snoc (show Relied _ (.others sent) from relied)
    (show _ = some (sent, []) from rfl)
  have back : (deliverySystem (smallConfig false) "test-sensor").run (sent, [])
      [.run (.takeCommand false), .run (.confirmedPublished false)] = some _ := rfl
  have failed : (deliverySystem (smallConfig false) "test-sensor").Path
      (fun state action => Relied state.1 action) (sent, [])
      [.run (.takeCommand false), .run (.confirmedPublished false)] _ :=
    TransitionSystem.path_of_run back (by simp [Relied])
  refine ⟨_, _, queued.trans failed, rfl, rfl, rfl, fun conserved => ?_⟩
  have received := conserved.received
  cases received

end Tasks
end Motonet
