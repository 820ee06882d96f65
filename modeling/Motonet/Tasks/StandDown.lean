import Motonet.Tasks.MqttEnvironment

/-!
# How the MQTT task stands down

`mqtt_task` has to leave its connected loop once the OTA state forbids MQTT.  The loop learns of it
through the last arm of its select; the other arms read the same receiver and mark the state as
seen, so that one of them overtaking the last arm publishes under a state that forbids it, or goes
back to waiting for a change that it has consumed.
-/

namespace Motonet
namespace Tasks

open OtaCore Firmware

/-- A publish is under way in the connected loop. -/
def MqttTask.isPublishing : MqttTask → Bool
  | .publishing _ _ | .publishingConfirmed | .clearing => true
  | _ => false

/-- The task is setting up a session or in the connected loop, and will look for changes of the OTA
state. -/
def MqttTask.isWatching : MqttTask → Bool
  | .connecting _ | .awaitingSuback _ | .clearingEarly _ | .connected | .publishing _ _
  | .publishingConfirmed | .clearing | .pinging => true
  | .notStarted | .standingDown | .workspaceBackoff | .forwardingEarly _ | .setupBackoff
  | .forwarding _ | .sessionBackoff => false

/-- A state that forbids MQTT lets no publish start, and is never waited out in the connected loop
with its change consumed. -/
structure StandsDown (before after : System) : Prop where
  publish : isMqttAllowed before.currentOtaState = false → before.mqttTask.isPublishing = false →
    after.mqttTask.isPublishing = false
  wake : after.mqttTask = .connected → isMqttAllowed after.currentOtaState = false →
    after.otaState.changed after.otaStateSeen = true

/-- The connected loop serves a reading without a reconnect, an OTA confirmation, or an event that
carries no manifest. -/
def Overtakes (config : Config) (before : System) : MqttAction → Prop
  | .retryDeferred idle => idle = false
  | .takeCommand idle =>
      match before.mqttCommands with
      | .publishTelemetry _ :: _ => idle = false
      | .otaConfirmed :: _ => True
      | _ => False
  | .event .publish =>
      ∀ publish ∈ before.broker.inbox.head?, copyOtaManifest publish config.otaTopic = none
  | .event _ => True
  | _ => False

/-- No other arm of the connected loop overtakes the change to a state that forbids MQTT. -/
def StateFirst (config : Config) (before : System) : OpenAction → Prop
  | .run action => before.mqttTask = .connected →
      isMqttAllowed before.currentOtaState = false → ¬Overtakes config before action
  | .others _ => True

/-- What the steps of `mqtt_task` do to its view of the OTA state. -/
inductive WatchStep (config : Config) (before : System) (action : MqttAction) (after : System) :
    Prop
  /-- The task does not look at the OTA state. -/
  | kept :
      ¬Overtakes config before action → after.otaState = before.otaState →
      after.otaStateSeen = before.otaStateSeen →
      (after.mqttTask.isWatching = true → before.mqttTask.isWatching = true) →
      (after.mqttTask.isPublishing = true → before.mqttTask.isPublishing = true) →
      WatchStep config before action after
  /-- The task looks at the OTA state, and goes on only if it allows MQTT. -/
  | obeyed :
      ¬Overtakes config before action → after.otaState = before.otaState →
      after.otaStateSeen = before.otaState.sent →
      (after.mqttTask.isWatching = true → isMqttAllowed before.currentOtaState = true) →
      (after.mqttTask.isPublishing = true → isMqttAllowed before.currentOtaState = true) →
      WatchStep config before action after
  /-- The loop serves another arm: it publishes, or goes back to waiting with the state seen. -/
  | overtook :
      before.mqttTask = .connected → Overtakes config before action →
      after.otaState = before.otaState →
      after.otaStateSeen = before.otaStateSeen ∨ after.otaStateSeen = before.otaState.sent →
      after.mqttTask.isPublishing = true ∨
        after.mqttTask = .connected ∧ after.otaStateSeen = before.otaState.sent →
      WatchStep config before action after
  | slept :
      ¬Overtakes config before action → after = before.reset before.device →
      WatchStep config before action after

section Inversion

variable {config : Config} {before after : System}

/-- A manifest that is only cleared arrives under a state that allows MQTT. -/
theorem isMqttAllowed_of_clearRetainedOnly {otaState : OtaState} {retained : Bool}
    {manifestBytes : List UInt8}
    (action : resolveOtaManifestAction config otaState retained manifestBytes =
      .clearRetainedOnly) : isMqttAllowed otaState = true := by
  cases otaState with
  | inactive | pendingConfirmation => rfl
  | downloading | applying => cases retained <;> cases action

private theorem openSession_obeyed {action : MqttAction} (workspaceFree : Bool) {ready : System}
    (served : ¬Overtakes config before action) (otaState : ready.otaState = before.otaState) :
    WatchStep config before action (ready.openSession config workspaceFree) := by
  have current : ready.currentOtaState = before.currentOtaState := by
    rw [System.currentOtaState, otaState, System.currentOtaState]
  have seen : ready.otaState.sent = before.otaState.sent := by rw [otaState]
  unfold System.openSession
  dsimp only
  split
  · refine .obeyed served otaState seen ?_ ?_ <;> rintro ⟨⟩
  · rename_i allowed
    rw [Bool.not_eq_true', Bool.not_eq_false, current] at allowed
    split <;> exact .obeyed served otaState seen (fun _ => allowed) (fun _ => allowed)

/-- A message with a manifest overtakes nothing. -/
private theorem serves_manifest {publish : Publish} {inbox : List Publish}
    {manifest : IncomingOtaManifest} (queue : before.broker.inbox = publish :: inbox)
    (copied : copyOtaManifest publish config.otaTopic = some manifest) :
    ¬Overtakes config before (.event .publish) := by
  intro uncopied
  have none := uncopied publish (by rw [queue]; rfl)
  rw [copied] at none
  cases none

theorem WatchStep.of_step {action : MqttAction}
    (taken : mqttStep config before action = some after) :
    WatchStep config before action after := by
  cases mqttMove_of_step taken with
  | opened workspaceFree mqttHealth => exact openSession_obeyed workspaceFree id rfl
  | connectFailed | setupFailed | refused | handedOverEarly | handedOver | pollFailed
  | reconnected | confirmFailed | pingFailed =>
      exact .kept id rfl rfl nofun nofun
  | setupIgnored | setupUncopied => exact .kept id rfl rfl id id
  | subscribed _ task | acknowledged _ task | setupForwards _ _ _ _ task
  | setupClears _ _ _ _ task | published _ _ task | dropped _ _ task | confirmed task
  | pinging task | pinged task =>
      exact .kept id rfl rfl (fun _ => congrArg MqttTask.isWatching task) nofun
  | clearedEarly _ succeeds task | cleared succeeds task =>
      have watching : before.mqttTask.isWatching = true := congrArg MqttTask.isWatching task
      cases succeeds <;> exact .kept id rfl rfl (fun _ => watching) nofun
  | retried idle reading task =>
      cases idle with
      | true => exact .obeyed nofun rfl rfl nofun nofun
      | false => exact .overtook task rfl rfl (.inr rfl) (.inl rfl)
  | tookReading idle reading commands task deferred queue =>
      cases idle with
      | true => exact .obeyed (by simp [Overtakes, queue]) rfl rfl nofun nofun
      | false => exact .overtook task (by simp [Overtakes, queue]) rfl (.inr rfl) (.inl rfl)
  | tookConfirmed idle commands task deferred queue =>
      exact .overtook task (by simp [Overtakes, queue]) rfl (.inl rfl) (.inl rfl)
  | tookSettings idle commands task deferred queue =>
      exact .kept (by simp [Overtakes, queue]) rfl rfl id id
  | eventIgnored event task unpublished =>
      have overtakes : Overtakes config before (.event event) := by
        cases event with
        | publish => exact absurd rfl unpublished
        | suback _ | other => trivial
      exact .overtook task overtakes rfl (.inr rfl) (.inr ⟨task, rfl⟩)
  | uncopied publish inbox task queue uncopied =>
      refine .overtook task ?_ rfl (.inr rfl) (.inr ⟨task, rfl⟩)
      intro head member
      rw [queue, List.head?_cons] at member
      cases Option.some.inj member
      exact uncopied
  | forwards publish inbox manifest task queue copied =>
      exact .obeyed (serves_manifest queue copied) rfl rfl nofun nofun
  | clears publish inbox manifest task queue copied clears =>
      have allowed := isMqttAllowed_of_clearRetainedOnly clears
      exact .obeyed (serves_manifest queue copied) rfl rfl (fun _ => allowed) (fun _ => allowed)
  | slept => exact .slept id rfl
  | stayed task allowed => exact .obeyed id rfl rfl (fun _ => allowed) (fun _ => allowed)
  | stoodDown => exact .obeyed id rfl rfl nofun nofun

end Inversion

/-! ## Runs -/

/-- While the task will look for changes of the OTA state, a state that forbids MQTT is one that it
has not seen. -/
structure Unseen (system : System) : Prop where
  seen : system.otaStateSeen ≤ system.otaState.sent
  wake : system.mqttTask.isWatching = true → isMqttAllowed system.currentOtaState = false →
    system.otaState.changed system.otaStateSeen = true

section Runs

variable {config : Config} {before after : System} {action : OpenAction}

theorem unseen_of_unpolled {start : System} (unpolled : Unpolled start) : Unseen start := by
  refine ⟨by rw [unpolled.otaStateSeen]; exact Nat.zero_le _, ?_⟩
  rw [unpolled.mqttTask]
  nofun

/-- A step in which nothing overtakes the change to a state that forbids MQTT keeps that state
unseen. -/
theorem Unseen.step (unseen : Unseen before) (relied : Relied before action)
    (first : StateFirst config before action)
    (taken : (mqttSystem config).step before action = some after) : Unseen after := by
  cases action with
  | others others =>
      cases Option.some.inj taken
      have seen := relied.otaStateSeen
      rcases relied.otaState with same | sent
      · refine ⟨by rw [seen, same]; exact unseen.seen, ?_⟩
        rw [relied.mqttTask, System.currentOtaState, same, seen]
        exact unseen.wake
      · have later : after.otaStateSeen < after.otaState.sent := by
          rw [seen]
          exact unseen.seen.trans_lt sent
        exact ⟨later.le, fun _ _ => decide_eq_true later⟩
  | run action =>
      have same (otaState : after.otaState = before.otaState) :
          after.currentOtaState = before.currentOtaState := by
        rw [System.currentOtaState, otaState, System.currentOtaState]
      cases WatchStep.of_step taken with
      | kept _ otaState seen watching =>
          refine ⟨by rw [otaState, seen]; exact unseen.seen, fun watches forbids => ?_⟩
          rw [same otaState] at forbids
          rw [otaState, seen]
          exact unseen.wake (watching watches) forbids
      | obeyed _ otaState seen allowed =>
          refine ⟨by rw [otaState, seen], fun watches forbids => ?_⟩
          rw [same otaState, allowed watches] at forbids
          cases forbids
      | overtook task overtakes otaState seen =>
          refine ⟨?_, fun _ forbids => ?_⟩
          · rcases seen with seen | seen <;> rw [otaState, seen]
            exact unseen.seen
          · rw [same otaState] at forbids
            exact absurd overtakes (first task forbids)
      | slept _ reset =>
          subst reset
          refine ⟨Nat.zero_le _, ?_⟩
          rintro ⟨⟩

/-- A step in which nothing overtakes the change to a state that forbids MQTT stands down. -/
theorem Unseen.standsDown (unseen : Unseen before) (relied : Relied before action)
    (first : StateFirst config before action)
    (taken : (mqttSystem config).step before action = some after) : StandsDown before after := by
  have wake := (unseen.step relied first taken).wake
  refine ⟨fun forbids idle => ?_, fun task => wake (by rw [task]; rfl)⟩
  cases action with
  | others others =>
      cases Option.some.inj taken
      rw [relied.mqttTask]
      exact idle
  | run action =>
      cases WatchStep.of_step taken with
      | kept _ _ _ _ publishing =>
          rw [Bool.eq_false_iff] at idle ⊢
          exact fun publishes => idle (publishing publishes)
      | obeyed _ _ _ _ allowed =>
          rw [Bool.eq_false_iff] at forbids ⊢
          exact fun publishes => forbids (allowed publishes)
      | overtook task overtakes => exact absurd overtakes (first task forbids)
      | slept _ reset =>
          subst reset
          rfl

/-- A step that stands down lets nothing overtake the change to a state that forbids MQTT. -/
theorem StandsDown.stateFirst (standsDown : StandsDown before after)
    (taken : (mqttSystem config).step before action = some after) :
    StateFirst config before action := by
  cases action with
  | others others => trivial
  | run action =>
      intro task forbids
      cases WatchStep.of_step taken with
      | kept served | obeyed served | slept served => exact served
      | overtook _ _ otaState _ ends =>
          rcases ends with publishing | ⟨waiting, seen⟩
          · rw [standsDown.publish forbids (by rw [task]; rfl)] at publishing
            cases publishing
          · have current : after.currentOtaState = before.currentOtaState := by
              rw [System.currentOtaState, otaState, System.currentOtaState]
            have wakes := standsDown.wake waiting (by rw [current]; exact forbids)
            rw [seen, otaState] at wakes
            exact absurd (of_decide_eq_true wakes) (lt_irrefl _)

/-- In a run of `mqtt_task` in any environment every step stands down exactly if in no step another
arm of the connected loop overtakes the change to a state that forbids MQTT. -/
theorem stands_down_iff {start finish : System} {actions : List OpenAction}
    (unpolled : Unpolled start) :
    (mqttSystem config).Path (fun before action => Relied before action ∧
        ∀ after, (mqttSystem config).step before action = some after → StandsDown before after)
        start actions finish ↔
      (mqttSystem config).Path (fun before action => Relied before action ∧
        StateFirst config before action) start actions finish := by
  refine TransitionSystem.path_congr Unseen ?_ ?_ (unseen_of_unpolled unpolled)
  · intro before action after unseen taken
    constructor
    · rintro ⟨relied, stands⟩
      exact ⟨relied, (stands after taken).stateFirst taken⟩
    · rintro ⟨relied, first⟩
      exact ⟨relied, fun after taken => unseen.standsDown relied first taken⟩
  · rintro before action after unseen ⟨relied, first⟩ taken
    exact unseen.step relied first taken

end Runs

/-- The task in its connected loop, with commands in its channel, and an OTA state. -/
def connectedStart (otaState : Watch OtaState) (commands : List AppCommand) : System :=
  { System.booted sampleDevice quietBroker [] with
    otaState := otaState
    mqttHealth := ⟨some .heartbeatPublished, 2⟩
    mqttCommands := commands
    broker := ⟨none, true, [], 0⟩
    mqttTask := .connected
    otaStateSeen := 1 }

/-- The task opens a session, and the OTA task starts an update while a reading is queued. -/
theorem run_downloading (commands : List AppCommand) :
    (mqttSystem (smallConfig false)).run (System.booted sampleDevice quietBroker [])
        sessionActions =
      some (connectedStart ⟨some .inactive, 1⟩ []) ∧
      Rely (connectedStart ⟨some .inactive, 1⟩ [])
        (connectedStart ⟨some .downloading, 2⟩ commands) :=
  ⟨rfl, rfl, rfl, rfl, List.nil_prefix, .inr (Nat.lt_succ_self 1)⟩

/-- The task leaves its loop when the state change is served first. -/
theorem stands_down_sample :
    ∃ finish, (mqttSystem (smallConfig false)).Path (fun before action => Relied before action ∧
        ∀ after, (mqttSystem (smallConfig false)).step before action = some after →
          StandsDown before after)
        (System.booted sampleDevice quietBroker [])
        (sessionActions ++ [.others (connectedStart ⟨some .downloading, 2⟩ [])] ++
          [.run .stateChanged]) finish ∧
      finish.mqttTask = .sessionBackoff := by
  obtain ⟨opened, relied⟩ := run_downloading []
  have front : (mqttSystem (smallConfig false)).Path (fun before action => Relied before action ∧
      StateFirst (smallConfig false) before action) _ sessionActions _ :=
    TransitionSystem.path_of_run opened (by simp [sessionActions, Relied, StateFirst, Overtakes])
  have changed := front.snoc
    (show Relied _ (.others (connectedStart ⟨some .downloading, 2⟩ [])) ∧ _ from ⟨relied, trivial⟩)
    (show _ = some (connectedStart ⟨some .downloading, 2⟩ []) from rfl)
  have left := changed.snoc (show Relied _ (.run .stateChanged) ∧ _ from ⟨trivial, fun _ _ => id⟩)
    (show _ = some _ from rfl)
  exact ⟨_, (stands_down_iff ⟨rfl, rfl, rfl⟩).mpr left, rfl⟩

/-- A queued reading overtakes the change: it is published during the download, and the task goes
back to waiting with the change consumed. -/
theorem queued_reading_overtakes :
    ∃ actions before publishing waiting,
      (mqttSystem (smallConfig false)).Path Relied (System.booted sampleDevice quietBroker [])
        actions before ∧
      before.currentOtaState = .downloading ∧
      (mqttSystem (smallConfig false)).step before (.run (.takeCommand false)) = some publishing ∧
      publishing.mqttTask = .publishing 7 .downloading ∧
      (mqttSystem (smallConfig false)).step publishing (.run (.published (.published false))) =
        some waiting ∧
      waiting.mqttTask = .connected ∧ waiting.currentOtaState = .downloading ∧
        waiting.otaState.changed waiting.otaStateSeen = false ∧
      ¬StandsDown before publishing ∧ ¬StandsDown publishing waiting := by
  obtain ⟨opened, relied⟩ := run_downloading [.publishTelemetry 7]
  have front : (mqttSystem (smallConfig false)).Path Relied _ sessionActions _ :=
    TransitionSystem.path_of_run opened (by simp [sessionActions, Relied])
  have changed := front.snoc
    (show Relied _ (.others (connectedStart ⟨some .downloading, 2⟩ [.publishTelemetry 7])) from
      relied)
    (show _ = some (connectedStart ⟨some .downloading, 2⟩ [.publishTelemetry 7]) from rfl)
  refine ⟨_, _, _, _, changed, rfl, rfl, rfl, rfl, rfl, rfl, rfl, fun starts => ?_, fun waits => ?_⟩
  · have idle := starts.publish rfl rfl
    cases idle
  · have wakes := waits.wake rfl rfl
    cases wakes

end Tasks
end Motonet
