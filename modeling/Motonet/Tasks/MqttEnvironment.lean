import Motonet.Tasks.Run

/-!
# The MQTT task in any environment

`mqtt_task` alone, with everything else free to change at any time: the other tasks, the writers of
the OTA state and the producers of commands have to leave the variables of the task alone, take no
command from its channel, and count what they send.
-/

namespace Motonet
namespace Tasks

open OtaCore Firmware

/-- The task runs, or the rest of the system does something. -/
inductive OpenAction
  | run (action : MqttAction)
  | others (after : System)

/-- The step of the task that an action is, if it is one. -/
def OpenAction.own : OpenAction → Option MqttAction
  | .run action => some action
  | .others _ => none

/-- The step of the task that an action of the whole system is, if it is one. -/
def Action.own : Action → Option MqttAction
  | .mqtt action => some action
  | _ => none

/-- What the task relies on when the rest of the system takes a step. -/
structure Rely (before after : System) : Prop where
  mqttTask : after.mqttTask = before.mqttTask
  deferredReading : after.deferredReading = before.deferredReading
  otaStateSeen : after.otaStateSeen = before.otaStateSeen
  mqttCommands : before.mqttCommands <+: after.mqttCommands
  otaState : after.otaState = before.otaState ∨ before.otaState.sent < after.otaState.sent

/-- The task before its first poll. -/
structure Unpolled (system : System) : Prop where
  mqttTask : system.mqttTask = .notStarted
  deferredReading : system.deferredReading = none
  otaStateSeen : system.otaStateSeen = 0

theorem unpolled_booted (device : Device) (broker : Broker) (handedOver : List ℕ) :
    Unpolled (System.booted device broker handedOver) :=
  ⟨rfl, rfl, rfl⟩

/-- `mqtt_task` in its environment. -/
def mqttSystem (config : Config) : TransitionSystem System OpenAction where
  initial := Unpolled
  step := fun system => fun
    | .run action => mqttStep config system action
    | .others after => some after

/-- The rest of the system does what the task relies on. -/
def Relied (before : System) : OpenAction → Prop
  | .run _ => True
  | .others after => Rely before after

/-- A step of another task of the whole system that does not reset the chip. -/
def KeepsPower (config : Config) (before : System) : Action → Prop
  | .ota (.finish env) => ∀ manifest, before.otaTask = .downloading manifest →
      (install config env manifest before.device).1 ≠ .ok ()
  | .powerCycle _ => False
  | _ => True

section Environment

variable {config : Config} {before after : System}

theorem Rely.of_otaStep {action : OtaAction} (powered : KeepsPower config before (.ota action))
    (taken : OtaStep config before action after) : Rely before after := by
  cases taken with
  | rejected | lockFlash => exact ⟨rfl, rfl, rfl, List.prefix_rfl, .inl rfl⟩
  | accepted | standDown | standDownTimeout | failed =>
      exact ⟨rfl, rfl, rfl, List.prefix_rfl, .inr (Nat.lt_succ_self _)⟩
  | installed task installs =>
      have failed := powered _ task
      rw [installs] at failed
      exact absurd rfl failed

theorem Rely.of_otaConfirmStep {action : OtaConfirmAction}
    (taken : OtaConfirmStep before action after) : Rely before after := by
  cases taken with
  | foundPending | polled | notMarked => exact ⟨rfl, rfl, rfl, List.prefix_rfl, .inl rfl⟩
  | started | notPending | marked =>
      exact ⟨rfl, rfl, rfl, List.prefix_rfl, .inr (Nat.lt_succ_self _)⟩
  | sent _ queue =>
      obtain ⟨-, rfl⟩ := Channel.trySend_eq_some_iff.mp queue
      exact ⟨rfl, rfl, rfl, List.prefix_append _ _, .inl rfl⟩

/-- A step of the whole system is a step of the task or one that it relies on. -/
theorem openAction_of_step {action : Action} (powered : KeepsPower config before action)
    (taken : (taskSystem config).step before action = some after) :
    ∃ openAction, openAction.own = action.own ∧ Relied before openAction ∧
      (mqttSystem config).step before openAction = some after := by
  have others (outside : action.own = none) (relied : Rely before after) :
      ∃ openAction, openAction.own = action.own ∧ Relied before openAction ∧
        (mqttSystem config).step before openAction = some after :=
    ⟨.others after, outside.symm, relied, rfl⟩
  cases action with
  | mqtt action => exact ⟨.run action, rfl, trivial, taken⟩
  | ota action => exact others rfl (.of_otaStep powered (.of_step taken))
  | confirm action => exact others rfl (.of_otaConfirmStep (.of_step taken))
  | operatorPublish payload retain =>
      cases taken
      exact others rfl ⟨rfl, rfl, rfl, List.prefix_rfl, .inl rfl⟩
  | queueReading reading =>
      simp only [taskSystem, step] at taken
      split at taken <;> cases taken
      rename_i queue
      obtain ⟨-, rfl⟩ := Channel.trySend_eq_some_iff.mp queue
      exact others rfl ⟨rfl, rfl, rfl, List.prefix_append _ _, .inl rfl⟩
  | powerCycle progress => exact powered.elim

/-- Every run of the whole system without a reset from outside is one of the task in its
environment, with the same steps of the task. -/
theorem mqttSystem_path_of_path {start finish : System} {actions : List Action}
    (path : (taskSystem config).Path (KeepsPower config) start actions finish) :
    ∃ openActions, openActions.filterMap OpenAction.own = actions.filterMap Action.own ∧
      (mqttSystem config).Path Relied start openActions finish := by
  induction path with
  | nil => exact ⟨[], rfl, .nil⟩
  | snoc _ powered taken ih =>
      obtain ⟨openActions, own, path⟩ := ih
      obtain ⟨openAction, same, relied, step⟩ := openAction_of_step powered taken
      refine ⟨openActions ++ [openAction], ?_, path.snoc relied step⟩
      rw [List.filterMap_append, List.filterMap_append, own]
      simp only [List.filterMap_cons, List.filterMap_nil, same]

end Environment

/-- The task opens a session. -/
def sessionActions : List OpenAction :=
  [.run (.openSession true), .run (.connect true), .run (.setupEvent (.suback true))]

end Tasks
end Motonet
