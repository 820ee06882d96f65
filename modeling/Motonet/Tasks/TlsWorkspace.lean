import Motonet.Tasks.Run

/-!
# The TLS workspace

One pair of TLS buffers serves the MQTT sessions and the download of an image.  A guard is dropped
where its scope ends, so that the step that leaves the scope releases the workspace; the timers of
the two tasks run on a clock in milliseconds.
-/

namespace Motonet
namespace Tasks

open OtaCore Firmware

def mqttMinBackoffSecs : ℕ := 1
def mqttMaxBackoffSecs : ℕ := 60
def tlsWorkspaceWaitIntervalMs : ℕ := 100

/-- `next_mqtt_backoff_secs`. -/
def nextMqttBackoffSecs (currentBackoffSecs : ℕ) : ℕ :=
  min (currentBackoffSecs * 2) mqttMaxBackoffSecs

/-- The `tls_workspace` of a download. -/
inductive OtaWorkspace
  /-- Between two requests, or in a request without TLS. -/
  | none
  /-- In `acquire_ota_tls_workspace`, in the timer after a number of failed attempts. -/
  | waiting (attempts : ℕ)
  | held
  deriving DecidableEq, Repr

/-- The system with the TLS workspace. -/
structure WorkspaceSystem where
  system : System
  /-- `TLS_WORKSPACE_IN_USE`. -/
  inUse : Bool
  /-- Whether `mqtt_task` owns a guard. -/
  mqttGuard : Bool
  otaWorkspace : OtaWorkspace
  /-- Local to `mqtt_task`. -/
  backoffSecs : ℕ
  clock : ℕ
  /-- When the timer of `mqtt_task` ends. -/
  mqttTimer : ℕ
  /-- When the timer of `acquire_ota_tls_workspace` ends. -/
  otaTimer : ℕ

/-- The task waits in a reconnect timer. -/
def MqttTask.isBackoff : MqttTask → Bool
  | .workspaceBackoff | .setupBackoff | .sessionBackoff => true
  | _ => false

/-- The task waits in a reconnect timer, or for the OTA state to allow MQTT. -/
def MqttTask.isStoodDown : MqttTask → Bool
  | .standingDown | .workspaceBackoff | .setupBackoff | .sessionBackoff => true
  | _ => false

namespace WorkspaceSystem

/-- A boot initializes the static and all tasks. -/
def booted (system : System) : WorkspaceSystem where
  system := system
  inUse := false
  mqttGuard := false
  otaWorkspace := .none
  backoffSecs := mqttMinBackoffSecs
  clock := 0
  mqttTimer := 0
  otaTimer := 0

/-- The end of the scope of `tls_workspace` in `mqtt_task`: a guard releases the workspace. -/
def leaveMqttScope (state : WorkspaceSystem) : WorkspaceSystem :=
  if state.mqttGuard then { state with inUse := false, mqttGuard := false } else state

/-- The end of the scope of `tls_workspace` in a download. -/
def leaveOtaScope (state : WorkspaceSystem) : WorkspaceSystem :=
  if state.otaWorkspace = .held then { state with inUse := false, otaWorkspace := .none }
  else { state with otaWorkspace := .none }

/-- A reconnect timer is started. -/
def startBackoff (state : WorkspaceSystem) : WorkspaceSystem :=
  { state with mqttTimer := state.clock + 1000 * state.backoffSecs }

/-- The end of a reconnect timer and of the loop body: the next one is longer, and the guard of the
session that could not be set up goes out of scope. -/
def endBackoff (state : WorkspaceSystem) : WorkspaceSystem :=
  if state.system.mqttTask.isBackoff then
    { state with backoffSecs := nextMqttBackoffSecs state.backoffSecs }.leaveMqttScope
  else state

/-- `mqtt_task` has reached its next await point from the head of its loop, with the workspace if it
connects with TLS. -/
def opened (config : Config) (system : System) (state : WorkspaceSystem) : WorkspaceSystem :=
  match system.mqttTask with
  | .connecting _ =>
      if config.mqttUseTls then { state with system := system, inUse := true, mqttGuard := true }
      else { state with system := system }
  | .workspaceBackoff => { state with system := system }.startBackoff
  | _ => { state with system := system }

/-- `mqtt_task` has reached its next await point in a session or after it. -/
def moved (action : MqttAction) (system : System) (state : WorkspaceSystem) : WorkspaceSystem :=
  match action, system.mqttTask with
  | .published (.published true), _ => booted system
  | .setupEvent (.suback true), _ =>
      { state with system := system, backoffSecs := mqttMinBackoffSecs }
  | _, .setupBackoff => { state with system := system }.startBackoff
  | _, .sessionBackoff => { state with system := system }.leaveMqttScope.startBackoff
  | _, _ => { state with system := system }

/-- A step of `mqtt_task`; it finds the workspace as it is. -/
def mqttStep (config : Config) (state : WorkspaceSystem) : MqttAction → Option WorkspaceSystem
  | .openSession workspaceFree =>
      if state.system.mqttTask.isBackoff ∧ state.clock < state.mqttTimer then none
      else if workspaceFree = state.endBackoff.inUse then none
      else
        (Tasks.mqttStep config state.system (.openSession workspaceFree)).map fun system =>
          state.endBackoff.opened config system
  | action =>
      (Tasks.mqttStep config state.system action).map fun system => state.moved action system

/-- `TlsWorkspaceGuard::try_acquire` in `acquire_ota_tls_workspace`, after a number of failed
attempts. -/
def tryAcquire (attempts : ℕ) (state : WorkspaceSystem) : WorkspaceSystem :=
  if state.inUse then
    { state with
      otaWorkspace := .waiting (attempts + 1)
      otaTimer := state.clock + tlsWorkspaceWaitIntervalMs }
  else { state with inUse := true, otaWorkspace := .held }

/-- An attempt of `acquire_ota_tls_workspace`. -/
def acquire (state : WorkspaceSystem) : Option WorkspaceSystem :=
  match state.system.otaTask, state.otaWorkspace with
  | .downloading _, .none => some (state.tryAcquire 0)
  | .downloading _, .waiting attempts =>
      if attempts < tlsWorkspaceWaitAttempts ∧ state.otaTimer ≤ state.clock then
        some (state.tryAcquire attempts)
      else none
  | _, _ => none

/-- The download may end with an outcome: it ends for want of the workspace exactly after the last
attempt. -/
def mayFinish (state : WorkspaceSystem) (outcome : Except Halt Unit) : Prop :=
  match state.otaWorkspace with
  | .none | .held => outcome ≠ .error (.err .outOfMemory)
  | .waiting attempts =>
      attempts = tlsWorkspaceWaitAttempts ∧ state.otaTimer ≤ state.clock ∧
        outcome = .error (.err .outOfMemory)

instance (state : WorkspaceSystem) (outcome : Except Halt Unit) :
    Decidable (state.mayFinish outcome) := by
  unfold mayFinish
  split <;> infer_instance

/-- The end of a download. -/
def finish (config : Config) (env : Environment) (state : WorkspaceSystem) :
    Option WorkspaceSystem :=
  match state.system.otaTask with
  | .downloading manifest =>
      let outcome := (install config env manifest state.system.device).1
      if state.mayFinish outcome then
        (otaStep config state.system (.finish env)).map fun system =>
          match outcome with
          | .ok _ => booted system
          | .error _ => { state with system := system }.leaveOtaScope
      else none
  | _ => none

end WorkspaceSystem

/-- What can happen next. -/
inductive WorkspaceAction
  /-- A step of the system. -/
  | task (action : Action)
  /-- An attempt of `acquire_ota_tls_workspace`. -/
  | acquire
  /-- A request ends with a redirect. -/
  | redirected
  | elapse (millis : ℕ)

/-- One step of the system with the workspace. -/
def workspaceStep (config : Config) (state : WorkspaceSystem) :
    WorkspaceAction → Option WorkspaceSystem
  | .task (.mqtt action) => state.mqttStep config action
  | .task (.ota (.finish env)) => state.finish config env
  | .task (.powerCycle progress) =>
      (step config state.system (.powerCycle progress)).map .booted
  | .task action => (step config state.system action).map fun system =>
      { state with system := system }
  | .acquire => state.acquire
  | .redirected =>
      match state.otaWorkspace with
      | .held => some state.leaveOtaScope
      | _ => none
  | .elapse millis => some { state with clock := state.clock + millis }

/-- The system with the workspace as a transition system. -/
def workspaceSystem (config : Config) : TransitionSystem WorkspaceSystem WorkspaceAction where
  initial := fun state => ∃ system, Initial system ∧ state = .booted system
  step := workspaceStep config

end Tasks
end Motonet
