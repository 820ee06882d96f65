import Motonet.Tasks.MqttEnvironment
import Motonet.Tasks.TlsWorkspace

/-!
# The release of the TLS workspace

The flag counts the guards in every run.  `mqtt_task` owns one in the whole block that opens a
session with TLS, and this block contains the reconnect timer after a session set-up that failed.
-/

namespace Motonet
namespace Tasks

open OtaCore Firmware

/-- The task is in the block that `tls_workspace` belongs to. -/
def MqttTask.inWorkspaceScope : MqttTask → Bool
  | .notStarted | .standingDown | .workspaceBackoff | .sessionBackoff => false
  | _ => true

/-- The download owns a guard. -/
def WorkspaceSystem.otaGuard (state : WorkspaceSystem) : Bool := state.otaWorkspace = .held

/-- The flag counts the guards, and `mqtt_task` owns one exactly within its block. -/
structure GuardsCounted (config : Config) (state : WorkspaceSystem) : Prop where
  guards : state.mqttGuard.toNat + state.otaGuard.toNat = state.inUse.toNat
  scope : state.mqttGuard = (config.mqttUseTls && state.system.mqttTask.inWorkspaceScope)

/-- A task that is stood down owns no guard, an attempt of the download to acquire the workspace
then succeeds, and there is at most one guard. -/
structure WorkspaceReleased (state : WorkspaceSystem) : Prop where
  released : state.system.mqttTask.isStoodDown = true → state.mqttGuard = false
  acquires : state.system.mqttTask.isStoodDown = true →
    ∀ after, state.acquire = some after → after.otaWorkspace = .held
  exclusive : state.mqttGuard.toNat + state.otaGuard.toNat ≤ 1

/-- The step ends the set-up of a session with an error: the connection fails, the set-up fails or
times out, the subscription is refused, or a manifest is handed over before it is acknowledged. -/
def MqttAction.failsSetup : MqttAction → Bool
  | .connect succeeds => !succeeds
  | .setupFailed | .setupEvent (.suback false) | .handOverEarly => true
  | _ => false

/-- The set-up of no session with TLS ends with an error. -/
def SetsUp (config : Config) (_ : WorkspaceSystem) : WorkspaceAction → Prop
  | .task (.mqtt action) => config.mqttUseTls = true → action.failsSetup = false
  | _ => True

theorem setsUp_task_iff (config : Config) (state : WorkspaceSystem) (action : Action) :
    SetsUp config state (.task action) ↔
      (config.mqttUseTls = true → ¬∃ own, action = .mqtt own ∧ own.failsSetup = true) := by
  cases action <;> simp [SetsUp]

section Steps

variable {config : Config} {before after : WorkspaceSystem}

/-- Only a failed set-up leads into the reconnect timer after it. -/
theorem MqttMove.setupBackoff_iff {before after : System} {action : MqttAction}
    (move : MqttMove config before action after) (opened : ∀ free, action ≠ .openSession free) :
    after.mqttTask = .setupBackoff ↔ action.failsSetup = true := by
  cases move with
  | opened free => exact absurd rfl (opened free)
  | retried idle reading _ _ =>
      cases idle <;> simp [System.startReading, System.endSession, MqttAction.failsSetup]
  | tookReading idle reading commands _ _ _ =>
      cases idle <;> simp [System.startReading, System.endSession, MqttAction.failsSetup]
  | _ => simp_all [System.failSetup, System.endSession, System.reset, System.booted,
      MqttAction.failsSetup]

/-- A step after the session was opened stays in the block, or ends the session, or sleeps. -/
theorem MqttMove.inWorkspaceScope {before after : System} {action : MqttAction}
    (move : MqttMove config before action after) (opened : ∀ free, action ≠ .openSession free) :
    before.mqttTask.inWorkspaceScope = true ∧
      (after.mqttTask.inWorkspaceScope = true ∨ after.mqttTask = .sessionBackoff ∨
        action = .published (.published true)) := by
  cases move with
  | opened free => exact absurd rfl (opened free)
  | retried idle reading task _ =>
      cases idle <;> simp [System.startReading, System.endSession, MqttTask.inWorkspaceScope, task]
  | tookReading idle reading commands task _ _ =>
      cases idle <;> simp [System.startReading, System.endSession, MqttTask.inWorkspaceScope, task]
  | _ => simp_all [System.failSetup, System.endSession, MqttTask.inWorkspaceScope]

/-- A step of `mqtt_task` opens a session or not, or it is taken in a session. -/
theorem mqttStep_eq_some {action : MqttAction}
    (taken : before.mqttStep config action = some after) :
    ∃ system, Tasks.mqttStep config before.system action = some system ∧
      ((∃ workspaceFree, action = .openSession workspaceFree ∧
          workspaceFree ≠ before.endBackoff.inUse ∧
          after = before.endBackoff.opened config system) ∨
        (∀ free, action ≠ .openSession free) ∧ after = before.moved action system) := by
  by_cases opening : ∃ free, action = .openSession free
  · obtain ⟨workspaceFree, rfl⟩ := opening
    simp only [WorkspaceSystem.mqttStep] at taken
    split at taken <;> [cases taken; skip]
    split at taken <;> [cases taken; skip]
    next found =>
      obtain ⟨system, stepped, rfl⟩ := Option.map_eq_some_iff.mp taken
      exact ⟨system, stepped, .inl ⟨workspaceFree, rfl, found, rfl⟩⟩
  · have opened : ∀ free, action ≠ .openSession free := fun free same => opening ⟨free, same⟩
    have other : before.mqttStep config action =
        (Tasks.mqttStep config before.system action).map fun system =>
          before.moved action system := by
      cases action <;> first | rfl | exact absurd rfl (opened _)
    rw [other] at taken
    obtain ⟨system, stepped, rfl⟩ := Option.map_eq_some_iff.mp taken
    exact ⟨system, stepped, .inr ⟨opened, rfl⟩⟩

/-- A download ends with a reset, or the download leaves the block of its guard. -/
theorem finish_eq_some {env : Environment} (taken : before.finish config env = some after) :
    ∃ system, otaStep config before.system (.finish env) = some system ∧
      (system.mqttTask = .notStarted ∧ after = .booted system ∨
        system.mqttTask = before.system.mqttTask ∧
          after = { before with system := system }.leaveOtaScope) := by
  simp only [WorkspaceSystem.finish] at taken
  split at taken <;> [skip; cases taken]
  next manifest task =>
    split at taken <;> [skip; cases taken]
    obtain ⟨system, stepped, rfl⟩ := Option.map_eq_some_iff.mp taken
    refine ⟨system, stepped, ?_⟩
    cases OtaStep.of_step stepped with
    | installed downloading installs =>
        cases task.symm.trans downloading
        rw [installs]
        exact .inl ⟨rfl, rfl⟩
    | failed downloading installs =>
        cases task.symm.trans downloading
        rw [installs]
        exact .inr ⟨rfl, rfl⟩

theorem acquire_eq_some (taken : before.acquire = some after) :
    before.otaGuard = false ∧ ∃ attempts, after = before.tryAcquire attempts := by
  simp only [WorkspaceSystem.acquire] at taken
  split at taken
  next outside =>
    cases taken
    exact ⟨by simp [WorkspaceSystem.otaGuard, outside], 0, rfl⟩
  next waiting =>
    split at taken <;> cases taken
    exact ⟨by simp [WorkspaceSystem.otaGuard, waiting], _, rfl⟩
  next => cases taken

theorem guardsCounted_booted {system : System} (task : system.mqttTask = .notStarted) :
    GuardsCounted config (.booted system) := by
  refine ⟨rfl, ?_⟩
  simp [WorkspaceSystem.booted, task, MqttTask.inWorkspaceScope]

/-- A step that moves no guard and leaves `mqtt_task` in its place. -/
theorem GuardsCounted.congr (counted : GuardsCounted config before)
    (mqttGuard : after.mqttGuard = before.mqttGuard)
    (otaWorkspace : after.otaGuard = before.otaGuard) (inUse : after.inUse = before.inUse)
    (scope : after.system.mqttTask.inWorkspaceScope = before.system.mqttTask.inWorkspaceScope) :
    GuardsCounted config after :=
  ⟨by rw [mqttGuard, otaWorkspace, inUse, counted.guards], by rw [mqttGuard, scope, counted.scope]⟩

theorem leaveMqttScope_system (state : WorkspaceSystem) :
    state.leaveMqttScope.system = state.system := by
  unfold WorkspaceSystem.leaveMqttScope
  split <;> rfl

theorem leaveMqttScope_mqttGuard (state : WorkspaceSystem) :
    state.leaveMqttScope.mqttGuard = false := by
  unfold WorkspaceSystem.leaveMqttScope
  split
  · rfl
  next free => exact Bool.eq_false_of_not_eq_true free

/-- The flag still counts the guards after `mqtt_task` has dropped its own. -/
theorem leaveMqttScope_guards (state : WorkspaceSystem)
    (guards : state.mqttGuard.toNat + state.otaGuard.toNat = state.inUse.toNat) :
    state.leaveMqttScope.mqttGuard.toNat + state.leaveMqttScope.otaGuard.toNat =
      state.leaveMqttScope.inUse.toNat := by
  have most := Bool.toNat_le state.inUse
  unfold WorkspaceSystem.leaveMqttScope
  split
  next owned =>
    rw [owned, Bool.toNat_true] at guards
    show 0 + state.otaGuard.toNat = 0
    omega
  next => exact guards

/-- The flag still counts the guards after the download has dropped its own. -/
theorem leaveOtaScope_guards (state : WorkspaceSystem)
    (guards : state.mqttGuard.toNat + state.otaGuard.toNat = state.inUse.toNat) :
    state.leaveOtaScope.mqttGuard.toNat + state.leaveOtaScope.otaGuard.toNat =
      state.leaveOtaScope.inUse.toNat := by
  have most := Bool.toNat_le state.inUse
  unfold WorkspaceSystem.leaveOtaScope
  split
  next held =>
    have owned : state.otaGuard = true := decide_eq_true held
    rw [owned, Bool.toNat_true] at guards
    show state.mqttGuard.toNat + 0 = 0
    omega
  next outside =>
    have free : state.otaGuard = false := decide_eq_false outside
    rw [free] at guards
    exact guards

/-- At the head of the loop `mqtt_task` owns no guard. -/
theorem GuardsCounted.endBackoff (counted : GuardsCounted config before)
    (head : before.system.mqttTask.opensSession = true) :
    before.endBackoff.mqttGuard = false ∧
      before.endBackoff.otaGuard.toNat = before.endBackoff.inUse.toNat := by
  unfold WorkspaceSystem.endBackoff
  split
  next =>
    have guards := leaveMqttScope_guards { before with
      backoffSecs := nextMqttBackoffSecs before.backoffSecs } counted.guards
    rw [leaveMqttScope_mqttGuard, Bool.toNat_false, Nat.zero_add] at guards
    exact ⟨leaveMqttScope_mqttGuard _, guards⟩
  next waiting =>
    have free : before.mqttGuard = false := by
      rw [counted.scope]
      cases task : before.system.mqttTask <;>
        simp_all [MqttTask.isBackoff, MqttTask.inWorkspaceScope, MqttTask.opensSession]
    have guards := counted.guards
    rw [free, Bool.toNat_false, Nat.zero_add] at guards
    exact ⟨free, guards⟩

theorem openSession_mqttTask (config : Config) (workspaceFree : Bool) (ready : System) :
    (ready.openSession config workspaceFree).mqttTask = .standingDown ∨
      (ready.openSession config workspaceFree).mqttTask = .workspaceBackoff ∨
      ∃ otaState, (ready.openSession config workspaceFree).mqttTask = .connecting otaState ∧
        (config.mqttUseTls = true → workspaceFree = true) := by
  unfold System.openSession
  simp only
  split
  · exact .inl rfl
  split
  · exact .inr (.inl rfl)
  next busy =>
    refine .inr (.inr ⟨_, rfl, fun tls => ?_⟩)
    simpa [tls] using busy

/-- A session is opened with the workspace if it is free, and with TLS only then. -/
theorem GuardsCounted.opened {workspaceFree : Bool} {ready : System}
    (counted : GuardsCounted config before) (head : before.system.mqttTask.opensSession = true)
    (found : workspaceFree ≠ before.endBackoff.inUse) :
    GuardsCounted config
      (before.endBackoff.opened config (ready.openSession config workspaceFree)) := by
  obtain ⟨free, guards⟩ := counted.endBackoff head
  have waits (after : WorkspaceSystem) (mqttGuard : after.mqttGuard = before.endBackoff.mqttGuard)
      (otaGuard : after.otaGuard = before.endBackoff.otaGuard)
      (inUse : after.inUse = before.endBackoff.inUse)
      (scope : (config.mqttUseTls && after.system.mqttTask.inWorkspaceScope) = false) :
      GuardsCounted config after := by
    refine ⟨?_, by rw [mqttGuard, free, scope]⟩
    rw [mqttGuard, free, otaGuard, inUse, guards, Bool.toNat_false, Nat.zero_add]
  unfold WorkspaceSystem.opened
  rcases openSession_mqttTask config workspaceFree ready with task | task | ⟨otaState, task, tls⟩
  · rw [task]
    exact waits _ rfl rfl rfl (by simp [task, MqttTask.inWorkspaceScope])
  · rw [task]
    exact waits _ rfl rfl rfl
      (by simp [WorkspaceSystem.startBackoff, task, MqttTask.inWorkspaceScope])
  · rw [task]
    simp only
    split
    next uses =>
      have available : before.endBackoff.inUse = false :=
        Bool.eq_false_of_not_eq_true fun busy => found ((tls uses).trans busy.symm)
      rw [available, Bool.toNat_false] at guards
      refine ⟨?_, by simp [uses, task, MqttTask.inWorkspaceScope]⟩
      show 1 + before.endBackoff.otaGuard.toNat = 1
      rw [guards]
    next plain =>
      exact waits _ rfl rfl rfl (by simp [Bool.eq_false_of_not_eq_true plain])

/-- A step in a session keeps the guard while it stays in the block, and drops it at its end. -/
theorem GuardsCounted.moved {action : MqttAction} {system : System}
    (counted : GuardsCounted config before) (opened : ∀ free, action ≠ .openSession free)
    (move : MqttMove config before.system action system) :
    GuardsCounted config (before.moved action system) := by
  obtain ⟨inside, ends⟩ := move.inWorkspaceScope opened
  have stays (after : WorkspaceSystem) (mqttGuard : after.mqttGuard = before.mqttGuard)
      (otaGuard : after.otaGuard = before.otaGuard) (inUse : after.inUse = before.inUse)
      (task : after.system.mqttTask.inWorkspaceScope = true) : GuardsCounted config after :=
    counted.congr mqttGuard otaGuard inUse (task.trans inside.symm)
  unfold WorkspaceSystem.moved
  split
  · cases move
    exact guardsCounted_booted rfl
  · cases move
    exact stays _ rfl rfl rfl rfl
  next task => exact stays _ rfl rfl rfl (by simp [WorkspaceSystem.startBackoff, task,
      MqttTask.inWorkspaceScope])
  next task =>
    refine ⟨leaveMqttScope_guards { before with system := system } counted.guards, ?_⟩
    show (WorkspaceSystem.leaveMqttScope _).mqttGuard = (_ && MqttTask.inWorkspaceScope
      (WorkspaceSystem.leaveMqttScope _).system.mqttTask)
    rw [leaveMqttScope_mqttGuard, leaveMqttScope_system]
    simp [task, MqttTask.inWorkspaceScope]
  next sleeps _ _ ended =>
    rcases ends with scope | session | slept
    · exact stays _ rfl rfl rfl scope
    · exact absurd session ended
    · exact absurd slept sleeps

/-- A step of another task that does not reset the chip leaves `mqtt_task` where it is. -/
theorem mqttTask_of_others {before after : System} {action : Action}
    (powered : KeepsPower config before action) (others : action.own = none)
    (taken : step config before action = some after) : after.mqttTask = before.mqttTask := by
  obtain ⟨openAction, own, relied, stepped⟩ := openAction_of_step powered taken
  cases openAction with
  | run action =>
      rw [others] at own
      cases own
  | others =>
      cases stepped
      exact relied.mqttTask

theorem GuardsCounted.others (counted : GuardsCounted config before) (action : Action)
    (powered : KeepsPower config before.system action) (others : action.own = none)
    (taken : ((step config before.system action).map fun system =>
      { before with system := system }) = some after) : GuardsCounted config after := by
  obtain ⟨system, stepped, rfl⟩ := Option.map_eq_some_iff.mp taken
  exact counted.congr rfl rfl rfl
    (congrArg MqttTask.inWorkspaceScope (mqttTask_of_others powered others stepped))

theorem GuardsCounted.mqttStep {action : MqttAction} (counted : GuardsCounted config before)
    (taken : before.mqttStep config action = some after) : GuardsCounted config after := by
  obtain ⟨system, stepped, ⟨workspaceFree, rfl, found, rfl⟩ | ⟨opened, rfl⟩⟩ :=
    mqttStep_eq_some taken
  · cases mqttMove_of_step stepped with
    | opened _ mqttHealth head => exact counted.opened head found
  · exact counted.moved opened (mqttMove_of_step stepped)

theorem GuardsCounted.leaveOtaScope {system : System} (counted : GuardsCounted config before)
    (task : system.mqttTask = before.system.mqttTask) :
    GuardsCounted config { before with system := system }.leaveOtaScope := by
  refine ⟨leaveOtaScope_guards { before with system := system } counted.guards, ?_⟩
  have scope := counted.scope
  rw [← task] at scope
  unfold WorkspaceSystem.leaveOtaScope
  split <;> exact scope

theorem GuardsCounted.finish {env : Environment} (counted : GuardsCounted config before)
    (taken : before.finish config env = some after) : GuardsCounted config after := by
  obtain ⟨system, -, ⟨task, rfl⟩ | ⟨task, rfl⟩⟩ := finish_eq_some taken
  · exact guardsCounted_booted task
  · exact counted.leaveOtaScope task

theorem GuardsCounted.acquire (counted : GuardsCounted config before)
    (taken : before.acquire = some after) : GuardsCounted config after := by
  obtain ⟨outside, attempts, rfl⟩ := acquire_eq_some taken
  have guards := counted.guards
  rw [outside, Bool.toNat_false, Nat.add_zero] at guards
  unfold WorkspaceSystem.tryAcquire
  split
  · exact counted.congr rfl outside.symm rfl rfl
  next free =>
    rw [Bool.eq_false_of_not_eq_true free, Bool.toNat_false] at guards
    refine ⟨?_, counted.scope⟩
    show before.mqttGuard.toNat + 1 = 1
    rw [guards]

/-- Every step keeps the count. -/
theorem GuardsCounted.step {action : WorkspaceAction} (counted : GuardsCounted config before)
    (taken : (workspaceSystem config).step before action = some after) :
    GuardsCounted config after := by
  cases action with
  | task action =>
      cases action with
      | mqtt action => exact counted.mqttStep taken
      | ota action =>
          cases action with
          | finish env => exact counted.finish taken
          | receive => exact counted.others (.ota .receive) trivial rfl taken
          | standDown => exact counted.others (.ota .standDown) trivial rfl taken
          | standDownTimeout => exact counted.others (.ota .standDownTimeout) trivial rfl taken
          | lockFlash => exact counted.others (.ota .lockFlash) trivial rfl taken
      | confirm action => exact counted.others (.confirm action) trivial rfl taken
      | operatorPublish payload retain =>
          exact counted.others (.operatorPublish payload retain) trivial rfl taken
      | queueReading reading => exact counted.others (.queueReading reading) trivial rfl taken
      | powerCycle progress =>
          cases taken
          exact guardsCounted_booted rfl
  | acquire => exact counted.acquire taken
  | redirected =>
      simp only [workspaceSystem, workspaceStep] at taken
      split at taken <;> cases taken
      exact counted.leaveOtaScope rfl
  | elapse millis =>
      cases taken
      exact counted.congr rfl rfl rfl rfl

theorem moved_system (state : WorkspaceSystem) (action : MqttAction) (system : System) :
    (state.moved action system).system = system := by
  unfold WorkspaceSystem.moved
  split <;> first | rfl | exact leaveMqttScope_system _

theorem opened_system (state : WorkspaceSystem) (config : Config) (system : System) :
    (state.opened config system).system = system := by
  unfold WorkspaceSystem.opened
  split
  · split <;> rfl
  · rfl
  · rfl

theorem leaveOtaScope_system (state : WorkspaceSystem) :
    state.leaveOtaScope.system = state.system := by
  unfold WorkspaceSystem.leaveOtaScope
  split <;> rfl

/-- The step of the system that an action is, if it is one. -/
def WorkspaceAction.own : WorkspaceAction → Option Action
  | .task action => some action
  | _ => none

/-- A step is one of the system that knows nothing of the workspace, or leaves it as it is. -/
theorem system_of_workspaceStep {action : WorkspaceAction}
    (taken : (workspaceSystem config).step before action = some after) :
    (∃ own, action = .task own ∧ (taskSystem config).step before.system own = some after.system) ∨
      action.own = none ∧ after.system = before.system := by
  have mapped {action : Action}
      (taken : ((step config before.system action).map fun system =>
        { before with system := system }) = some after) :
      (taskSystem config).step before.system action = some after.system := by
    obtain ⟨system, stepped, rfl⟩ := Option.map_eq_some_iff.mp taken
    exact stepped
  cases action with
  | task action =>
      refine .inl ⟨action, rfl, ?_⟩
      cases action with
      | mqtt action =>
          obtain ⟨system, stepped, ⟨_, rfl, _, rfl⟩ | ⟨_, rfl⟩⟩ := mqttStep_eq_some taken
          · rw [opened_system]
            exact stepped
          · rw [moved_system]
            exact stepped
      | ota action =>
          cases action with
          | finish env =>
              obtain ⟨system, stepped, ⟨_, rfl⟩ | ⟨_, rfl⟩⟩ := finish_eq_some taken
              · exact stepped
              · rw [leaveOtaScope_system]
                exact stepped
          | receive | standDown | standDownTimeout | lockFlash => exact mapped taken
      | confirm | operatorPublish | queueReading => exact mapped taken
      | powerCycle progress =>
          cases taken
          rfl
  | acquire =>
      obtain ⟨-, attempts, rfl⟩ := acquire_eq_some taken
      refine .inr ⟨rfl, ?_⟩
      unfold WorkspaceSystem.tryAcquire
      split <;> rfl
  | redirected =>
      refine .inr ⟨rfl, ?_⟩
      simp only [workspaceSystem, workspaceStep] at taken
      split at taken <;> cases taken
      exact leaveOtaScope_system before
  | elapse millis =>
      cases taken
      exact .inr ⟨rfl, rfl⟩

/-- Every run is a run of the system that knows nothing of the workspace. -/
theorem system_path_of_path {start finish : WorkspaceSystem} {actions : List WorkspaceAction}
    (path : (workspaceSystem config).Path (fun _ _ => True) start actions finish) :
    (taskSystem config).Path (fun _ _ => True) start.system
      (actions.filterMap WorkspaceAction.own) finish.system := by
  induction path with
  | nil => exact .nil
  | snoc _ _ taken ih =>
      rw [List.filterMap_append]
      rcases system_of_workspaceStep taken with ⟨own, rfl, stepped⟩ | ⟨outside, same⟩
      · exact ih.snoc trivial stepped
      · rw [List.filterMap_cons_none outside, List.filterMap_nil, List.append_nil, same]
        exact ih

/-- In a step of the system `mqtt_task` gets into the timer after a failed set-up by a failure of
the set-up only. -/
theorem setupBackoff_iff_of_step {before after : System} {action : Action}
    (outside : before.mqttTask ≠ .setupBackoff)
    (taken : (taskSystem config).step before action = some after) :
    after.mqttTask = .setupBackoff ↔ ∃ own, action = .mqtt own ∧ own.failsSetup = true := by
  have others (powered : KeepsPower config before action) (others : action.own = none) :
      after.mqttTask = .setupBackoff ↔ ∃ own, action = .mqtt own ∧ own.failsSetup = true := by
    rw [mqttTask_of_others powered others taken]
    refine iff_of_false outside ?_
    rintro ⟨own, rfl, -⟩
    cases others
  cases action with
  | mqtt action =>
      have move := mqttMove_of_step taken
      by_cases opening : ∃ free, action = .openSession free
      · obtain ⟨workspaceFree, rfl⟩ := opening
        cases move with
        | opened _ mqttHealth _ =>
            refine iff_of_false ?_ (by simp [MqttAction.failsSetup])
            rcases openSession_mqttTask config workspaceFree
              { before with mqttHealth := mqttHealth } with task | task | ⟨_, task, -⟩ <;>
              simp [task]
      · rw [move.setupBackoff_iff fun free same => opening ⟨free, same⟩]
        simp
  | ota action =>
      cases action with
      | finish env =>
          have stepped : otaStep config before (.finish env) = some after := taken
          cases OtaStep.of_step stepped with
          | installed => simp [System.reset, System.booted]
          | failed => exact iff_of_false outside (by simp)
      | receive | standDown | standDownTimeout | lockFlash => exact others trivial rfl
  | confirm | operatorPublish | queueReading => exact others trivial rfl
  | powerCycle progress =>
      cases taken
      simp [System.reset, System.booted]

/-- The workspace is released unless `mqtt_task` waits after the failed set-up of a session with
TLS. -/
theorem workspaceReleased_iff (counted : GuardsCounted config before) :
    WorkspaceReleased before ↔
      ¬(config.mqttUseTls = true ∧ before.system.mqttTask = .setupBackoff) := by
  constructor
  · rintro released ⟨tls, task⟩
    have free := released.released (by rw [task]; rfl)
    rw [counted.scope, tls, task] at free
    cases free
  · intro outside
    have free (stood_down : before.system.mqttTask.isStoodDown = true) :
        before.mqttGuard = false := by
      rw [counted.scope]
      cases tls : config.mqttUseTls with
      | false => rfl
      | true =>
          rw [Bool.true_and]
          cases task : before.system.mqttTask <;>
            simp_all [MqttTask.isStoodDown, MqttTask.inWorkspaceScope]
    refine ⟨free, ?_, ?_⟩
    · intro stood_down after taken
      obtain ⟨unheld, attempts, rfl⟩ := acquire_eq_some taken
      have guards := counted.guards
      rw [free stood_down, unheld] at guards
      have available : before.inUse = false := by
        cases inUse : before.inUse with
        | false => rfl
        | true =>
            rw [inUse] at guards
            cases guards
      rw [WorkspaceSystem.tryAcquire, available]
      rfl
    · rw [counted.guards]
      exact Bool.toNat_le _

/-- In every run the workspace is released whenever `mqtt_task` is stood down, exactly if no set-up
of a session with TLS ends with an error. -/
theorem workspace_released_iff {start finish : WorkspaceSystem} {actions : List WorkspaceAction}
    (initial : (workspaceSystem config).initial start) :
    (workspaceSystem config).Path (fun before action => WorkspaceReleased before ∧
        ∀ after, (workspaceSystem config).step before action = some after →
          WorkspaceReleased after) start actions finish ↔
      (workspaceSystem config).Path (SetsUp config) start actions finish := by
  obtain ⟨system, ⟨device, broker, -, rfl⟩, rfl⟩ := initial
  have counted : GuardsCounted config (.booted (System.booted device broker [])) :=
    guardsCounted_booted rfl
  have preserved (before : WorkspaceSystem) (action : WorkspaceAction) (after : WorkspaceSystem)
      (counted : GuardsCounted config before)
      (taken : (workspaceSystem config).step before action = some after) :
      GuardsCounted config after := counted.step taken
  refine TransitionSystem.path_holds_iff preserved ?_ counted
    ((workspaceReleased_iff counted).mpr (by simp [WorkspaceSystem.booted, System.booted]))
  intro before action after counted released taken
  rw [workspaceReleased_iff (counted.step taken)]
  rw [workspaceReleased_iff counted] at released
  rcases system_of_workspaceStep taken with ⟨own, rfl, stepped⟩ | ⟨outside, same⟩
  · rw [setsUp_task_iff, not_and]
    refine forall_congr' fun tls => ?_
    rw [setupBackoff_iff_of_step (fun task => released ⟨tls, task⟩) stepped]
  · rw [same]
    refine iff_of_true released ?_
    cases action with
    | task => cases outside
    | _ => trivial

end Steps

/-- The small configuration with TLS. -/
def tlsConfig : Config :=
  { smallConfig false with mqttUseTls := true }

/-- A boot with a broker that keeps the small manifest. -/
def tlsStart : WorkspaceSystem :=
  .booted (System.booted sampleDevice (keepingBroker false) [])

theorem initial_tlsStart : (workspaceSystem tlsConfig).initial tlsStart :=
  ⟨_, ⟨sampleDevice, keepingBroker false, by simp [keepingBroker], rfl⟩, rfl⟩

theorem workspace_released_session :
    ∃ finish, (workspaceSystem tlsConfig).Path (fun before action => WorkspaceReleased before ∧
        ∀ after, (workspaceSystem tlsConfig).step before action = some after →
          WorkspaceReleased after) tlsStart
        [.task (.mqtt (.openSession true)), .task (.mqtt (.connect true)),
          .task (.mqtt (.setupEvent (.suback true))), .task (.mqtt .pollFailed)] finish ∧
      finish.system.mqttTask = .sessionBackoff := by
  have executed : ∃ finish, (workspaceSystem tlsConfig).run tlsStart
      [.task (.mqtt (.openSession true)), .task (.mqtt (.connect true)),
        .task (.mqtt (.setupEvent (.suback true))), .task (.mqtt .pollFailed)] = some finish ∧
      finish.system.mqttTask = .sessionBackoff := ⟨_, rfl, rfl⟩
  obtain ⟨finish, executed, task⟩ := executed
  exact ⟨finish, (workspace_released_iff initial_tlsStart).mpr
    (TransitionSystem.path_of_run executed (by simp [SetsUp, MqttAction.failsSetup])), task⟩

/-- The system after a session that could not be set up. -/
def unsetSystem : System :=
  { tlsStart.system with
    mqttHealth := ⟨some .disconnected, 1⟩
    otaStateSeen := 1
    mqttTask := .setupBackoff }

/-- After a session that could not be set up, with the guard still owned at the end of the timer. -/
def unsetState (backoffSecs clock : ℕ) : WorkspaceSystem :=
  ⟨unsetSystem, true, true, .none, backoffSecs, clock, clock, 0⟩

/-- A session that cannot be set up, and its reconnect timer. -/
def failedSetup (backoffSecs : ℕ) : List WorkspaceAction :=
  [.task (.mqtt (.openSession true)), .task (.mqtt (.connect false)), .elapse (1000 * backoffSecs)]

theorem run_failedSetup (backoffSecs clock : ℕ) :
    (workspaceSystem tlsConfig).run (unsetState backoffSecs clock)
        (failedSetup (nextMqttBackoffSecs backoffSecs)) =
      some (unsetState (nextMqttBackoffSecs backoffSecs)
        (clock + 1000 * nextMqttBackoffSecs backoffSecs)) := by
  have opened : (workspaceSystem tlsConfig).step (unsetState backoffSecs clock)
      (.task (.mqtt (.openSession true))) = some ⟨{ unsetSystem with
        mqttTask := .connecting .inactive }, true, true, .none, nextMqttBackoffSecs backoffSecs,
        clock, clock, 0⟩ := by
    simp only [workspaceSystem, workspaceStep, WorkspaceSystem.mqttStep, unsetState,
      Nat.lt_irrefl, and_false, if_false]
    rfl
  rw [failedSetup, TransitionSystem.run_cons, opened]
  rfl

/-- The kept manifest is handed over before the subscription is acknowledged, and `ota_task` starts
the download. -/
def offeredActions : List WorkspaceAction :=
  [.task (.mqtt (.openSession true)), .task (.mqtt (.connect true)),
    .task (.mqtt (.setupEvent .publish)), .task (.mqtt .handOverEarly), .task (.ota .receive),
    .task (.ota .standDown), .task (.ota .lockFlash)]

/-- An attempt to acquire the workspace and the time until the next one. -/
def attemptActions : List WorkspaceAction := [.acquire, .elapse tlsWorkspaceWaitIntervalMs]

/-- While `mqtt_task` keeps the workspace every attempt fails. -/
theorem run_attempts (config : Config) (state : WorkspaceSystem) {manifest : OtaManifest}
    (attempts done : ℕ) (bounded : done + attempts ≤ tlsWorkspaceWaitAttempts)
    (task : state.system.otaTask = .downloading manifest) (inUse : state.inUse = true)
    (waiting : state.otaWorkspace = .waiting done) (ready : state.otaTimer = state.clock) :
    (workspaceSystem config).run state (List.replicate attempts attemptActions).flatten =
      some { state with
        otaWorkspace := .waiting (done + attempts)
        clock := state.clock + attempts * tlsWorkspaceWaitIntervalMs
        otaTimer := state.clock + attempts * tlsWorkspaceWaitIntervalMs } := by
  induction attempts generalizing state done with
  | zero =>
      obtain ⟨system, _, _, _, _, _, _, _⟩ := state
      cases waiting
      cases ready
      simp
  | succ attempts ih =>
      have taken : (workspaceSystem config).run state attemptActions = some { state with
          otaWorkspace := .waiting (done + 1)
          clock := state.clock + tlsWorkspaceWaitIntervalMs
          otaTimer := state.clock + tlsWorkspaceWaitIntervalMs } := by
        have due : done < tlsWorkspaceWaitAttempts ∧ state.otaTimer ≤ state.clock :=
          ⟨by omega, ready.le⟩
        simp [attemptActions, TransitionSystem.run_cons, workspaceSystem, workspaceStep,
          WorkspaceSystem.acquire, task, waiting, due, WorkspaceSystem.tryAcquire, inUse]
      rw [List.replicate_succ, List.flatten_cons]
      refine (TransitionSystem.run_trans taken
        (ih _ (done + 1) (by omega) task inUse rfl rfl)).trans ?_
      simp only [Option.some.injEq, WorkspaceSystem.mk.injEq, OtaWorkspace.waiting.injEq]
      refine ⟨trivial, trivial, trivial, by omega, trivial, ?_, trivial, ?_⟩ <;>
        rw [Nat.succ_mul] <;> omega

theorem acceptManifest_withTls (config : Config) (mqttUseTls : Bool) (bytes : List UInt8) :
    acceptManifest { config with mqttUseTls := mqttUseTls } bytes = acceptManifest config bytes :=
  rfl

/-- The system with the download of the small manifest, after `mqtt_task` has handed it over. -/
def offeredSystem : System :=
  { unsetSystem with
    handedOver := [0]
    otaState := ⟨some .applying, 3⟩
    otaTask := .downloading (smallManifest false) }

theorem run_offered (backoffSecs clock : ℕ) :
    (workspaceSystem tlsConfig).run (unsetState backoffSecs clock) offeredActions =
      some ⟨offeredSystem, true, true, .none, nextMqttBackoffSecs backoffSecs, clock,
        clock + 1000 * nextMqttBackoffSecs backoffSecs, 0⟩ := by
  have copied : copyOtaManifest ⟨tlsConfig.otaTopic, smallPayload false, true, 0⟩
      tlsConfig.otaTopic = some ⟨⟨smallPayload false, 0⟩, true⟩ :=
    copyOtaManifest_keepingBroker false
  have accepted : acceptManifest tlsConfig (smallPayload false) = some (smallManifest false) := by
    rw [tlsConfig, acceptManifest_withTls]
    exact acceptManifest_small false
  let subscribed : System := { unsetSystem with
    broker := ⟨some ⟨smallPayload false, 0⟩, true,
      [⟨tlsConfig.otaTopic, smallPayload false, true, 0⟩], 1⟩
    mqttTask := .awaitingSuback .inactive }
  let forwarding : System := { unsetSystem with
    broker := ⟨some ⟨smallPayload false, 0⟩, true, [], 1⟩
    mqttTask := .forwardingEarly ⟨smallPayload false, 0⟩ }
  let handed : System := { unsetSystem with
    otaCommands := [⟨smallPayload false, 0⟩]
    handedOver := [0] }
  let connected (system : System) : WorkspaceSystem :=
    ⟨system, true, true, .none, nextMqttBackoffSecs backoffSecs, clock, clock, 0⟩
  let ended (system : System) : WorkspaceSystem :=
    ⟨system, true, true, .none, nextMqttBackoffSecs backoffSecs, clock,
      clock + 1000 * nextMqttBackoffSecs backoffSecs, 0⟩
  have opened : (workspaceSystem tlsConfig).step (unsetState backoffSecs clock)
      (.task (.mqtt (.openSession true))) =
        some (connected { unsetSystem with mqttTask := .connecting .inactive }) := by
    simp only [workspaceSystem, workspaceStep, WorkspaceSystem.mqttStep, unsetState,
      Nat.lt_irrefl, and_false, if_false]
    rfl
  have subscribes : (workspaceSystem tlsConfig).step
      (connected { unsetSystem with mqttTask := .connecting .inactive })
      (.task (.mqtt (.connect true))) = some (connected subscribed) := rfl
  have delivered : (workspaceSystem tlsConfig).step (connected subscribed)
      (.task (.mqtt (.setupEvent .publish))) = some (connected forwarding) := by
    simp only [workspaceSystem, workspaceStep, WorkspaceSystem.mqttStep, Tasks.mqttStep, connected,
      subscribed, handleSetupEvent, nextPublish, copied]
    rfl
  have handed_over : (workspaceSystem tlsConfig).step (connected forwarding)
      (.task (.mqtt .handOverEarly)) = some (ended handed) := rfl
  let updating : System := { offeredSystem with
    otaState := ⟨some .downloading, 2⟩
    otaTask := .standingDown (smallManifest false) }
  have accepts : otaStep tlsConfig handed .receive = some updating := by
    have idle : handed.otaTask = .receiving := rfl
    have queue : handed.otaCommands = [⟨smallPayload false, 0⟩] := rfl
    simp only [otaStep, idle, queue, accepted]
    rfl
  have received : (workspaceSystem tlsConfig).step (ended handed) (.task (.ota .receive)) =
      some (ended updating) := by
    have same : (ended handed).system = handed := rfl
    simp only [workspaceSystem, workspaceStep, step, same, accepts]
    rfl
  have downloads : (workspaceSystem tlsConfig).run (ended updating)
      [.task (.ota .standDown), .task (.ota .lockFlash)] = some (ended offeredSystem) := rfl
  simp only [TransitionSystem.run_cons, offeredActions, opened, Option.bind_eq_bind,
    Option.bind_some, subscribes, delivered, handed_over, received] at downloads ⊢
  exact downloads

theorem workspace_kept_in_backoff :
    ∃ state, (workspaceSystem tlsConfig).Reachable state ∧
      state.system.mqttTask = .setupBackoff ∧ state.clock < state.mqttTimer ∧
      state.mqttGuard = true ∧ state.otaWorkspace = .waiting tlsWorkspaceWaitAttempts ∧
      ¬WorkspaceReleased state := by
  have unset : (workspaceSystem tlsConfig).run tlsStart (failedSetup 1) =
      some (unsetState 1 1000) := rfl
  have second : (workspaceSystem tlsConfig).run (unsetState 1 1000) (failedSetup 2) =
      some (unsetState 2 3000) := run_failedSetup 1 1000
  have third : (workspaceSystem tlsConfig).run (unsetState 2 3000) (failedSetup 4) =
      some (unsetState 4 7000) := run_failedSetup 2 3000
  have fourth : (workspaceSystem tlsConfig).run (unsetState 4 7000) (failedSetup 8) =
      some (unsetState 8 15000) := run_failedSetup 4 7000
  have fifth : (workspaceSystem tlsConfig).run (unsetState 8 15000) (failedSetup 16) =
      some (unsetState 16 31000) := run_failedSetup 8 15000
  have offered : (workspaceSystem tlsConfig).run (unsetState 16 31000) offeredActions =
      some ⟨offeredSystem, true, true, .none, 32, 31000, 63000, 0⟩ := run_offered 16 31000
  have attempted : (workspaceSystem tlsConfig).run
      ⟨offeredSystem, true, true, .none, 32, 31000, 63000, 0⟩ attemptActions =
        some ⟨offeredSystem, true, true, .waiting 1, 32, 31100, 63000, 31100⟩ := rfl
  have failed := run_attempts tlsConfig
    ⟨offeredSystem, true, true, .waiting 1, 32, 31100, 63000, 31100⟩ 249 1 (Nat.le_refl 250)
    rfl rfl rfl rfl
  have executed := TransitionSystem.run_trans unset (TransitionSystem.run_trans second
    (TransitionSystem.run_trans third (TransitionSystem.run_trans fourth
      (TransitionSystem.run_trans fifth (TransitionSystem.run_trans offered
        (TransitionSystem.run_trans attempted failed))))))
  refine ⟨_, ⟨tlsStart, _, initial_tlsStart, TransitionSystem.path_of_run executed
    fun _ _ _ => trivial⟩, rfl, by decide, rfl, rfl, ?_⟩
  intro released
  cases released.released rfl

end Tasks
end Motonet
