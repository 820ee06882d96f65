import Motonet.Activation
import Motonet.Tasks.Run

/-!
# The confirmation window

What the tasks do between a boot with an unconfirmed image and its confirmation.  The OTA state is
what protects the window, and every attempt of the OTA task that ends without a reset opens it.
-/

namespace Motonet
namespace Tasks

open OtaCore Firmware Fallible

/-! ## The OTA state in the window -/

/-- Everything that a download needs succeeds. -/
def Completes (config : Config) (env : Environment) (manifest : OtaManifest) (device : Device) :
    Prop :=
  Installable config.crypto config.serde env config.otaEncryptionMasterKey manifest
      device.selected.next ∧
    env.faults.activate = none ∧ env.faults.setState = none

/-- The first poll of `ota_confirm_task`, and the attempts of `ota_task`. -/
inductive AttemptEvent
  | polled
  /-- `ota_task` accepts a manifest. -/
  | accepted
  /-- An attempt is given up, fails or ends in a reset. -/
  | ended
  deriving DecidableEq, Repr

/-- What a step shows of the attempts. -/
def attemptEvents (_ : System) (action : Action) (after : System) : List AttemptEvent :=
  match action with
  | .confirm .start => [.polled]
  | .ota .receive =>
      match after.otaTask with
      | .standingDown _ => [.accepted]
      | _ => []
  | .ota .standDownTimeout | .ota (.finish _) => [.ended]
  | _ => []

/-- The whole system with a journal of the attempts. -/
def attemptSystem (config : Config) : TransitionSystem (System × List AttemptEvent) Action :=
  (taskSystem config).journaled attemptEvents

/-- `ota_confirm_task` reads from the boot metadata that the image awaits confirmation. -/
def FindsPending (system : System) (openFault readFault : Option PartitionError) : Prop :=
  openFault = none ∧ readFault = none ∧
    (system.device.imageState system.device.selected).awaitsConfirmation = true

/-- While an image that was found pending is not marked valid, no attempt ends without a reset; and
if one ended after the first poll of `ota_confirm_task`, another was accepted before the image is
found pending. -/
def EndsInReset (config : Config) (state : System × List AttemptEvent) : Action → Prop
  | .ota .standDownTimeout => state.1.confirmTask.holdsPending = false
  | .ota (.finish env) => state.1.confirmTask.holdsPending = true →
      ∀ manifest, state.1.otaTask = .downloading manifest →
        Completes config env manifest state.1.device
  | .confirm (.check openFault readFault) =>
      FindsPending state.1 openFault readFault → state.2.head? ≠ some .ended
  | _ => True

/-- From finding the image pending until marking it valid the OTA state is not inactive, and neither
radio capture nor UI input is allowed. -/
def WindowBlocked (system : System) : Prop :=
  system.confirmTask.holdsPending = true →
    ∃ state, system.otaState.value = some state ∧ state ≠ .inactive ∧
      isRadioCaptureAllowed state = false ∧ isUiInputAllowed state = false

/-- What the journal says about the OTA state. -/
structure AttemptsKnown (state : System × List AttemptEvent) : Prop where
  published : ∃ otaState, state.1.otaState.value = some otaState
  /-- An attempt that is under way has not ended. -/
  otaTask : state.1.otaTask ≠ .receiving → state.2.head? ≠ some .ended
  /-- Before the image is found pending only the end of an attempt makes the OTA state inactive. -/
  checking : state.1.confirmTask = .lockingForCheck →
    (state.1.otaState.value = some .inactive ↔ state.2.head? = some .ended)

section Blocked

variable {config : Config} {before after : System} {journal : List AttemptEvent}

theorem windowBlocked_booted (device : Device) (broker : Broker) (handedOver : List ℕ) :
    WindowBlocked (System.booted device broker handedOver) := nofun

theorem attemptsKnown_booted (device : Device) (broker : Broker) (handedOver : List ℕ)
    (journal : List AttemptEvent) :
    AttemptsKnown (System.booted device broker handedOver, journal) :=
  ⟨⟨_, rfl⟩, fun busy => absurd rfl busy, nofun⟩

/-- An OTA state that is not inactive blocks the window. -/
theorem windowBlocked_of_value {state : OtaState} (value : after.otaState.value = some state)
    (active : state ≠ .inactive) : WindowBlocked after :=
  fun _ => ⟨state, value, active, decide_eq_false active, decide_eq_false active⟩

/-- An inactive OTA state leaves the window open. -/
theorem windowBlocked_inactive_iff (inactive : after.otaState.value = some .inactive) :
    WindowBlocked after ↔ after.confirmTask.holdsPending = false := by
  constructor
  · intro blocked
    by_contra pending
    obtain ⟨state, value, active, -⟩ := blocked (Bool.eq_true_of_not_eq_false pending)
    exact active (Option.some.inj (value.symm.trans inactive))
  · intro idle pending
    cases idle.symm.trans pending

/-- A download returns exactly if everything that it needs succeeds. -/
theorem completes_iff {env : Environment} {manifest : OtaManifest} {device : Device} :
    Completes config env manifest device ↔
      ∃ final, install config env manifest device = (.ok (), final) := by
  have ends := install_outcome config env manifest device
  generalize install config env manifest device = outcome at ends ⊢
  constructor
  · rintro ⟨installable, activated, marked⟩
    cases ends with
    | refused error after refused _ => exact absurd installable refused
    | notActivated error downloaded _ failed => exact absurd activated failed
    | notMarked error downloaded _ _ unmarked => exact absurd marked unmarked
    | installed downloaded => exact ⟨_, rfl⟩
  · rintro ⟨final, rfl⟩
    cases ends with
    | installed downloaded installs activated marked =>
        obtain ⟨keys, body, image, rest, verified, -⟩ := installs
        exact ⟨⟨keys, body, image, rest, verified⟩, activated, marked⟩

theorem AttemptsKnown.otaStep {action : OtaAction} (known : AttemptsKnown (before, journal))
    (taken : OtaStep config before action after) :
    AttemptsKnown (after, attemptEvents before (.ota action) after ++ journal) := by
  obtain ⟨published, otaTask, checking⟩ := known
  cases taken with
  | @rejected command commands task =>
      have nothing : attemptEvents before (.ota .receive)
          { before with otaCommands := commands } = [] := by
        simp only [attemptEvents, task]
      rw [nothing]
      exact ⟨published, otaTask, checking⟩
  | accepted => exact ⟨⟨_, rfl⟩, nofun, fun _ => by simp [attemptEvents]⟩
  | standDown task =>
      have unended : journal.head? ≠ some .ended := otaTask (by simp [task])
      exact ⟨⟨_, rfl⟩, fun _ => unended, fun _ => by simp [attemptEvents, unended]⟩
  | standDownTimeout | failed =>
      exact ⟨⟨_, rfl⟩, fun busy => absurd rfl busy, fun _ => by simp [attemptEvents]⟩
  | lockFlash task =>
      have unended : journal.head? ≠ some .ended := otaTask (by simp [task])
      exact ⟨published, fun _ => unended, checking⟩
  | installed => exact attemptsKnown_booted _ _ _ _

/-- What the journal says is true after every step. -/
theorem AttemptsKnown.step {action : Action} {shown : List AttemptEvent}
    (known : AttemptsKnown (before, journal))
    (taken : (attemptSystem config).step (before, journal) action = some (after, shown)) :
    AttemptsKnown (after, shown) := by
  obtain ⟨moved, entries⟩ := TransitionSystem.journaled_step_eq_some_iff.mp taken
  dsimp only at moved entries
  subst entries
  cases action with
  | ota action => exact known.otaStep (.of_step moved)
  | confirm action =>
      obtain ⟨published, otaTask, checking⟩ := known
      cases OtaConfirmStep.of_step moved with
      | started => exact ⟨⟨_, rfl⟩, nofun, fun _ => by simp [attemptEvents]⟩
      | foundPending => exact ⟨published, otaTask, nofun⟩
      | notPending | marked => exact ⟨⟨_, rfl⟩, otaTask, nofun⟩
      | @polled _ task _ _ still =>
          refine ⟨published, otaTask, ?_⟩
          rintro rfl
          cases still
      | notMarked | sent => exact ⟨published, otaTask, nofun⟩
  | mqtt action =>
      rcases (MqttStep.of_step moved).outside with outside | rfl
      · obtain ⟨published, otaTask, checking⟩ := known
        refine ⟨?_, ?_, ?_⟩ <;>
          simp only [outside.otaState, outside.otaTask, outside.confirmTask]
        · exact published
        · exact otaTask
        · exact checking
      · exact attemptsKnown_booted _ _ _ _
  | operatorPublish payload retain =>
      cases moved
      exact ⟨known.published, known.otaTask, known.checking⟩
  | queueReading reading =>
      obtain ⟨commands, rfl⟩ := step_queueReading moved
      exact ⟨known.published, known.otaTask, known.checking⟩
  | powerCycle progress =>
      cases moved
      exact attemptsKnown_booted _ _ _ _

theorem windowBlocked_otaStep_iff {action : OtaAction} (blocked : WindowBlocked before)
    (taken : OtaStep config before action after) :
    WindowBlocked after ↔ EndsInReset config (before, journal) (.ota action) := by
  cases taken with
  | rejected | lockFlash => exact iff_of_true blocked trivial
  | accepted => exact iff_of_true (windowBlocked_of_value rfl nofun) trivial
  | standDown => exact iff_of_true (windowBlocked_of_value rfl nofun) trivial
  | standDownTimeout => exact windowBlocked_inactive_iff rfl
  | @installed env manifest device task installs =>
      refine iff_of_true (windowBlocked_booted _ _ _) fun _ other also => ?_
      obtain rfl := OtaTask.downloading.inj (task.symm.trans also)
      exact completes_iff.mpr ⟨device, installs⟩
  | @failed env manifest halt device task installs =>
      have incomplete : ¬ Completes config env manifest before.device := by
        intro completes
        obtain ⟨final, completed⟩ := completes_iff.mp completes
        cases installs.symm.trans completed
      rw [windowBlocked_inactive_iff rfl]
      constructor
      · intro idle pending
        cases idle.symm.trans pending
      · intro ends
        by_contra pending
        exact incomplete (ends (Bool.eq_true_of_not_eq_false pending) manifest task)

theorem windowBlocked_otaConfirmStep_iff {action : OtaConfirmAction}
    (known : AttemptsKnown (before, journal)) (blocked : WindowBlocked before)
    (taken : OtaConfirmStep before action after) :
    WindowBlocked after ↔ EndsInReset config (before, journal) (.confirm action) := by
  cases taken with
  | started => exact iff_of_true nofun trivial
  | foundPending task pending opened read =>
      have found : FindsPending before _ _ := ⟨opened, read, pending⟩
      obtain ⟨state, value⟩ := known.published
      have checking := known.checking task
      constructor
      · intro blocked _ ended
        obtain ⟨state, value, active, -⟩ := blocked rfl
        exact active (Option.some.inj (value.symm.trans (checking.mpr ended)))
      · intro unended
        refine windowBlocked_of_value value fun inactive => unended found (checking.mp ?_)
        rw [value, inactive]
  | notPending task read =>
      refine iff_of_true nofun ?_
      rintro ⟨openFault, readFault, pending⟩
      rcases read pending with faulty | faulty
      · exact absurd openFault faulty
      · exact absurd readFault faulty
  | polled pending => exact iff_of_true (fun _ => blocked pending) trivial
  | notMarked task => exact iff_of_true (fun _ => blocked (by rw [task]; rfl)) trivial
  | marked | sent => exact iff_of_true nofun trivial

/-- A step keeps the window blocked exactly if it ends no attempt in it without a reset. -/
theorem windowBlocked_step_iff {action : Action} (known : AttemptsKnown (before, journal))
    (blocked : WindowBlocked before)
    (taken : (taskSystem config).step before action = some after) :
    WindowBlocked after ↔ EndsInReset config (before, journal) action := by
  cases action with
  | ota action => exact windowBlocked_otaStep_iff blocked (.of_step taken)
  | confirm action => exact windowBlocked_otaConfirmStep_iff known blocked (.of_step taken)
  | mqtt action =>
      refine iff_of_true ?_ trivial
      rcases (MqttStep.of_step taken).outside with outside | rfl
      · rw [WindowBlocked, outside.confirmTask, outside.otaState]
        exact blocked
      · exact windowBlocked_booted _ _ _
  | operatorPublish payload retain =>
      cases taken
      exact iff_of_true blocked trivial
  | queueReading reading =>
      obtain ⟨commands, rfl⟩ := step_queueReading taken
      exact iff_of_true blocked trivial
  | powerCycle progress =>
      cases taken
      exact iff_of_true (windowBlocked_booted _ _ _) trivial

end Blocked

/-- In a run of the whole system the window is blocked throughout exactly if no attempt ends in it
without a reset, and none has ended without a successor when the image is found pending. -/
theorem window_blocked_iff {config : Config} {start : System} {actions : List Action}
    {finish : System × List AttemptEvent} (initial : Initial start) :
    (attemptSystem config).Path (fun before action => WindowBlocked before.1 ∧
        ∀ after, (attemptSystem config).step before action = some after → WindowBlocked after.1)
        (start, []) actions finish ↔
      (attemptSystem config).Path (EndsInReset config) (start, []) actions finish := by
  obtain ⟨device, broker, -, rfl⟩ := initial
  refine TransitionSystem.path_holds_iff (fun _ _ _ known taken => known.step taken) ?_
    (attemptsKnown_booted _ _ _ _) (windowBlocked_booted _ _ _)
  rintro ⟨before, journal⟩ action after known blocked taken
  exact windowBlocked_step_iff known blocked
    (TransitionSystem.journaled_step_eq_some_iff.mp taken).1

/-- The sample device with an image that awaits confirmation. -/
def pendingDevice : Device :=
  sampleDevice.setState .pendingVerify

/-- The unconfirmed device just after a boot. -/
def unconfirmedStart (broker : Broker) : System :=
  System.booted pendingDevice broker []

/-- `ota_confirm_task` reads the boot metadata. -/
def confirmActions (readFault : Option PartitionError) : List Action :=
  [.confirm .start, .confirm (.check none readFault)]

theorem initial_unconfirmedStart {broker : Broker}
    (known : ∀ kept ∈ broker.retained, kept.id < broker.published) :
    Initial (unconfirmedStart broker) :=
  ⟨pendingDevice, broker, known, rfl⟩

/-- The unconfirmed device after it has found its image pending. -/
def pendingStart (broker : Broker) : System :=
  { unconfirmedStart broker with
    otaState := (unconfirmedStart broker).otaState.send .pendingConfirmation
    confirmTask := .warmingUp }

theorem waiting_pendingStart (broker : Broker) : Waiting (pendingStart broker) :=
  ⟨.inl rfl, rfl, rfl, rfl, rfl⟩

theorem run_confirmActions (config : Config) (broker : Broker) :
    (taskSystem config).run (unconfirmedStart broker) (confirmActions none) =
      some (pendingStart broker) := rfl

theorem window_blocked_iff_warmingUp :
    (attemptSystem (smallConfig false)).Path (fun before action => WindowBlocked before.1 ∧
        ∀ after, (attemptSystem (smallConfig false)).step before action = some after →
          WindowBlocked after.1)
      (unconfirmedStart quietBroker, []) (confirmActions none)
      (pendingStart quietBroker, [.polled]) := by
  have start : (attemptSystem (smallConfig false)).Path (EndsInReset (smallConfig false))
      (unconfirmedStart quietBroker, []) [] (unconfirmedStart quietBroker, []) := .nil
  have started := start.snoc
    (show EndsInReset (smallConfig false) _ (.confirm .start) from trivial)
    (show _ = some (_, [.polled]) from rfl)
  have checked := started.snoc
    (show EndsInReset (smallConfig false) (_, [.polled]) (.confirm (.check none none)) from
      fun _ => by simp)
    (show _ = some (pendingStart quietBroker, [.polled]) from rfl)
  exact (window_blocked_iff (initial_unconfirmedStart (by simp [quietBroker]))).mpr checked

/-- A live command whose download fails makes the OTA state inactive while the image awaits
confirmation. -/
theorem window_opened :
    Initial (unconfirmedStart quietBroker) ∧
      ∃ final, (taskSystem (smallConfig false)).run (unconfirmedStart quietBroker)
          (confirmActions none ++ liveActions (smallPayload false) unreachable) = some final ∧
        final.confirmTask.holdsPending = true ∧ final.otaState.value = some .inactive := by
  refine ⟨initial_unconfirmedStart (by simp [quietBroker]), ?_⟩
  obtain ⟨final, executed, attempted⟩ := run_live (waiting_pendingStart quietBroker) rfl rfl
    (smallPayload_ne_nil false) (length_smallPayload_le false) (acceptManifest_small false)
    (install_unreachable false _)
  exact ⟨final, TransitionSystem.run_trans (run_confirmActions _ _) executed,
    by rw [attempted.confirmTask]; rfl, attempted.otaState⟩

/-! ## No attempt before confirmation -/

/-- The manifest is verified and has `force = true`. -/
def Forced (config : Config) (bytes : List UInt8) : Prop :=
  ∃ manifest, OtaManifest.parseAndVerify config.serde config.otaManifestVerifier bytes =
    .ok manifest ∧ manifest.force = true

/-- While the image awaits confirmation, every manifest that is delivered is one that `ota_task`
rejects, or a retained one without force that `mqtt_task` handles with the OTA state
PendingConfirmation. -/
def HeldBack (config : Config) (system : System) : Action → Prop
  | .mqtt (.setupEvent .publish) | .mqtt (.event .publish) =>
      system.unconfirmed = true → ∀ publish inbox manifest,
        system.broker.inbox = publish :: inbox →
        copyOtaManifest publish config.otaTopic = some manifest →
        acceptManifest config manifest.command.bytes = none ∨
          manifest.retained = true ∧ system.deliveryState = .pendingConfirmation ∧
            ¬ Forced config manifest.command.bytes
  | _ => True

/-- While the image awaits confirmation, nothing was prepared, and no manifest that would be
accepted is on its way. -/
structure Unprepared (config : Config) (system : System) : Prop where
  journal : ∀ event ∈ system.device.journal, ∀ slot, ¬ event.InSlot slot
  otaTask : system.otaTask = .receiving
  otaCommands : ∀ command ∈ system.otaCommands, acceptManifest config command.bytes = none
  pending : ∀ command ∈ system.mqttTask.pending, acceptManifest config command.bytes = none

section Unconfirmed

variable {config : Config} {before after : System}

theorem unprepared_booted (device : Device) (broker : Broker) (handedOver : List ℕ) :
    Unprepared config (System.booted device broker handedOver) :=
  ⟨nofun, rfl, nofun, nofun⟩

/-- A retained manifest without force is not forwarded while confirmation is pending. -/
theorem resolveOtaManifestAction_pending {bytes : List UInt8} (unforced : ¬ Forced config bytes) :
    resolveOtaManifestAction config .pendingConfirmation true bytes = .clearRetainedOnly := by
  simp only [resolveOtaManifestAction, classifyOtaManifestDelivery]
  cases verified : OtaManifest.parseAndVerify config.serde config.otaManifestVerifier bytes with
  | error error => rfl
  | ok manifest =>
      cases force : manifest.force with
      | false => simp [force]
      | true => exact absurd ⟨manifest, verified, force⟩ unforced

theorem Unprepared.otaStep {action : OtaAction}
    (holds : before.unconfirmed = true → Unprepared config before)
    (taken : OtaStep config before action after) (unconfirmed : after.unconfirmed = true) :
    Unprepared config after := by
  cases taken with
  | rejected task queue =>
      obtain ⟨journal, -, otaCommands, pending⟩ := holds unconfirmed
      rw [queue] at otaCommands
      exact ⟨journal, task, fun command member => otaCommands command (.tail _ member), pending⟩
  | accepted task queue accepted =>
      have rejected := (holds unconfirmed).otaCommands
      rw [queue] at rejected
      cases accepted.symm.trans (rejected _ List.mem_cons_self)
  | standDown task | standDownTimeout task | lockFlash task | failed task =>
      cases (holds unconfirmed).otaTask.symm.trans task
  | installed => exact unprepared_booted _ _ _

theorem Unprepared.otaConfirmStep {action : OtaConfirmAction}
    (holds : before.unconfirmed = true → Unprepared config before)
    (taken : OtaConfirmStep before action after) (unconfirmed : after.unconfirmed = true) :
    Unprepared config after := by
  cases taken with
  | started | foundPending | notPending | polled | sent =>
      obtain ⟨journal, otaTask, otaCommands, pending⟩ := holds unconfirmed
      exact ⟨journal, otaTask, otaCommands, pending⟩
  | marked => cases unconfirmed
  | notMarked task device_eq =>
      obtain ⟨journal, otaTask, otaCommands, pending⟩ := holds unconfirmed
      refine ⟨?_, otaTask, otaCommands, pending⟩
      rcases device_eq with rfl | rfl
      · exact journal
      intro event member
      rcases List.mem_append.mp member with early | late
      · exact journal event early
      · cases List.mem_singleton.mp late
        exact fun _ => id

theorem Unprepared.mqttStep {action : MqttAction} (holds : Unprepared config before)
    (heldBack : HeldBack config before (.mqtt action)) (unconfirmed : before.unconfirmed = true)
    (taken : MqttStep config before action after) : Unprepared config after := by
  obtain ⟨journal, otaTask, otaCommands, pending⟩ := holds
  have keep : ∀ {next : System}, Outside before next → next.otaCommands = before.otaCommands →
      (∀ command ∈ next.mqttTask.pending, acceptManifest config command.bytes = none) →
      Unprepared config next := by
    intro next outside queue rejected
    refine ⟨?_, outside.otaTask.trans otaTask, ?_, rejected⟩
    · rwa [outside.device]
    · rwa [queue]
  cases taken with
  | moved quiet _ _ nothing | subscribed quiet _ _ nothing | cleared _ quiet _ _ nothing =>
      exact keep quiet.toOutside quiet.otaCommands (by simp [nothing])
  | received delivery quiet _ _ _ _ next _ forwarded =>
      rcases forwarded with ⟨nothing, -⟩ | ⟨manifest, copied, forwards, waits⟩
      · exact keep quiet.toOutside quiet.otaCommands (by simp [nothing])
      refine keep quiet.toOutside quiet.otaCommands fun command member => ?_
      obtain rfl := Option.some.inj (waits.symm.trans member)
      have only : acceptManifest config manifest.command.bytes = none ∨
          manifest.retained = true ∧ before.deliveryState = .pendingConfirmation ∧
            ¬ Forced config manifest.command.bytes := by
        rcases delivery with rfl | rfl
        · exact heldBack unconfirmed _ _ _ next copied
        · exact heldBack unconfirmed _ _ _ next copied
      rcases only with rejected | ⟨retained, state, unforced⟩
      · exact rejected
      · rw [state, retained] at forwards
        exact absurd (resolveOtaManifestAction_pending unforced) forwards
  | handedOver outside waits queue _ still =>
      refine ⟨?_, outside.otaTask.trans otaTask, ?_, by simp [still]⟩
      · rwa [outside.device]
      · intro command member
        rw [(Channel.trySend_eq_some_iff.mp queue).2] at member
        rcases List.mem_append.mp member with early | late
        · exact otaCommands command early
        · exact pending command (by rw [List.mem_singleton.mp late]; exact waits)
  | slept => exact unprepared_booted _ _ _

/-- While the image awaits confirmation and manifests are held back, a step prepares nothing. -/
theorem Unprepared.step {action : Action}
    (holds : before.unconfirmed = true → Unprepared config before)
    (heldBack : HeldBack config before action)
    (taken : (taskSystem config).step before action = some after)
    (unconfirmed : after.unconfirmed = true) : Unprepared config after := by
  cases action with
  | ota action => exact otaStep holds (.of_step taken) unconfirmed
  | confirm action => exact otaConfirmStep holds (.of_step taken) unconfirmed
  | mqtt action =>
      have taken : MqttStep config before action after := .of_step taken
      rcases taken.outside with outside | rfl
      · have earlier : before.unconfirmed = true := outside.unconfirmed.symm.trans unconfirmed
        exact (holds earlier).mqttStep heldBack earlier taken
      · exact unprepared_booted _ _ _
  | operatorPublish payload retain =>
      cases taken
      obtain ⟨journal, otaTask, otaCommands, pending⟩ := holds unconfirmed
      exact ⟨journal, otaTask, otaCommands, pending⟩
  | queueReading reading =>
      obtain ⟨commands, rfl⟩ := step_queueReading taken
      obtain ⟨journal, otaTask, otaCommands, pending⟩ := holds unconfirmed
      exact ⟨journal, otaTask, otaCommands, pending⟩
  | powerCycle progress =>
      cases taken
      exact unprepared_booted _ _ _

end Unconfirmed

/-- In every run in which the manifests that are delivered to an unconfirmed image are held back:
while the image awaits confirmation, no slot is prepared, erased or written, and no download is
under way. -/
theorem nothing_prepared_before_confirmation {config : Config} {start final : System}
    {actions : List Action} (initial : Initial start)
    (path : (taskSystem config).Path (HeldBack config) start actions final)
    (unconfirmed : final.unconfirmed = true) :
    (∀ event ∈ final.device.journal, ∀ slot, ¬ event.InSlot slot) ∧
      ∀ manifest, final.otaTask ≠ .downloading manifest := by
  obtain ⟨device, broker, -, rfl⟩ := initial
  have holds : final.unconfirmed = true → Unprepared config final :=
    path.invariant (fun system => system.unconfirmed = true → Unprepared config system)
      (fun _ _ _ holds heldBack taken => Unprepared.step holds heldBack taken)
      (fun _ => unprepared_booted _ _ _)
  refine ⟨(holds unconfirmed).journal, fun manifest task => ?_⟩
  cases (holds unconfirmed).otaTask.symm.trans task

/-! ## The order that holds manifests back -/

/-- A manifest that the next message carries is retained and not forced. -/
def RetainedOnly (config : Config) (system : System) : Prop :=
  ∀ publish inbox manifest, system.broker.inbox = publish :: inbox →
    copyOtaManifest publish config.otaTopic = some manifest →
    manifest.retained = true ∧ ¬ Forced config manifest.command.bytes

/-- `ota_confirm_task` is polled before `mqtt_task` and can read the boot metadata, and while the
image awaits confirmation only retained manifests without force are delivered. -/
def Orderly (config : Config) (system : System) : Action → Prop
  | .mqtt (.openSession _) => system.confirmTask ≠ .notStarted
  | .confirm (.check openFault readFault) => openFault = none ∧ readFault = none
  | .mqtt (.setupEvent .publish) | .mqtt (.event .publish) =>
      system.unconfirmed = true → RetainedOnly config system
  | _ => True

/-- While the image awaits confirmation, the OTA state is PendingConfirmation from the first poll of
`ota_confirm_task` on, and so is every state that `mqtt_task` has read. -/
structure Confirming (system : System) : Prop where
  awaits : (system.device.imageState system.device.selected).awaitsConfirmation = true
  otaTask : system.otaTask = .receiving
  otaCommands : system.otaCommands = []
  pending : system.mqttTask.pending = none
  notStarted : system.confirmTask = .notStarted → system.mqttTask = .notStarted
  otaState : system.confirmTask ≠ .notStarted → system.otaState.value = some .pendingConfirmation
  given : ∀ otaState, system.mqttTask.given = some otaState → otaState = .pendingConfirmation
  confirmTask : system.confirmTask = .notStarted ∨ system.confirmTask = .lockingForCheck ∨
    system.confirmTask.holdsPending = true

section InOrder

variable {config : Config} {before after : System}

theorem confirming_booted (device : Device) (broker : Broker) (handedOver : List ℕ)
    (unconfirmed : (System.booted device broker handedOver).unconfirmed = true) :
    Confirming (System.booted device broker handedOver) :=
  ⟨unconfirmed, rfl, rfl, rfl, fun _ => rfl, fun started => absurd rfl started, nofun, .inl rfl⟩

theorem Confirming.otaStep {action : OtaAction}
    (holds : before.unconfirmed = true → Confirming before)
    (taken : OtaStep config before action after) (unconfirmed : after.unconfirmed = true) :
    Confirming after := by
  cases taken with
  | rejected _ queue | accepted _ queue => cases (holds unconfirmed).otaCommands.symm.trans queue
  | standDown task | standDownTimeout task | lockFlash task | failed task =>
      cases (holds unconfirmed).otaTask.symm.trans task
  | installed => exact confirming_booted _ _ _ unconfirmed

theorem Confirming.otaConfirmStep {action : OtaConfirmAction}
    (holds : before.unconfirmed = true → Confirming before)
    (orderly : Orderly config before (.confirm action))
    (taken : OtaConfirmStep before action after) (unconfirmed : after.unconfirmed = true) :
    Confirming after := by
  have earlier : before.unconfirmed = true := by
    cases taken with
    | marked => cases unconfirmed
    | _ => exact unconfirmed
  have held : before.confirmTask.holdsPending = true → before.confirmTask ≠ .notStarted := by
    rintro pending task
    rw [task] at pending
    cases pending
  obtain ⟨awaits, otaTask, otaCommands, nothing, notStarted, otaState, given, confirmTask⟩ :=
    holds earlier
  cases taken with
  | started task =>
      exact ⟨awaits, otaTask, otaCommands, nothing, nofun, fun _ => rfl, given, .inr (.inl rfl)⟩
  | foundPending task =>
      exact ⟨awaits, otaTask, otaCommands, nothing, nofun, fun _ => otaState (by simp [task]),
        given, .inr (.inr rfl)⟩
  | notPending task read =>
      obtain ⟨openFault, readFault⟩ := orderly
      rcases read awaits with faulty | faulty
      · exact absurd openFault faulty
      · exact absurd readFault faulty
  | @polled _ task _ pending still =>
      refine ⟨awaits, otaTask, otaCommands, nothing, ?_, fun _ => otaState (held pending), given,
        .inr (.inr still)⟩
      rintro rfl
      cases still
  | marked => cases unconfirmed
  | notMarked task device_eq =>
      have started : before.confirmTask ≠ .notStarted := by simp [task]
      rcases device_eq with rfl | rfl <;>
        exact ⟨awaits, otaTask, otaCommands, nothing, nofun, fun _ => otaState started, given,
          .inr (.inr rfl)⟩
  | sent task =>
      rw [task] at confirmTask
      rcases confirmTask with nothing | nothing | nothing <;> cases nothing

/-- An orderly step of `mqtt_task` holds a manifest back, and the OTA state stays as it is. -/
theorem Confirming.mqttStep {action : MqttAction} (holds : Confirming before)
    (orderly : Orderly config before (.mqtt action)) (unconfirmed : before.unconfirmed = true)
    (taken : mqttStep config before action = some after) :
    HeldBack config before (.mqtt action) ∧ (after.unconfirmed = true → Confirming after) := by
  have started : before.confirmTask ≠ .notStarted := by
    intro task
    obtain ⟨workspaceFree, rfl⟩ := mqttStep_notStarted (holds.notStarted task) taken
    exact orderly task
  have current : before.currentOtaState = .pendingConfirmation := by
    rw [System.currentOtaState, holds.otaState started]
    rfl
  have pending : before.deliveryState = .pendingConfirmation := by
    rw [System.deliveryState, current]
    cases given : before.mqttTask.given with
    | none => rfl
    | some otaState => exact holds.given otaState given
  have heldBack : HeldBack config before (.mqtt action) := by
    have only : RetainedOnly config before → ∀ publish inbox manifest,
        before.broker.inbox = publish :: inbox →
        copyOtaManifest publish config.otaTopic = some manifest →
        acceptManifest config manifest.command.bytes = none ∨
          manifest.retained = true ∧ before.deliveryState = .pendingConfirmation ∧
            ¬ Forced config manifest.command.bytes := by
      intro only publish inbox manifest next copied
      obtain ⟨retained, unforced⟩ := only publish inbox manifest next copied
      exact .inr ⟨retained, pending, unforced⟩
    cases action with
    | setupEvent event | event event =>
        cases event with
        | publish => exact fun _ => only (orderly unconfirmed)
        | suback accepted | other => trivial
    | _ => trivial
  have keep : Outside before after → after.otaCommands = before.otaCommands →
      after.mqttTask.pending = none → GivenCurrent before after → Confirming after := by
    intro outside otaCommands nothing given
    refine ⟨?_, outside.otaTask.trans holds.otaTask, otaCommands.trans holds.otaCommands, nothing,
      ?_, ?_, ?_, ?_⟩
    · rw [outside.device]
      exact holds.awaits
    · rw [outside.confirmTask]
      exact fun task => absurd task started
    · rw [outside.otaState]
      exact fun _ => holds.otaState started
    · intro otaState same
      rcases given otaState same with earlier | now
      · exact holds.given otaState earlier
      · exact now.trans current
    · rw [outside.confirmTask]
      exact holds.confirmTask
  refine ⟨heldBack, fun still => ?_⟩
  cases MqttStep.of_step taken with
  | moved quiet given _ nothing | subscribed quiet given _ nothing
  | cleared _ quiet given _ nothing =>
      exact keep quiet.toOutside quiet.otaCommands nothing given
  | received delivery quiet given _ _ _ next _ forwarded =>
      rcases forwarded with ⟨nothing, -⟩ | ⟨manifest, copied, action, _⟩
      · exact keep quiet.toOutside quiet.otaCommands nothing given
      · have only : RetainedOnly config before := by
          rcases delivery with rfl | rfl
          · exact orderly unconfirmed
          · exact orderly unconfirmed
        obtain ⟨retained, unforced⟩ := only _ _ _ next copied
        rw [pending, retained] at action
        exact absurd (resolveOtaManifestAction_pending unforced) action
  | handedOver _ waits => cases holds.pending.symm.trans waits
  | slept => exact confirming_booted _ _ _ still

/-- An orderly step holds manifests back. -/
theorem Confirming.step {action : Action} (holds : before.unconfirmed = true → Confirming before)
    (orderly : Orderly config before action)
    (taken : (taskSystem config).step before action = some after) :
    HeldBack config before action ∧ (after.unconfirmed = true → Confirming after) := by
  cases action with
  | ota action => exact ⟨trivial, otaStep holds (.of_step taken)⟩
  | confirm action => exact ⟨trivial, otaConfirmStep holds orderly (.of_step taken)⟩
  | mqtt action =>
      cases unconfirmed : before.unconfirmed with
      | true => exact (holds unconfirmed).mqttStep orderly unconfirmed taken
      | false =>
          refine ⟨?_, fun still => ?_⟩
          · have confirmed : ¬ before.unconfirmed = true := by simp [unconfirmed]
            cases action with
            | setupEvent event | event event =>
                cases event with
                | publish => exact fun still => absurd still confirmed
                | suback accepted | other => trivial
            | _ => trivial
          · rcases (MqttStep.of_step taken).outside with outside | rfl
            · cases unconfirmed.symm.trans (outside.unconfirmed.symm.trans still)
            · exact confirming_booted _ _ _ still
  | operatorPublish payload retain =>
      cases taken
      refine ⟨trivial, fun unconfirmed => ?_⟩
      obtain ⟨awaits, otaTask, otaCommands, nothing, notStarted, otaState, given, confirmTask⟩ :=
        holds unconfirmed
      exact ⟨awaits, otaTask, otaCommands, nothing, notStarted, otaState, given, confirmTask⟩
  | queueReading reading =>
      obtain ⟨commands, rfl⟩ := step_queueReading taken
      refine ⟨trivial, fun unconfirmed => ?_⟩
      obtain ⟨awaits, otaTask, otaCommands, nothing, notStarted, otaState, given, confirmTask⟩ :=
        holds unconfirmed
      exact ⟨awaits, otaTask, otaCommands, nothing, notStarted, otaState, given, confirmTask⟩
  | powerCycle progress =>
      cases taken
      exact ⟨trivial, confirming_booted _ _ _⟩

end InOrder

/-- In an orderly run the manifests that are delivered to an unconfirmed image are held back. -/
theorem heldBack_of_orderly {config : Config} {start final : System} {actions : List Action}
    (initial : Initial start)
    (path : (taskSystem config).Path (Orderly config) start actions final) :
    (taskSystem config).Path (HeldBack config) start actions final := by
  obtain ⟨device, broker, -, rfl⟩ := initial
  exact (path.imp (fun system => system.unconfirmed = true → Confirming system)
    (fun _ _ _ holds orderly taken => Confirming.step holds orderly taken)
    (confirming_booted _ _ _)).2

/-! ## Runs in which manifests arrive -/

theorem initial_keepingBroker (force : Bool) : Initial (unconfirmedStart (keepingBroker force)) :=
  initial_unconfirmedStart (by simp [keepingBroker])

theorem resolveOtaManifestAction_small (force : Bool) :
    resolveOtaManifestAction (smallConfig force) .pendingConfirmation true (smallPayload force) =
      if force then .forwardAndClearRetained else .clearRetainedOnly := by
  have parsed := parseAndVerify_smallPayload force
  simp only [resolveOtaManifestAction, classifyOtaManifestDelivery, parsed]
  rfl

/-- The retained manifest is cleared while confirmation is pending. -/
def clearActions : List Action :=
  [.mqtt (.openSession true), .mqtt (.connect true), .mqtt (.setupEvent .publish),
    .mqtt (.clearedEarly true)]

theorem path_clearActions :
    ∃ final, (taskSystem (smallConfig false)).Path (HeldBack (smallConfig false))
        (pendingStart (keepingBroker false)) clearActions final ∧
      final.unconfirmed = true ∧ final.broker.retained = none := by
  have copied := copyOtaManifest_keepingBroker false
  have unforced : ¬ Forced (smallConfig false) (smallPayload false) := by
    rintro ⟨manifest, verified, forced⟩
    obtain rfl := Except.ok.inj ((parseAndVerify_smallPayload false).symm.trans verified)
    cases forced
  let waiting : System := { pendingStart (keepingBroker false) with
    mqttHealth := Watch.empty.send .disconnected
    otaStateSeen := 2
    mqttTask := .connecting .pendingConfirmation }
  let subscribed : System := { waiting with
    broker := ⟨some ⟨smallPayload false, 0⟩, true,
      [⟨(smallConfig false).otaTopic, smallPayload false, true, 0⟩], 1⟩
    mqttTask := .awaitingSuback .pendingConfirmation }
  let clearing : System := { subscribed with
    broker := ⟨some ⟨smallPayload false, 0⟩, true, [], 1⟩
    mqttTask := .clearingEarly .pendingConfirmation }
  have start : (taskSystem (smallConfig false)).Path (HeldBack (smallConfig false))
      (pendingStart (keepingBroker false)) [] (pendingStart (keepingBroker false)) := .nil
  have opened := start.snoc
    (show HeldBack (smallConfig false) _ (.mqtt (.openSession true)) from trivial)
    (show _ = some waiting from rfl)
  have connected := opened.snoc (show HeldBack (smallConfig false) _ (.mqtt (.connect true)) from
    trivial) (show _ = some subscribed from rfl)
  have only : HeldBack (smallConfig false) subscribed (.mqtt (.setupEvent .publish)) := by
    intro _ publish inbox manifest next carried
    obtain ⟨rfl, rfl⟩ := List.cons.inj next
    obtain rfl := Option.some.inj (copied.symm.trans carried)
    exact .inr ⟨rfl, rfl, unforced⟩
  have taken : (taskSystem (smallConfig false)).step subscribed (.mqtt (.setupEvent .publish)) =
      some clearing := by
    simp only [taskSystem, step, mqttStep, subscribed, handleSetupEvent, nextPublish, copied,
      resolveOtaManifestAction_small]
    rfl
  have delivered := connected.snoc only taken
  have cleared := delivered.snoc
    (show HeldBack (smallConfig false) _ (.mqtt (.clearedEarly true)) from trivial) rfl
  exact ⟨_, cleared, rfl, rfl⟩

theorem nothing_prepared_before_confirmation_cleared :
    ∃ final, (taskSystem (smallConfig false)).run (unconfirmedStart (keepingBroker false))
        (confirmActions none ++ clearActions) = some final ∧ final.unconfirmed = true ∧
      final.broker.retained = none ∧
      (∀ event ∈ final.device.journal, ∀ slot, ¬ event.InSlot slot) ∧
      ∀ manifest, final.otaTask ≠ .downloading manifest := by
  obtain ⟨final, cleared, unconfirmed, retained⟩ := path_clearActions
  have confirmed : (taskSystem (smallConfig false)).Path (HeldBack (smallConfig false))
      (unconfirmedStart (keepingBroker false)) (confirmActions none)
      (pendingStart (keepingBroker false)) :=
    TransitionSystem.path_of_run (run_confirmActions _ _) (by simp [confirmActions, HeldBack])
  exact ⟨final, (confirmed.trans cleared).run_eq, unconfirmed, retained,
    nothing_prepared_before_confirmation (initial_keepingBroker false) (confirmed.trans cleared)
      unconfirmed⟩

/-- The run prepares a slot while the image awaits confirmation. -/
def PreparesUnconfirmed (config : Config) (start : System) (actions : List Action) : Prop :=
  ∃ final, (taskSystem config).run start actions = some final ∧ final.unconfirmed = true ∧
    .prepare .ota1 9 ∈ final.device.journal

theorem preparesUnconfirmed_of_attempted {config : Config} {start middle final : System} {id : ℕ}
    {first second : List Action} (front : (taskSystem config).run start first = some middle)
    (back : (taskSystem config).run middle second = some final)
    (attempted : Attempted id (middle.device.prepared .ota1 9) middle final)
    (unconfirmed : middle.unconfirmed = true) :
    PreparesUnconfirmed config start (first ++ second) := by
  refine ⟨final, TransitionSystem.run_trans front back,
    attempted.unconfirmed.trans unconfirmed, ?_⟩
  rw [attempted.device]
  simp [Device.prepared]

/-- A live command, a forced one, a retained one that arrives before the first poll of
`ota_confirm_task`, and a retained one after a failed read of the boot metadata each start an
attempt while the image awaits confirmation. -/
theorem prepared_before_confirmation :
    (Initial (unconfirmedStart quietBroker) ∧
      PreparesUnconfirmed (smallConfig false) (unconfirmedStart quietBroker)
        (confirmActions none ++ liveActions (smallPayload false) unreachable)) ∧
    (Initial (unconfirmedStart (keepingBroker true)) ∧
      PreparesUnconfirmed (smallConfig true) (unconfirmedStart (keepingBroker true))
        (confirmActions none ++ retainedActions unreachable)) ∧
    Initial (unconfirmedStart (keepingBroker false)) ∧
      PreparesUnconfirmed (smallConfig false) (unconfirmedStart (keepingBroker false))
        (retainedActions unreachable) ∧
      PreparesUnconfirmed (smallConfig false) (unconfirmedStart (keepingBroker false))
        (confirmActions (some ⟨1⟩) ++ retainedActions unreachable) := by
  let unread : System := { unconfirmedStart (keepingBroker false) with
    otaState := ((unconfirmedStart (keepingBroker false)).otaState.send
      .pendingConfirmation).send .inactive
    confirmTask := .alreadyConfirmed }
  have read_fails : (taskSystem (smallConfig false)).run (unconfirmedStart (keepingBroker false))
      (confirmActions (some ⟨1⟩)) = some unread := rfl
  have waiting : Waiting unread := ⟨.inl rfl, rfl, rfl, rfl, rfl⟩
  refine ⟨⟨initial_unconfirmedStart (by simp [quietBroker]), ?_⟩,
    ⟨initial_keepingBroker true, ?_⟩, initial_keepingBroker false, ?_, ?_⟩
  · obtain ⟨final, executed, attempted⟩ := run_live (waiting_pendingStart quietBroker) rfl rfl
      (smallPayload_ne_nil false) (length_smallPayload_le false) (acceptManifest_small false)
      (install_unreachable false _)
    exact preparesUnconfirmed_of_attempted (run_confirmActions _ _) executed attempted rfl
  · obtain ⟨final, executed, attempted⟩ := run_retained (waiting_pendingStart (keepingBroker true))
      rfl rfl (smallPayload_ne_nil true) (length_smallPayload_le true)
      (resolveOtaManifestAction_small true) (acceptManifest_small true) (install_unreachable true _)
    exact preparesUnconfirmed_of_attempted (run_confirmActions _ _) executed attempted rfl
  · obtain ⟨final, executed, attempted⟩ := run_retained (waiting_booted pendingDevice
      (keepingBroker false) []) rfl rfl (smallPayload_ne_nil false) (length_smallPayload_le false)
      rfl (acceptManifest_small false) (install_unreachable false _)
    rw [← List.nil_append (retainedActions unreachable)]
    exact preparesUnconfirmed_of_attempted (TransitionSystem.run_nil _ _) executed attempted rfl
  · obtain ⟨final, executed, attempted⟩ := run_retained waiting rfl rfl
      (smallPayload_ne_nil false) (length_smallPayload_le false) rfl (acceptManifest_small false)
      (install_unreachable false _)
    exact preparesUnconfirmed_of_attempted read_fails executed attempted rfl

end Tasks
end Motonet
