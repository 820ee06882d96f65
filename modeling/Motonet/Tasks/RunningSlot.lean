import Motonet.Activation
import Motonet.Tasks.Run

/-!
# The running slot

The code knows the selected slot only.  While no commit is torn, the selected slot is the one that
the running image was booted from; a torn commit makes the next attempt erase the running image.
-/

namespace Motonet
namespace Tasks

open OtaCore Firmware Fallible

/-- A call that neither erases nor writes the running slot, and marks no other slot valid. -/
def Respects (running : Slot) : DeviceEvent → Prop
  | .prepare slot _ | .erase slot _ | .write slot _ _ => slot ≠ running
  | .setState slot state => state = .valid → slot = running
  | .activate _ => True

/-- All calls since the boot respect the running slot, and so do those of the download that is under
way, however it goes on. -/
def RunningIntact (config : Config) (system : System) : Prop :=
  (∀ event ∈ system.device.journal, Respects system.running event) ∧
    ∀ manifest env, system.otaTask = .downloading manifest →
      ∀ event ∈ (install config env manifest system.device).2.journal,
        Respects system.running event

/-- The action does not end a download with a torn commit. -/
def CommitsWhole (config : Config) (system : System) : Action → Prop
  | .ota (.finish env) => ∀ manifest, system.otaTask = .downloading manifest →
      ¬ TornCommit config.crypto config.serde env config.otaEncryptionMasterKey manifest
        system.device
  | _ => True

/-- The selected slot is the running one, and every call since the boot respects it. -/
structure SelectedRunning (system : System) : Prop where
  selected : system.device.selected = system.running
  journal : ∀ event ∈ system.device.journal, Respects system.running event

theorem respects_of_inSlot {slot : Slot} {event : DeviceEvent}
    (inside : event.InSlot slot.next) : Respects slot event := by
  cases event with
  | prepare target | erase target | write target =>
      intro same
      exact Slot.next_ne slot (inside.symm.trans same)
  | activate | setState => exact inside.elim

/-- The calls of a download respect the slot that is selected when it starts. -/
theorem outcome_respects {crypto : CryptoPrimitives} {serde : SerdeJson}
    {env : Environment} {masterKey : Digest} {manifest : OtaManifest} {device : Device}
    {outcome : Except Halt Unit × Device}
    (ends : Outcome crypto serde env masterKey manifest device outcome) :
    ∃ events, outcome.2.journal = device.journal ++ events ∧
      ∀ event ∈ events, Respects device.selected event := by
  have activated : ∀ {downloaded : Device},
      Installs crypto serde env masterKey manifest device downloaded →
      ∃ events, downloaded.activating.journal = device.journal ++ events ∧
        ∀ event ∈ events, Respects device.selected event := by
    rintro downloaded ⟨_, _, _, _, _, downloads⟩
    obtain ⟨events, journal, inside⟩ := downloads.confined.journal
    refine ⟨events ++ [.activate downloaded.selected.next], ?_, ?_⟩
    · rw [Device.activating, Device.log_journal, journal, List.append_assoc]
    · intro event member
      rcases List.mem_append.mp member with early | late
      · exact respects_of_inSlot (inside event early)
      · cases List.mem_singleton.mp late
        exact trivial
  have marked : ∀ {downloaded : Device},
      Installs crypto serde env masterKey manifest device downloaded →
      ∃ events, downloaded.marking.journal = device.journal ++ events ∧
        ∀ event ∈ events, Respects device.selected event := by
    intro downloaded installs
    obtain ⟨events, journal, respects⟩ := activated installs
    refine ⟨events ++ [.setState downloaded.selected.next .new], ?_, ?_⟩
    · rw [Device.marking, Device.log_journal, Device.selectNext_journal, journal,
        List.append_assoc]
    · intro event member
      rcases List.mem_append.mp member with early | late
      · exact respects event early
      · cases List.mem_singleton.mp late
        rintro ⟨⟩
  cases ends with
  | refused error after _ confined =>
      obtain ⟨events, journal, inside⟩ := confined.journal
      exact ⟨events, journal, fun event member => respects_of_inSlot (inside event member)⟩
  | notActivated error downloaded installs => exact activated installs
  | notMarked error downloaded installs => exact marked installs
  | installed downloaded installs => exact marked installs

section Invariant

variable {config : Config} {before after : System}

theorem selectedRunning_booted (device : Device) (broker : Broker) (handedOver : List ℕ) :
    SelectedRunning (System.booted device broker handedOver) :=
  ⟨rfl, nofun⟩

/-- Every call of a download respects the running slot. -/
theorem SelectedRunning.respects_install (holds : SelectedRunning before) (env : Environment)
    (manifest : OtaManifest) :
    ∀ event ∈ (install config env manifest before.device).2.journal,
      Respects before.running event := by
  obtain ⟨events, journal, respects⟩ :=
    outcome_respects (install_outcome config env manifest before.device)
  intro event member
  rw [journal] at member
  rcases List.mem_append.mp member with early | late
  · exact holds.journal event early
  · exact holds.selected ▸ respects event late

theorem SelectedRunning.otaStep {action : OtaAction} (holds : SelectedRunning before)
    (whole : CommitsWhole config before (.ota action))
    (taken : OtaStep config before action after) : SelectedRunning after := by
  cases taken with
  | rejected | accepted | standDown | standDownTimeout | lockFlash =>
      exact ⟨holds.selected, holds.journal⟩
  | installed => exact selectedRunning_booted _ _ _
  | @failed env manifest halt device task installs =>
      have respects : ∀ event ∈ (install config env manifest before.device).2.journal,
          Respects before.running event := holds.respects_install env manifest
      have atomic := (install_outcome config env manifest before.device).atomic (whole _ task)
      rw [installs] at respects atomic
      exact ⟨atomic.1.trans holds.selected, respects⟩

theorem SelectedRunning.otaConfirmStep {action : OtaConfirmAction} (holds : SelectedRunning before)
    (taken : OtaConfirmStep before action after) : SelectedRunning after := by
  have logged : ∀ event ∈ before.device.journal ++
      [.setState before.device.selected .valid], Respects before.running event := by
    intro event member
    rcases List.mem_append.mp member with early | late
    · exact holds.journal event early
    · cases List.mem_singleton.mp late
      exact fun _ => holds.selected
  cases taken with
  | started | foundPending | notPending | polled | sent => exact ⟨holds.selected, holds.journal⟩
  | marked => exact ⟨holds.selected, logged⟩
  | notMarked task device_eq =>
      rcases device_eq with rfl | rfl
      · exact ⟨holds.selected, holds.journal⟩
      · exact ⟨holds.selected, logged⟩

/-- The invariant is preserved by every step that does not end a download with a torn commit. -/
theorem SelectedRunning.step {action : Action} (holds : SelectedRunning before)
    (whole : CommitsWhole config before action)
    (taken : (taskSystem config).step before action = some after) : SelectedRunning after := by
  cases action with
  | ota action => exact holds.otaStep whole (.of_step taken)
  | confirm action => exact holds.otaConfirmStep (.of_step taken)
  | mqtt action =>
      rcases (MqttStep.of_step taken).outside with outside | rfl
      · refine ⟨?_, ?_⟩
        · rw [outside.device, outside.running]
          exact holds.selected
        · rw [outside.device, outside.running]
          exact holds.journal
      · exact selectedRunning_booted _ _ _
  | operatorPublish payload retain =>
      cases taken
      exact ⟨holds.selected, holds.journal⟩
  | queueReading reading =>
      obtain ⟨commands, rfl⟩ := step_queueReading taken
      exact ⟨holds.selected, holds.journal⟩
  | powerCycle progress =>
      cases taken
      exact selectedRunning_booted _ _ _

end Invariant

/-- In every run from a boot in which no commit is torn, no call erases or writes the slot that the
running image was booted from, and only that slot is marked valid. -/
theorem running_slot_intact {config : Config} {start final : System} {actions : List Action}
    (initial : Initial start)
    (path : (taskSystem config).Path (CommitsWhole config) start actions final) :
    RunningIntact config final := by
  obtain ⟨device, broker, -, rfl⟩ := initial
  have holds : SelectedRunning final :=
    path.invariant SelectedRunning (fun _ _ _ holds whole taken => holds.step whole taken)
      (selectedRunning_booted _ _ _)
  exact ⟨holds.journal, fun manifest env _ => holds.respects_install env manifest⟩

/-- The confirmed sample device just after a boot. -/
def confirmedStart : System :=
  System.booted sampleDevice quietBroker []

theorem initial_confirmedStart : Initial confirmedStart :=
  ⟨sampleDevice, quietBroker, nofun, rfl⟩

/-- A failing attempt in which no commit is torn. -/
theorem running_slot_intact_unreachable :
    ∃ final, (taskSystem (smallConfig false)).run confirmedStart
        (liveActions (smallPayload false) unreachable) = some final ∧
      final.device.journal ≠ [] ∧ RunningIntact (smallConfig false) final := by
  obtain ⟨final, executed, attempted⟩ := run_live (waiting_booted sampleDevice quietBroker []) rfl
    rfl (smallPayload_ne_nil false) (length_smallPayload_le false) (acceptManifest_small false)
    (install_unreachable false _)
  refine ⟨final, executed, ?_, running_slot_intact initial_confirmedStart
    (TransitionSystem.path_of_run executed ?_)⟩
  · rw [attempted.device]
    exact List.append_ne_nil_of_right_ne_nil _ (List.cons_ne_nil _ _)
  · have whole : ∀ state, CommitsWhole (smallConfig false) state (.ota (.finish unreachable)) :=
      fun _ _ _ torn => torn.2.2 rfl
    simpa [liveActions, updateActions, CommitsWhole] using whole

/-- The commit of the small update is torn if marking the slot fails. -/
theorem install_torn (device : Device) :
    ∃ (error : OtaFlashWriteError) (downloaded : Device),
      install (smallConfig false) (smallUpdate markingFails) (smallManifest false) device =
        (.error (.err error), downloaded.marking) ∧
      downloaded.selected = device.selected := by
  have ends := install_outcome (smallConfig false) (smallUpdate markingFails) (smallManifest false)
    device
  generalize install (smallConfig false) (smallUpdate markingFails) (smallManifest false)
    device = outcome at ends
  cases ends with
  | refused error after refused _ =>
      exact absurd (installable_small noneBeforeActivation_markingFails _) refused
  | notActivated error downloaded _ failed => exact absurd rfl failed
  | installed downloaded _ _ marked => cases marked
  | notMarked error downloaded installs =>
      obtain ⟨_, _, _, _, _, downloads⟩ := installs
      exact ⟨error, downloaded, rfl, downloads.confined.selected⟩

/-- The small update with a torn commit, followed by an attempt that fails early: the second attempt
erases the slot that the running image was booted from. -/
theorem running_slot_erased :
    Initial confirmedStart ∧
      ∃ final, (taskSystem (smallConfig false)).run confirmedStart
          (liveActions (smallPayload false) (smallUpdate markingFails) ++
            liveActions (smallPayload false) unreachable) = some final ∧
        .erase final.running 4096 ∈ final.device.journal := by
  refine ⟨initial_confirmedStart, ?_⟩
  obtain ⟨error, downloaded, torn, selected⟩ := install_torn confirmedStart.device
  obtain ⟨middle, first, attempted⟩ := run_live (waiting_booted sampleDevice quietBroker []) rfl
    rfl (smallPayload_ne_nil false) (length_smallPayload_le false) (acceptManifest_small false) torn
  have allowed : isMqttAllowed middle.currentOtaState = true := by
    rw [System.currentOtaState, attempted.otaState]
    rfl
  obtain ⟨final, second, again⟩ := run_live attempted.waiting attempted.retained allowed
    (smallPayload_ne_nil false) (length_smallPayload_le false) (acceptManifest_small false)
    (install_unreachable false _)
  refine ⟨final, TransitionSystem.run_trans first second, ?_⟩
  have running : final.running = middle.device.selected.next := by
    rw [again.running, attempted.running, attempted.device]
    change _ = downloaded.selected.next.next
    rw [selected, Slot.next_next]
    rfl
  rw [again.device, running]
  exact List.mem_append_right _ List.mem_cons_self

end Tasks
end Motonet
