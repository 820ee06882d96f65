import Motonet.Foundation.Mailbox
import Motonet.Foundation.TransitionSystem
import Motonet.Firmware.Radio433

/-!
# The tasks that share the radio settings

`app_command_dispatch_task`, the start-up sequence of `radio_433_rx_task` and
`radio_433_settings_task` share the radio behind its mutex, the watch of the settings, and the words
in RTC memory.  A step is at most what a task does between two awaits.  The settings task holds the
mutex within one step only; the start-up sequence holds it from its first step to its report.
-/

namespace Motonet
namespace RadioTasks

open AppCore Firmware Fallible

def appCommandChannelDepth : ℕ := 16

/-- The commands of the display and of the radio; only the settings of the radio are followed. -/
inductive AppCommand
  | applySettings (radio : RadioSettings)
  | publishTelemetry
  | otaConfirmed
  deriving DecidableEq, Repr

inductive ControlDispatch
  | applySettings (radio : RadioSettings)
  | ignore
  deriving DecidableEq, Repr

def classifyControlDispatch : AppCommand → ControlDispatch
  | .applySettings radio => .applySettings radio
  | .publishTelemetry | .otaConfirmed => .ignore

structure RfSweepCandidate where
  freqHz : UInt32
  bandwidthHz : UInt32
  deriving DecidableEq, Repr

def rfSweepCandidates : List RfSweepCandidate :=
  [⟨433920000, 325000⟩, ⟨433920000, 203000⟩, ⟨433920000, 162000⟩, ⟨433920000, 135000⟩,
    ⟨433820000, 203000⟩, ⟨434020000, 203000⟩, ⟨433870000, 162000⟩, ⟨433970000, 162000⟩]

/-- The word that `persist_rf_profile_index` leaves. -/
def persistRfProfileIndex (index : ℕ) (word : UInt32) : UInt32 :=
  if index < 2 ^ 8 then encodeRfProfile (UInt8.ofNat index) else word

/-- The index that `load_persisted_rf_profile_index` reads from a word, and the word that it
leaves. -/
def loadPersistedRfProfileIndex (word : UInt32) : Option ℕ × UInt32 :=
  match decodeRfProfile word with
  | .ok decoded =>
      let index := decoded.value.toNat
      if rfSweepCandidates.length ≤ index then (none, word)
      else (some index, if decoded.needsMigration then encodeRfProfile decoded.value else word)
  | .error _ => (none, word)

/-- Where `radio_433_rx_task` is; it holds the mutex while it sweeps and while it samples. -/
inductive RxTask
  | notStarted
  /-- The next candidate of the sweep, and those that were measured. -/
  | sweeping (next : ℕ) (measured : List ℕ)
  | sampling
  | capturing
  | stopped
  deriving DecidableEq, Repr

/-- Where `radio_433_settings_task` is. -/
inductive SettingsTask
  | waiting
  | lockingRadio
  deriving DecidableEq, Repr

structure System where
  coldBoot : Bool
  commands : List AppCommand
  settingsWatch : Watch RadioSettings
  settingsWord : UInt32
  rfProfileWord : UInt32
  radio : Cc1101Radio
  rxTask : RxTask
  settingsTask : SettingsTask
  /-- The sends on the watch that the settings task has seen. -/
  settingsSeen : ℕ
  deriving DecidableEq, Repr

namespace System

/-- The system after the start of the firmware, with the radio that was initialized. -/
def booted (coldBoot : Bool) (settingsWord rfProfileWord : UInt32) (radio : Cc1101Radio) :
    System where
  coldBoot := coldBoot
  commands := []
  settingsWatch := Watch.empty.send (loadSettingsOrDefault settingsWord).1
  settingsWord := (loadSettingsOrDefault settingsWord).2
  rfProfileWord := rfProfileWord
  radio := radio
  rxTask := .notStarted
  settingsTask := .waiting
  settingsSeen := 0

/-- One turn of `app_command_dispatch_task`. -/
def dispatch (system : System) : Option System :=
  match system.commands with
  | [] => none
  | command :: commands =>
      match classifyControlDispatch command with
      | .applySettings radio => some { system with
          commands := commands
          settingsWatch := system.settingsWatch.send radio
          settingsWord := persistSettings radio }
      | .ignore => some { system with commands := commands }

/-- The end of `prepare_radio_for_capture` before it samples: restore the persisted settings. -/
def restoreSettings (system : System) : System :=
  match loadSettings system.settingsWord with
  | (some settings, word) => { system with
      radio := (exec (Cc1101Radio.applySettings settings) system.radio).2
      settingsWord := word
      rxTask := .sampling }
  | (none, word) => { system with settingsWord := word, rxTask := .sampling }

/-- Apply the persisted RF profile, if there is one. -/
def applyPersistedRfProfile (system : System) : System :=
  let (index, word) := loadPersistedRfProfileIndex system.rfProfileWord
  let radio :=
    match index.bind fun index => rfSweepCandidates[index]? with
    | some candidate =>
        (exec (Cc1101Radio.applyRfProfile candidate.freqHz candidate.bandwidthHz) system.radio).2
    | none => system.radio
  { system with rfProfileWord := word, radio := radio }

/-- The start of `prepare_radio_for_capture`, once the mutex is locked. -/
def start (system : System) : System :=
  match exec (do Cc1101Radio.getHwInfo; Cc1101Radio.setReceiveMode) system.radio with
  | (.error _, radio) => { system with radio := radio, rxTask := .stopped }
  | (.ok _, radio) =>
      let system := { system with radio := radio }
      if system.coldBoot then { system with rxTask := .sweeping 0 [] }
      else system.applyPersistedRfProfile.restoreSettings

/-- Measure a candidate of `run_rf_sweep`; one that cannot be applied is skipped. -/
def sweepNext (next : ℕ) (measured : List ℕ) (candidate : RfSweepCandidate)
    (system : System) : System :=
  match exec (Cc1101Radio.applyRfProfile candidate.freqHz candidate.bandwidthHz) system.radio with
  | (.ok _, radio) =>
      { system with radio := radio, rxTask := .sweeping (next + 1) (measured ++ [next]) }
  | (.error _, radio) => { system with radio := radio, rxTask := .sweeping (next + 1) measured }

/-- The end of `run_rf_sweep`: apply the candidate with the best score, and persist its index. -/
def sweepSelect (best : Option (ℕ × RfSweepCandidate)) (system : System) : System :=
  match best with
  | none => system
  | some (index, candidate) =>
      match exec (Cc1101Radio.applyRfProfile candidate.freqHz candidate.bandwidthHz)
        system.radio with
      | (.ok _, radio) => { system with
          radio := radio
          rfProfileWord := persistRfProfileIndex index system.rfProfileWord }
      | (.error _, radio) => { system with radio := radio }

/-- The start-up sequence does not hold the mutex. -/
def radioFree (system : System) : Bool :=
  match system.rxTask with
  | .sweeping _ _ | .sampling => false
  | .notStarted | .capturing | .stopped => true

end System

inductive Action
  /-- Another task sends a command. -/
  | send (command : AppCommand)
  | dispatch
  | start
  | sweepNext
  /-- The sweep ends; the measured scores decide which candidate is the best. -/
  | sweepSelect (best : Option ℕ)
  /-- The samples are taken; the mutex is unlocked and the settings are reported. -/
  | report
  /-- The settings task sees that the watch has changed. -/
  | settingsChanged
  /-- The settings task locks the mutex and applies what is in the watch. -/
  | applyPending
  deriving DecidableEq, Repr

def step (system : System) : Action → Option System
  | .send command =>
      (Channel.trySend appCommandChannelDepth command system.commands).map fun commands =>
        { system with commands := commands }
  | .dispatch => system.dispatch
  | .start => if system.rxTask = .notStarted then some system.start else none
  | .sweepNext =>
      match system.rxTask with
      | .sweeping next measured =>
          rfSweepCandidates[next]?.map fun candidate => system.sweepNext next measured candidate
      | _ => none
  | .sweepSelect best =>
      match system.rxTask with
      | .sweeping next measured =>
          if next < rfSweepCandidates.length then none
          else
            match best with
            | none => if measured = [] then some (system.sweepSelect none).restoreSettings else none
            | some index =>
                if index ∈ measured then
                  rfSweepCandidates[index]?.map fun candidate =>
                    (system.sweepSelect (some (index, candidate))).restoreSettings
                else none
      | _ => none
  | .report =>
      if system.rxTask = .sampling then some { system with
        settingsWatch := system.settingsWatch.send system.radio.currentSettings
        rxTask := .capturing }
      else none
  | .settingsChanged =>
      if system.settingsTask = .waiting ∧ system.settingsWatch.changed system.settingsSeen then
        some { system with
          settingsTask := .lockingRadio
          settingsSeen := system.settingsWatch.sent }
      else none
  | .applyPending =>
      if system.settingsTask = .lockingRadio ∧ system.radioFree then some { system with
        radio := system.radio.applyPendingSettings system.settingsWatch.value
        settingsTask := .waiting
        settingsSeen := system.settingsWatch.sent }
      else none

/-- Runs of the tasks from a start of the firmware with any words in RTC memory, with a driver that
never fails. -/
def radioSystem : TransitionSystem System Action where
  initial := fun system => ∃ coldBoot settingsWord rfProfileWord registers radio,
    exec Cc1101Radio.init (Cc1101Radio.restoreSettingsAfterReset
      (loadSettingsOrDefault settingsWord).1 (Cc1101Radio.new registers [])) = (.ok (), radio) ∧
    system = System.booted coldBoot settingsWord rfProfileWord radio
  step := step

end RadioTasks
end Motonet
