import Motonet.Firmware.PowerPolicy
import Motonet.Foundation.TransitionSystem

/-!
# Runs of the power policy

Settings are saved, the user is active, readings are published and the firmware is reset or sleeps,
in any order.  A deep sleep ends with a reset, from which only the word in RTC memory comes back.
-/

namespace Motonet
namespace Firmware
namespace Power

open AppCore OtaCore PowerSave

inductive PowerAction
  | saveSettings (settings : PowerSettings) (instantSecs : UInt64)
  | uiActivity (instantSecs : UInt64)
  /-- A publish is confirmed; if the firmware sleeps, it starts again at another instant. -/
  | published (instantSecs elapsedSecs : UInt64) (queueEmpty : Bool) (otaState : OtaState)
      (wakeSecs : UInt64)
  | reset (instantSecs : UInt64)
  deriving DecidableEq, Repr

def PowerAction.isSave : PowerAction → Bool
  | .saveSettings _ _ => true
  | .uiActivity _ | .published _ _ _ _ _ | .reset _ => false

/-- The state behind a publish; a deep sleep is over when the firmware starts again, and a fault of
the log message changes no state. -/
def PowerSave.publish (power : PowerSave) (instantSecs elapsedSecs : UInt64) (queueEmpty : Bool)
    (otaState : OtaState) (wakeSecs : UInt64) : PowerSave :=
  match power.afterPublish instantSecs elapsedSecs queueEmpty otaState with
  | .ok (some (.deepSleep _)) => start power.persistedWord wakeSecs
  | _ => power

/-- The state behind an action. -/
def PowerSave.step (power : PowerSave) : PowerAction → PowerSave
  | .saveSettings settings instantSecs => setSettings settings instantSecs power
  | .uiActivity instantSecs => notifyUiActivity instantSecs power
  | .published instantSecs elapsedSecs queueEmpty otaState wakeSecs =>
      power.publish instantSecs elapsedSecs queueEmpty otaState wakeSecs
  | .reset instantSecs => start power.persistedWord instantSecs

/-- RTC memory may hold any word when the firmware starts for the first time. -/
def powerSystem : TransitionSystem PowerSave PowerAction where
  initial power := ∃ word instantSecs, power = start word instantSecs
  step power action := some (power.step action)

/-- The settings are within their bounds, and they are those that a reset would load. -/
structure Remembers (power : PowerSave) : Prop where
  bounded : settingsWithinBounds power.stored = true
  loaded : (loadSettingsOrDefault power.persistedWord).1 = power.stored

theorem stored_start (word : UInt32) (instantSecs : UInt64) :
    (start word instantSecs).stored = (loadSettingsOrDefault word).1 :=
  clampPowerConfig_of_withinBounds (withinBounds_of_load word)

theorem remembers_start (word : UInt32) (instantSecs : UInt64) :
    Remembers (start word instantSecs) where
  bounded := by
    rw [stored_start]
    exact withinBounds_of_load word
  loaded := by
    rw [stored_start]
    exact congrArg Prod.fst (loadSettingsOrDefault_loaded word)

/-- What an action does to the settings: a save replaces them, a start loads them, and nothing else
changes them or the word. -/
inductive Moves (before after : PowerSave) (action : PowerAction) : Prop
  | saved (settings : PowerSettings) : action.isSave = true →
      after.stored = clampPowerConfig settings →
      after.persistedWord = persistSettings (clampPowerConfig settings) → Moves before after action
  | started (instantSecs : UInt64) : action.isSave = false →
      after = start before.persistedWord instantSecs → Moves before after action
  | kept : action.isSave = false → after.stored = before.stored →
      after.persistedWord = before.persistedWord → Moves before after action

theorem moves_step (power : PowerSave) (action : PowerAction) :
    Moves power (power.step action) action := by
  cases action with
  | saveSettings settings instantSecs => exact .saved settings rfl rfl rfl
  | uiActivity instantSecs =>
      exact .kept rfl (stored_notifyUiActivity _ _) (persistedWord_notifyUiActivity _ _)
  | published instantSecs elapsedSecs queueEmpty otaState wakeSecs =>
      change Moves power (power.publish instantSecs elapsedSecs queueEmpty otaState wakeSecs) _
      unfold PowerSave.publish
      split
      · exact .started wakeSecs rfl rfl
      · exact .kept rfl rfl rfl
  | reset instantSecs => exact .started instantSecs rfl rfl

theorem Remembers.move {before after : PowerSave} {action : PowerAction}
    (remembers : Remembers before) (moves : Moves before after action) : Remembers after := by
  cases moves with
  | saved settings _ stored word =>
      have bounded := settingsWithinBounds_clampPowerConfig settings
      constructor
      · rwa [stored]
      · rw [stored, word, loadSettingsOrDefault_persistSettings,
          clampPowerConfig_of_withinBounds bounded]
  | started instantSecs _ started =>
      rw [started]
      exact remembers_start _ _
  | kept _ stored word =>
      constructor
      · rw [stored]
        exact remembers.bounded
      · rw [stored, word]
        exact remembers.loaded

/-- Only a save changes the settings; a start brings back those that were stored. -/
theorem stored_of_moves {before after : PowerSave} {action : PowerAction}
    (remembers : Remembers before) (moves : Moves before after action)
    (no_save : action.isSave = false) : after.stored = before.stored := by
  cases moves with
  | saved _ save => exact absurd (no_save.symm.trans save) Bool.false_ne_true
  | started instantSecs _ started => rw [started, stored_start, remembers.loaded]
  | kept _ stored => exact stored

theorem remembers_of_reachable {power : PowerSave} (reachable : powerSystem.Reachable power) :
    Remembers power := by
  refine reachable.invariant Remembers ?_ ?_
  · rintro start ⟨word, instantSecs, rfl⟩
    exact remembers_start word instantSecs
  · intro before action after remembers taken
    cases taken
    exact remembers.move (moves_step before action)

/-- The settings in force stay the same through any number of publishes, deep sleeps and resets,
until other settings are saved. -/
theorem settings_survive_sleep {before after : PowerSave} {actions : List PowerAction}
    (reachable : powerSystem.Reachable before)
    (path : powerSystem.Path (fun _ action => action.isSave = false) before actions after) :
    after.getSettings = before.getSettings := by
  have kept : Remembers after ∧ after.stored = before.stored := by
    refine path.invariant (fun power => Remembers power ∧ power.stored = before.stored) ?_
      ⟨remembers_of_reachable reachable, rfl⟩
    rintro middle action next ⟨remembers, stored⟩ no_save taken
    cases taken
    have moves := moves_step middle action
    exact ⟨remembers.move moves, (stored_of_moves remembers moves no_save).trans stored⟩
  rw [getSettings_eq, getSettings_eq, kept.2]

end Power
end Firmware
end Motonet
