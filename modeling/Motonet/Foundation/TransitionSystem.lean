import Mathlib.Data.List.Basic
import Mathlib.Tactic.Common

/-!
# Labelled transition systems with partial steps

A system is a set of initial states and a step function that may refuse an action.  A path is a
finite run whose every step satisfies a side condition on the state it is taken from; with the
trivial condition paths are exactly the runs, so a property proved along restricted paths and a
property of all reachable states share one induction.
-/

/-- A system of states `σ` driven by actions `α`; a step that is not enabled returns `none`. -/
structure TransitionSystem (σ α : Type*) where
  /-- States in which a run may begin. -/
  initial : σ → Prop
  /-- The successor of a state under an action, if the action is enabled there. -/
  step : σ → α → Option σ

namespace TransitionSystem

variable {σ α : Type*} (system : TransitionSystem σ α)

/-- Execute a list of actions from a state, failing at the first one that is not enabled. -/
def run : σ → List α → Option σ
  | state, [] => some state
  | state, action :: actions => system.step state action >>= fun next => run next actions

@[simp]
theorem run_nil (state : σ) : system.run state [] = some state := rfl

theorem run_cons (state : σ) (action : α) (actions : List α) :
    system.run state (action :: actions) =
      system.step state action >>= fun next => system.run next actions := rfl

/-- Runs compose. -/
theorem run_append (state : σ) (first second : List α) :
    system.run state (first ++ second) =
      system.run state first >>= fun middle => system.run middle second := by
  induction first generalizing state with
  | nil => rfl
  | cons action actions ih =>
      simp only [List.cons_append, run_cons]
      cases system.step state action with
      | none => rfl
      | some next => exact ih next

variable {system} in
/-- A run may go on from the end of another. -/
theorem run_trans {start middle finish : σ} {first second : List α}
    (front : system.run start first = some middle) (back : system.run middle second = some finish) :
    system.run start (first ++ second) = some finish := by
  rw [run_append, front]
  exact back

/-- `Path allowed start actions finish`: the actions lead from `start` to `finish`, and each is
allowed in the state it is taken from. -/
inductive Path (allowed : σ → α → Prop) (start : σ) : List α → σ → Prop
  | nil : Path allowed start [] start
  | snoc {actions : List α} {middle finish : σ} {action : α} :
      Path allowed start actions middle → allowed middle action →
        system.step middle action = some finish → Path allowed start (actions ++ [action]) finish

/-- A state that some unrestricted run from an initial state reaches. -/
def Reachable (state : σ) : Prop :=
  ∃ start actions, system.initial start ∧ system.Path (fun _ _ => True) start actions state

variable {system}

/-- A path is a successful run. -/
theorem Path.run_eq {allowed : σ → α → Prop} {start finish : σ} {actions : List α}
    (path : system.Path allowed start actions finish) :
    system.run start actions = some finish := by
  induction path with
  | nil => rfl
  | snoc _ _ taken ih =>
      rw [run_append, ih]
      simp [run_cons, taken]

/-- A predicate that every allowed step preserves holds at the end of every allowed path. -/
theorem Path.invariant {allowed : σ → α → Prop} {start finish : σ} {actions : List α}
    (path : system.Path allowed start actions finish) (holds : σ → Prop)
    (preserved : ∀ before action after, holds before → allowed before action →
      system.step before action = some after → holds after)
    (base : holds start) : holds finish := by
  induction path with
  | nil => exact base
  | snoc _ permitted taken ih => exact preserved _ _ _ ih permitted taken

/-- Paths compose. -/
theorem Path.trans {allowed : σ → α → Prop} {start middle finish : σ} {first second : List α}
    (front : system.Path allowed start first middle)
    (back : system.Path allowed middle second finish) :
    system.Path allowed start (first ++ second) finish := by
  induction back with
  | nil => simpa using front
  | snoc _ permitted taken ih =>
      rw [← List.append_assoc]
      exact .snoc ih permitted taken

/-- A successful run of actions that are allowed in every state is a path. -/
theorem path_of_run {allowed : σ → α → Prop} {start finish : σ} {actions : List α}
    (execution : system.run start actions = some finish)
    (permitted : ∀ action ∈ actions, ∀ state, allowed state action) :
    system.Path allowed start actions finish := by
  induction actions generalizing start with
  | nil =>
      cases Option.some.inj execution
      exact .nil
  | cons action actions ih =>
      rw [run_cons] at execution
      cases taken : system.step start action with
      | none => simp [taken] at execution
      | some next =>
          rw [taken] at execution
          have head : system.Path allowed start [action] next := by
            have empty : system.Path allowed start [] start := .nil
            simpa using empty.snoc (permitted action List.mem_cons_self start) taken
          exact head.trans (ih execution fun later member =>
            permitted later (List.mem_cons_of_mem _ member))

/-- A predicate that holds initially and is preserved by every step holds of every reachable
state. -/
theorem Reachable.invariant {state : σ} (reachable : system.Reachable state) (holds : σ → Prop)
    (base : ∀ start, system.initial start → holds start)
    (preserved : ∀ before action after, holds before →
      system.step before action = some after → holds after) : holds state := by
  obtain ⟨start, actions, started, path⟩ := reachable
  exact path.invariant holds (fun before action after held _ => preserved before action after held)
    (base start started)

/-- A path whose steps meet one condition meets another, if the other follows while a predicate
holds that these steps keep. -/
theorem Path.imp {allowed shown : σ → α → Prop} {start finish : σ} {actions : List α}
    (path : system.Path shown start actions finish) (holds : σ → Prop)
    (weaker : ∀ before action after, holds before → shown before action →
      system.step before action = some after → allowed before action ∧ holds after)
    (base : holds start) : holds finish ∧ system.Path allowed start actions finish := by
  induction path with
  | nil => exact ⟨base, .nil⟩
  | snoc _ permitted taken ih =>
      obtain ⟨held, path⟩ := ih
      obtain ⟨permitted, held⟩ := weaker _ _ _ held permitted taken
      exact ⟨held, path.snoc permitted taken⟩

/-- Two conditions on the steps have the same runs, if they agree while a predicate holds and the
steps that meet them keep it. -/
theorem path_congr {allowed shown : σ → α → Prop} {start finish : σ} {actions : List α}
    (holds : σ → Prop)
    (same : ∀ before action after, holds before → system.step before action = some after →
      (shown before action ↔ allowed before action))
    (kept : ∀ before action after, holds before → allowed before action →
      system.step before action = some after → holds after)
    (base : holds start) :
    system.Path shown start actions finish ↔ system.Path allowed start actions finish := by
  constructor
  · intro path
    refine (path.imp holds (fun before action after held permitted taken => ?_) base).2
    have permitted := (same before action after held taken).mp permitted
    exact ⟨permitted, kept before action after held permitted taken⟩
  · intro path
    refine (path.imp holds (fun before action after held permitted taken => ?_) base).2
    exact ⟨(same before action after held taken).mpr permitted,
      kept before action after held permitted taken⟩

/-- Runs in which a predicate holds all along are exactly the runs of allowed steps, if a step from
a state in which it holds keeps it exactly when the step is allowed.  An invariant of all runs may
be used. -/
theorem path_holds_iff {allowed : σ → α → Prop} {start finish : σ} {actions : List α}
    {invariant holds : σ → Prop}
    (preserved : ∀ before action after, invariant before → system.step before action = some after →
      invariant after)
    (kept : ∀ before action after, invariant before → holds before →
      system.step before action = some after → (holds after ↔ allowed before action))
    (base : invariant start) (started : holds start) :
    system.Path (fun before action => holds before ∧
        ∀ after, system.step before action = some after → holds after) start actions finish ↔
      system.Path allowed start actions finish := by
  refine path_congr (fun state => invariant state ∧ holds state) ?_ ?_ ⟨base, started⟩
  · rintro before action after ⟨here, held⟩ taken
    constructor
    · rintro ⟨-, holds_after⟩
      exact (kept before action after here held taken).mp (holds_after after taken)
    · intro permitted
      exact ⟨held, fun after taken => (kept before action after here held taken).mpr permitted⟩
  · rintro before action after ⟨here, held⟩ permitted taken
    exact ⟨preserved before action after here taken,
      (kept before action after here held taken).mpr permitted⟩

/-- The system together with a journal, newest entry first, of what its steps show. -/
def journaled (system : TransitionSystem σ α) {ε : Type*} (shown : σ → α → σ → List ε) :
    TransitionSystem (σ × List ε) α where
  initial := fun state => system.initial state.1 ∧ state.2 = []
  step := fun state action =>
    (system.step state.1 action).map fun next => (next, shown state.1 action next ++ state.2)

variable {ε : Type*} {shown : σ → α → σ → List ε}

theorem journaled_step_eq_some_iff {before after : σ × List ε} {action : α} :
    (system.journaled shown).step before action = some after ↔
      system.step before.1 action = some after.1 ∧
        after.2 = shown before.1 action after.1 ++ before.2 := by
  simp only [journaled, Option.map_eq_some_iff]
  constructor
  · rintro ⟨next, taken, rfl⟩
    exact ⟨taken, rfl⟩
  · rintro ⟨taken, entries⟩
    exact ⟨after.1, taken, Prod.ext rfl entries.symm⟩

end TransitionSystem
