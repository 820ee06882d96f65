import Mathlib.Data.List.Range
import Mathlib.Tactic.Common

/-!
# Stateful programs that may fail

A fallible program changes a state and either returns a value or stops with an error; what it did
to the state before it stopped stays done.  `Triple` relates the state before a program to its
outcome in both cases, with rules for the ways of building a program.  A triple whose failure
condition is `False` states that the program returns a value.
-/

/-- A sequence of two computations returned: the first one did, and the second one returned from
its value. -/
theorem Except.of_bind_eq_ok {ε α β : Type} {first : Except ε α} {next : α → Except ε β}
    {result : β} (returned : first >>= next = .ok result) :
    ∃ value, first = .ok value ∧ next value = .ok result := by
  cases first with
  | error => cases returned
  | ok value => exact ⟨value, rfl, returned⟩

/-- A sequence of two computations returns if the first one does, and the second one from its
value. -/
theorem Except.bind_eq_ok_iff {ε α β : Type} {first : Except ε α} {next : α → Except ε β}
    {result : β} :
    first >>= next = .ok result ↔ ∃ value, first = .ok value ∧ next value = .ok result := by
  constructor
  · exact Except.of_bind_eq_ok
  · rintro ⟨value, rfl, returned⟩
    exact returned

/-- A computation whose error is translated returned. -/
theorem Except.of_mapError_eq_ok {ε δ α : Type} {translate : ε → δ} {result : Except ε α}
    {value : α} (returned : result.mapError translate = .ok value) : result = .ok value := by
  cases result with
  | error => cases returned
  | ok => exact congrArg Except.ok (Except.ok.inj returned)

/-- What can be shown of the value of a computation. -/
theorem Except.of_map_toOption_eq_some {ε α β : Type} {result : Except ε α} {view : α → β}
    {shown : β} (returned : result.toOption.map view = some shown) :
    ∃ value, result = .ok value ∧ view value = shown := by
  cases result with
  | error => cases returned
  | ok value => exact ⟨value, rfl, Option.some.inj returned⟩

/-- A computation that cannot return stops with an error. -/
theorem Except.exists_error {ε α : Type} {result : Except ε α}
    (fails : ∀ value, result ≠ .ok value) : ∃ error, result = .error error := by
  cases result with
  | error error => exact ⟨error, rfl⟩
  | ok value => exact absurd rfl (fails value)

/-- A computation behind a guard that would have raised an error. -/
theorem Except.guard_eq_ok_iff {ε α : Type} {condition : Prop} [Decidable condition] {error : ε}
    {next : Unit → Except ε α} {result : α} :
    (if condition then (throw error : Except ε Unit) >>= next else next ()) = .ok result ↔
      ¬ condition ∧ next () = .ok result := by
  by_cases holds : condition
  · rw [if_pos holds]
    exact ⟨nofun, fun passed => absurd holds passed.1⟩
  · rw [if_neg holds]
    exact ⟨fun returned => ⟨holds, returned⟩, And.right⟩

/-- A check at the end of a computation. -/
theorem Except.check_eq_ok_iff {ε : Type} {condition : Prop} [Decidable condition] {error : ε} :
    (if condition then throw error else pure () : Except ε Unit) = .ok () ↔ ¬ condition := by
  by_cases holds : condition
  · rw [if_pos holds]
    exact ⟨nofun, fun passed => absurd holds passed⟩
  · rw [if_neg holds]
    exact ⟨fun _ => holds, fun _ => rfl⟩

/-- A computation returned behind a guard that would have raised an error. -/
theorem Except.of_guard_eq_ok {ε α : Type} {condition : Prop} [Decidable condition] {error : ε}
    {next : Unit → Except ε α} {result : α}
    (returned : (if condition then (throw error : Except ε Unit) >>= next else next ()) =
      .ok result) : ¬ condition ∧ next () = .ok result :=
  Except.guard_eq_ok_iff.mp returned

/-- A loop of checks returns if each of its checks does. -/
theorem Except.forIn_eq_ok_iff {ε α : Type} {items : List α}
    {check : α → Except ε (ForInStep PUnit)} {result : PUnit}
    (goes_on : ∀ item step, check item = .ok step → step = .yield PUnit.unit) :
    (forIn items PUnit.unit fun item _ => check item) = .ok result ↔
      ∀ item ∈ items, check item = .ok (.yield PUnit.unit) := by
  induction items with
  | nil => exact ⟨fun _ _ member => absurd member List.not_mem_nil, fun _ => rfl⟩
  | cons item items ih =>
      rw [List.forIn_cons, List.forall_mem_cons]
      cases checked : check item with
      | error => exact ⟨nofun, fun passed => nomatch passed.1⟩
      | ok step =>
          cases goes_on item step checked
          exact ⟨fun rest => ⟨rfl, ih.mp rest⟩, fun passed => ih.mpr passed.2⟩

/-- Programs over a state `σ` that return or stop with an error; an error keeps the state. -/
abbrev Fallible (ε σ : Type) := ExceptT ε (StateM σ)

namespace Fallible

variable {ε δ σ τ α β : Type}

/-- Run a program from a state. -/
def exec (program : Fallible ε σ α) (state : σ) : Except ε α × σ :=
  program.run.run state

/-- Update the state and return a value. -/
def update (change : σ → α × σ) : Fallible ε σ α :=
  ExceptT.mk fun state => ((Except.ok (change state).1), (change state).2)

/-- Run a program on the part of the state that `view` selects and `put` replaces. -/
def zoom (view : τ → σ) (put : τ → σ → τ) (program : Fallible ε σ α) : Fallible ε τ α :=
  ExceptT.mk fun state =>
    ((exec program (view state)).1, put state (exec program (view state)).2)

/-- Run a program that uses a second component of the state, which starts with a given value and
is dropped at the end. -/
def extend (start : τ) (program : Fallible ε (σ × τ) α) : Fallible ε σ α :=
  ExceptT.mk fun state =>
    ((exec program (state, start)).1, (exec program (state, start)).2.1)

/-- Translate the error of a program. -/
def mapError (translate : ε → δ) (program : Fallible ε σ α) : Fallible δ σ α :=
  ExceptT.mk fun state =>
    ((exec program state).1.mapError translate, (exec program state).2)

/-- Raise the error of a computation that has no state. -/
def lift : Except ε α → Fallible ε σ α
  | .ok value => pure value
  | .error error => throw error

/-- Stop with an error unless a condition holds. -/
def ensure (condition : Prop) [Decidable condition] (error : ε) : Fallible ε σ Unit :=
  if condition then pure () else throw error

/-- Stop with the given error, if there is one. -/
def raise : Option ε → Fallible ε σ Unit
  | none => pure ()
  | some error => throw error

@[simp]
theorem exec_pure (value : α) (state : σ) :
    exec (pure value : Fallible ε σ α) state = (.ok value, state) := rfl

@[simp]
theorem exec_throw (error : ε) (state : σ) :
    exec (throw error : Fallible ε σ α) state = (.error error, state) := rfl

@[simp]
theorem exec_update (change : σ → α × σ) (state : σ) :
    exec (update change : Fallible ε σ α) state =
      (.ok (change state).1, (change state).2) := rfl

@[simp]
theorem exec_zoom (view : τ → σ) (put : τ → σ → τ) (program : Fallible ε σ α) (state : τ) :
    exec (zoom view put program) state =
      ((exec program (view state)).1, put state (exec program (view state)).2) := rfl

@[simp]
theorem exec_extend (start : τ) (program : Fallible ε (σ × τ) α) (state : σ) :
    exec (extend start program) state =
      ((exec program (state, start)).1, (exec program (state, start)).2.1) := rfl

@[simp]
theorem exec_mapError (translate : ε → δ) (program : Fallible ε σ α) (state : σ) :
    exec (mapError translate program) state =
      ((exec program state).1.mapError translate, (exec program state).2) := rfl

@[simp]
theorem exec_lift_ok (value : α) (state : σ) :
    exec (lift (.ok value) : Fallible ε σ α) state = (.ok value, state) := rfl

@[simp]
theorem exec_lift_error (error : ε) (state : σ) :
    exec (lift (.error error) : Fallible ε σ α) state = (.error error, state) := rfl

@[simp]
theorem exec_raise_none (state : σ) :
    exec (raise none : Fallible ε σ Unit) state = (.ok (), state) := rfl

@[simp]
theorem exec_raise_some (error : ε) (state : σ) :
    exec (raise (some error) : Fallible ε σ Unit) state = (.error error, state) := rfl

theorem exec_bind (program : Fallible ε σ α) (next : α → Fallible ε σ β) (state : σ) :
    exec (program >>= next) state =
      match exec program state with
      | (.ok value, after) => exec (next value) after
      | (.error error, after) => (.error error, after) := by
  change StateT.bind (m := Id) program (ExceptT.bindCont next) state =
    match (program state : Except ε α × σ) with
    | (.ok value, after) => exec (next value) after
    | (.error error, after) => (.error error, after)
  simp only [StateT.bind, bind]
  rcases (program state : Except ε α × σ) with ⟨outcome | outcome, after⟩ <;> rfl

/-- A sequence returned: its first program did, and its second one returned from there. -/
theorem exec_bind_eq_ok {program : Fallible ε σ α} {next : α → Fallible ε σ β} {state after : σ}
    {result : β} (returned : exec (program >>= next) state = (.ok result, after)) :
    ∃ value middle, exec program state = (.ok value, middle) ∧
      exec (next value) middle = (.ok result, after) := by
  rw [exec_bind] at returned
  rcases executed : exec program state with ⟨error | value, middle⟩ <;>
    simp only [executed] at returned
  · cases returned
  · exact ⟨value, middle, rfl, returned⟩

/-- A required condition that did not stop a program was met. -/
theorem exec_ensure_eq_ok {condition : Prop} [Decidable condition] {error : ε} {state after : σ}
    (returned : exec (ensure condition error : Fallible ε σ Unit) state = (.ok (), after)) :
    condition ∧ after = state := by
  by_cases holds : condition
  · rw [ensure, if_pos holds, exec_pure] at returned
    exact ⟨holds, (Prod.mk.inj returned).2.symm⟩
  · rw [ensure, if_neg holds, exec_throw] at returned
    cases returned

/-- A computation without state that returned left the state alone. -/
theorem exec_lift_eq_ok {computation : Except ε α} {value : α} {state after : σ}
    (returned : exec (lift computation : Fallible ε σ α) state = (.ok value, after)) :
    computation = .ok value ∧ after = state := by
  cases computation with
  | error => cases returned
  | ok result =>
      rw [exec_lift_ok] at returned
      obtain ⟨same, rfl⟩ := Prod.mk.inj returned
      exact ⟨congrArg Except.ok (Except.ok.inj same), rfl⟩

/-- Every outcome of `program` from a state satisfying `before` satisfies the condition for that
outcome: `returned` for a value, `failed` for an error. -/
def Triple (before : σ → Prop) (program : Fallible ε σ α) (returned : α → σ → Prop)
    (failed : ε → σ → Prop) : Prop :=
  ∀ state, before state →
    match exec program state with
    | (.ok value, after) => returned value after
    | (.error error, after) => failed error after

namespace Triple

variable {before before' : σ → Prop} {program : Fallible ε σ α} {returned returned' : α → σ → Prop}
  {failed failed' : ε → σ → Prop}

/-- Strengthen the precondition and weaken both postconditions. -/
theorem consequence (triple : Triple before program returned failed)
    (pre : ∀ state, before' state → before state)
    (post : ∀ value state, returned value state → returned' value state)
    (fail : ∀ error state, failed error state → failed' error state) :
    Triple before' program returned' failed' := by
  intro state holds
  have outcome := triple state (pre state holds)
  rcases executed : exec program state with ⟨result | result, after⟩
  · simp only [executed] at outcome
    exact fail _ _ outcome
  · simp only [executed] at outcome
    exact post _ _ outcome

/-- A triple may be proved for each state that satisfies the precondition by itself. -/
theorem of_each (each : ∀ state, before state → Triple (· = state) program returned failed) :
    Triple before program returned failed :=
  fun state holds => each state holds state rfl

theorem pure (value : α) (holds : ∀ state, before state → returned value state) :
    Triple before (pure value : Fallible ε σ α) returned failed := holds

theorem throw (error : ε) (holds : ∀ state, before state → failed error state) :
    Triple before (throw error : Fallible ε σ α) returned failed := holds

theorem update (change : σ → α × σ)
    (holds : ∀ state, before state → returned (change state).1 (change state).2) :
    Triple before (update change : Fallible ε σ α) returned failed := holds

/-- Sequencing: what the first program returns is what the second one starts from. -/
theorem bind {next : α → Fallible ε σ β} {middle : α → σ → Prop} {finished : β → σ → Prop}
    (first : Triple before program middle failed)
    (second : ∀ value, Triple (middle value) (next value) finished failed) :
    Triple before (program >>= next) finished failed := by
  intro state holds
  have outcome := first state holds
  rw [exec_bind]
  rcases executed : exec program state with ⟨result | result, after⟩
  · simpa only [executed] using outcome
  · simp only [executed] at outcome
    exact second result after outcome

/-- Continue after a computation without state. -/
theorem lift_bind {computation : Except ε α} {next : α → Fallible ε σ β}
    {finished : β → σ → Prop}
    (error : ∀ err, computation = .error err → ∀ state, before state → failed err state)
    (ok : ∀ value, computation = .ok value → Triple before (next value) finished failed) :
    Triple before (Fallible.lift computation >>= next) finished failed := by
  cases computation with
  | ok value => exact ok value rfl
  | error err => exact error err rfl

/-- Continue after a computation that is known to return. -/
theorem lift_ok_bind {value : α} {next : α → Fallible ε σ β} {finished : β → σ → Prop}
    (rest : Triple before (next value) finished failed) :
    Triple before (Fallible.lift (.ok value) >>= next) finished failed := rest

/-- Continue after a required condition. -/
theorem ensure_bind {condition : Prop} [Decidable condition] {err : ε}
    {next : Unit → Fallible ε σ β} {finished : β → σ → Prop}
    (unmet : ¬ condition → ∀ state, before state → failed err state)
    (met : condition → Triple before (next ()) finished failed) :
    Triple before (Fallible.ensure condition err >>= next) finished failed := by
  by_cases holds : condition
  · rw [Fallible.ensure, if_pos holds]
    exact met holds
  · rw [Fallible.ensure, if_neg holds]
    exact unmet holds

/-- A program with a local second component. -/
theorem extend {start : τ} {program : Fallible ε (σ × τ) α}
    (body : Triple (fun state => before state.1 ∧ state.2 = start) program
      (fun value state => returned value state.1) (fun error state => failed error state.1)) :
    Triple before (extend start program) returned failed := by
  intro state holds
  have outcome := body (state, start) ⟨holds, rfl⟩
  rw [exec_extend]
  rcases executed : exec program (state, start) with ⟨result | result, after⟩ <;>
    simpa only [executed] using outcome

/-- Loop rule for a left fold over `0 .. count`: an invariant indexed by the iterations done. -/
theorem foldlM_range {body : α → ℕ → Fallible ε σ α} {failed : ε → σ → Prop}
    (invariant : ℕ → α → σ → Prop) (count : ℕ)
    (iterate : ∀ index value, index < count →
      Triple (invariant index value) (body value index) (invariant (index + 1)) failed)
    (initial : α) :
    Triple (invariant 0 initial) ((List.range count).foldlM body initial) (invariant count)
      failed := by
  induction count with
  | zero => exact fun state holds => holds
  | succ count ih =>
      rw [List.range_succ, List.foldlM_append]
      have first := ih fun index value bound => iterate index value (by omega)
      apply bind first
      intro value
      simpa using iterate count value (by omega)

/-- A triple whose failure condition is empty returns a value. -/
theorem returns {state : σ} (triple : Triple before program returned fun _ _ => False)
    (holds : before state) :
    ∃ value after, exec program state = (.ok value, after) ∧ returned value after := by
  have outcome := triple state holds
  rcases executed : exec program state with ⟨result | result, after⟩
  · simp only [executed] at outcome
  · simp only [executed] at outcome
    exact ⟨result, after, rfl, outcome⟩

/-- Read a triple at a run that returned. -/
theorem of_ok {state after : σ} {value : α} (triple : Triple before program returned failed)
    (holds : before state) (executed : exec program state = (.ok value, after)) :
    returned value after := by
  simpa only [executed] using triple state holds

/-- Read a triple at a run that failed. -/
theorem of_error {state after : σ} {error : ε} (triple : Triple before program returned failed)
    (holds : before state) (executed : exec program state = (.error error, after)) :
    failed error after := by
  simpa only [executed] using triple state holds

/-- A program for which only the returned outcomes matter. -/
theorem of_returned
    (each : ∀ state, before state → ∀ value after, exec program state = (.ok value, after) →
      returned value after) :
    Triple before program returned fun _ _ => True := by
  intro state holds
  rcases executed : exec program state with ⟨error | value, after⟩
  · trivial
  · exact each state holds value after executed

end Triple

/-! ## Frames -/

/-- A program leaves what a view shows of the state as it is, also when it stops with an error. -/
def Preserves (view : σ → τ) (program : Fallible ε σ α) : Prop :=
  ∀ state, view (exec program state).2 = view state

namespace Preserves

variable {view : σ → τ} {program : Fallible ε σ α}

theorem update {change : σ → α × σ} (same : ∀ state, view (change state).2 = view state) :
    Preserves view (update change : Fallible ε σ α) := same

theorem bind {next : α → Fallible ε σ β} (first : Preserves view program)
    (second : ∀ value, Preserves view (next value)) : Preserves view (program >>= next) := by
  intro state
  have front := first state
  rw [exec_bind]
  rcases executed : exec program state with ⟨error | value, after⟩
  · rwa [executed] at front
  · rw [executed] at front
    exact (second value after).trans front

theorem view_eq {before after : σ} {result : Except ε α} (keeps : Preserves view program)
    (executed : exec program before = (result, after)) : view after = view before := by
  have same := keeps before
  rwa [executed] at same

end Preserves

/-! ## Records -/

/-- Run a program without changing the record that is kept beside its state. -/
def unrecorded (program : Fallible ε σ α) : Fallible ε (σ × τ) α :=
  zoom Prod.fst (fun state inner => (inner, state.2)) program

/-- Change the record. -/
def record (note : σ → τ → τ) : Fallible ε (σ × τ) Unit :=
  update fun state => ((), (state.1, note state.1 state.2))

@[simp]
theorem exec_unrecorded (program : Fallible ε σ α) (state : σ × τ) :
    exec (unrecorded program) state =
      ((exec program state.1).1, ((exec program state.1).2, state.2)) := rfl

@[simp]
theorem exec_record (note : σ → τ → τ) (state : σ × τ) :
    exec (record note : Fallible ε (σ × τ) Unit) state =
      (.ok (), (state.1, note state.1 state.2)) := rfl

namespace Triple

variable {before : σ × τ → Prop} {failed : ε → σ × τ → Prop}

/-- Continue after a note in the record. -/
theorem record_bind {note : σ → τ → τ} {middle : σ × τ → Prop}
    {next : Unit → Fallible ε (σ × τ) β} {finished : β → σ × τ → Prop}
    (noted : ∀ state, before state → middle (state.1, note state.1 state.2))
    (rest : Triple middle (next ()) finished failed) :
    Triple before (record note >>= next) finished failed :=
  fun state holds => rest _ (noted state holds)

/-- A program that keeps no record leaves what is known about it as it is. -/
theorem unrecorded (program : Fallible ε σ α) (known : τ → Prop) :
    Triple (fun state => known state.2) (Fallible.unrecorded program : Fallible ε (σ × τ) α)
      (fun _ state => known state.2) fun _ state => known state.2 := by
  intro state holds
  rw [exec_unrecorded]
  rcases (exec program state.1).1 with error | value <;> exact holds

end Triple

/-- A program that keeps a record does what another program does. -/
def Erases (recorded : Fallible ε (σ × τ) α) (program : Fallible ε σ α) : Prop :=
  ∀ state, exec program state.1 = ((exec recorded state).1, (exec recorded state).2.1)

namespace Erases

variable {recorded : Fallible ε (σ × τ) α} {program : Fallible ε σ α}

theorem unrecorded (program : Fallible ε σ α) :
    Erases (Fallible.unrecorded program : Fallible ε (σ × τ) α) program := fun _ => rfl

theorem pure (value : α) : Erases (pure value : Fallible ε (σ × τ) α) (pure value) := fun _ => rfl

theorem throw (error : ε) : Erases (throw error : Fallible ε (σ × τ) α) (throw error) :=
  fun _ => rfl

theorem lift (computation : Except ε α) :
    Erases (lift computation : Fallible ε (σ × τ) α) (lift computation) := by
  cases computation <;> exact fun _ => rfl

theorem ensure (condition : Prop) [Decidable condition] (error : ε) :
    Erases (ensure condition error : Fallible ε (σ × τ) Unit) (ensure condition error) := by
  by_cases holds : condition
  · rw [Fallible.ensure, Fallible.ensure, if_pos holds, if_pos holds]
    exact pure ()
  · rw [Fallible.ensure, Fallible.ensure, if_neg holds, if_neg holds]
    exact throw error

theorem bind {recordedNext : α → Fallible ε (σ × τ) β} {next : α → Fallible ε σ β}
    (first : Erases recorded program) (second : ∀ value, Erases (recordedNext value) (next value)) :
    Erases (recorded >>= recordedNext) (program >>= next) := by
  intro state
  rw [exec_bind, exec_bind, first state]
  rcases exec recorded state with ⟨error | value, after⟩
  · rfl
  · exact second value after

/-- A note in the record may come first. -/
theorem record_bind {note : σ → τ → τ} {next : Unit → Fallible ε (σ × τ) α}
    (rest : Erases (next ()) program) : Erases (record note >>= next) program :=
  fun state => rest (state.1, note state.1 state.2)

theorem foldlM {recordedBody : α → β → Fallible ε (σ × τ) α} {body : α → β → Fallible ε σ α}
    (each : ∀ value item, Erases (recordedBody value item) (body value item)) (items : List β)
    (initial : α) : Erases (items.foldlM recordedBody initial) (items.foldlM body initial) := by
  induction items generalizing initial with
  | nil => exact pure initial
  | cons item items ih =>
      rw [List.foldlM_cons, List.foldlM_cons]
      exact bind (each initial item) ih

/-- What holds of a program holds of it while it keeps a record. -/
theorem triple {before : σ → Prop} {returned : α → σ → Prop} {failed : ε → σ → Prop}
    (erases : Erases recorded program) (triple : Triple before program returned failed) :
    Triple (fun state => before state.1) recorded (fun value state => returned value state.1)
      fun error state => failed error state.1 := by
  intro state holds
  have outcome := triple state.1 holds
  rw [erases state] at outcome
  rcases executed : exec recorded state with ⟨error | value, after⟩ <;>
    simpa only [executed] using outcome

end Erases

end Fallible
