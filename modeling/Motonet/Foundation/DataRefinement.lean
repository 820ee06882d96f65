import Motonet.Foundation.Fallible

/-!
# Data refinement

A program on one kind of state does what a program on another kind does, if the two return the same
value or stop with the same error whenever they start from related states.  While the programs run
their states stay related; a weaker relation may hold once they have stopped.
-/

namespace Fallible

variable {ε δ σ τ ρ α β : Type}

/-- Outcomes of programs on two kinds of state that agree. -/
inductive Agree (related stopped : σ → τ → Prop) : Except ε α × σ → Except ε α × τ → Prop
  | returned (value : α) {state : σ} {other : τ} :
      related state other → Agree related stopped (.ok value, state) (.ok value, other)
  | failed (error : ε) {state : σ} {other : τ} :
      stopped state other → Agree related stopped (.error error, state) (.error error, other)

/-- From related states the programs agree. -/
def Refines (related stopped : σ → τ → Prop) (concrete : Fallible ε σ α)
    (abstract : Fallible ε τ α) : Prop :=
  ∀ state other, related state other →
    Agree related stopped (exec concrete state) (exec abstract other)

namespace Refines

variable {related stopped : σ → τ → Prop} {concrete : Fallible ε σ α} {abstract : Fallible ε τ α}

theorem pure (value : α) :
    Refines related stopped (pure value : Fallible ε σ α) (pure value : Fallible ε τ α) :=
  fun _ _ same => .returned value same

theorem throw (stops : ∀ state other, related state other → stopped state other) (error : ε) :
    Refines related stopped (throw error : Fallible ε σ α) (throw error : Fallible ε τ α) :=
  fun state other same => .failed error (stops state other same)

theorem lift (stops : ∀ state other, related state other → stopped state other)
    (computation : Except ε α) :
    Refines related stopped (Fallible.lift computation : Fallible ε σ α)
      (Fallible.lift computation : Fallible ε τ α) := by
  cases computation with
  | ok value => exact pure value
  | error error => exact throw stops error

theorem ensure (stops : ∀ state other, related state other → stopped state other)
    (condition : Prop) [Decidable condition] (error : ε) :
    Refines related stopped (Fallible.ensure condition error : Fallible ε σ Unit)
      (Fallible.ensure condition error : Fallible ε τ Unit) := by
  unfold Fallible.ensure
  split
  · exact pure ()
  · exact throw stops error

theorem ite {condition : Prop} [Decidable condition] {concreteElse : Fallible ε σ α}
    {abstractElse : Fallible ε τ α} (pos : Refines related stopped concrete abstract)
    (neg : Refines related stopped concreteElse abstractElse) :
    Refines related stopped (if condition then concrete else concreteElse)
      (if condition then abstract else abstractElse) := by
  split
  · exact pos
  · exact neg

theorem bind {concreteNext : α → Fallible ε σ β} {abstractNext : α → Fallible ε τ β}
    (first : Refines related stopped concrete abstract)
    (second : ∀ value, Refines related stopped (concreteNext value) (abstractNext value)) :
    Refines related stopped (concrete >>= concreteNext) (abstract >>= abstractNext) := by
  intro state other same
  have agree := first state other same
  rw [exec_bind, exec_bind]
  generalize exec concrete state = outcome at agree
  generalize exec abstract other = outcome' at agree
  cases agree with
  | returned value still => exact second value _ _ still
  | failed error ended => exact .failed error ended

theorem foldlM {concreteBody : α → β → Fallible ε σ α} {abstractBody : α → β → Fallible ε τ α}
    (each : ∀ value item,
      Refines related stopped (concreteBody value item) (abstractBody value item))
    (items : List β) (initial : α) :
    Refines related stopped (items.foldlM concreteBody initial)
      (items.foldlM abstractBody initial) := by
  induction items generalizing initial with
  | nil => exact pure initial
  | cons item items ih =>
      rw [List.foldlM_cons, List.foldlM_cons]
      exact bind (each initial item) ih

theorem mapError (refines : Refines related stopped concrete abstract) (translate : ε → δ) :
    Refines related stopped (Fallible.mapError translate concrete)
      (Fallible.mapError translate abstract) := by
  intro state other same
  have agree := refines state other same
  rw [exec_mapError, exec_mapError]
  generalize exec concrete state = outcome at agree
  generalize exec abstract other = outcome' at agree
  cases agree with
  | returned value still => exact .returned value still
  | failed error ended => exact .failed (translate error) ended

/-- Continue after computations without state of which one is made from the other. -/
theorem lift_map_bind (stops : ∀ state other, related state other → stopped state other)
    (computation : Except ε α) (change : α → β) {concreteNext : α → Fallible ε σ δ}
    {abstractNext : β → Fallible ε τ δ}
    (next : ∀ value, Refines related stopped (concreteNext value) (abstractNext (change value))) :
    Refines related stopped (Fallible.lift computation >>= concreteNext)
      (Fallible.lift (computation.map change) >>= abstractNext) := by
  cases computation with
  | ok value => exact next value
  | error error => exact throw stops error

end Refines

/-! ## On the same state -/

namespace Refines

theorem of_exec_eq {program other : Fallible ε σ α}
    (same : ∀ state, exec program state = exec other state) : Refines Eq Eq program other := by
  rintro state _ rfl
  rw [same state]
  rcases exec other state with ⟨error | value, after⟩
  · exact .failed error rfl
  · exact .returned value rfl

theorem refl (program : Fallible ε σ α) : Refines Eq Eq program program :=
  of_exec_eq fun _ => rfl

theorem exec_eq {program other : Fallible ε σ α} (refines : Refines Eq Eq program other)
    (state : σ) : exec program state = exec other state := by
  have agree := refines state state rfl
  generalize exec program state = outcome at agree
  generalize exec other state = outcome' at agree
  cases agree with
  | returned value same => rw [same]
  | failed error same => rw [same]

end Refines

/-! ## Beside a common state -/

/-- A common first component, and related second ones. -/
def Beside (related : σ → τ → Prop) (state : ρ × σ) (other : ρ × τ) : Prop :=
  state.1 = other.1 ∧ related state.2 other.2

/-- A common first component. -/
def SameFirst (state : ρ × σ) (other : ρ × τ) : Prop := state.1 = other.1

theorem sameFirst_of_beside {related : σ → τ → Prop} (state : ρ × σ) (other : ρ × τ)
    (beside : Beside related state other) : SameFirst state other := beside.1

namespace Refines

variable {related : σ → τ → Prop}

/-- A program on the common component. -/
theorem first (program : Fallible ε ρ α) :
    Refines (Beside related) SameFirst
      (zoom Prod.fst (fun state inner => (inner, state.2)) program : Fallible ε (ρ × σ) α)
      (zoom Prod.fst (fun state inner => (inner, state.2)) program : Fallible ε (ρ × τ) α) := by
  rintro ⟨common, state⟩ ⟨_, other⟩ ⟨rfl, same⟩
  rw [exec_zoom, exec_zoom]
  rcases exec program common with ⟨error | value, after⟩
  · exact .failed error rfl
  · exact .returned value ⟨rfl, same⟩

/-- Programs on the second components. -/
theorem second {concrete : Fallible ε σ α} {abstract : Fallible ε τ α}
    {stopped : σ → τ → Prop} (refines : Refines related stopped concrete abstract) :
    Refines (Beside related) SameFirst
      (zoom Prod.snd (fun state inner => (state.1, inner)) concrete : Fallible ε (ρ × σ) α)
      (zoom Prod.snd (fun state inner => (state.1, inner)) abstract : Fallible ε (ρ × τ) α) := by
  rintro ⟨common, state⟩ ⟨_, other⟩ ⟨rfl, same⟩
  have agree := refines state other same
  rw [exec_zoom, exec_zoom]
  dsimp only
  generalize exec concrete state = outcome at agree
  generalize exec abstract other = outcome' at agree
  cases agree with
  | returned value still => exact .returned value ⟨rfl, still⟩
  | failed error _ => exact .failed error rfl

/-- Once the second components are dropped, the programs do the same. -/
theorem exec_extend {concrete : Fallible ε (ρ × σ) α} {abstract : Fallible ε (ρ × τ) α}
    (refines : Refines (Beside related) SameFirst concrete abstract) {start : σ} {start' : τ}
    (same : related start start') (state : ρ) :
    exec (extend start concrete) state = exec (extend start' abstract) state := by
  have agree := refines (state, start) (state, start') ⟨rfl, same⟩
  rw [Fallible.exec_extend, Fallible.exec_extend]
  generalize exec concrete (state, start) = outcome at agree
  generalize exec abstract (state, start') = outcome' at agree
  cases agree with
  | returned value still => rw [still.1]
  | failed error ended => exact congrArg (Prod.mk (Except.error error)) ended

end Refines

end Fallible
