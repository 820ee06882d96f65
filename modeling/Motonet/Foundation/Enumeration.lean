import Mathlib.Data.List.Basic
import Mathlib.Logic.Function.Iterate
import Mathlib.Tactic.Common

/-!
# Iterators that can be resumed

An iterator is a state with a function that returns the next item, if there is one, and the state
behind it.  It enumerates a list if each call returns the head of what is left and leaves its tail;
any number of calls then returns the items in their order, and none of them after the first that
finds nothing returns an item.
-/

namespace Enumeration

variable {σ α : Type*}

/-- The state behind a number of calls. -/
def afterCalls (next : σ → Option α × σ) (calls : ℕ) (state : σ) : σ :=
  (fun state => (next state).2)^[calls] state

/-- What is left in each state is what the calls return from it. -/
structure Enumerates (next : σ → Option α × σ) (left : σ → List α) : Prop where
  item : ∀ state, (next state).1 = (left state).head?
  rest : ∀ state, left (next state).2 = (left state).tail

namespace Enumerates

variable {next : σ → Option α × σ} {left : σ → List α}

theorem left_afterCalls (enumerates : Enumerates next left) (calls : ℕ) (state : σ) :
    left (afterCalls next calls state) = (left state).drop calls := by
  induction calls generalizing state with
  | zero => rfl
  | succ calls ih =>
      change left (afterCalls next calls (next state).2) = _
      rw [ih, enumerates.rest, List.drop_tail]

/-- The item that a later call returns. -/
theorem item_afterCalls (enumerates : Enumerates next left) (calls : ℕ) (state : σ) :
    (next (afterCalls next calls state)).1 = (left state)[calls]? := by
  rw [enumerates.item, enumerates.left_afterCalls, List.head?_drop]

/-- Behind a call that returns no item, no call returns one. -/
theorem none_forever (enumerates : Enumerates next left) {state : σ}
    (finished : (next state).1 = none) (calls : ℕ) :
    (next (afterCalls next calls (next state).2)).1 = none := by
  rw [enumerates.item, List.head?_eq_none_iff] at finished
  rw [enumerates.item_afterCalls, enumerates.rest, finished]
  rfl

end Enumerates
end Enumeration
