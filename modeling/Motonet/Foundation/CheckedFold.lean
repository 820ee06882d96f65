import Mathlib.Data.List.Basic
import Mathlib.Tactic.Common

/-!
# Checksums that fold a list

A checksum that goes through the items of a list one by one, with a step that loses neither its
state nor the item, depends on each item alone injectively.  Two words of payload and checksum that
differ in one place at most are therefore equal if both are right.
-/

variable {σ α : Type*}

/-- A step that can be undone in its state and in its item. -/
structure CancellativeStep (step : σ → α → σ) : Prop where
  state : ∀ {left right : σ} {item : α}, step left item = step right item → left = right
  item : ∀ {state : σ} {left right : α}, step state left = step state right → left = right

/-- Two lists with the same items, except perhaps in one place. -/
inductive AgreeExceptOnce : List α → List α → Prop
  | here (left right : α) (rest : List α) : AgreeExceptOnce (left :: rest) (right :: rest)
  | there {left right : List α} (item : α) :
      AgreeExceptOnce left right → AgreeExceptOnce (item :: left) (item :: right)

namespace CancellativeStep

variable {step : σ → α → σ}

/-- The state that a fold begins in can be recovered from the one it ends in. -/
theorem foldl_state (cancellative : CancellativeStep step) {items : List α} {left right : σ}
    (folded : items.foldl step left = items.foldl step right) : left = right := by
  induction items generalizing left right with
  | nil => exact folded
  | cons item items ih => exact cancellative.state (ih folded)

/-- The fold determines an item by all the others. -/
theorem eq_of_foldl_eq (cancellative : CancellativeStep step) {left right : List α}
    (agree : AgreeExceptOnce left right) {state : σ}
    (folded : left.foldl step state = right.foldl step state) : left = right := by
  induction agree generalizing state with
  | here left right rest =>
      have item : left = right := cancellative.item (cancellative.foldl_state folded)
      rw [item]
  | there item agree ih => rw [ih folded]

end CancellativeStep

/-- A change in one place of a payload, or of its checksum, is seen. -/
theorem CancellativeStep.checked_unique {step : α → α → α} (cancellative : CancellativeStep step)
    {seed check check' : α} {payload payload' : List α}
    (right : payload.foldl step seed = check) (right' : payload'.foldl step seed = check')
    (close : payload = payload' ∨ check = check' ∧ AgreeExceptOnce payload payload') :
    payload = payload' ∧ check = check' := by
  rcases close with same | ⟨check_eq, agree⟩
  · exact ⟨same, by rw [← right, ← right', same]⟩
  · exact ⟨cancellative.eq_of_foldl_eq agree (by rw [right, right', check_eq]), check_eq⟩
