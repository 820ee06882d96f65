import Mathlib.Data.List.Basic
import Mathlib.Tactic.Common

/-!
# Watches and bounded channels

A watch keeps the last value that was sent and counts the sends; a receiver remembers how many sends
it has seen.  A bounded channel is a queue that refuses a value when it is full.
-/

/-- The last value sent on a watch, and the number of sends. -/
structure Watch (α : Type*) where
  value : Option α
  sent : ℕ
  deriving DecidableEq, Repr

namespace Watch

variable {α : Type*}

/-- A watch on which nothing was sent. -/
def empty : Watch α := ⟨none, 0⟩

/-- Send a value to all receivers. -/
def send (value : α) (watch : Watch α) : Watch α := ⟨some value, watch.sent + 1⟩

/-- Whether a receiver that has seen a number of sends finds a new value. -/
def changed (seen : ℕ) (watch : Watch α) : Bool := seen < watch.sent

@[simp]
theorem value_send (value : α) (watch : Watch α) : (watch.send value).value = some value := rfl

@[simp]
theorem sent_send (value : α) (watch : Watch α) : (watch.send value).sent = watch.sent + 1 := rfl

end Watch

namespace Channel

variable {α : Type*}

/-- Append a value to the queue of a channel, unless it is full. -/
def trySend (capacity : ℕ) (value : α) (queue : List α) : Option (List α) :=
  if queue.length < capacity then some (queue ++ [value]) else none

theorem trySend_eq_some_iff {capacity : ℕ} {value : α} {queue sent : List α} :
    trySend capacity value queue = some sent ↔
      queue.length < capacity ∧ sent = queue ++ [value] := by
  unfold trySend
  split
  · rename_i free
    simp [free, eq_comm]
  · rename_i full
    simp [full]

end Channel
