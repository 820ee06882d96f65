import Mathlib.Data.List.DropRight
import Mathlib.Tactic.Common

/-!
# The most recent elements of a list

A list that grows at its end is a history, and `rtake n` is what it said last.  An element belongs
to the last `n` that satisfy a predicate exactly if fewer than `n` that satisfy it come later.  A
predicate that stays true once it holds splits a history into a past and a present.
-/

namespace Motonet
namespace Recent

variable {α : Type*}

/-- Where a predicate stays true once it holds, the elements that fail it come first. -/
theorem filter_not_append_filter {holds : α → Bool} {history : List α}
    (stays : history.Pairwise fun earlier later => holds earlier → holds later) :
    history.filter (fun element => !holds element) ++ history.filter holds = history := by
  induction history with
  | nil => rfl
  | cons first rest ih =>
      obtain ⟨closed, stays⟩ := List.pairwise_cons.mp stays
      cases begun : holds first with
      | true =>
          have all : ∀ element ∈ rest, holds element = true :=
            fun element member => closed element member begun
          have none : rest.filter (fun element => !holds element) = [] := by
            simpa [List.filter_eq_nil_iff] using all
          simp [begun, none, List.filter_eq_self.mpr all]
      | false => simp [begun, ih stays]

/-- The last elements of a history are an end of it. -/
theorem rtake_suffix (count : ℕ) (history : List α) : history.rtake count <:+ history :=
  List.drop_suffix _ _

theorem length_rtake (count : ℕ) (history : List α) :
    (history.rtake count).length = min count history.length := by
  rw [List.rtake, List.length_drop]
  omega

/-- A history of no more elements than asked for is recent as a whole. -/
theorem rtake_of_length_le {count : ℕ} {history : List α} (few : history.length ≤ count) :
    history.rtake count = history := by
  rw [List.rtake, Nat.sub_eq_zero_of_le few, List.drop_zero]

/-- Of two histories the second one is taken from first. -/
theorem rtake_append (count : ℕ) (front back : List α) :
    (front ++ back).rtake count = front.rtake (count - back.length) ++ back.rtake count := by
  rw [List.rtake, List.rtake, List.rtake, List.drop_append, List.length_append]
  congr 1
  · rw [List.drop_eq_drop_iff]
    omega
  · congr 1
    omega

theorem rtake_rtake (fewer more : ℕ) (history : List α) :
    (history.rtake more).rtake fewer = history.rtake (min fewer more) := by
  rw [List.rtake, length_rtake, List.rtake, List.rtake, List.drop_drop]
  congr 1
  omega

/-- What comes next sees of a history only the most recent elements. -/
theorem rtake_rtake_concat (count : ℕ) (history : List α) (last : α) :
    (history.rtake count ++ [last]).rtake count = (history ++ [last]).rtake count := by
  rw [rtake_append, rtake_append, rtake_rtake]
  congr 2
  exact Nat.min_eq_left (Nat.sub_le _ _)

/-- A place in a history that has grown by one element is the new element, or it is a place in the
history as it was. -/
theorem concat_eq_append_cons_iff {history front back : List α} {last element : α} :
    history ++ [last] = front ++ element :: back ↔
      (front = history ∧ element = last ∧ back = []) ∨
        ∃ shorter, back = shorter ++ [last] ∧ history = front ++ element :: shorter := by
  constructor
  · intro split
    obtain rfl | ⟨shorter, final, rfl⟩ := back.eq_nil_or_concat'
    · obtain ⟨same, ends⟩ := List.append_inj' split rfl
      exact .inl ⟨same.symm, (List.cons.inj ends).1.symm, rfl⟩
    · rw [← List.cons_append, ← List.append_assoc] at split
      obtain ⟨same, ends⟩ := List.append_inj' split rfl
      exact .inr ⟨shorter, by rw [ends], same⟩
  · rintro (⟨rfl, rfl, rfl⟩ | ⟨shorter, rfl, rfl⟩)
    · rfl
    · simp

/-- An element is one of the last `count` that satisfy a predicate exactly if fewer than `count`
that satisfy it come later. -/
theorem mem_rtake_filter_iff {holds : α → Bool} {count : ℕ} {history : List α} {element : α} :
    element ∈ (history.filter holds).rtake count ↔
      ∃ front back, history = front ++ element :: back ∧ holds element = true ∧
        back.countP holds < count := by
  induction history using List.reverseRecOn generalizing count with
  | nil => simp
  | append_singleton history last ih =>
      simp only [concat_eq_append_cons_iff, List.filter_append, List.filter_singleton]
      obtain _ | count := count
      · simp
      · cases satisfied : holds last with
        | false =>
            rw [Bool.cond_false, List.append_nil, ih]
            constructor
            · rintro ⟨front, back, split, held, few⟩
              exact ⟨front, back ++ [last], .inr ⟨back, rfl, split⟩, held,
                by simpa [satisfied] using few⟩
            · rintro ⟨front, back, ⟨-, rfl, -⟩ | ⟨back, rfl, split⟩, held, few⟩
              · rw [satisfied] at held
                cases held
              · exact ⟨front, back, split, held, by simpa [satisfied] using few⟩
        | true =>
            rw [Bool.cond_true, List.rtake_concat_succ, List.mem_append, List.mem_singleton, ih]
            constructor
            · rintro (⟨front, back, split, held, few⟩ | rfl)
              · exact ⟨front, back ++ [last], .inr ⟨back, rfl, split⟩, held,
                  by simpa [satisfied] using few⟩
              · exact ⟨history, [], .inl ⟨rfl, rfl, rfl⟩, satisfied, by simp⟩
            · rintro ⟨front, back, ⟨-, rfl, -⟩ | ⟨back, rfl, split⟩, held, few⟩
              · exact .inr rfl
              · exact .inl ⟨front, back, split, held, by simpa [satisfied] using few⟩

end Recent
end Motonet
