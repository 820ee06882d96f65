import Mathlib.Data.List.Basic
import Mathlib.Tactic.Common

/-!
# Texts that say where they end

Concatenated texts are read back without ambiguity when each part shows where it ends: a run of
characters of one class by the first character outside it, a quoted string by its closing quote.
-/

namespace SelfDelimiting

variable {α : Type*}

/-- Words over a class of characters, each followed by a character outside the class, are told
apart in front of any continuation. -/
theorem word_append_cons {word : α → Prop} {left right leftTail rightTail : List α}
    {leftStop rightStop : α} (left_word : ∀ char ∈ left, word char)
    (right_word : ∀ char ∈ right, word char) (left_stop : ¬ word leftStop)
    (right_stop : ¬ word rightStop)
    (same : left ++ leftStop :: leftTail = right ++ rightStop :: rightTail) :
    left = right ∧ leftStop :: leftTail = rightStop :: rightTail := by
  induction left generalizing right with
  | nil =>
      cases right with
      | nil => exact ⟨rfl, same⟩
      | cons char right =>
          have head_eq : leftStop = char := (List.cons.inj same).1
          exact absurd (right_word char List.mem_cons_self) (head_eq ▸ left_stop)
  | cons char left ih =>
      cases right with
      | nil =>
          have head_eq : char = rightStop := (List.cons.inj same).1
          exact absurd (left_word char List.mem_cons_self) (head_eq ▸ right_stop)
      | cons other right =>
          obtain ⟨head_eq, tail_eq⟩ := List.cons.inj same
          obtain ⟨words, tails⟩ := ih (fun c member => left_word c (List.mem_cons_of_mem _ member))
            (fun c member => right_word c (List.mem_cons_of_mem _ member)) tail_eq
          exact ⟨by rw [head_eq, words], tails⟩

/-- A number in decimal ends at the first character that is not a digit. -/
theorem decimal_append_cons {left right : ℕ} {leftTail rightTail : List Char}
    {leftStop rightStop : Char} (left_stop : leftStop.isDigit = false)
    (right_stop : rightStop.isDigit = false)
    (same : Nat.toDigits 10 left ++ leftStop :: leftTail =
      Nat.toDigits 10 right ++ rightStop :: rightTail) :
    left = right ∧ leftStop :: leftTail = rightStop :: rightTail := by
  have digits (number : ℕ) : ∀ char ∈ Nat.toDigits 10 number, char.isDigit = true :=
    fun char member => Nat.isDigit_of_mem_toDigits (by decide) (by decide) member
  obtain ⟨words, tails⟩ := word_append_cons
    (digits left) (digits right) (by simp [left_stop]) (by simp [right_stop]) same
  refine ⟨?_, tails⟩
  rw [← Nat.ofDigitChars_ten_toDigits (n := left), words, Nat.ofDigitChars_ten_toDigits]

/-- The text between two quotes: every quote in it is escaped, and no escape is left dangling. -/
inductive Quotable (quote escape : α) : List α → Prop
  | nil : Quotable quote escape []
  | plain {char : α} {chars : List α} : char ≠ quote → char ≠ escape →
      Quotable quote escape chars → Quotable quote escape (char :: chars)
  | escaped {char : α} {chars : List α} :
      Quotable quote escape chars → Quotable quote escape (escape :: char :: chars)

/-- A quoted string ends at its closing quote. -/
theorem Quotable.append_cons {quote escape : α} {left right leftTail rightTail : List α}
    (distinct : quote ≠ escape) (left_body : Quotable quote escape left)
    (right_body : Quotable quote escape right)
    (same : left ++ quote :: leftTail = right ++ quote :: rightTail) :
    left = right ∧ leftTail = rightTail := by
  induction left_body generalizing right with
  | nil =>
      cases right_body with
      | nil => exact ⟨rfl, (List.cons.inj same).2⟩
      | plain not_quote => exact absurd (List.cons.inj same).1.symm not_quote
      | escaped => exact absurd (List.cons.inj same).1 distinct
  | plain not_quote not_escape _ ih =>
      cases right_body with
      | nil => exact absurd (List.cons.inj same).1 not_quote
      | plain _ _ right_rest =>
          obtain ⟨head_eq, tail_eq⟩ := List.cons.inj same
          obtain ⟨bodies, tails⟩ := ih right_rest tail_eq
          exact ⟨by rw [head_eq, bodies], tails⟩
      | escaped => exact absurd (List.cons.inj same).1 not_escape
  | escaped _ ih =>
      cases right_body with
      | nil => exact absurd (List.cons.inj same).1.symm distinct
      | plain _ not_escape => exact absurd (List.cons.inj same).1.symm not_escape
      | escaped right_rest =>
          obtain ⟨-, rest_eq⟩ := List.cons.inj same
          obtain ⟨head_eq, tail_eq⟩ := List.cons.inj rest_eq
          obtain ⟨bodies, tails⟩ := ih right_rest tail_eq
          exact ⟨by rw [head_eq, bodies], tails⟩

end SelfDelimiting
