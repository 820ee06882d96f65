import Mathlib.Data.List.Induction
import Mathlib.Data.List.Nodup
import Mathlib.Tactic.Common

/-!
# The first distinct items of a list

Items are offered one by one to a list with room for some of them; one that is already kept, or that
finds no room, is left out.  What is kept are the first distinct items, in the order in which they
first occur.
-/

namespace Distinct

variable {α : Type*} [DecidableEq α]

/-- Keep an item that is new, if there is room for it. -/
def offer (room : ℕ) (kept : List α) (item : α) : List α :=
  if kept.length = room ∨ item ∈ kept then kept else kept ++ [item]

theorem offer_of_full {room : ℕ} {kept : List α} (full : kept.length = room) (item : α) :
    offer room kept item = kept :=
  if_pos (Or.inl full)

/-- A list without room stays as it is. -/
theorem foldl_offer_of_full {room : ℕ} {kept : List α} (full : kept.length = room)
    (items : List α) : items.foldl (offer room) kept = kept := by
  induction items with
  | nil => rfl
  | cons item items ih => rw [List.foldl_cons, offer_of_full full, ih]

theorem eraseDups_concat_of_mem {items : List α} {item : α} (known : item ∈ items) :
    (items ++ [item]).eraseDups = items.eraseDups := by
  rw [List.eraseDups_append, List.cons_removeAll]
  simp [known]

theorem eraseDups_concat_of_not_mem {items : List α} {item : α} (new : item ∉ items) :
    (items ++ [item]).eraseDups = items.eraseDups ++ [item] := by
  rw [List.eraseDups_append, List.cons_removeAll]
  simp [new, List.eraseDups_cons]

theorem nodup_eraseDups (items : List α) : items.eraseDups.Nodup := by
  induction items using List.reverseRecOn with
  | nil => exact List.nodup_nil
  | append_singleton items item ih =>
      by_cases known : item ∈ items
      · rw [eraseDups_concat_of_mem known]
        exact ih
      · rw [eraseDups_concat_of_not_mem known, List.nodup_append_comm]
        simpa [known] using ih

/-- Offering the items of a list one by one keeps the first distinct ones. -/
theorem foldl_offer_eq (room : ℕ) (items : List α) :
    items.foldl (offer room) [] = items.eraseDups.take room := by
  induction items using List.reverseRecOn with
  | nil => simp
  | append_singleton items item ih =>
      rw [List.foldl_concat, ih]
      by_cases short : items.eraseDups.length < room
      · -- There is room, so all distinct items have been kept.
        have kept : items.eraseDups.take room = items.eraseDups :=
          List.take_of_length_le (Nat.le_of_lt short)
        have room_left : items.eraseDups.length ≠ room := Nat.ne_of_lt short
        rw [kept, offer]
        by_cases known : item ∈ items
        · rw [if_pos (Or.inr (List.mem_eraseDups.mpr known)), eraseDups_concat_of_mem known, kept]
        · have longer : (items.eraseDups ++ [item]).length ≤ room := by
            rw [List.length_append]
            exact short
          rw [if_neg (by simp [room_left, known]), eraseDups_concat_of_not_mem known,
            List.take_of_length_le longer]
      · have long : room ≤ items.eraseDups.length := Nat.not_lt.mp short
        rw [offer_of_full (List.length_take_of_le long)]
        by_cases known : item ∈ items
        · rw [eraseDups_concat_of_mem known]
        · rw [eraseDups_concat_of_not_mem known, List.take_append_of_le_length long]

theorem take_eraseDups_eq_nil_iff {room : ℕ} (positive : 0 < room) {items : List α} :
    items.eraseDups.take room = [] ↔ items = [] := by
  cases items with
  | nil => simp
  | cons item items => simp [List.eraseDups_cons, Nat.ne_of_gt positive]

end Distinct
