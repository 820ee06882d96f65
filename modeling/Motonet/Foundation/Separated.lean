import Mathlib.Data.List.Basic
import Mathlib.Tactic.Common

/-!
# Lists in parts

A list and its parts between the occurrences of a separator.
-/

namespace Separated

variable {α : Type*} [BEq α] [LawfulBEq α]

/-- The parts hold what is in the list, without the separator. -/
theorem mem_of_mem_splitOn {separator : α} {items part : List α}
    (member : part ∈ items.splitOn separator) :
    separator ∉ part ∧ ∀ item ∈ part, item ∈ items := by
  induction items generalizing part with
  | nil =>
      rw [List.splitOn_nil, List.mem_singleton] at member
      rw [member]
      exact ⟨List.not_mem_nil, fun _ inside => inside⟩
  | cons first items ih =>
      rw [List.splitOn_cons_eq_if_modifyHead] at member
      split at member
      · obtain rfl | later := List.mem_cons.mp member
        · exact ⟨List.not_mem_nil, fun _ inside => absurd inside List.not_mem_nil⟩
        · exact ⟨(ih later).1, fun item inside => List.mem_cons_of_mem _ ((ih later).2 item inside)⟩
      next other =>
        obtain ⟨head, tail, parts⟩ :=
          List.exists_cons_of_ne_nil (List.splitOn_ne_nil separator items)
        rw [parts, List.modifyHead_cons] at member
        obtain rfl | later := List.mem_cons.mp member
        · have front := ih (parts ▸ List.mem_cons_self : head ∈ items.splitOn separator)
          have distinct : separator ≠ first := fun same => other (beq_iff_eq.mpr same.symm)
          refine ⟨List.not_mem_cons_of_ne_of_not_mem distinct front.1, fun item inside => ?_⟩
          obtain rfl | inside := List.mem_cons.mp inside
          · exact List.mem_cons_self
          · exact List.mem_cons_of_mem _ (front.2 item inside)
        · have rest := ih (parts ▸ List.mem_cons_of_mem _ later)
          exact ⟨rest.1, fun item inside => List.mem_cons_of_mem _ (rest.2 item inside)⟩

/-- Lists have the parts from which they can be put together. -/
theorem splitOn_eq_iff {separator : α} {items : List α} {parts : List (List α)}
    (nonempty : parts ≠ []) :
    items.splitOn separator = parts ↔
      items = [separator].intercalate parts ∧ ∀ part ∈ parts, separator ∉ part := by
  constructor
  · rintro rfl
    exact ⟨(List.intercalate_splitOn separator).symm, fun part member =>
      (mem_of_mem_splitOn member).1⟩
  · rintro ⟨rfl, clean⟩
    exact List.splitOn_intercalate separator clean nonempty

omit [LawfulBEq α] in
/-- There is one part more than separators. -/
theorem length_splitOn (separator : α) (items : List α) :
    (items.splitOn separator).length = items.count separator + 1 := by
  induction items with
  | nil => rfl
  | cons item items ih =>
      rw [List.splitOn_cons_eq_if_modifyHead, List.count_cons]
      split
      · rw [List.length_cons, ih]
      · rw [List.length_modifyHead, ih]

/-- A separator at either end leaves an empty part there. -/
theorem nil_mem_splitOn {separator : α} {items : List α}
    (at_end : items.head? = some separator ∨ items.getLast? = some separator) :
    [] ∈ items.splitOn separator := by
  obtain first | last := at_end
  · obtain ⟨rest, rfl⟩ : ∃ rest, items = separator :: rest :=
      ⟨_, List.eq_cons_of_mem_head? first⟩
    rw [List.splitOn_cons_eq_if_modifyHead, if_pos (beq_self_eq_true _)]
    exact List.mem_cons_self
  · obtain ⟨front, rfl⟩ := List.getLast?_eq_some_iff.mp last
    rw [List.splitOn_append_cons_self]
    exact List.mem_append_right _ (List.mem_singleton.mpr rfl)

omit [BEq α] [LawfulBEq α] in
/-- What is in a list put together from parts comes from a part or is the separator. -/
theorem mem_intercalate {separator item : α} {parts : List (List α)}
    (member : item ∈ [separator].intercalate parts) :
    item = separator ∨ ∃ part ∈ parts, item ∈ part := by
  induction parts with
  | nil => exact absurd member List.not_mem_nil
  | cons part parts ih =>
      cases parts with
      | nil =>
          rw [List.intercalate_singleton] at member
          exact .inr ⟨part, List.mem_cons_self, member⟩
      | cons next parts =>
          rw [List.intercalate_cons_cons, List.append_assoc, List.mem_append,
            List.mem_append] at member
          obtain inside | at_separator | later := member
          · exact .inr ⟨part, List.mem_cons_self, inside⟩
          · exact .inl (List.mem_singleton.mp at_separator)
          · exact (ih later).imp_right fun ⟨other, among, inside⟩ =>
              ⟨other, List.mem_cons_of_mem _ among, inside⟩

end Separated
