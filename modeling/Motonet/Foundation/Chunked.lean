import Mathlib.Data.List.Basic
import Mathlib.Data.List.Range
import Mathlib.Tactic.Common
import Mathlib.Tactic.Ring

/-!
# Texts cut into chunks

A text of a given length is cut into chunks of a fixed size, of which only the last may be shorter.
-/

namespace Chunked

variable {α : Type*} {size total : ℕ}

/-- Number of chunks of a text. -/
def count (size total : ℕ) : ℕ :=
  (total + size - 1) / size

/-- Length of a chunk. -/
def chunkLength (size total index : ℕ) : ℕ :=
  min size (total - index * size)

/-- The chunk of a text at an index. -/
def slice (size : ℕ) (text : List α) (index : ℕ) : List α :=
  (text.drop (index * size)).take size

/-- A chunk index is one whose first byte lies in the text. -/
theorem lt_count_iff (size_pos : 0 < size) (index : ℕ) :
    index < count size total ↔ index * size < total := by
  rw [count, Nat.lt_iff_add_one_le, Nat.le_div_iff_mul_le size_pos, Nat.succ_mul]
  omega

theorem total_le_count_mul (size_pos : 0 < size) : total ≤ count size total * size :=
  not_lt.mp fun short => lt_irrefl _ ((lt_count_iff size_pos _).mpr short)

/-- Every chunk but the last is full. -/
theorem chunkLength_of_lt (size_pos : 0 < size) {index : ℕ}
    (not_last : index + 1 < count size total) : chunkLength size total index = size := by
  have next_inside := (lt_count_iff size_pos _).mp not_last
  rw [Nat.succ_mul] at next_inside
  exact min_eq_left (by omega)

/-- The last chunk holds the rest. -/
theorem chunkLength_last (size_pos : 0 < size) {index : ℕ}
    (last : index + 1 = count size total) :
    chunkLength size total index = total - index * size := by
  have covered : total ≤ count size total * size := total_le_count_mul size_pos
  rw [← last, Nat.succ_mul] at covered
  exact min_eq_right (by omega)

theorem chunkLength_le (size total index : ℕ) : chunkLength size total index ≤ size :=
  min_le_left _ _

/-- Where a chunk ends. -/
theorem min_mul_add_chunkLength {index : ℕ} (size_pos : 0 < size)
    (inside : index < count size total) :
    index * size + chunkLength size total index = min ((index + 1) * size) total := by
  have start := (lt_count_iff size_pos index).mp inside
  rw [chunkLength, Nat.succ_mul]
  omega

@[simp]
theorem length_slice (size : ℕ) (text : List α) (index : ℕ) :
    (slice size text index).length = chunkLength size text.length index := by
  simp [slice, chunkLength]

/-- A chunk that lies in front of what is appended. -/
theorem slice_append_left {text : List α} (piece : List α) {index : ℕ}
    (inside : (index + 1) * size ≤ text.length) :
    slice size (text ++ piece) index = slice size text index := by
  rw [Nat.succ_mul] at inside
  rw [slice, List.drop_append_of_le_length (by omega),
    List.take_append_of_le_length (by rw [List.length_drop]; omega), slice]

/-- A piece that is appended at a chunk boundary is the next chunk. -/
theorem slice_append_self {text piece : List α} {index : ℕ}
    (boundary : text.length = index * size) (fits : piece.length ≤ size) :
    slice size (text ++ piece) index = piece := by
  rw [slice, ← boundary, List.drop_left, List.take_of_length_le fits]

/-- The first chunks of a text, put together. -/
theorem flatMap_slice_range (size : ℕ) (text : List α) (count : ℕ) :
    (List.range count).flatMap (slice size text) = text.take (count * size) := by
  induction count with
  | zero => simp
  | succ count ih =>
      rw [List.range_succ, List.flatMap_append, ih, Nat.succ_mul, List.take_add]
      simp [slice]

/-- The chunks of a text, put together. -/
theorem flatMap_slice (size_pos : 0 < size) (text : List α) :
    (List.range (count size text.length)).flatMap (slice size text) = text := by
  rw [flatMap_slice_range, List.take_of_length_le (total_le_count_mul size_pos)]

/-- Pieces of one size, each cut to the length of its chunk, are the pieces put together and cut to
the length of the text. -/
theorem flatMap_take_chunkLength {piece : ℕ → List α} (fixed : ∀ index, (piece index).length = size)
    (total count : ℕ) :
    (List.range count).flatMap (fun index => (piece index).take (chunkLength size total index)) =
      ((List.range count).flatMap piece).take total := by
  induction count with
  | zero => simp
  | succ count ih =>
      have length : ((List.range count).flatMap piece).length = count * size := by
        simp [List.length_flatMap, fixed]
      rw [List.range_succ, List.flatMap_append, ih, List.flatMap_append, List.take_append, length]
      simp only [List.flatMap_singleton]
      congr 1
      rw [chunkLength, List.take_eq_take_iff, fixed]
      omega

end Chunked
