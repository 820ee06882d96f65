import Motonet.Firmware.PulseCapture
import Motonet.Foundation.Enumeration

/-!
# The gaps of a capture

The iterator over the symbols of a capture keeps the symbol it is in, the half of it that is next
and whether it has met a length of zero.  It returns the lengths of the low halves before the first
length of zero, in order, and then nothing, however often it is called.
-/

namespace Motonet
namespace Firmware
namespace PulseCapture

open Enumeration

/-- The lengths of the low halves, before the first length of zero, of the first symbols. -/
def lowDurations (symbols : List PulseCode) (symbolCount : ℕ) : List UInt32 :=
  (((entries (symbols.take (min symbolCount symbols.length))).takeWhile (·.2 ≠ 0)).filter
    (·.1 = .low)).map (·.2.toUInt32)

theorem lows_eq (list : List (Level × UInt16)) :
    lows list = ((list.takeWhile (·.2 ≠ 0)).filter (·.1 = .low)).map (·.2.toUInt32) := by
  induction list with
  | nil => rfl
  | cons entry list ih =>
      obtain ⟨level, length⟩ := entry
      rw [lows]
      by_cases zero : length = 0
      · simp [zero]
      · by_cases low : level = .low
        · simp [zero, low, ih]
        · simp [zero, low, ih]

namespace PulseDistanceIter

/-- A call that finds nothing leaves nothing: it has met a length of zero, or the end. -/
theorem lows_pending_of_none {iter after : PulseDistanceIter}
    (finished : iter.next = (none, after)) : lows after.pending = [] := by
  fun_induction next iter with
  | case1 iter done =>
      cases finished
      simp [pending, done, lows]
  | case2 iter _ _ _ _ _ =>
      cases finished
      simp [pending, lows]
  | case3 => cases finished
  | case4 _ _ _ _ _ _ _ ih => exact ih finished
  | case5 iter _ _ _ _ _ =>
      cases finished
      simp [pending, lows]
  | case6 => cases finished
  | case7 _ _ _ _ _ _ _ ih => exact ih finished
  | case8 iter _ inside =>
      cases finished
      rw [pending_end inside, lows]

/-- The calls return the low durations that are pending. -/
theorem enumerates : Enumerates next fun iter => lows iter.pending where
  item iter := by
    have next := iter.next_eq
    rcases returned : iter.next with ⟨_ | length, after⟩
    · rw [returned] at next
      simp only [next, List.head?_nil]
    · rw [returned] at next
      simp only [next, List.head?_cons]
  rest iter := by
    have next := iter.next_eq
    rcases returned : iter.next with ⟨_ | length, after⟩
    · rw [returned] at next
      simp only [lows_pending_of_none returned, next, List.tail_nil]
    · rw [returned] at next
      simp only [next, List.tail_cons]

theorem pending_new (symbols : List PulseCode) (symbolCount : ℕ) :
    lows (new symbols symbolCount).pending = lowDurations symbols symbolCount := by
  rw [lows_eq]
  rfl

/-- Collecting the iterator yields the low durations; so do its calls, one by one, and behind a call
that returns nothing all calls return nothing. -/
theorem collects_low_durations (symbols : List PulseCode) (symbolCount : ℕ) :
    (new symbols symbolCount).collect = lowDurations symbols symbolCount ∧
      (∀ calls, (afterCalls next calls (new symbols symbolCount)).next.1 =
        (lowDurations symbols symbolCount)[calls]?) ∧
      ∀ iter : PulseDistanceIter, iter.next.1 = none →
        ∀ calls, (afterCalls next calls iter.next.2).next.1 = none := by
  refine ⟨?_, fun calls => ?_, fun iter finished => enumerates.none_forever finished⟩
  · rw [collect_eq, pending_new]
  · rw [enumerates.item_afterCalls, pending_new]

end PulseDistanceIter
end PulseCapture
end Firmware
end Motonet
