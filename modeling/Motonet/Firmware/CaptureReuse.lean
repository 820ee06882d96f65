import Mathlib.Data.Vector.Basic
import Motonet.Firmware.PulseCapture
import Motonet.Rubicson.Continuation

/-!
# Captures in a reused buffer

The loop of the RMT back end keeps one symbol buffer.  A capture overwrites a front part of it, and
a receiver error has all of it decoded, with what earlier captures have left behind.
-/

namespace Motonet
namespace Firmware
namespace PulseCapture

open Rubicson

/-! ## The loop -/

def symbolsLen : ℕ := 512

/-- The array of symbols that lives as long as the loop. -/
abbrev SymbolBuffer : Type := List.Vector PulseCode symbolsLen

/-- How a turn's wait for a capture ends. -/
inductive Ending
  /-- The driver returns the number of symbols that it has received. -/
  | finished
  | failed (error : RmtError)
  /-- The OTA state changes before the capture ends. -/
  | interrupted
  deriving DecidableEq, Repr

/-- A capture: the symbols that are received, and how it ends. -/
structure Capture where
  received : List PulseCode
  fits : received.length ≤ symbolsLen
  ending : Ending

namespace SymbolBuffer

/-- `PulseCode::default()`, 512 times. -/
def blank : SymbolBuffer := List.Vector.replicate symbolsLen ⟨.low, 0, .low, 0⟩

/-- The driver fills the front of the buffer and leaves the rest unchanged. -/
def store (symbols : SymbolBuffer) (capture : Capture) : SymbolBuffer :=
  ⟨capture.received ++ symbols.toList.drop capture.received.length, by
    rw [List.length_append, List.length_drop, List.Vector.toList_length]
    exact Nat.add_sub_cancel' capture.fits⟩

end SymbolBuffer

/-- One turn of the loop of `run`: the buffer behind it, and the reading that it sends.  The checks
of the OTA state before a capture and the pause behind a reading leave the buffer alone. -/
def turn (symbols : SymbolBuffer) (capture : Capture) : SymbolBuffer × Option RubicsonReading :=
  let symbols := symbols.store capture
  match capture.ending with
  | .finished => (symbols, rmtReading symbols.toList (.ok capture.received.length))
  | .failed error => (symbols, rmtReading symbols.toList (.error error))
  | .interrupted => (symbols, none)

/-- The buffer behind some captures. -/
def buffer (captures : List Capture) : SymbolBuffer :=
  captures.foldl (fun symbols capture => (turn symbols capture).1) .blank

/-- The reading obtained from a capture behind earlier ones. -/
def reading (earlier : List Capture) (current : Capture) : Option RubicsonReading :=
  (turn (buffer earlier) current).2

/-- Two runs that differ only in the symbols received. -/
def SameEndings (left right : List Capture) : Prop :=
  left.map Capture.ending = right.map Capture.ending

/-- No reading of a run depends on the symbols that were received in earlier captures. -/
def NoReplay (captures : List Capture) : Prop :=
  ∀ earlier current later, captures = earlier ++ current :: later →
    ∀ other, SameEndings earlier other → reading other current = reading earlier current

/-- The reading of a capture is its own: it does not end with a receiver error, it overwrites the
whole buffer, it has a duration of zero, its gaps settle the outcome, or the symbols that are
missing are too few to complete a row that is taken for a frame. -/
def OwnReading (capture : Capture) : Prop :=
  let gaps := lows (entries capture.received)
  capture.ending ≠ .failed .receiverError ∨ capture.received.length = symbolsLen ∨
    (∃ entry ∈ entries capture.received, entry.2 = 0) ∨ Settled gaps ∨
      ¬ Completable gaps (2 * (symbolsLen - capture.received.length))

/-! ## Low durations -/

section Lows

variable {front behind : List (Level × UInt16)}

theorem lows_append_of_zero (ended : ∃ entry ∈ front, entry.2 = 0)
    (behind : List (Level × UInt16)) : lows (front ++ behind) = lows front := by
  induction front with
  | nil => exact absurd ended (by simp)
  | cons entry front ih =>
      obtain ⟨level, length⟩ := entry
      rw [List.cons_append, lows, lows]
      by_cases zero : length = 0
      · rw [if_pos zero, if_pos zero]
      · have later : ∃ entry ∈ front, entry.2 = 0 := by simpa [zero] using ended
        rw [ih later]

theorem lows_append (running : ¬ ∃ entry ∈ front, entry.2 = 0) (behind : List (Level × UInt16)) :
    lows (front ++ behind) = lows front ++ lows behind := by
  induction front with
  | nil => rfl
  | cons entry front ih =>
      obtain ⟨level, length⟩ := entry
      have positive : length ≠ 0 := fun zero => running ⟨_, List.mem_cons_self, zero⟩
      have later : ¬ ∃ entry ∈ front, entry.2 = 0 := fun ⟨entry, member, zero⟩ =>
        running ⟨entry, List.mem_cons_of_mem _ member, zero⟩
      rw [List.cons_append, lows, lows, if_neg positive, if_neg positive, ih later]
      split <;> rfl

theorem length_lows_le (list : List (Level × UInt16)) : (lows list).length ≤ list.length := by
  induction list with
  | nil => exact Nat.le_refl 0
  | cons entry list ih =>
      obtain ⟨level, length⟩ := entry
      rw [lows]
      split
      · exact Nat.zero_le _
      · split
        · exact Nat.succ_le_succ ih
        · exact Nat.le_succ_of_le ih

theorem length_entries (symbols : List PulseCode) :
    (entries symbols).length = 2 * symbols.length := by
  simp [entries, Nat.mul_comm]

theorem entries_append (left right : List PulseCode) :
    entries (left ++ right) = entries left ++ entries right :=
  List.flatMap_append

/-- Low levels of given durations. -/
theorem lows_map_low {gaps : List UInt16} (positive : 0 ∉ gaps) {padding : List (Level × UInt16)}
    (padded : ∀ entry ∈ padding, entry.2 = 0) :
    lows (gaps.map (Level.low, ·) ++ padding) = gaps.map UInt16.toUInt32 := by
  induction gaps with
  | nil =>
      cases padding with
      | nil => rfl
      | cons entry padding => exact if_pos (padded entry List.mem_cons_self)
  | cons gap gaps ih =>
      rw [List.mem_cons, not_or] at positive
      rw [List.map_cons, List.cons_append, lows, if_neg (Ne.symm positive.1), if_pos rfl,
        ih positive.2, List.map_cons]

theorem length_pack (list : List (Level × UInt16)) :
    (pack list).length = (list.length + 1) / 2 := by
  fun_induction pack list with
  | case1 first second list ih =>
      rw [List.length_cons, List.length_cons, List.length_cons, ih]
      omega
  | case2 last => rw [List.length_singleton, List.length_singleton]
  | case3 => rfl

/-- Gaps are spelled by symbols, two by each at most. -/
theorem exists_symbols {gaps : List UInt16} (positive : 0 ∉ gaps) {count : ℕ}
    (fits : gaps.length ≤ 2 * count) :
    ∃ symbols : List PulseCode, symbols.length = count ∧
      lows (entries symbols) = gaps.map UInt16.toUInt32 := by
  obtain ⟨padding, packed, padded⟩ := entries_pack (gaps.map (Level.low, ·))
  have length := length_pack (gaps.map (Level.low, ·))
  rw [List.length_map] at length
  refine ⟨pack (gaps.map (Level.low, ·)) ++ List.replicate (count - (gaps.length + 1) / 2)
    ⟨.low, 0, .low, 0⟩, ?_, ?_⟩
  · rw [List.length_append, length, List.length_replicate]
    omega
  · rw [entries_append, packed, List.append_assoc]
    refine lows_map_low positive fun entry member => ?_
    rcases List.mem_append.mp member with inside | behind
    · exact padded entry inside
    · obtain ⟨code, replicated, either⟩ := List.mem_flatMap.mp behind
      rw [(List.mem_replicate.mp replicated).2] at either
      simp only [List.mem_cons, List.not_mem_nil, or_false] at either
      rcases either with rfl | rfl <;> rfl

end Lows

/-! ## What a capture depends on -/

section Turn

/-- A receiver error has the whole buffer decoded. -/
theorem rmtReading_receiverError {symbols : List PulseCode} (length : symbols.length = symbolsLen) :
    rmtReading symbols (.error .receiverError) = decodedReading (lows (entries symbols)) := by
  have whole : (PulseDistanceIter.new symbols symbols.length).collect = lows (entries symbols) := by
    rw [PulseDistanceIter.collect_eq, PulseDistanceIter.new, Nat.min_self, List.take_length]
    rfl
  have enough : 12 * 36 ≤ symbols.length := by
    rw [length]
    decide
  simp only [rmtReading, capturedSymbols, if_pos enough, whole]
  rfl

/-- A capture that is finished has its own symbols decoded. -/
theorem rmtReading_finished (received behind : List PulseCode) :
    rmtReading (received ++ behind) (.ok received.length) =
      rmtReading received (.ok received.length) := by
  have same : (PulseDistanceIter.new (received ++ behind) received.length).collect =
      (PulseDistanceIter.new received received.length).collect := by
    rw [PulseDistanceIter.new, PulseDistanceIter.new, List.length_append,
      Nat.min_eq_left (Nat.le_add_right _ _), List.take_left, Nat.min_self, List.take_length]
  simp only [rmtReading, capturedSymbols, same]

variable {capture : Capture}

/-- What is left of the buffer behind a capture. -/
theorem exists_toList_store (symbols : SymbolBuffer) (capture : Capture) :
    ∃ stale, stale.length = symbolsLen - capture.received.length ∧
      (symbols.store capture).toList = capture.received ++ stale :=
  ⟨symbols.toList.drop capture.received.length, by
    rw [List.length_drop, List.Vector.toList_length], rfl⟩

/-- The reading of a receiver error behind which some of the buffer is stale. -/
theorem turn_receiverError (failed : capture.ending = .failed .receiverError)
    (symbols : SymbolBuffer) {stale : List PulseCode}
    (stored : (symbols.store capture).toList = capture.received ++ stale) :
    (turn symbols capture).2 =
      decodedReading (lows (entries capture.received ++ entries stale)) := by
  simp only [turn, failed]
  rw [rmtReading_receiverError (List.Vector.toList_length _), stored, entries_append]

/-- A reading that is the capture's own does not depend on the buffer. -/
theorem turn_eq_of_ownReading (own : OwnReading capture) (left right : SymbolBuffer) :
    (turn left capture).2 = (turn right capture).2 := by
  obtain ⟨stale, length, stored⟩ := exists_toList_store left capture
  obtain ⟨stale', length', stored'⟩ := exists_toList_store right capture
  by_cases failed : capture.ending = .failed .receiverError
  · rw [turn_receiverError failed left stored, turn_receiverError failed right stored']
    rcases own with other | whole | ended | open_end
    · exact absurd failed other
    · rw [whole, Nat.sub_self] at length length'
      rw [List.length_eq_zero_iff.mp length, List.length_eq_zero_iff.mp length']
    · rw [lows_append_of_zero ended, lows_append_of_zero ended]
    · by_cases ended : ∃ entry ∈ entries capture.received, entry.2 = 0
      · rw [lows_append_of_zero ended, lows_append_of_zero ended]
      · rw [lows_append ended, lows_append ended]
        have room (stale : List PulseCode)
            (length : stale.length = symbolsLen - capture.received.length) :
            (lows (entries stale)).length ≤ 2 * (symbolsLen - capture.received.length) := by
          rw [← length, ← length_entries]
          exact length_lows_le _
        exact decodedReading_append_eq open_end (room stale length) (room stale' length')
  · cases ending : capture.ending with
    | finished =>
        simp only [turn, ending]
        rw [stored, stored', rmtReading_finished, rmtReading_finished]
    | failed error =>
        cases error with
        | receiverError => exact absurd ending failed
        | other => simp [turn, ending, rmtReading, capturedSymbols]
    | interrupted => simp only [turn, ending]

/-- A buffer that ends with given symbols. -/
theorem exists_buffer {stale : List PulseCode}
    (length : stale.length = symbolsLen - capture.received.length) :
    ∃ symbols : SymbolBuffer, (symbols.store capture).toList = capture.received ++ stale := by
  refine ⟨⟨List.replicate capture.received.length ⟨.low, 0, .low, 0⟩ ++ stale, ?_⟩, ?_⟩
  · rw [List.length_append, List.length_replicate, length]
    exact Nat.add_sub_cancel' capture.fits
  · change capture.received ++ List.drop _ (List.replicate _ _ ++ stale) = _
    rw [List.drop_left' List.length_replicate]

/-- A reading that is not the capture's own differs for some contents of the buffer. -/
theorem exists_turn_ne (foreign : ¬ OwnReading capture) :
    ∃ left right : SymbolBuffer, (turn left capture).2 ≠ (turn right capture).2 := by
  simp only [OwnReading, not_or, not_not] at foreign
  obtain ⟨failed, not_full, running, unsettled, completable⟩ := foreign
  have fits := capture.fits
  have some_room : 1 ≤ 2 * (symbolsLen - capture.received.length) := by omega
  have reset_positive : 0 ∉ [resetGap] := by decide
  obtain ⟨more, more_fits, positive, some_reading⟩ := exists_completion unsettled completable
  obtain ⟨stale, length, spelled⟩ := exists_symbols positive more_fits
  obtain ⟨resets, resets_length, reset_spelled⟩ := exists_symbols reset_positive some_room
  obtain ⟨left, left_stored⟩ := exists_buffer length
  obtain ⟨right, right_stored⟩ := exists_buffer resets_length
  refine ⟨left, right, ?_⟩
  rw [turn_receiverError failed left left_stored, turn_receiverError failed right right_stored,
    lows_append running, lows_append running, spelled, reset_spelled]
  change _ ≠ decodedReading (_ ++ [resetGap.toUInt32])
  rw [decodedReading_reset unsettled]
  exact some_reading

end Turn

/-! ## Runs -/

/-- A capture that fills the buffer and ends as another one. -/
def Capture.overwrite (symbols : SymbolBuffer) (capture : Capture) : Capture where
  received := symbols.toList
  fits := Nat.le_of_eq symbols.toList_length
  ending := capture.ending

theorem store_overwrite (before symbols : SymbolBuffer) (capture : Capture) :
    before.store (capture.overwrite symbols) = symbols := by
  apply List.Vector.toList_injective
  change symbols.toList ++ before.toList.drop symbols.toList.length = symbols.toList
  rw [List.drop_eq_nil_of_le (by rw [List.Vector.toList_length, List.Vector.toList_length]),
    List.append_nil]

theorem turn_fst (symbols : SymbolBuffer) (capture : Capture) :
    (turn symbols capture).1 = symbols.store capture := by
  rw [turn]
  cases capture.ending <;> rfl

/-- Earlier captures can leave anything in the buffer, whatever their ends. -/
theorem buffer_overwrite {captures : List Capture} (some_capture : captures ≠ [])
    (symbols : SymbolBuffer) : buffer (captures.map (Capture.overwrite symbols)) = symbols := by
  obtain ⟨front, last, rfl⟩ := (List.eq_nil_or_concat captures).resolve_left some_capture
  rw [List.map_concat, List.concat_eq_append, buffer, List.foldl_concat, turn_fst, store_overwrite]

/-- No reading of a run depends on the symbols that were received in earlier captures if and only if
the reading of every capture but the first is its own. -/
theorem no_replay_iff (captures : List Capture) :
    NoReplay captures ↔ ∀ capture ∈ captures.tail, OwnReading capture := by
  constructor
  · intro no_replay capture member
    by_contra foreign
    obtain ⟨left, right, differ⟩ := exists_turn_ne foreign
    cases captures with
    | nil => cases member
    | cons first rest =>
        obtain ⟨front, later, rest_eq⟩ := List.append_of_mem member
        rw [List.tail_cons] at rest_eq
        have split : first :: rest = (first :: front) ++ capture :: later := by
          rw [rest_eq, List.cons_append]
        have same_endings (symbols : SymbolBuffer) :
            SameEndings (first :: front) ((first :: front).map (Capture.overwrite symbols)) := by
          rw [SameEndings, List.map_map]
          rfl
        have replay (symbols : SymbolBuffer) :
            (turn symbols capture).2 = reading (first :: front) capture := by
          rw [← no_replay _ capture later split _ (same_endings symbols), reading,
            buffer_overwrite (List.cons_ne_nil first front)]
        exact differ ((replay left).trans (replay right).symm)
  · rintro own earlier current later rfl other same_endings
    cases earlier with
    | nil =>
        rw [SameEndings, List.map_nil, eq_comm, List.map_eq_nil_iff] at same_endings
        rw [same_endings]
    | cons first front =>
        refine turn_eq_of_ownReading (own current ?_) _ _
        rw [List.cons_append, List.tail_cons]
        exact List.mem_append_cons_self

/-- The capture of a burst. -/
def burstCapture : Capture where
  received := pack (levelled burst.durations)
  fits := by decide +kernel
  ending := .finished

/-- A receiver error before the first symbol. -/
def lostCapture : Capture where
  received := []
  fits := Nat.zero_le _
  ending := .failed .receiverError

theorem reading_lostCapture (earlier : Capture) :
    reading [earlier] lostCapture =
      decodedReading (lows (entries (SymbolBuffer.blank.store earlier).toList)) := by
  rw [reading, turn_receiverError rfl _ rfl, buffer, List.foldl_cons, List.foldl_nil, turn_fst]
  rfl

/-- The reading of a burst is obtained once more from a capture without a symbol. -/
theorem burst_replayed :
    reading [burstCapture] lostCapture = some ⟨0x0C, 1, true, -215, true⟩ ∧
      ¬ NoReplay [burstCapture, lostCapture] := by
  have replayed : reading [burstCapture] lostCapture = some ⟨0x0C, 1, true, -215, true⟩ := by
    rw [reading_lostCapture]
    decide +kernel
  refine ⟨replayed, fun no_replay => ?_⟩
  have silent : reading [{ burstCapture with received := [], fits := Nat.zero_le _ }] lostCapture =
      none := by
    rw [reading_lostCapture]
    decide +kernel
  have same := no_replay [burstCapture] lostCapture [] rfl
    [{ burstCapture with received := [], fits := Nat.zero_le _ }] rfl
  rw [silent, replayed] at same
  cases same

end PulseCapture
end Firmware
end Motonet
