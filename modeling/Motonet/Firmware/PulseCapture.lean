import Motonet.Rubicson.NoisyBurst

/-!
# The capture back ends

A transmission is captured as gap lengths by software, or as symbols of two level durations each by
the RMT peripheral.
-/

namespace Motonet
namespace Firmware
namespace PulseCapture

open Rubicson

/-! ## The RMT back end -/

/-- `Level`. -/
inductive Level
  | low
  | high
  deriving DecidableEq, Repr

/-- `PulseCode`: two levels and how many microseconds they last.  A length of zero ends a
capture. -/
structure PulseCode where
  level1 : Level
  length1 : UInt16
  level2 : Level
  length2 : UInt16
  deriving DecidableEq, Repr

/-- `PulseDistanceIter`. -/
structure PulseDistanceIter where
  symbols : List PulseCode
  symbolIdx : ℕ
  part : ℕ
  done : Bool

namespace PulseDistanceIter

/-- `PulseDistanceIter::new`. -/
def new (symbols : List PulseCode) (symbolCount : ℕ) : PulseDistanceIter where
  symbols := symbols.take (min symbolCount symbols.length)
  symbolIdx := 0
  part := 0
  done := false

/-- The number of level durations that are not yet read. -/
def remaining (iter : PulseDistanceIter) : ℕ :=
  2 * (iter.symbols.length - iter.symbolIdx) - min iter.part 1

/-- `next`. -/
def next (iter : PulseDistanceIter) : Option UInt32 × PulseDistanceIter :=
  if iter.done then (none, iter)
  else if inside : iter.symbolIdx < iter.symbols.length then
    let code := iter.symbols[iter.symbolIdx]
    if iter.part = 0 then
      if code.length1 = 0 then (none, { iter with part := 1, done := true })
      else if code.level1 = .low then (some code.length1.toUInt32, { iter with part := 1 })
      else next { iter with part := 1 }
    else
      if code.length2 = 0 then
        (none, { iter with part := 0, symbolIdx := iter.symbolIdx + 1, done := true })
      else if code.level2 = .low then
        (some code.length2.toUInt32, { iter with part := 0, symbolIdx := iter.symbolIdx + 1 })
      else next { iter with part := 0, symbolIdx := iter.symbolIdx + 1 }
  else (none, iter)
termination_by iter.remaining
decreasing_by
  all_goals
    simp only [remaining]
    omega

/-- Every length that is returned is read. -/
theorem remaining_next_lt {iter after : PulseDistanceIter} {length : UInt32}
    (returned : iter.next = (some length, after)) : after.remaining < iter.remaining := by
  fun_induction next iter with
  | case1 => cases returned
  | case2 => cases returned
  | case3 iter _ inside _ unread _ _ =>
      cases returned
      simp only [remaining]
      omega
  | case4 iter _ inside _ unread _ _ ih =>
      have later := ih returned
      simp only [remaining] at later ⊢
      omega
  | case5 => cases returned
  | case6 iter _ inside _ read _ _ =>
      cases returned
      simp only [remaining]
      omega
  | case7 iter _ inside _ read _ _ ih =>
      have later := ih returned
      simp only [remaining] at later ⊢
      omega
  | case8 => cases returned

/-- What a loop over the iterator reads. -/
def collect (iter : PulseDistanceIter) : List UInt32 :=
  match _ : iter.next with
  | (some length, after) => length :: collect after
  | (none, _) => []
termination_by iter.remaining
decreasing_by exact remaining_next_lt ‹_›

end PulseDistanceIter

/-- `RmtError`, as far as it is told apart. -/
inductive RmtError
  | receiverError
  | other
  deriving DecidableEq, Repr

/-- The number of symbols that a capture is taken to have: a receiver error ends it with all of
them. -/
def capturedSymbols (symbols : List PulseCode) : Except RmtError ℕ → Option ℕ
  | .ok count => some count
  | .error .receiverError => some symbols.length
  | .error .other => none

/-- The part of `run` of the RMT back end that decodes a capture. -/
def rmtReading (symbols : List PulseCode) (result : Except RmtError ℕ) : Option RubicsonReading :=
  match capturedSymbols symbols result with
  | none => none
  | some symbolCount =>
      if 12 * 36 ≤ symbolCount then
        match decodeGapsIter (PulseDistanceIter.new symbols symbolCount).collect with
        | .ok (_, reading) => some reading
        | .error _ => none
      else none

/-! ## The software back end -/

def gapBufferSize : ℕ := 512
def transmissionEndTimeoutUs : ℕ := 10000

/-- `u32::try_from`, or the greatest number. -/
def gapUs (micros : ℕ) : UInt32 := if micros < 2 ^ 32 then .ofNat micros else .ofNat (2 ^ 32 - 1)

/-- `sw_capture` behind the first rising edge, for the durations of the pulses and gaps that
follow: the gaps in the buffer when the transmission has ended. -/
def swCapture : List ℕ → List UInt32 → List UInt32
  | pulse :: gap :: durations, gapBuffer =>
      if transmissionEndTimeoutUs ≤ pulse then gapBuffer
      else if transmissionEndTimeoutUs ≤ gap then gapBuffer
      else swCapture durations
        (if gapBuffer.length < gapBufferSize then gapBuffer ++ [gapUs gap] else gapBuffer)
  | [_], gapBuffer | [], gapBuffer => gapBuffer

/-- The part of `run` of the software back end that decodes a capture. -/
def swReading (durations : List ℕ) : Option RubicsonReading :=
  let gaps := swCapture durations []
  if 36 ≤ gaps.length then
    match decodeGaps gaps with
    | .ok (_, reading) => some reading
    | .error _ => none
  else none

/-! ## What the iterator reads -/

/-- The level durations of symbols. -/
def entries (symbols : List PulseCode) : List (Level × UInt16) :=
  symbols.flatMap fun code => [(code.level1, code.length1), (code.level2, code.length2)]

/-- The durations of the low levels, up to a duration of zero. -/
def lows : List (Level × UInt16) → List UInt32
  | [] => []
  | (level, length) :: entries =>
      if length = 0 then [] else if level = .low then length.toUInt32 :: lows entries
      else lows entries

namespace PulseDistanceIter

/-- The level durations that an iterator is still to read. -/
def pending (iter : PulseDistanceIter) : List (Level × UInt16) :=
  if iter.done then []
  else if iter.part = 0 then entries (iter.symbols.drop iter.symbolIdx)
  else (entries (iter.symbols.drop iter.symbolIdx)).drop 1

theorem entries_drop {symbols : List PulseCode} {index : ℕ} (inside : index < symbols.length) :
    entries (symbols.drop index) = (symbols[index].level1, symbols[index].length1) ::
      (symbols[index].level2, symbols[index].length2) :: entries (symbols.drop (index + 1)) := by
  rw [List.drop_eq_getElem_cons inside]
  rfl

section

variable {iter : PulseDistanceIter}

theorem pending_first (more : ¬iter.done = true) (inside : iter.symbolIdx < iter.symbols.length)
    (unread : iter.part = 0) : iter.pending =
      (iter.symbols[iter.symbolIdx].level1, iter.symbols[iter.symbolIdx].length1) ::
        { iter with part := 1 }.pending := by
  rw [pending, if_neg more, if_pos unread, entries_drop inside, pending, if_neg more,
    if_neg Nat.one_ne_zero, entries_drop inside]
  rfl

theorem pending_second (more : ¬iter.done = true) (inside : iter.symbolIdx < iter.symbols.length)
    (read : ¬iter.part = 0) : iter.pending =
      (iter.symbols[iter.symbolIdx].level2, iter.symbols[iter.symbolIdx].length2) ::
        { iter with part := 0, symbolIdx := iter.symbolIdx + 1 }.pending := by
  rw [pending, if_neg more, if_neg read, entries_drop inside, pending, if_neg more, if_pos rfl]
  rfl

theorem pending_end (inside : ¬iter.symbolIdx < iter.symbols.length) : iter.pending = [] := by
  simp [pending, List.drop_eq_nil_of_le (Nat.not_lt.mp inside), entries]

end

/-- `next` returns the next low duration, and leaves the ones behind it. -/
theorem next_eq (iter : PulseDistanceIter) :
    match iter.next with
    | (some length, after) => lows iter.pending = length :: lows after.pending
    | (none, _) => lows iter.pending = [] := by
  fun_induction next iter with
  | case1 iter finished => simp [pending, finished, lows]
  | case2 iter more inside _ unread zero =>
      rw [pending_first more inside unread, lows, if_pos zero]
  | case3 iter more inside _ unread positive low =>
      rw [pending_first more inside unread, lows, if_neg positive, if_pos low]
  | case4 iter more inside _ unread positive high ih =>
      rw [pending_first more inside unread, lows, if_neg positive, if_neg high]
      exact ih
  | case5 iter more inside _ read zero =>
      rw [pending_second more inside read, lows, if_pos zero]
  | case6 iter more inside _ read positive low =>
      rw [pending_second more inside read, lows, if_neg positive, if_pos low]
  | case7 iter more inside _ read positive high ih =>
      rw [pending_second more inside read, lows, if_neg positive, if_neg high]
      exact ih
  | case8 iter _ inside => rw [pending_end inside, lows]

/-- The iterator reads the low durations of its symbols. -/
theorem collect_eq (iter : PulseDistanceIter) : iter.collect = lows iter.pending := by
  fun_induction collect iter with
  | case1 iter length after returned ih =>
      have next := iter.next_eq
      rw [returned] at next
      rw [next, ih]
  | case2 iter after returned =>
      have next := iter.next_eq
      rw [returned] at next
      exact next.symm

end PulseDistanceIter

/-! ## Transmissions -/

def rmtIdleThreshold : ℕ := 5000

/-- A transmission: the microseconds of its pulses and gaps, in turn, of which neither back end
takes one for its end, and of which both have room for all. -/
structure Transmission where
  durations : List ℕ
  positive : ∀ duration ∈ durations, 0 < duration
  below : ∀ duration ∈ durations,
    duration < rmtIdleThreshold ∧ duration < transmissionEndTimeoutUs
  fits : durations.length ≤ 2 * gapBufferSize

/-- The levels of pulses and gaps. -/
def levelled : List ℕ → List (Level × UInt16)
  | pulse :: gap :: durations => (.high, .ofNat pulse) :: (.low, .ofNat gap) :: levelled durations
  | [pulse] => [(.high, .ofNat pulse)]
  | [] => []

/-- The gaps between the pulses. -/
def gaps : List ℕ → List UInt32
  | _ :: gap :: durations => .ofNat gap :: gaps durations
  | [_] | [] => []

/-- What the RMT channel delivers for a transmission without an error: its levels and durations,
two to a symbol, and entries of length zero that mark the end. -/
structure Received (transmission : Transmission) (symbols : List PulseCode) (symbolCount : ℕ) :
    Prop where
  size : symbols.length = 512
  fits : symbolCount ≤ symbols.length
  captured : ∃ padding, entries (symbols.take symbolCount) =
    levelled transmission.durations ++ padding ∧ ∀ entry ∈ padding, entry.2 = 0

/-- A duration below the idle threshold fits a symbol. -/
theorem uint16_ofNat {duration : ℕ} (positive : 0 < duration)
    (below : duration < rmtIdleThreshold) :
    UInt16.ofNat duration ≠ 0 ∧ (UInt16.ofNat duration).toUInt32 = .ofNat duration := by
  have small : duration < UInt16.size := Nat.lt_trans below (by decide)
  have value : (UInt16.ofNat duration).toNat = duration := UInt16.toNat_ofNat_of_lt' small
  constructor
  · intro zero
    rw [zero] at value
    exact Nat.ne_of_lt positive value
  · rw [← UInt32.toNat_inj, UInt16.toNat_toUInt32, value,
      UInt32.toNat_ofNat_of_lt' (Nat.lt_trans small (by decide))]

/-- The low durations of a transmission are its gaps. -/
theorem lows_levelled {durations : List ℕ} (positive : ∀ duration ∈ durations, 0 < duration)
    (below : ∀ duration ∈ durations, duration < rmtIdleThreshold)
    {padding : List (Level × UInt16)} (padded : ∀ entry ∈ padding, entry.2 = 0) :
    lows (levelled durations ++ padding) = gaps durations := by
  have tail : lows padding = [] := by
    cases padding with
    | nil => rfl
    | cons entry padding => rw [lows, if_pos (padded entry List.mem_cons_self)]
  fun_induction levelled durations with
  | case1 pulse gap durations ih =>
      simp only [List.forall_mem_cons] at positive below
      obtain ⟨pulse_ne, -⟩ := uint16_ofNat positive.1 below.1
      obtain ⟨gap_ne, gap_eq⟩ := uint16_ofNat positive.2.1 below.2.1
      rw [List.cons_append, List.cons_append, lows, if_neg pulse_ne, if_neg nofun, lows,
        if_neg gap_ne, if_pos rfl, gap_eq, ih positive.2.2 below.2.2, gaps]
  | case2 pulse =>
      obtain ⟨pulse_ne, -⟩ := uint16_ofNat (positive pulse List.mem_cons_self)
        (below pulse List.mem_cons_self)
      rw [List.singleton_append, lows, if_neg pulse_ne, if_neg nofun, tail, gaps]
  | case3 => exact tail

/-- The software back end captures the gaps of a transmission. -/
theorem swCapture_eq {durations : List ℕ}
    (below : ∀ duration ∈ durations, duration < transmissionEndTimeoutUs)
    {gapBuffer : List UInt32}
    (fits : 2 * gapBuffer.length + durations.length ≤ 2 * gapBufferSize) :
    swCapture durations gapBuffer = gapBuffer ++ gaps durations := by
  fun_induction swCapture durations gapBuffer with
  | case1 pulse gap durations gapBuffer long =>
      exact absurd (below pulse (by simp)) (Nat.not_lt.mpr long)
  | case2 pulse gap durations gapBuffer _ long =>
      exact absurd (below gap (by simp)) (Nat.not_lt.mpr long)
  | case3 pulse gap durations gapBuffer _ _ ih =>
      simp only [List.forall_mem_cons] at below
      simp only [List.length_cons] at fits
      have room : gapBuffer.length < gapBufferSize := by omega
      have exact_gap : gapUs gap = .ofNat gap := by
        have short : gap < 10000 := below.2.1
        exact if_pos (by omega)
      rw [if_pos room] at ih ⊢
      rw [ih below.2.2 (by rw [List.length_append, List.length_singleton]; omega), gaps, exact_gap,
        List.append_assoc]
      rfl
  | case4 | case5 => rw [gaps, List.append_nil]

/-- Where the software back end obtains a reading, the RMT back end obtains the same reading from a
capture of at least twelve packets of 36 symbols, and none from a shorter one. -/
theorem back_ends_agree {transmission : Transmission} {symbols : List PulseCode} {symbolCount : ℕ}
    (received : Received transmission symbols symbolCount) {reading : RubicsonReading}
    (software : swReading transmission.durations = some reading) :
    rmtReading symbols (.ok symbolCount) =
      if 12 * 36 ≤ symbolCount then some reading else none := by
  obtain ⟨padding, captured, padded⟩ := received.captured
  have low : (PulseDistanceIter.new symbols symbolCount).collect = gaps transmission.durations := by
    rw [PulseDistanceIter.collect_eq]
    have pending : (PulseDistanceIter.new symbols symbolCount).pending =
        levelled transmission.durations ++ padding := by
      rw [← captured, PulseDistanceIter.new, Nat.min_eq_left received.fits]
      rfl
    rw [pending]
    exact lows_levelled transmission.positive
      (fun duration member => (transmission.below duration member).1) padded
  have stored : swCapture transmission.durations [] = gaps transmission.durations :=
    swCapture_eq (fun duration member => (transmission.below duration member).2) (by
      rw [List.length_nil, Nat.mul_zero, Nat.zero_add]
      exact transmission.fits)
  rw [swReading, stored] at software
  simp only [rmtReading, capturedSymbols, low]
  split at software
  · rw [← software]
    rfl
  · cases software

/-- Level durations, two to a symbol. -/
def pack : List (Level × UInt16) → List PulseCode
  | first :: second :: entries => ⟨first.1, first.2, second.1, second.2⟩ :: pack entries
  | [last] => [⟨last.1, last.2, .low, 0⟩]
  | [] => []

theorem entries_pack (list : List (Level × UInt16)) :
    ∃ padding, entries (pack list) = list ++ padding ∧ ∀ entry ∈ padding, entry.2 = 0 := by
  fun_induction pack list with
  | case1 first second list ih =>
      obtain ⟨padding, packed, padded⟩ := ih
      refine ⟨padding, ?_, padded⟩
      rw [List.cons_append, List.cons_append, ← packed]
      rfl
  | case2 last =>
      refine ⟨[(.low, 0)], rfl, ?_⟩
      rintro entry member
      rw [List.mem_singleton.mp member]
  | case3 => exact ⟨[], rfl, nofun⟩

/-- The buffer of the RMT back end behind a capture. -/
def symbolBuffer (transmission : Transmission) : List PulseCode :=
  let symbols := pack (levelled transmission.durations)
  symbols ++ List.replicate (512 - symbols.length) ⟨.low, 0, .low, 0⟩

theorem received_symbolBuffer (transmission : Transmission)
    (fits : (pack (levelled transmission.durations)).length ≤ 512) :
    Received transmission (symbolBuffer transmission)
      (pack (levelled transmission.durations)).length where
  size := by
    rw [symbolBuffer, List.length_append, List.length_replicate]
    omega
  fits := by
    rw [symbolBuffer, List.length_append]
    exact Nat.le_add_right _ _
  captured := by
    rw [symbolBuffer, List.take_left]
    exact entries_pack _

/-- A transmission of a packet, as often as it is sent. -/
def packetDurations (times : ℕ) : List ℕ :=
  (List.replicate times (payloadToGaps (buildPayload 0x0C 1 true 0xF29))).flatten.flatMap
    fun gap => [500, gap.toNat]

def burst : Transmission where
  durations := packetDurations 12
  positive := by decide +kernel
  below := by decide +kernel
  fits := by decide +kernel

def packet : Transmission where
  durations := packetDurations 1
  positive := by decide +kernel
  below := by decide +kernel
  fits := by decide +kernel

/-- Both back ends read a whole burst. -/
theorem back_ends_agree_burst :
    rmtReading (symbolBuffer burst) (.ok (pack (levelled burst.durations)).length) =
      some ⟨0x0C, 1, true, -215, true⟩ :=
  (back_ends_agree (received_symbolBuffer burst (by decide +kernel)) (by decide +kernel)).trans
    (if_pos (by decide +kernel))

/-- The software back end reads a packet of which the RMT back end reads nothing. -/
theorem packet_gated :
    ∃ symbols symbolCount, Received packet symbols symbolCount ∧
      swReading packet.durations = some ⟨0x0C, 1, true, -215, true⟩ ∧
      rmtReading symbols (.ok symbolCount) = none := by
  refine ⟨_, _, received_symbolBuffer packet (by decide +kernel), by decide +kernel, ?_⟩
  have short : ¬12 * 36 ≤ (pack (levelled packet.durations)).length := by decide +kernel
  simp only [rmtReading, capturedSymbols, if_neg short]

end PulseCapture
end Firmware
end Motonet
