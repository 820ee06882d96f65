import Mathlib.Data.List.MinMax
import Motonet.Firmware.RadioFailures
import Motonet.Tasks.Persistence
import Motonet.Tasks.SavedSettings

/-!
# The RF sweep

After a cold boot `run_rf_sweep` tries the candidates one after the other, scores the signal that it
samples with each, and tunes the radio to the one with the best score.  The index of the chosen
candidate is kept in RTC memory, and a wake from deep sleep tunes the radio to it again.
-/

namespace Motonet
namespace RadioTasks

open AppCore Firmware Fallible Persistence

/-- `SignalSnapshot`: the packet status and the two pins. -/
structure SignalSnapshot where
  carrierSense : Bool
  preambleQualityReached : Bool
  pktstatusGdo0 : Bool
  pktstatusGdo2 : Bool
  pinGdo0 : Bool
  pinGdo2 : Bool
  deriving DecidableEq, Repr

structure SignalStats where
  sampleCount : UInt16
  carrierSenseSamples : UInt16
  pqtSamples : UInt16
  pktGdo0HighSamples : UInt16
  pktGdo2HighSamples : UInt16
  pinGdo0HighSamples : UInt16
  pinGdo2HighSamples : UInt16
  pinGdo0Toggles : UInt16
  minRssi : Int16
  maxRssi : Int16
  deriving DecidableEq

namespace SignalStats

/-- `SignalStats::new`. -/
def new : SignalStats where
  sampleCount := 0
  carrierSenseSamples := 0
  pqtSamples := 0
  pktGdo0HighSamples := 0
  pktGdo2HighSamples := 0
  pinGdo0HighSamples := 0
  pinGdo2HighSamples := 0
  pinGdo0Toggles := 0
  minRssi := 0
  maxRssi := -128

def score (stats : SignalStats) : Int32 :=
  Int32.ofNat stats.pinGdo0Toggles.toNat * 100 + Int32.ofNat stats.pinGdo0HighSamples.toNat * 10 +
    Int32.ofNat stats.pktGdo0HighSamples.toNat

end SignalStats

/-- What the radio answers to the two reads of a sample; each may fail. -/
structure SignalSample where
  rssiDbm : Option Int16
  snapshot : Option SignalSnapshot
  deriving DecidableEq

/-- `u16::from` of a flag, added to a counter. -/
def tally (counter : UInt16) (flag : Bool) : UInt16 :=
  counter + if flag then 1 else 0

/-- The first part of a turn of `sample_signal_stats`. -/
def SignalStats.addRssi (stats : SignalStats) (rssiDbm : Option Int16) : SignalStats :=
  match rssiDbm with
  | none => stats
  | some rssi =>
      let stats := if rssi < stats.minRssi then { stats with minRssi := rssi } else stats
      if rssi > stats.maxRssi then { stats with maxRssi := rssi } else stats

/-- The second part, with the level of the data pin in the snapshot before. -/
def SignalStats.addSnapshot (stats : SignalStats) (previousPinGdo0 : Option Bool)
    (snapshot : SignalSnapshot) : SignalStats where
  sampleCount := stats.sampleCount + 1
  carrierSenseSamples := tally stats.carrierSenseSamples snapshot.carrierSense
  pqtSamples := tally stats.pqtSamples snapshot.preambleQualityReached
  pktGdo0HighSamples := tally stats.pktGdo0HighSamples snapshot.pktstatusGdo0
  pktGdo2HighSamples := tally stats.pktGdo2HighSamples snapshot.pktstatusGdo2
  pinGdo0HighSamples := tally stats.pinGdo0HighSamples snapshot.pinGdo0
  pinGdo2HighSamples := tally stats.pinGdo2HighSamples snapshot.pinGdo2
  pinGdo0Toggles := tally stats.pinGdo0Toggles
    (previousPinGdo0.any fun previous => previous != snapshot.pinGdo0)
  minRssi := stats.minRssi
  maxRssi := stats.maxRssi

/-- A turn of `sample_signal_stats`. -/
def takeSample (state : SignalStats × Option Bool) (sample : SignalSample) :
    SignalStats × Option Bool :=
  let stats := state.1.addRssi sample.rssiDbm
  match sample.snapshot with
  | none => (stats, state.2)
  | some snapshot => (stats.addSnapshot state.2 snapshot, some snapshot.pinGdo0)

def sampleSignalStats (samples : List SignalSample) : SignalStats :=
  (samples.foldl takeSample (SignalStats.new, none)).1

def rfSweepDwellSamples : ℕ := 24

/-- The best candidate so far. -/
structure SweepBest where
  index : ℕ
  candidate : RfSweepCandidate
  stats : SignalStats
  score : Int32
  deriving DecidableEq

/-- A turn of the loop of `run_rf_sweep`, with what the radio answers while it dwells. -/
def sweepCandidate (survey : ℕ → List SignalSample) (state : Option SweepBest × Cc1101Radio)
    (entry : RfSweepCandidate × ℕ) : Option SweepBest × Cc1101Radio :=
  match exec (Cc1101Radio.applyRfProfile entry.1.freqHz entry.1.bandwidthHz) state.2 with
  | (.error _, radio) => (state.1, radio)
  | (.ok _, radio) =>
      let stats := sampleSignalStats (survey entry.2)
      if state.1.all fun best => best.score < stats.score then
        (some ⟨entry.2, entry.1, stats, stats.score⟩, radio)
      else (state.1, radio)

/-- The end of `run_rf_sweep`: the best candidate is applied again. -/
def applyBest : Option SweepBest × Cc1101Radio → Option ℕ × Cc1101Radio
  | (none, radio) => (none, radio)
  | (some best, radio) =>
      match exec (Cc1101Radio.applyRfProfile best.candidate.freqHz best.candidate.bandwidthHz)
        radio with
      | (.error _, radio) => (none, radio)
      | (.ok _, radio) => (some best.index, radio)

def runRfSweep (survey : ℕ → List SignalSample) (radio : Cc1101Radio) : Option ℕ × Cc1101Radio :=
  applyBest (rfSweepCandidates.zipIdx.foldl (sweepCandidate survey) (none, radio))

/-- The system after the sweep of `prepare_radio_for_capture`. -/
def System.afterSweep (survey : ℕ → List SignalSample) (system : System) : System :=
  let (selected, radio) := runRfSweep survey system.radio
  { system with
    radio := radio
    rfProfileWord :=
      selected.elim system.rfProfileWord (persistRfProfileIndex · system.rfProfileWord) }

/-! ## What is measured -/

/-- The snapshots that were read. -/
def snapshots (samples : List SignalSample) : List SignalSnapshot :=
  samples.filterMap SignalSample.snapshot

/-- How often neighbours differ. -/
def edges : List Bool → ℕ
  | first :: second :: levels => (if first = second then 0 else 1) + edges (second :: levels)
  | _ => 0

/-- The strength of a signal: mostly how often the data pin changes, then how often it is high. -/
def strength (samples : List SignalSample) : ℕ :=
  edges ((snapshots samples).map SignalSnapshot.pinGdo0) * 100 +
    (snapshots samples).countP SignalSnapshot.pinGdo0 * 10 +
    (snapshots samples).countP SignalSnapshot.pktstatusGdo0

theorem edges_concat (levels : List Bool) (level : Bool) :
    edges (levels ++ [level]) =
      edges levels + (levels.getLast?.any fun last => last != level).toNat := by
  induction levels with
  | nil => rfl
  | cons first levels ih =>
      cases levels with
      | nil => cases first <;> cases level <;> rfl
      | cons second levels =>
          rw [List.getLast?_cons_cons, List.cons_append, List.cons_append, edges, edges,
            ← List.cons_append, ih, Nat.add_assoc]

theorem edges_le (levels : List Bool) : edges levels ≤ levels.length := by
  induction levels with
  | nil => exact Nat.le_refl _
  | cons first levels ih =>
      cases levels with
      | nil => exact Nat.zero_le _
      | cons second levels =>
          rw [edges, List.length_cons]
          split <;> omega

/-- The levels that were read. -/
def levels (samples : List SignalSample) : List Int16 :=
  samples.filterMap SignalSample.rssiDbm

theorem snapshots_concat (samples : List SignalSample) (sample : SignalSample) :
    snapshots (samples ++ [sample]) = snapshots samples ++ sample.snapshot.toList := by
  rw [snapshots, List.filterMap_append]
  cases snapshot : sample.snapshot <;> simp [snapshots, snapshot]

theorem levels_concat (samples : List SignalSample) (sample : SignalSample) :
    levels (samples ++ [sample]) = levels samples ++ sample.rssiDbm.toList := by
  rw [levels, List.filterMap_append]
  cases level : sample.rssiDbm <;> simp [levels, level]

namespace SignalStats

/-- The counters are those of the snapshots. -/
structure Counts (snapshots : List SignalSnapshot) (stats : SignalStats) : Prop where
  sampleCount : stats.sampleCount.toNat = snapshots.length
  carrierSense : stats.carrierSenseSamples.toNat = snapshots.countP SignalSnapshot.carrierSense
  pqt : stats.pqtSamples.toNat = snapshots.countP SignalSnapshot.preambleQualityReached
  pktGdo0 : stats.pktGdo0HighSamples.toNat = snapshots.countP SignalSnapshot.pktstatusGdo0
  pktGdo2 : stats.pktGdo2HighSamples.toNat = snapshots.countP SignalSnapshot.pktstatusGdo2
  pinGdo0 : stats.pinGdo0HighSamples.toNat = snapshots.countP SignalSnapshot.pinGdo0
  pinGdo2 : stats.pinGdo2HighSamples.toNat = snapshots.countP SignalSnapshot.pinGdo2
  toggles : stats.pinGdo0Toggles.toNat = edges (snapshots.map SignalSnapshot.pinGdo0)

/-- The bounds are those of the levels, from 0 and -128 on. -/
structure Bounds (levels : List Int16) (stats : SignalStats) : Prop where
  minRssi : stats.minRssi = levels.foldl min 0
  maxRssi : stats.maxRssi = levels.foldl max (-128)

theorem addRssi_some (stats : SignalStats) (rssi : Int16) :
    stats.addRssi (some rssi) =
      { stats with minRssi := min stats.minRssi rssi, maxRssi := max stats.maxRssi rssi } := by
  have lower : min stats.minRssi rssi = if rssi < stats.minRssi then rssi else stats.minRssi := by
    change (if stats.minRssi ≤ rssi then stats.minRssi else rssi) = _
    grind
  have upper : max stats.maxRssi rssi = if rssi > stats.maxRssi then rssi else stats.maxRssi := by
    change (if stats.maxRssi ≤ rssi then rssi else stats.maxRssi) = _
    grind
  rw [lower, upper, addRssi]
  split_ifs <;> rfl

theorem Counts.addRssi {snapshots : List SignalSnapshot} {stats : SignalStats}
    (counts : Counts snapshots stats) (rssiDbm : Option Int16) :
    Counts snapshots (stats.addRssi rssiDbm) := by
  cases rssiDbm with
  | none => exact counts
  | some rssi =>
      rw [addRssi_some]
      exact { counts with }

theorem Bounds.addRssi {levels : List Int16} {stats : SignalStats} (bounds : Bounds levels stats)
    (rssiDbm : Option Int16) :
    Bounds (levels ++ rssiDbm.toList) (stats.addRssi rssiDbm) := by
  cases rssiDbm with
  | none =>
      rw [Option.toList_none, List.append_nil]
      exact bounds
  | some rssi =>
      rw [addRssi_some, bounds.minRssi, bounds.maxRssi]
      constructor
      all_goals rw [Option.toList_some, List.foldl_append]; rfl

theorem toNat_tally {counter : UInt16} {count : ℕ} (counts : counter.toNat = count)
    (bound : count + 1 < 2 ^ 16) (flag : Bool) :
    (tally counter flag).toNat = count + flag.toNat := by
  subst counts
  cases flag with
  | false => simp [tally]
  | true =>
      rw [tally, if_pos rfl, UInt16.toNat_add]
      exact Nat.mod_eq_of_lt bound

/-- A counter of a property goes on by one snapshot. -/
theorem toNat_tally_countP {counter : UInt16} {snapshots : List SignalSnapshot}
    {property : SignalSnapshot → Bool} (counts : counter.toNat = snapshots.countP property)
    (bound : snapshots.length + 1 < 2 ^ 16) (snapshot : SignalSnapshot) :
    (tally counter (property snapshot)).toNat = (snapshots ++ [snapshot]).countP property := by
  have fits : snapshots.countP property + 1 < 2 ^ 16 :=
    Nat.lt_of_le_of_lt (Nat.succ_le_succ List.countP_le_length) bound
  rw [toNat_tally counts fits, List.countP_append, List.countP_singleton]
  cases property snapshot <;> rfl

theorem Counts.addSnapshot {snapshots : List SignalSnapshot} {stats : SignalStats}
    (counts : Counts snapshots stats) (bound : snapshots.length + 1 < 2 ^ 16)
    (snapshot : SignalSnapshot) :
    Counts (snapshots ++ [snapshot])
      (stats.addSnapshot (snapshots.map SignalSnapshot.pinGdo0).getLast? snapshot) where
  sampleCount := by
    rw [SignalStats.addSnapshot, UInt16.toNat_add, counts.sampleCount, List.length_append]
    exact Nat.mod_eq_of_lt bound
  carrierSense := toNat_tally_countP counts.carrierSense bound snapshot
  pqt := toNat_tally_countP counts.pqt bound snapshot
  pktGdo0 := toNat_tally_countP counts.pktGdo0 bound snapshot
  pktGdo2 := toNat_tally_countP counts.pktGdo2 bound snapshot
  pinGdo0 := toNat_tally_countP counts.pinGdo0 bound snapshot
  pinGdo2 := toNat_tally_countP counts.pinGdo2 bound snapshot
  toggles := by
    have few := edges_le (snapshots.map SignalSnapshot.pinGdo0)
    rw [List.length_map] at few
    rw [List.map_append, List.map_singleton, edges_concat]
    exact toNat_tally counts.toggles (by omega) _

theorem Counts.toInt_score {snapshots : List SignalSnapshot} {stats : SignalStats}
    (counts : Counts snapshots stats) :
    stats.score.toInt = (edges (snapshots.map SignalSnapshot.pinGdo0) * 100 +
      snapshots.countP SignalSnapshot.pinGdo0 * 10 +
      snapshots.countP SignalSnapshot.pktstatusGdo0 : ℕ) := by
  have toggles := stats.pinGdo0Toggles.toNat_lt
  have high := stats.pinGdo0HighSamples.toNat_lt
  have packets := stats.pktGdo0HighSamples.toNat_lt
  have score : stats.score = Int32.ofNat (stats.pinGdo0Toggles.toNat * 100 +
      stats.pinGdo0HighSamples.toNat * 10 + stats.pktGdo0HighSamples.toNat) := by
    rw [Int32.ofNat_add, Int32.ofNat_add, Int32.ofNat_mul, Int32.ofNat_mul]
    rfl
  rw [score, Int32.toInt_ofNat_of_lt (by omega), counts.toggles, counts.pinGdo0, counts.pktGdo0]

end SignalStats

/-- No counter of `sample_signal_stats` overflows: the statistics are those of what was read. -/
theorem sampleSignalStats_spec {samples : List SignalSample} (few : samples.length < 2 ^ 16) :
    (sampleSignalStats samples).Counts (snapshots samples) ∧
      (sampleSignalStats samples).Bounds (levels samples) := by
  suffices each : (samples.foldl takeSample (SignalStats.new, none)).2 =
      ((snapshots samples).map SignalSnapshot.pinGdo0).getLast? ∧
      (sampleSignalStats samples).Counts (snapshots samples) ∧
      (sampleSignalStats samples).Bounds (levels samples) from each.2
  unfold sampleSignalStats
  induction samples using List.reverseRecOn with
  | nil => exact ⟨rfl, ⟨rfl, rfl, rfl, rfl, rfl, rfl, rfl, rfl⟩, rfl, rfl⟩
  | append_singleton samples sample ih =>
      rw [List.length_append, List.length_singleton] at few
      obtain ⟨previous, counts, bounds⟩ := ih (by omega)
      have read : (snapshots samples).length ≤ samples.length := List.length_filterMap_le _ _
      rw [List.foldl_append, List.foldl_cons, List.foldl_nil, snapshots_concat, levels_concat]
      rcases sampled : samples.foldl takeSample (SignalStats.new, none) with ⟨stats, pin⟩
      rw [sampled] at previous counts bounds
      cases previous
      cases snapshot : sample.snapshot with
      | none =>
          rw [Option.toList_none, List.append_nil, takeSample, snapshot]
          exact ⟨rfl, counts.addRssi _, bounds.addRssi _⟩
      | some latest =>
          rw [Option.toList_some, takeSample, snapshot]
          refine ⟨by simp, (counts.addRssi _).addSnapshot (by omega) latest, ?_⟩
          exact { bounds.addRssi sample.rssiDbm with }

/-- The score is the strength of what was sampled. -/
theorem toInt_score {samples : List SignalSample} (few : samples.length < 2 ^ 16) :
    (sampleSignalStats samples).score.toInt = strength samples :=
  (sampleSignalStats_spec few).1.toInt_score

/-! ## What is selected -/

/-- The candidate that the sweep has to select among the measured ones: one of the strongest, and
of these the first. -/
def strongest (survey : ℕ → List SignalSample) (measured : List ℕ) : Option ℕ :=
  measured.argmax fun index => strength (survey index)

/-- The best candidate so far is the strongest of those that were measured. -/
def Leads (survey : ℕ → List SignalSample) (measured : List ℕ) (best : Option SweepBest) : Prop :=
  best.map SweepBest.index = strongest survey measured ∧
    ∀ selected ∈ best, rfSweepCandidates[selected.index]? = some selected.candidate ∧
      selected.score.toInt = strength (survey selected.index)

theorem Leads.measure {survey : ℕ → List SignalSample} {measured : List ℕ}
    {best : Option SweepBest} (leads : Leads survey measured best) {index : ℕ}
    {candidate : RfSweepCandidate} (located : rfSweepCandidates[index]? = some candidate)
    (few : (survey index).length < 2 ^ 16) :
    Leads survey (measured ++ [index])
      (if best.all fun best => best.score < (sampleSignalStats (survey index)).score then
        some ⟨index, candidate, sampleSignalStats (survey index),
          (sampleSignalStats (survey index)).score⟩
      else best) := by
  obtain ⟨strongest_measured, known⟩ := leads
  have score := toInt_score few
  rw [Leads, strongest, List.argmax_concat]
  rw [strongest] at strongest_measured
  cases best with
  | none =>
      rw [← strongest_measured]
      refine ⟨rfl, ?_⟩
      rintro selected ⟨⟩
      exact ⟨located, score⟩
  | some selected =>
      obtain ⟨selected_located, selected_score⟩ := known selected rfl
      rw [← strongest_measured]
      simp only [Option.all_some, Option.map_some, decide_eq_true_eq]
      have compared : selected.score < (sampleSignalStats (survey index)).score ↔
          strength (survey selected.index) < strength (survey index) := by
        rw [Int32.lt_iff_toInt_lt, selected_score, score, Int.ofNat_lt]
      by_cases stronger : strength (survey selected.index) < strength (survey index)
      · rw [if_pos (compared.mpr stronger), if_pos stronger]
        refine ⟨rfl, ?_⟩
        rintro selected ⟨⟩
        exact ⟨located, score⟩
      · rw [if_neg (mt compared.mp stronger), if_neg stronger]
        exact ⟨rfl, known⟩

/-- The turns of the loop over the first candidates are steps of the sweep. -/
theorem sweepCandidates_run {survey : ℕ → List SignalSample}
    (few : ∀ index, (survey index).length < 2 ^ 16) {system : System}
    (sweeping : system.rxTask = .sweeping 0 []) {count : ℕ}
    (bound : count ≤ rfSweepCandidates.length) :
    ∃ measured best radio,
      (rfSweepCandidates.zipIdx.take count).foldl (sweepCandidate survey) (none, system.radio) =
        (best, radio) ∧
      Leads survey measured best ∧
      radioSystem.run system (List.replicate count .sweepNext) =
        some { system with radio := radio, rxTask := .sweeping count measured } := by
  induction count with
  | zero =>
      refine ⟨[], none, system.radio, rfl, ⟨rfl, fun _ absent => by cases absent⟩, ?_⟩
      rw [← sweeping]
      rfl
  | succ count ih =>
      obtain ⟨measured, best, radio, folded, leads, execution⟩ := ih (Nat.le_of_succ_le bound)
      have located : rfSweepCandidates[count]? = some rfSweepCandidates[count] :=
        List.getElem?_eq_getElem bound
      have entry : rfSweepCandidates.zipIdx.take (count + 1) =
          rfSweepCandidates.zipIdx.take count ++ [(rfSweepCandidates[count], count)] := by
        rw [List.take_succ_eq_append_getElem (by rwa [List.length_zipIdx]), List.getElem_zipIdx,
          Nat.zero_add]
      rw [entry, List.foldl_append, folded, List.replicate_succ', List.foldl_cons, List.foldl_nil,
        TransitionSystem.run_append, execution, Option.bind_eq_bind, Option.bind_some,
        TransitionSystem.run_cons]
      have turn : radioSystem.step { system with radio, rxTask := .sweeping count measured }
          .sweepNext = some (System.sweepNext count measured rfSweepCandidates[count]
            { system with radio, rxTask := .sweeping count measured }) := by
        change (rfSweepCandidates[count]?.map _) = _
        rw [located]
        rfl
      rw [turn]
      cases applied : exec (Cc1101Radio.applyRfProfile rfSweepCandidates[count].freqHz
          rfSweepCandidates[count].bandwidthHz) radio with
      | mk outcome radio =>
          cases outcome with
          | error =>
              refine ⟨measured, best, radio, ?_, leads, ?_⟩
              · simp only [sweepCandidate, applied]
              · simp only [System.sweepNext, applied]
                rfl
          | ok =>
              refine ⟨_, _, radio, ?_, leads.measure located (few count), ?_⟩
              · simp only [sweepCandidate, applied]
                split <;> rfl
              · simp only [System.sweepNext, applied]
                rfl

/-- The radio receives with the frequency and the bandwidth of a candidate. -/
structure TunedTo (candidate : RfSweepCandidate) (radio : Cc1101Radio) : Prop where
  frequency : radio.registers.frequencyHz = candidate.freqHz
  bandwidth : radio.registers.channelBandwidthHz = candidate.bandwidthHz
  receiving : radio.registers.mode = .receive
  bandwidthIndex : radio.channelBandwidthIndex = channelBandwidthIndex candidate.bandwidthHz

/-- What a command leaves, if it does not fail. -/
theorem triple_driver {before : Cc1101Radio → Prop} (command : Cc1101Command)
    (after : Cc1101Radio → Prop)
    (executes : ∀ radio, before radio → after { radio with
      registers := command.execute radio.registers, failures := radio.failures.tail }) :
    Triple before (Cc1101Radio.driver command) (fun _ => after) fun _ _ => True := by
  intro radio holds
  cases fails : radio.failures.headD false with
  | true =>
      rw [Cc1101Radio.exec_driver_of_fails fails]
      trivial
  | false =>
      rw [Cc1101Radio.exec_driver_of_succeeds fails]
      exact executes radio holds

/-- An RF profile that is applied without an error tunes the radio. -/
theorem triple_applyRfProfile (candidate : RfSweepCandidate) :
    Triple (fun _ => True) (Cc1101Radio.applyRfProfile candidate.freqHz candidate.bandwidthHz)
      (fun _ => TunedTo candidate) fun _ _ => True := by
  refine Triple.bind (triple_driver _ (fun _ => True) ?_) fun _ => Triple.bind (triple_driver _
    (fun radio => radio.registers.frequencyHz = candidate.freqHz) ?_) fun _ => Triple.bind
    (triple_driver _ (fun radio => radio.registers.frequencyHz = candidate.freqHz ∧
      radio.registers.channelBandwidthHz = candidate.bandwidthHz) ?_) fun _ => Triple.bind
    (triple_driver _ (fun radio => radio.registers.frequencyHz = candidate.freqHz ∧
      radio.registers.channelBandwidthHz = candidate.bandwidthHz ∧
      radio.registers.mode = .receive) ?_) fun _ => ?_
  · exact fun _ _ => trivial
  · exact fun _ _ => rfl
  · exact fun _ tuned => ⟨tuned, rfl⟩
  · exact fun _ tuned => ⟨tuned.1, tuned.2, rfl⟩
  · exact fun _ tuned => ⟨tuned.1, tuned.2.1, tuned.2.2, rfl⟩

/-- `run_rf_sweep` is a run of the sweep, whichever commands to the radio fail: it selects the
strongest candidate among those that could be applied, the first one of several, and returns its
index if and only if it can be applied again; the radio is then tuned to it. -/
theorem runRfSweep_selects {survey : ℕ → List SignalSample}
    (dwells : ∀ index, (survey index).length = rfSweepDwellSamples) {system : System}
    (sweeping : system.rxTask = .sweeping 0 []) :
    ∃ measured swept, radioSystem.run system
        (List.replicate rfSweepCandidates.length .sweepNext) = some swept ∧
      swept.rxTask = .sweeping rfSweepCandidates.length measured ∧
      radioSystem.step swept (.sweepSelect (strongest survey measured)) =
        some (system.afterSweep survey).restoreSettings ∧
      (∀ index, (runRfSweep survey system.radio).1 = some index ↔
        strongest survey measured = some index ∧ ∃ candidate ∈ rfSweepCandidates[index]?,
          (exec (Cc1101Radio.applyRfProfile candidate.freqHz candidate.bandwidthHz)
            swept.radio).1 = .ok ()) ∧
      ∀ index, (runRfSweep survey system.radio).1 = some index →
        ∃ candidate ∈ rfSweepCandidates[index]?,
          TunedTo candidate (runRfSweep survey system.radio).2 := by
  have few : ∀ index, (survey index).length < 2 ^ 16 := by
    intro index
    rw [dwells]
    decide
  obtain ⟨measured, best, radio, folded, ⟨selects, known⟩, execution⟩ :=
    sweepCandidates_run few sweeping (Nat.le_refl rfSweepCandidates.length)
  rw [List.take_of_length_le (by rw [List.length_zipIdx])] at folded
  have selected : runRfSweep survey system.radio = applyBest (best, radio) :=
    congrArg applyBest folded
  cases best with
  | none =>
      have nothing : strongest survey measured = none := selects.symm
      have empty : measured = [] := List.argmax_eq_none.mp nothing
      refine ⟨measured, _, execution, rfl, ?_, ?_, ?_⟩
      · subst empty
        rw [System.afterSweep, selected]
        rfl
      · intro index
        rw [selected, nothing]
        constructor
        · intro impossible
          cases impossible
        · rintro ⟨impossible, -⟩
          cases impossible
      · intro index
        rw [selected]
        intro impossible
        cases impossible
  | some best =>
      obtain ⟨located, -⟩ := known best rfl
      have chosen : strongest survey measured = some best.index := selects.symm
      have member : best.index ∈ measured := List.argmax_mem chosen
      rcases applied : exec (Cc1101Radio.applyRfProfile best.candidate.freqHz
        best.candidate.bandwidthHz) radio with ⟨outcome, finished⟩
      refine ⟨measured, _, execution, rfl, ?_, ?_, ?_⟩
      · rw [chosen]
        change (if rfSweepCandidates.length < rfSweepCandidates.length then none else
          if best.index ∈ measured then _ else none) = _
        rw [if_neg (Nat.lt_irrefl _), if_pos member, located,
          Option.map_some, System.afterSweep, selected]
        simp only [System.sweepSelect, applied, applyBest]
        cases outcome <;> rfl
      · intro index
        rw [selected, chosen, applyBest, applied]
        constructor
        · intro returned
          cases outcome with
          | error => cases returned
          | ok =>
              cases returned
              exact ⟨rfl, best.candidate, located, congrArg Prod.fst applied⟩
        · rintro ⟨⟨⟩, candidate, found, again⟩
          cases located.symm.trans found
          cases (congrArg Prod.fst applied).symm.trans again
          rfl
      · intro index
        rw [selected, applyBest, applied]
        intro returned
        cases outcome with
        | error => cases returned
        | ok =>
            cases returned
            exact ⟨best.candidate, located,
              (triple_applyRfProfile best.candidate).of_ok trivial applied⟩

/-- Only the third candidate hears a signal. -/
def burstSurvey (index : ℕ) : List SignalSample :=
  (List.range rfSweepDwellSamples).map fun turn =>
    ⟨some (-80), some ⟨false, false, false, false, index = 2 && turn % 2 = 0, false⟩⟩

def sweepingSystem : System :=
  { System.booted true 0 0 receivingRadio with rxTask := .sweeping 0 [] }

/-- The third candidate is selected, and the radio is tuned to it. -/
theorem runRfSweep_selects_burst :
    (runRfSweep burstSurvey receivingRadio).1 = some 2 ∧
      TunedTo ⟨433920000, 162000⟩ (runRfSweep burstSurvey receivingRadio).2 := by
  have selected : (runRfSweep burstSurvey sweepingSystem.radio).1 = some 2 := by decide +kernel
  have dwells : ∀ index, (burstSurvey index).length = rfSweepDwellSamples := by
    intro index
    rw [burstSurvey, List.length_map, List.length_range]
  have sweeping : sweepingSystem.rxTask = .sweeping 0 [] := rfl
  obtain ⟨_, _, -, -, -, -, tunes⟩ := runRfSweep_selects dwells sweeping
  obtain ⟨candidate, located, tuned⟩ := tunes 2 selected
  cases located
  exact ⟨selected, tuned⟩

/-! ## What the radio listens on -/

/-- The frequency that `init` sets. -/
def defaultFrequencyHz : UInt32 := 433920000

/-- The frequency of the candidate that a word in RTC memory names. -/
def chosenFrequencyHz (word : UInt32) : UInt32 :=
  ((loadPersistedRfProfileIndex word).1.bind (rfSweepCandidates[·]?)).elim defaultFrequencyHz
    RfSweepCandidate.freqHz

/-- No command fails, and the radio receives on a frequency. -/
structure Receives (hz : UInt32) (radio : Cc1101Radio) : Prop where
  reliable : radio.failures = []
  frequency : radio.registers.frequencyHz = hz
  receiving : radio.registers.mode = .receive

/-- From any reliable radio a program leaves a receiving one on the same frequency. -/
def Stays (program : Fallible RadioError Cc1101Radio Unit) : Prop :=
  ∀ hz, Triple (fun radio => radio.failures = [] ∧ radio.registers.frequencyHz = hz) program
    (fun _ => Receives hz) fun _ _ => False

theorem Stays.bind {first second : Fallible RadioError Cc1101Radio Unit} (front : Stays first)
    (back : Stays second) : Stays (first >>= fun _ => second) :=
  fun hz => Triple.bind (front hz) fun _ radio receives =>
    back hz radio ⟨receives.reliable, receives.frequency⟩

theorem stays_reconfigure {command : Cc1101Command} {remember : Cc1101Radio → Cc1101Radio}
    (keeps : ∀ registers, (command.execute registers).frequencyHz = registers.frequencyHz)
    (remembers : ∀ radio, (remember radio).failures = radio.failures ∧
      (remember radio).registers = radio.registers) :
    Stays (Cc1101Radio.reconfigure command remember) := by
  rintro hz radio ⟨reliable, rfl⟩
  rw [Cc1101Radio.exec_reconfigure reliable]
  obtain ⟨failures, registers⟩ := remembers { radio with
    registers := (Cc1101Command.setRadioMode .receive).execute
      (command.execute ((Cc1101Command.setRadioMode .idle).execute radio.registers)) }
  constructor
  · exact failures.trans reliable
  · rw [registers]
    exact keeps _
  · rw [registers]
    rfl

theorem stays_setDetectionThreshold (db : UInt8) : Stays (Cc1101Radio.setDetectionThreshold db) :=
  stays_reconfigure (fun _ => rfl) fun _ => ⟨rfl, rfl⟩

theorem stays_setFilterLevel (level : UInt8) : Stays (Cc1101Radio.setFilterLevel level) :=
  stays_reconfigure (fun _ => rfl) fun _ => ⟨rfl, rfl⟩

theorem stays_setChannelBandwidthIndex (index : UInt8) :
    Stays (Cc1101Radio.setChannelBandwidthIndex index) :=
  stays_reconfigure (fun _ => rfl) fun _ => ⟨rfl, rfl⟩

theorem stays_setCarrierSenseThreshold (threshold : UInt8) :
    Stays (Cc1101Radio.setCarrierSenseThreshold threshold) :=
  stays_reconfigure (fun _ => rfl) fun _ => ⟨rfl, rfl⟩

theorem stays_applySettings (settings : RadioSettings) :
    Stays (Cc1101Radio.applySettings settings) :=
  (stays_setDetectionThreshold _).bind ((stays_setFilterLevel _).bind
    ((stays_setChannelBandwidthIndex _).bind (stays_setCarrierSenseThreshold _)))

/-- A reliable radio is on the same frequency as another one, and receives if the other one does. -/
structure Follows (before after : Cc1101Radio) : Prop where
  reliable : after.failures = []
  frequency : after.registers.frequencyHz = before.registers.frequencyHz
  receiving : before.registers.mode = .receive → after.registers.mode = .receive

theorem Follows.receives {before after : Cc1101Radio} {hz : UInt32} (follows : Follows before after)
    (receives : Receives hz before) : Receives hz after where
  reliable := follows.reliable
  frequency := follows.frequency.trans receives.frequency
  receiving := follows.receiving receives.receiving

theorem Follows.setIfNew {before radio : Cc1101Radio} (follows : Follows before radio)
    {set : UInt8 → Fallible RadioError Cc1101Radio Unit} (stays : ∀ value, Stays (set value))
    {wanted current : UInt8} : Follows before (radio.setIfNew wanted current set) := by
  unfold Cc1101Radio.setIfNew
  split_ifs with differs
  · obtain ⟨_, after, executed, receives⟩ :=
      (stays wanted before.registers.frequencyHz).returns ⟨follows.reliable, follows.frequency⟩
    rw [executed]
    exact ⟨receives.reliable, receives.frequency, fun _ => receives.receiving⟩
  · exact follows

theorem follows_applyPendingSettings (pending : Option RadioSettings) {radio : Cc1101Radio}
    (reliable : radio.failures = []) : Follows radio (radio.applyPendingSettings pending) := by
  have same : Follows radio radio := ⟨reliable, rfl, id⟩
  cases pending with
  | none => exact same
  | some settings =>
      exact (((same.setIfNew stays_setDetectionThreshold).setIfNew stays_setFilterLevel).setIfNew
        stays_setChannelBandwidthIndex).setIfNew stays_setCarrierSenseThreshold

theorem restoreSettings_receives {system : System} {hz : UInt32}
    (receives : Receives hz system.radio) : Receives hz system.restoreSettings.radio ∧
      system.restoreSettings.rfProfileWord = system.rfProfileWord ∧
      system.restoreSettings.rxTask = .sampling := by
  unfold System.restoreSettings
  rcases loadSettings system.settingsWord with ⟨settings, word⟩
  cases settings with
  | none => exact ⟨receives, rfl, rfl⟩
  | some settings =>
      obtain ⟨_, after, executed, kept⟩ :=
        (stays_applySettings settings hz).returns ⟨receives.reliable, receives.frequency⟩
      exact ⟨by simpa only [executed] using kept, rfl, rfl⟩

/-- A reliable radio can be tuned to a candidate. -/
theorem applyRfProfile_receives (candidate : RfSweepCandidate) {radio : Cc1101Radio}
    (reliable : radio.failures = []) :
    ∃ after, exec (Cc1101Radio.applyRfProfile candidate.freqHz candidate.bandwidthHz) radio =
      (.ok (), after) ∧ Receives candidate.freqHz after := by
  unfold Cc1101Radio.applyRfProfile
  simp only [exec_bind, Cc1101Radio.exec_driver, reliable, exec_update]
  exact ⟨_, rfl, rfl, rfl, rfl⟩

theorem init_receives {settings : RadioSettings} {registers : Cc1101Registers}
    {radio : Cc1101Radio} (initialized : exec Cc1101Radio.init
      (Cc1101Radio.restoreSettingsAfterReset settings (Cc1101Radio.new registers [])) =
        (.ok (), radio)) :
    radio.failures = [] ∧ radio.registers.frequencyHz = defaultFrequencyHz := by
  unfold Cc1101Radio.init at initialized
  simp only [exec_bind, Cc1101Radio.exec_driver, exec_update,
    Cc1101Radio.restoreSettingsAfterReset, Cc1101Radio.new] at initialized
  cases initialized
  exact ⟨rfl, rfl⟩

/-- A word and the one that a load leaves name the same frequency. -/
theorem chosenFrequencyHz_load (word : UInt32) :
    chosenFrequencyHz (loadPersistedRfProfileIndex word).2 = chosenFrequencyHz word := by
  have settled : loadPersistedRfProfileIndex (loadPersistedRfProfileIndex word).2 =
    loadPersistedRfProfileIndex word := rfProfileRecord_settles word
  rw [chosenFrequencyHz, settled, chosenFrequencyHz]

theorem chosenFrequencyHz_persist {index : ℕ} {candidate : RfSweepCandidate}
    (located : rfSweepCandidates[index]? = some candidate) (word : UInt32) :
    chosenFrequencyHz (persistRfProfileIndex index word) = candidate.freqHz := by
  have known : index < rfSweepCandidates.length := (List.getElem?_eq_some_iff.mp located).1
  obtain ⟨persisted, fits⟩ := persistRfProfileIndex_of_lt known word
  have small : (UInt8.ofNat index).toNat < rfSweepCandidates.length := by rwa [fits]
  have loads : loadPersistedRfProfileIndex (encodeRfProfile (UInt8.ofNat index)) =
      (some (UInt8.ofNat index).toNat, encodeRfProfile (UInt8.ofNat index)) :=
    (rfProfileRecord_holds small).loads
  rw [chosenFrequencyHz, persisted, loads, fits, Option.bind_some, located]
  rfl

/-- What the radio listens on, by where the start-up sequence is. -/
def Listens (system : System) : Prop :=
  match system.rxTask with
  | .notStarted => system.radio.registers.frequencyHz = defaultFrequencyHz
  | .sweeping next measured =>
      measured = List.range next ∧ system.radio.registers.mode = .receive
  | .sampling | .capturing =>
      Receives (chosenFrequencyHz system.rfProfileWord) system.radio
  | .stopped => False

theorem restoreSettings_listens {system : System}
    (receives : Receives (chosenFrequencyHz system.rfProfileWord) system.radio) :
    Listens system.restoreSettings := by
  obtain ⟨kept, word, sampling⟩ := restoreSettings_receives receives
  unfold Listens
  rw [sampling, word]
  exact kept

/-- A wake from deep sleep tunes the radio to what RTC memory names. -/
theorem applyPersistedRfProfile_receives {system : System}
    (receives : Receives defaultFrequencyHz system.radio) :
    Receives (chosenFrequencyHz system.applyPersistedRfProfile.rfProfileWord)
      system.applyPersistedRfProfile.radio := by
  have word : system.applyPersistedRfProfile.rfProfileWord =
      (loadPersistedRfProfileIndex system.rfProfileWord).2 := rfl
  rw [word, chosenFrequencyHz_load, chosenFrequencyHz, System.applyPersistedRfProfile]
  dsimp only
  cases (loadPersistedRfProfileIndex system.rfProfileWord).1.bind (rfSweepCandidates[·]?) with
  | none => exact receives
  | some candidate =>
      obtain ⟨after, executed, tuned⟩ := applyRfProfile_receives candidate receives.reliable
      rw [Option.elim_some]
      simpa only [executed] using tuned

theorem start_listens {before : System} (reliable : before.radio.failures = [])
    (default : before.radio.registers.frequencyHz = defaultFrequencyHz) :
    Listens before.start := by
  have executed : exec (do Cc1101Radio.getHwInfo; Cc1101Radio.setReceiveMode) before.radio =
      (.ok (), { before.radio with registers := { before.radio.registers with mode := .receive } })
      := by
    simp only [exec_bind, Cc1101Radio.getHwInfo, Cc1101Radio.setReceiveMode, exec_mapError,
      Cc1101Radio.exec_driver, reliable]
    rfl
  unfold System.start
  rw [executed]
  dsimp only
  split
  · exact ⟨rfl, rfl⟩
  · exact restoreSettings_listens (applyPersistedRfProfile_receives ⟨reliable, default, rfl⟩)

/-- What every step of the tasks keeps. -/
theorem Listens.step {before after : System} {action : Action} (listens : Listens before)
    (reliable : before.radio.failures = []) (taken : step before action = some after) :
    Listens after := by
  cases action with
  | send command =>
      obtain ⟨commands, -, rfl⟩ := Option.map_eq_some_iff.mp taken
      exact listens
  | dispatch =>
      have taken : before.dispatch = some after := taken
      unfold System.dispatch at taken
      split at taken
      · cases taken
      · split at taken <;> (cases taken; exact listens)
  | start =>
      obtain ⟨notStarted, same⟩ := Option.ite_none_right_eq_some.mp taken
      cases same
      rw [Listens, notStarted] at listens
      exact start_listens reliable listens
  | sweepNext =>
      simp only [RadioTasks.step] at taken
      split at taken
      · rename_i next measured sweeping
        obtain ⟨candidate, -, rfl⟩ := Option.map_eq_some_iff.mp taken
        rw [Listens, sweeping] at listens
        obtain ⟨radio, executed, tuned⟩ := applyRfProfile_receives candidate reliable
        simp only [System.sweepNext, executed]
        exact ⟨by rw [listens.1, List.range_succ], tuned.receiving⟩
      · cases taken
  | sweepSelect best =>
      simp only [RadioTasks.step] at taken
      split at taken
      · rename_i next measured sweeping
        rw [Listens, sweeping] at listens
        obtain ⟨finished, taken⟩ := Option.ite_none_left_eq_some.mp taken
        cases best with
        | none =>
            obtain ⟨empty, -⟩ := Option.ite_none_right_eq_some.mp taken
            rw [listens.1, List.range_eq_nil] at empty
            subst empty
            exact absurd (by decide) finished
        | some index =>
            obtain ⟨-, taken⟩ := Option.ite_none_right_eq_some.mp taken
            obtain ⟨candidate, located, rfl⟩ := Option.map_eq_some_iff.mp taken
            obtain ⟨radio, executed, tuned⟩ := applyRfProfile_receives candidate reliable
            apply restoreSettings_listens
            simp only [System.sweepSelect, executed]
            rwa [chosenFrequencyHz_persist located]
      · cases taken
  | report =>
      obtain ⟨sampling, same⟩ := Option.ite_none_right_eq_some.mp taken
      cases same
      rw [Listens, sampling] at listens
      exact listens
  | settingsChanged =>
      obtain ⟨-, same⟩ := Option.ite_none_right_eq_some.mp taken
      cases same
      exact listens
  | applyPending =>
      obtain ⟨⟨-, free⟩, same⟩ := Option.ite_none_right_eq_some.mp taken
      cases same
      have follows := follows_applyPendingSettings before.settingsWatch.value reliable
      unfold Listens at listens ⊢
      unfold System.radioFree at free
      cases rxTask : before.rxTask with
      | notStarted =>
          rw [rxTask] at listens
          exact follows.frequency.trans listens
      | sweeping =>
          rw [rxTask] at free
          cases free
      | sampling =>
          rw [rxTask] at free
          cases free
      | capturing =>
          rw [rxTask] at listens
          exact follows.receives listens
      | stopped => rwa [rxTask] at listens

theorem listens_of_reachable {system : System} (reachable : radioSystem.Reachable system) :
    Listens system := by
  have both := reachable.invariant (fun system => Sound system ∧ Listens system)
    (fun start initial => by
      refine ⟨sound_of_initial initial, ?_⟩
      obtain ⟨_, _, _, _, _, initialized, rfl⟩ := initial
      exact (init_receives initialized).2)
    fun before action after held taken =>
      ⟨held.1.move (moves_of_step held.1 taken), held.2.step held.1.coherent.reliable taken⟩
  exact both.2

/-- A step of the tasks, or a deep sleep: the next start of the firmware is a wake, and finds the
words in RTC memory. -/
inductive Continues (before : System) : System → Prop
  | stepped (action : Action) (after : System) :
      radioSystem.step before action = some after → Continues before after
  | woken (registers : Cc1101Registers) (radio : Cc1101Radio) :
      exec Cc1101Radio.init (Cc1101Radio.restoreSettingsAfterReset
        (loadSettingsOrDefault before.settingsWord).1 (Cc1101Radio.new registers [])) =
          (.ok (), radio) →
      Continues before (System.booted false before.settingsWord before.rfProfileWord radio)

/-- The start-up sequence has prepared the radio. -/
def RxTask.isPrepared : RxTask → Bool
  | .sampling | .capturing => true
  | .notStarted | .sweeping _ _ | .stopped => false

/-- RTC memory names a frequency, and no sweep is to come. -/
structure Settled (hz : UInt32) (system : System) : Prop where
  word : chosenFrequencyHz system.rfProfileWord = hz
  unswept : system.rxTask.isPrepared = true ∨
    system.rxTask = .notStarted ∧ system.coldBoot = false

theorem Settled.start {hz : UInt32} {before : System} (settled : Settled hz before)
    (sound : Sound before) (warm : before.coldBoot = false) : Settled hz before.start := by
  obtain ⟨radio, executed, -⟩ := (Cc1101Radio.sets_getHwInfo.bind
    Cc1101Radio.sets_setReceiveMode).returns sound.coherent
  have started : before.start =
      ({ before with radio := radio } : System).applyPersistedRfProfile.restoreSettings := by
    unfold System.start
    rw [executed]
    exact if_neg (by simp [warm])
  have word : ({ before with radio := radio } : System).applyPersistedRfProfile.rfProfileWord =
      (loadPersistedRfProfileIndex before.rfProfileWord).2 := rfl
  have loaded : ∀ system : System,
      system.restoreSettings.rfProfileWord = system.rfProfileWord ∧
        system.restoreSettings.rxTask = .sampling := by
    intro system
    unfold System.restoreSettings
    split <;> exact ⟨rfl, rfl⟩
  rw [started]
  constructor
  · rw [(loaded _).1, word, chosenFrequencyHz_load]
    exact settled.word
  · left
    rw [(loaded _).2]
    rfl

theorem Settled.step {hz : UInt32} {before after : System} {action : Action}
    (settled : Settled hz before) (sound : Sound before) (taken : step before action = some after) :
    Settled hz after := by
  have unswept : ∀ next measured, before.rxTask ≠ .sweeping next measured := by
    intro next measured sweeping
    obtain prepared | notStarted := settled.unswept
    · rw [sweeping] at prepared
      cases prepared
    · cases sweeping.symm.trans notStarted.1
  cases action with
  | send command =>
      obtain ⟨commands, -, rfl⟩ := Option.map_eq_some_iff.mp taken
      exact { settled with }
  | dispatch =>
      have taken : before.dispatch = some after := taken
      unfold System.dispatch at taken
      split at taken
      · cases taken
      · split at taken <;> (cases taken; exact { settled with })
  | start =>
      obtain ⟨notStarted, same⟩ := Option.ite_none_right_eq_some.mp taken
      cases same
      obtain prepared | warm := settled.unswept
      · rw [notStarted] at prepared
        cases prepared
      · exact settled.start sound warm.2
  | sweepNext =>
      simp only [RadioTasks.step] at taken
      cases taken
  | sweepSelect best =>
      simp only [RadioTasks.step] at taken
      cases taken
  | report =>
      obtain ⟨-, same⟩ := Option.ite_none_right_eq_some.mp taken
      cases same
      exact ⟨settled.word, .inl rfl⟩
  | settingsChanged =>
      obtain ⟨-, same⟩ := Option.ite_none_right_eq_some.mp taken
      cases same
      exact { settled with }
  | applyPending =>
      obtain ⟨-, same⟩ := Option.ite_none_right_eq_some.mp taken
      cases same
      exact { settled with }

theorem settled_of_continues {before after : System} (reachable : radioSystem.Reachable before)
    (prepared : before.rxTask.isPrepared = true)
    (continues : Relation.ReflTransGen Continues before after) :
    Sound after ∧ Listens after ∧ Settled (chosenFrequencyHz before.rfProfileWord) after := by
  induction continues with
  | refl =>
      exact ⟨sound_of_reachable reachable, listens_of_reachable reachable, rfl, .inl prepared⟩
  | tail _ continued ih =>
      obtain ⟨sound, listens, settled⟩ := ih
      cases continued with
      | stepped action _ taken =>
          exact ⟨sound.move (moves_of_step sound taken), listens.step sound.coherent.reliable taken,
            settled.step sound taken⟩
      | woken registers radio initialized =>
          refine ⟨sound_of_initial ⟨_, _, _, registers, radio, initialized, rfl⟩, ?_, ?_⟩
          · exact (init_receives initialized).2
          · exact ⟨settled.word, .inr ⟨rfl, rfl⟩⟩

/-- With a driver that never fails: once the radio is prepared it receives on the frequency that RTC
memory names, and whatever the tasks do and however often the device sleeps, it receives on the same
frequency whenever it is prepared again. -/
theorem frequency_survives_sleep {before after : System}
    (reachable : radioSystem.Reachable before) (prepared : before.rxTask.isPrepared = true)
    (continues : Relation.ReflTransGen Continues before after)
    (again : after.rxTask.isPrepared = true) :
    Receives (chosenFrequencyHz before.rfProfileWord) before.radio ∧
      Receives (chosenFrequencyHz before.rfProfileWord) after.radio := by
  have receives : ∀ system, Listens system → system.rxTask.isPrepared = true →
      Receives (chosenFrequencyHz system.rfProfileWord) system.radio := by
    intro system listens prepared
    unfold Listens at listens
    cases rxTask : system.rxTask <;> rw [rxTask] at listens prepared <;>
      first | exact listens | cases prepared
  have held := settled_of_continues reachable prepared continues
  refine ⟨receives before (listens_of_reachable reachable) prepared, ?_⟩
  rw [← held.2.2.word]
  exact receives after held.2.1 again

/-- The fifth candidate was selected after a cold boot. -/
def sweptSystem : System :=
  { System.booted true 0 0 initializedRadio with
    radio := { receivingRadio with registers := ⟨.receive, 433820000, 203000, .db4, .db33, 7⟩ }
    rfProfileWord := persistRfProfileIndex 4 0
    rxTask := .sampling }

/-- The device wakes from deep sleep, and the radio is prepared again. -/
def wokenAgain : System :=
  { System.booted false 0 sweptSystem.rfProfileWord initializedRadio with
    radio := sweptSystem.radio
    rxTask := .sampling }

/-- The radio is on the selected frequency after a deep sleep. -/
theorem frequency_survives_sleep_sample : Receives 433820000 wokenAgain.radio := by
  have started : radioSystem.initial (System.booted true 0 0 initializedRadio) :=
    ⟨true, 0, 0, resetRegisters, initializedRadio, rfl, rfl⟩
  have swept : radioSystem.run (System.booted true 0 0 initializedRadio)
      (.start :: List.replicate 8 .sweepNext ++ [.sweepSelect (some 4)]) = some sweptSystem := rfl
  have reachable : radioSystem.Reachable sweptSystem :=
    ⟨_, _, started, TransitionSystem.path_of_run swept fun _ _ _ => trivial⟩
  have again : Relation.ReflTransGen Continues sweptSystem wokenAgain :=
    (Relation.ReflTransGen.single (.woken resetRegisters initializedRadio rfl)).tail
      (.stepped .start _ rfl)
  exact (frequency_survives_sleep reachable rfl again rfl).2

end RadioTasks
end Motonet
