import Motonet.Foundation.TransitionSystem
import Motonet.TelemetryCore.Dedupe

/-!
# The telemetry pipeline

The adapter between the radio and the queue to MQTT drops a reading that the dedupe cache knows and
offers every other reading to the queue.  The cache records a reading before the queue has answered,
so that a refused reading also suppresses its repeats.
-/

namespace Motonet
namespace Firmware

open TelemetryCore

/-- `TelemetryEnqueueOutcome`. -/
inductive TelemetryEnqueueOutcome
  | queued
  | droppedByPolicy
  | rejectedAsDuplicate
  deriving DecidableEq, Repr

/-- `TelemetryPipelineAdapter`. -/
structure TelemetryPipelineAdapter (N : ℕ) where
  dedupe : DedupeCache N
  droppedTotal : UInt64
  rejectedDuplicatesTotal : UInt64
  dropLogIntervalMs : UInt64
  nextDropLogMs : UInt64

/-- A call of `enqueue_with`: the reading, the time, and the queue as the callback answers. -/
structure EnqueueCall (ρ : Type*) where
  reading : ρ
  nowMs : UInt64
  enqueue : ρ → Bool

/-- A call and its outcome. -/
structure Answered (ρ : Type*) where
  call : EnqueueCall ρ
  outcome : TelemetryEnqueueOutcome

namespace TelemetryPipelineAdapter

variable {N : ℕ}

/-- `TelemetryPipelineAdapter::with_windows`. -/
def withWindows (dedupeTtlMs dropLogIntervalMs : UInt64) : TelemetryPipelineAdapter N where
  dedupe := .new dedupeTtlMs
  droppedTotal := 0
  rejectedDuplicatesTotal := 0
  dropLogIntervalMs := dropLogIntervalMs
  nextDropLogMs := 0

/-- `TelemetryPipelineAdapter::DEFAULT_DEDUPE_TTL_MS`. -/
def defaultDedupeTtlMs : UInt64 := 30000

/-- `TelemetryPipelineAdapter::DEFAULT_DROP_LOG_INTERVAL_MS`. -/
def defaultDropLogIntervalMs : UInt64 := 60000

/-- `TelemetryPipelineAdapter::new`. -/
def new : TelemetryPipelineAdapter N := withWindows defaultDedupeTtlMs defaultDropLogIntervalMs

/-- `TelemetryPipelineAdapter::maybe_log_drop_metrics`. -/
def maybeLogDropMetrics (nowMs : UInt64) (adapter : TelemetryPipelineAdapter N) :
    TelemetryPipelineAdapter N :=
  if nowMs < adapter.nextDropLogMs then adapter
  else { adapter with nextDropLogMs := saturatingAdd nowMs adapter.dropLogIntervalMs }

variable {ρ : Type*} (mapRadioReadingToRecord : ρ → TelemetryRecord)

/-- `TelemetryPipelineAdapter::enqueue_with`: the outcome, and the adapter afterwards. -/
def enqueueWith (call : EnqueueCall ρ) (adapter : TelemetryPipelineAdapter N) :
    TelemetryEnqueueOutcome × TelemetryPipelineAdapter N :=
  let (outcome, dedupe) :=
    adapter.dedupe.observe (mapRadioReadingToRecord call.reading) call.nowMs
  let adapter := { adapter with dedupe := dedupe }
  match outcome with
  | .duplicate =>
      (.rejectedAsDuplicate,
        { adapter with rejectedDuplicatesTotal := adapter.rejectedDuplicatesTotal + 1 })
  | .new =>
      if call.enqueue call.reading then (.queued, adapter)
      else
        (.droppedByPolicy,
          { adapter with droppedTotal := adapter.droppedTotal + 1 }.maybeLogDropMetrics call.nowMs)

@[simp]
theorem dedupe_maybeLogDropMetrics (nowMs : UInt64) (adapter : TelemetryPipelineAdapter N) :
    (adapter.maybeLogDropMetrics nowMs).dedupe = adapter.dedupe := by
  unfold maybeLogDropMetrics
  split <;> rfl

variable {mapRadioReadingToRecord} in
/-- A call leaves the cache as its observation does, whatever the queue answers. -/
theorem dedupe_enqueueWith (call : EnqueueCall ρ) (adapter : TelemetryPipelineAdapter N) :
    (adapter.enqueueWith mapRadioReadingToRecord call).2.dedupe =
      (adapter.dedupe.observe (mapRadioReadingToRecord call.reading) call.nowMs).2 := by
  unfold enqueueWith
  dsimp only
  split
  · rfl
  · split
    · rfl
    · simp

variable {mapRadioReadingToRecord} in
/-- A call is rejected exactly if the cache takes its reading for a duplicate. -/
theorem rejected_iff_duplicate {call : EnqueueCall ρ} {adapter : TelemetryPipelineAdapter N} :
    (adapter.enqueueWith mapRadioReadingToRecord call).1 = .rejectedAsDuplicate ↔
      (adapter.dedupe.observe (mapRadioReadingToRecord call.reading) call.nowMs).1 =
        .duplicate := by
  unfold enqueueWith
  dsimp only
  split
  · rename_i duplicate
    simp [duplicate]
  · rename_i isNew
    rw [isNew]
    split <;> simp

end TelemetryPipelineAdapter

open TelemetryPipelineAdapter

section Pipeline

variable {N : ℕ} {ρ : Type*} (mapRadioReadingToRecord : ρ → TelemetryRecord)

/-- The key under which the cache files the reading of a call. -/
def EnqueueCall.key (call : EnqueueCall ρ) : DedupeKey := (mapRadioReadingToRecord call.reading).key

/-- An adapter that answers one call after another. -/
def pipeline (N : ℕ) : TransitionSystem (TelemetryPipelineAdapter N) (EnqueueCall ρ) where
  initial := fun adapter => ∃ dedupeTtlMs dropLogIntervalMs,
    adapter = withWindows dedupeTtlMs dropLogIntervalMs
  step := fun adapter call => some (adapter.enqueueWith mapRadioReadingToRecord call).2

/-- What a call shows: itself and its outcome. -/
def answer (adapter : TelemetryPipelineAdapter N) (call : EnqueueCall ρ)
    (_ : TelemetryPipelineAdapter N) : List (Answered ρ) :=
  [⟨call, (adapter.enqueueWith mapRadioReadingToRecord call).1⟩]

/-- The pipeline with its answers, the newest first. -/
def answeredPipeline (N : ℕ) :
    TransitionSystem (TelemetryPipelineAdapter N × List (Answered ρ)) (EnqueueCall ρ) :=
  (pipeline mapRadioReadingToRecord N).journaled (answer mapRadioReadingToRecord)

/-- The last call for a key that reached the queue. -/
def lastOffered (key : DedupeKey) (answers : List (Answered ρ)) : Option (Answered ρ) :=
  answers.find? fun answered =>
    answered.call.key mapRadioReadingToRecord = key && answered.outcome ≠ .rejectedAsDuplicate

/-- No call is earlier than one before it. -/
def InOrder (state : TelemetryPipelineAdapter N × List (Answered ρ)) (call : EnqueueCall ρ) :
    Prop :=
  ∀ answered ∈ state.2, answered.call.nowMs ≤ call.nowMs

/-- The cache does not hold the call's key, not yet expired, from a reading that the queue refused
when it was last offered one of that key. -/
def NoRefusedHeld (state : TelemetryPipelineAdapter N × List (Answered ρ)) (call : EnqueueCall ρ) :
    Prop :=
  ∀ entry ∈ state.1.dedupe.entries, call.nowMs < entry.expiresAt →
    entry.key = call.key mapRadioReadingToRecord →
      ∀ offered, lastOffered mapRadioReadingToRecord entry.key state.2 = some offered →
        offered.outcome ≠ .droppedByPolicy

/-- Every rejection follows, within the time to live, an equal reading that was queued. -/
def RejectionsFollowQueued (dedupeTtlMs : UInt64) (answers : List (Answered ρ)) : Prop :=
  ∀ later rejected earlier, answers = later ++ rejected :: earlier →
    rejected.outcome = .rejectedAsDuplicate →
      ∃ queued ∈ earlier, queued.outcome = .queued ∧
        queued.call.key mapRadioReadingToRecord = rejected.call.key mapRadioReadingToRecord ∧
          queued.call.nowMs ≤ rejected.call.nowMs ∧
            rejected.call.nowMs.toNat < queued.call.nowMs.toNat + dedupeTtlMs.toNat

variable {mapRadioReadingToRecord}

theorem lastOffered_cons (key : DedupeKey) (answered : Answered ρ) (answers : List (Answered ρ)) :
    lastOffered mapRadioReadingToRecord key (answered :: answers) =
      if answered.call.key mapRadioReadingToRecord = key ∧ answered.outcome ≠ .rejectedAsDuplicate
      then some answered else lastOffered mapRadioReadingToRecord key answers := by
  simp only [lastOffered, List.find?_cons]
  by_cases same : answered.call.key mapRadioReadingToRecord = key <;>
    by_cases rejected : answered.outcome = .rejectedAsDuplicate <;> simp [same, rejected]

/-- The last call for a key that reached the queue was answered, for that key, and not rejected. -/
theorem lastOffered_eq_some {key : DedupeKey} {answers : List (Answered ρ)} {offered : Answered ρ}
    (found : lastOffered mapRadioReadingToRecord key answers = some offered) :
    offered ∈ answers ∧ offered.call.key mapRadioReadingToRecord = key ∧
      offered.outcome ≠ .rejectedAsDuplicate := by
  have chosen := List.find?_some found
  simp only [Bool.and_eq_true, decide_eq_true_eq] at chosen
  exact ⟨List.mem_of_find?_eq_some found, chosen.1, chosen.2⟩

variable (mapRadioReadingToRecord) in
/-- Every cached key stands for the last call of that key that reached the queue. -/
structure Backed (dedupeTtlMs : UInt64) (state : TelemetryPipelineAdapter N × List (Answered ρ)) :
    Prop where
  ttl : state.1.dedupe.ttlMs = dedupeTtlMs
  offered : ∀ entry ∈ state.1.dedupe.entries, ∃ offered,
    lastOffered mapRadioReadingToRecord entry.key state.2 = some offered ∧
      entry.expiresAt = saturatingAdd offered.call.nowMs dedupeTtlMs

theorem answeredPipeline_step {before after : TelemetryPipelineAdapter N × List (Answered ρ)}
    {call : EnqueueCall ρ}
    (taken : (answeredPipeline mapRadioReadingToRecord N).step before call = some after) :
    after.1 = (before.1.enqueueWith mapRadioReadingToRecord call).2 ∧
      after.2 = ⟨call, (before.1.enqueueWith mapRadioReadingToRecord call).1⟩ :: before.2 := by
  obtain ⟨adapter, answers⟩ := TransitionSystem.journaled_step_eq_some_iff.mp taken
  exact ⟨(Option.some.inj adapter).symm, answers⟩

/-- A call keeps the cache backed by the calls that reached the queue. -/
theorem Backed.step {dedupeTtlMs : UInt64}
    {before after : TelemetryPipelineAdapter N × List (Answered ρ)} {call : EnqueueCall ρ}
    (backed : Backed mapRadioReadingToRecord dedupeTtlMs before)
    (taken : (answeredPipeline mapRadioReadingToRecord N).step before call = some after) :
    Backed mapRadioReadingToRecord dedupeTtlMs after := by
  obtain ⟨adapter, answers⟩ := answeredPipeline_step taken
  refine ⟨by rw [adapter, dedupe_enqueueWith, DedupeCache.ttlMs_observe, backed.ttl], ?_⟩
  intro entry member
  rw [adapter, dedupe_enqueueWith] at member
  rw [answers, lastOffered_cons]
  rcases DedupeCache.mem_entries_observe member with ⟨held, other⟩ | ⟨isNew, rfl⟩
  · have unchanged : ¬(call.key mapRadioReadingToRecord = entry.key ∧
        (before.1.enqueueWith mapRadioReadingToRecord call).1 ≠ .rejectedAsDuplicate) := by
      rintro ⟨same, offered⟩
      cases outcome :
          (before.1.dedupe.observe (mapRadioReadingToRecord call.reading) call.nowMs).1 with
      | duplicate => exact offered (rejected_iff_duplicate.mpr outcome)
      | new => exact other outcome same.symm
    rw [if_neg unchanged]
    exact backed.offered entry held
  · have offered :
        (before.1.enqueueWith mapRadioReadingToRecord call).1 ≠ .rejectedAsDuplicate := by
      intro rejected
      rw [rejected_iff_duplicate, isNew] at rejected
      cases rejected
    rw [if_pos ⟨rfl, offered⟩]
    exact ⟨_, rfl, by rw [backed.ttl]⟩

/-- A rejected call in order, whose key was not left in the cache by a refused reading, follows an
equal reading that was queued. -/
theorem Backed.queued_of_rejected {dedupeTtlMs : UInt64}
    {state : TelemetryPipelineAdapter N × List (Answered ρ)} {call : EnqueueCall ρ}
    (backed : Backed mapRadioReadingToRecord dedupeTtlMs state) (inOrder : InOrder state call)
    (noRefused : NoRefusedHeld mapRadioReadingToRecord state call)
    (rejected : (state.1.enqueueWith mapRadioReadingToRecord call).1 = .rejectedAsDuplicate) :
    ∃ queued ∈ state.2, queued.outcome = .queued ∧
      queued.call.key mapRadioReadingToRecord = call.key mapRadioReadingToRecord ∧
        queued.call.nowMs ≤ call.nowMs ∧
          call.nowMs.toNat < queued.call.nowMs.toNat + dedupeTtlMs.toNat := by
  obtain ⟨entry, held, live, same⟩ :=
    DedupeCache.observe_duplicate_iff.mp (rejected_iff_duplicate.mp rejected)
  obtain ⟨offered, found, expiresAt⟩ := backed.offered entry held
  obtain ⟨member, key, notRejected⟩ := lastOffered_eq_some found
  have notRefused := noRefused entry held live same offered found
  refine ⟨offered, member, ?_, key.trans same, inOrder offered member, ?_⟩
  · cases outcome : offered.outcome with
    | queued => rfl
    | droppedByPolicy => exact absurd outcome notRefused
    | rejectedAsDuplicate => exact absurd outcome notRejected
  · rw [expiresAt, UInt64.lt_iff_toNat_lt, toNat_saturatingAdd] at live
    exact Nat.lt_of_lt_of_le live (Nat.min_le_left _ _)

/-- The key of a refused reading, as long as it is held, has every equal reading rejected. -/
theorem rejected_of_refused_held {state : TelemetryPipelineAdapter N × List (Answered ρ)}
    {call : EnqueueCall ρ} (held : ¬NoRefusedHeld mapRadioReadingToRecord state call) :
    (state.1.enqueueWith mapRadioReadingToRecord call).1 = .rejectedAsDuplicate ∧
      ∃ refused, lastOffered mapRadioReadingToRecord (call.key mapRadioReadingToRecord) state.2 =
        some refused ∧ refused.outcome = .droppedByPolicy := by
  simp only [NoRefusedHeld, not_forall, not_not] at held
  obtain ⟨entry, member, live, same, refused, found, outcome⟩ := held
  rw [rejected_iff_duplicate, DedupeCache.observe_duplicate_iff]
  exact ⟨⟨entry, member, live, same⟩, refused, same ▸ found, outcome⟩

/-- One more answer keeps the rejections behind queued readings. -/
theorem RejectionsFollowQueued.cons {dedupeTtlMs : UInt64} {answered : Answered ρ}
    {answers : List (Answered ρ)}
    (before : RejectionsFollowQueued mapRadioReadingToRecord dedupeTtlMs answers)
    (head : answered.outcome = .rejectedAsDuplicate →
      ∃ queued ∈ answers, queued.outcome = .queued ∧
        queued.call.key mapRadioReadingToRecord = answered.call.key mapRadioReadingToRecord ∧
          queued.call.nowMs ≤ answered.call.nowMs ∧
            answered.call.nowMs.toNat < queued.call.nowMs.toNat + dedupeTtlMs.toNat) :
    RejectionsFollowQueued mapRadioReadingToRecord dedupeTtlMs (answered :: answers) := by
  intro later rejected earlier split
  cases later with
  | nil =>
      obtain ⟨rfl, rfl⟩ := List.cons.inj split
      exact head
  | cons _ later => exact before later rejected earlier (List.cons.inj split).2

/-- In every run in the order of time in which no call finds, still cached, a key that the queue
refused when it was last offered it, every rejection follows within the time to live an equal
reading that was queued. -/
theorem rejections_follow_queued {dedupeTtlMs dropLogIntervalMs : UInt64}
    {calls : List (EnqueueCall ρ)} {finish : TelemetryPipelineAdapter N × List (Answered ρ)}
    (path : (answeredPipeline mapRadioReadingToRecord N).Path
      (fun state call => InOrder state call ∧ NoRefusedHeld mapRadioReadingToRecord state call)
      (withWindows dedupeTtlMs dropLogIntervalMs, []) calls finish) :
    RejectionsFollowQueued mapRadioReadingToRecord dedupeTtlMs finish.2 := by
  have sound : Backed mapRadioReadingToRecord dedupeTtlMs finish ∧
      RejectionsFollowQueued mapRadioReadingToRecord dedupeTtlMs finish.2 := by
    apply path.invariant fun state => Backed mapRadioReadingToRecord dedupeTtlMs state ∧
      RejectionsFollowQueued mapRadioReadingToRecord dedupeTtlMs state.2
    · rintro before call after ⟨backed, follow⟩ ⟨inOrder, noRefused⟩ taken
      refine ⟨backed.step taken, ?_⟩
      rw [(answeredPipeline_step taken).2]
      exact follow.cons (backed.queued_of_rejected inOrder noRefused)
    · refine ⟨⟨rfl, fun entry member => ?_⟩, ?_⟩
      · cases member
      · intro later rejected earlier split
        simp at split
  exact sound.2

end Pipeline

/-- A record as its own reading, at a time, before a queue that takes or refuses everything. -/
def offer (nowMs : UInt64) (accepts : Bool) : EnqueueCall TelemetryRecord where
  reading := ⟨0x42, 3, 211, true, nowMs⟩
  nowMs := nowMs
  enqueue := fun _ => accepts

/-- A reading that the queue takes, and its repeat a second later. -/
theorem rejections_follow_queued_sample :
    ∃ finish : TelemetryPipelineAdapter 16 × List (Answered TelemetryRecord),
      finish.2.map Answered.outcome = [.rejectedAsDuplicate, .queued] ∧
        RejectionsFollowQueued id defaultDedupeTtlMs finish.2 := by
  have start : (answeredPipeline id 16).Path
      (fun state call => InOrder state call ∧ NoRefusedHeld id state call) (new, []) [] (new, []) :=
    .nil
  have queued := start.snoc
    (show _ ∧ _ from ⟨fun _ member => (nomatch member), fun _ member => (nomatch member)⟩)
    (show (answeredPipeline id 16).step _ (offer 1000 true) = some _ from rfl)
  have rejected := queued.snoc (show _ ∧ _ by
    refine ⟨fun answered member => ?_, fun entry held _ _ offered found => ?_⟩
    · rw [List.mem_singleton.mp member]
      decide
    · obtain ⟨member, -, -⟩ := lastOffered_eq_some found
      rw [List.mem_singleton.mp member]
      decide) (show (answeredPipeline id 16).step _ (offer 2000 true) = some _ from rfl)
  exact ⟨_, rfl, rejections_follow_queued rejected⟩

/-- A reading that the queue refuses suppresses its repeat a second later, with nothing queued. -/
theorem refused_reading_suppresses_repeat :
    ∃ finish, (answeredPipeline id 16).Path InOrder (new, []) [offer 1000 false, offer 2000 true]
        finish ∧
      ¬RejectionsFollowQueued id defaultDedupeTtlMs finish.2 := by
  have start : (answeredPipeline id 16).Path InOrder (new, []) [] (new, []) := .nil
  have refused := start.snoc (fun _ member => (nomatch member))
    (show (answeredPipeline id 16).step _ (offer 1000 false) = some _ from rfl)
  have rejected := refused.snoc (fun answered member => by
    rw [List.mem_singleton.mp member]
    decide) (show (answeredPipeline id 16).step _ (offer 2000 true) = some _ from rfl)
  refine ⟨_, rejected, fun follow => ?_⟩
  obtain ⟨queued, member, outcome, -⟩ := follow [] ⟨offer 2000 true, .rejectedAsDuplicate⟩
    [⟨offer 1000 false, .droppedByPolicy⟩] rfl rfl
  rw [List.mem_singleton.mp member] at outcome
  cases outcome

end Firmware
end Motonet
