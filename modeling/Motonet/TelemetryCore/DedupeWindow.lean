import Mathlib.Data.List.Nodup
import Motonet.Foundation.Recent
import Motonet.TelemetryCore.Dedupe

/-!
# The window of the dedupe cache

The purpose of the cache, said of the calls alone: a record is a duplicate if its key was reported
as new within the time to live, and fewer than `N` keys have been reported as new since.  The cache
stores an end of the list of the last `N` new keys, and what it has dropped of that list has
expired; so it answers as its purpose says.
-/

namespace Motonet
namespace TelemetryCore

/-- A call of `observe` and its outcome. -/
structure Observation where
  record : TelemetryRecord
  nowMs : UInt64
  outcome : DedupeOutcome

namespace Observation

/-- Whether the record was reported as new. -/
def isNew (observation : Observation) : Bool := observation.outcome = .new

/-- The entry that a new record leaves in a cache. -/
def entry (ttlMs : UInt64) (observation : Observation) : CacheEntry where
  key := observation.record.key
  expiresAt := saturatingAdd observation.nowMs ttlMs

end Observation

/-- Whether a key was reported as new within the time to live, and fewer than `N` keys since. -/
def InWindow (N : ℕ) (ttlMs : UInt64) (history : List Observation) (key : DedupeKey)
    (nowMs : UInt64) : Prop :=
  ∃ front earlier back, history = front ++ earlier :: back ∧
    earlier.record.key = key ∧ earlier.outcome = .new ∧
    nowMs < saturatingAdd earlier.nowMs ttlMs ∧
    back.countP (fun later => later.outcome = .new) < N

theorem saturatingAdd_mono {left right : UInt64} (ordered : left ≤ right) (ttlMs : UInt64) :
    saturatingAdd left ttlMs ≤ saturatingAdd right ttlMs := by
  rw [UInt64.le_iff_toNat_le] at ordered ⊢
  rw [toNat_saturatingAdd, toNat_saturatingAdd]
  omega

namespace DedupeCache

variable {N : ℕ}

/-- Calls of `observe` one after the other: what was observed, and the cache afterwards. -/
def observeAll : DedupeCache N → List (TelemetryRecord × UInt64) →
    List Observation × DedupeCache N
  | cache, [] => ([], cache)
  | cache, (record, nowMs) :: calls =>
      let observed := cache.observe record nowMs
      let rest := observeAll observed.2 calls
      (⟨record, nowMs, observed.1⟩ :: rest.1, rest.2)

/-- The entries of the last `N` new records of a history, the oldest first. -/
def recentEntries (N : ℕ) (ttlMs : UInt64) (history : List Observation) : List CacheEntry :=
  ((history.filter Observation.isNew).map (Observation.entry ttlMs)).rtake N

/-- Entries in order of their expiry. -/
def Ordered (entries : List CacheEntry) : Prop :=
  entries.Pairwise fun earlier later => earlier.expiresAt ≤ later.expiresAt

/-- At a time a cache stores an end of the entries of the last `N` new records, and those of them
that it stores no more have expired; it stores no key twice. -/
structure Mirrors (history : List Observation) (nowMs : UInt64) (cache : DedupeCache N) :
    Prop where
  stored : ∃ dropped, recentEntries N cache.ttlMs history = dropped ++ cache.entries ∧
    ∀ entry ∈ dropped, entry.expiresAt ≤ nowMs
  distinct : (cache.entries.map CacheEntry.key).Nodup

theorem ordered_recentEntries (ttlMs : UInt64) {history : List Observation}
    (increasing : history.Pairwise fun earlier later => earlier.nowMs ≤ later.nowMs) :
    Ordered (recentEntries N ttlMs history) := by
  have entries : Ordered ((history.filter Observation.isNew).map (Observation.entry ttlMs)) :=
    List.pairwise_map.mpr <| (increasing.sublist List.filter_sublist).imp fun earlier =>
      saturatingAdd_mono earlier ttlMs
  exact entries.sublist (Recent.rtake_suffix _ _).sublist

theorem mem_recentEntries_iff {ttlMs : UInt64} {history : List Observation} {entry : CacheEntry} :
    entry ∈ recentEntries N ttlMs history ↔
      ∃ front earlier back, history = front ++ earlier :: back ∧ earlier.entry ttlMs = entry ∧
        earlier.outcome = .new ∧ back.countP (fun later => later.outcome = .new) < N := by
  rw [recentEntries, List.rtake, List.length_map, ← List.map_drop, List.mem_map]
  constructor
  · rintro ⟨earlier, member, rfl⟩
    obtain ⟨front, back, split, isNew, few⟩ := Recent.mem_rtake_filter_iff.mp member
    exact ⟨front, earlier, back, split, rfl, of_decide_eq_true isNew, few⟩
  · rintro ⟨front, earlier, back, split, rfl, isNew, few⟩
    exact ⟨earlier, Recent.mem_rtake_filter_iff.mpr
      ⟨front, back, split, decide_eq_true isNew, few⟩, rfl⟩

theorem recentEntries_concat_duplicate (ttlMs : UInt64) (history : List Observation)
    (record : TelemetryRecord) (nowMs : UInt64) :
    recentEntries N ttlMs (history ++ [⟨record, nowMs, .duplicate⟩]) =
      recentEntries N ttlMs history := by
  simp [recentEntries, List.filter_append, Observation.isNew]

theorem recentEntries_concat_new (ttlMs : UInt64) (history : List Observation)
    (record : TelemetryRecord) (nowMs : UInt64) :
    recentEntries N ttlMs (history ++ [⟨record, nowMs, .new⟩]) =
      (recentEntries N ttlMs history ++
        [CacheEntry.mk record.key (saturatingAdd nowMs ttlMs)]).rtake N := by
  rw [recentEntries, recentEntries, Recent.rtake_rtake_concat]
  simp [List.filter_append, Observation.isNew, Observation.entry]

theorem push_eq_none_iff {entry : CacheEntry} {cache : DedupeCache N} :
    cache.push entry = none ↔ cache.entries.length = N := by
  have bounded := cache.bounded
  unfold push
  split
  · rename_i room
    simp only [reduceCtorEq, false_iff]
    omega
  · rename_i full
    simp only [true_iff]
    omega

/-- Among entries in order of their expiry the first one is the oldest. -/
theorem entries_evictOldest {cache : DedupeCache N} (ordered : Ordered cache.entries) :
    cache.evictOldest.entries = cache.entries.tail := by
  unfold evictOldest
  split
  · rename_i idx found
    have first : cache.entries.minIdxOn? CacheEntry.expiresAt = some 0 := by
      cases entries : cache.entries with
      | nil => simp [entries] at found
      | cons first rest =>
          rw [entries] at ordered
          rw [List.minIdxOn?_eq_some_zero_iff]
          refine ⟨List.cons_ne_nil _ _, fun entry member => ?_⟩
          rcases List.mem_cons.mp member with rfl | later
          · exact UInt64.le_refl _
          · exact (List.pairwise_cons.mp ordered).1 entry later
    obtain rfl := Option.some.inj (first.symm.trans found)
    exact List.eraseIdx_zero
  · rename_i empty
    cases entries : cache.entries with
    | nil => rfl
    | cons first rest => simp [entries, List.minIdxOn?_cons] at empty

/-- An entry that fits comes last. -/
theorem entries_push {cache grown : DedupeCache N} {entry : CacheEntry}
    (pushed : cache.push entry = some grown) :
    grown.entries = (cache.entries ++ [entry]).rtake N := by
  obtain ⟨room, -, entries⟩ := push_eq_some_iff.mp pushed
  rw [entries, Recent.rtake_of_length_le]
  rw [List.length_append, List.length_singleton]
  omega

/-- In a full cache whose entries are in order of their expiry an entry displaces the first one. -/
theorem entries_push_evictOldest {cache : DedupeCache N} {entry : CacheEntry}
    (ordered : Ordered cache.entries) (full : cache.push entry = none) :
    ((cache.evictOldest.push entry).getD cache.evictOldest).entries =
      (cache.entries ++ [entry]).rtake N := by
  have length := push_eq_none_iff.mp full
  have evicted := entries_evictOldest ordered
  obtain _ | count := N
  · rw [List.rtake_zero]
    exact List.length_eq_zero_iff.mp (Nat.le_zero.mp (DedupeCache.bounded _))
  · cases pushed : cache.evictOldest.push entry with
    | none =>
        have still := push_eq_none_iff.mp pushed
        rw [evicted, List.length_tail] at still
        omega
    | some grown =>
        obtain ⟨-, -, entries⟩ := push_eq_some_iff.mp pushed
        rw [Option.getD_some, entries, evicted, List.rtake_concat_succ, List.rtake, length,
          Nat.add_sub_cancel_left, List.drop_one]

/-- A cache whose entries are in order of their expiry keeps the last `N` of them and a new one. -/
theorem entries_observe_of_new {record : TelemetryRecord} {nowMs : UInt64} {cache : DedupeCache N}
    (ordered : Ordered cache.entries) (isNew : (cache.observe record nowMs).1 = .new) :
    (cache.observe record nowMs).2.entries =
      ((cache.pruneExpired nowMs).entries ++
        [CacheEntry.mk record.key (saturatingAdd nowMs cache.ttlMs)]).rtake N := by
  rcases observe_cases_of_new isNew with pushed | ⟨full, evicted⟩
  · exact entries_push pushed
  · rw [evicted]
    exact entries_push_evictOldest (ordered.sublist List.filter_sublist) full

/-- Pruned of what has expired, a mirror is one at a later time. -/
theorem Mirrors.pruneExpired {history : List Observation} {latest nowMs : UInt64}
    {cache : DedupeCache N} (mirrors : Mirrors history latest cache) (later : latest ≤ nowMs)
    (ordered : Ordered cache.entries) : Mirrors history nowMs (cache.pruneExpired nowMs) := by
  obtain ⟨dropped, recent, expired⟩ := mirrors.stored
  refine ⟨⟨dropped ++ cache.entries.filter fun entry => !(nowMs < entry.expiresAt), ?_, ?_⟩, ?_⟩
  · have stays : cache.entries.Pairwise fun earlier later =>
        decide (nowMs < earlier.expiresAt) → decide (nowMs < later.expiresAt) :=
      ordered.imp fun below live =>
        decide_eq_true (UInt64.lt_of_lt_of_le (of_decide_eq_true live) below)
    rw [List.append_assoc, ttlMs_pruneExpired, recent]
    exact congrArg _ (Recent.filter_not_append_filter stays).symm
  · intro entry member
    rcases List.mem_append.mp member with before | pruned
    · exact UInt64.le_trans (expired entry before) later
    · simpa using (List.mem_filter.mp pruned).2
  · exact mirrors.distinct.sublist (List.filter_sublist.map _)

variable {history : List Observation} {latest nowMs : UInt64} {cache : DedupeCache N}
  {record : TelemetryRecord}

/-- The entries of a mirror are in order of their expiry. -/
theorem Mirrors.ordered (mirrors : Mirrors history latest cache)
    (increasing : history.Pairwise fun earlier later => earlier.nowMs ≤ later.nowMs) :
    Ordered cache.entries := by
  obtain ⟨dropped, recent, -⟩ := mirrors.stored
  have entries := ordered_recentEntries (N := N) cache.ttlMs increasing
  rw [recent] at entries
  exact entries.sublist (List.sublist_append_right _ _)

/-- A mirror answers as the window of its history does. -/
theorem Mirrors.observe_duplicate_iff (mirrors : Mirrors history latest cache)
    (later : latest ≤ nowMs) :
    (cache.observe record nowMs).1 = .duplicate ↔
      InWindow N cache.ttlMs history record.key nowMs := by
  obtain ⟨dropped, recent, expired⟩ := mirrors.stored
  rw [DedupeCache.observe_duplicate_iff]
  constructor
  · rintro ⟨entry, member, live, same⟩
    have stored : entry ∈ recentEntries N cache.ttlMs history := by
      rw [recent]
      exact List.mem_append_right _ member
    obtain ⟨front, earlier, back, split, rfl, isNew, few⟩ := mem_recentEntries_iff.mp stored
    exact ⟨front, earlier, back, split, same, isNew, live, few⟩
  · rintro ⟨front, earlier, back, split, same, isNew, live, few⟩
    have stored : earlier.entry cache.ttlMs ∈ recentEntries N cache.ttlMs history :=
      mem_recentEntries_iff.mpr ⟨front, earlier, back, split, rfl, isNew, few⟩
    rw [recent, List.mem_append] at stored
    rcases stored with gone | member
    · have outlived := UInt64.le_trans (expired _ gone) later
      exact absurd live (UInt64.not_lt.mpr outlived)
    · exact ⟨_, member, live, same⟩

/-- What a mirror is after a call mirrors the history with that call. -/
theorem Mirrors.observe (mirrors : Mirrors history latest cache) (later : latest ≤ nowMs)
    (increasing : history.Pairwise fun earlier later => earlier.nowMs ≤ later.nowMs) :
    Mirrors (history ++ [⟨record, nowMs, (cache.observe record nowMs).1⟩]) nowMs
      (cache.observe record nowMs).2 := by
  have ordered := mirrors.ordered increasing
  have pruned := mirrors.pruneExpired later ordered
  obtain ⟨dropped, recent, expired⟩ := pruned.stored
  cases outcome : (cache.observe record nowMs).1 with
  | duplicate =>
      rw [observe_of_duplicate outcome]
      refine ⟨⟨dropped, ?_, expired⟩, pruned.distinct⟩
      rw [recentEntries_concat_duplicate, recent]
  | new =>
      have entries := entries_observe_of_new ordered outcome
      refine ⟨⟨dropped.rtake (N - ((cache.pruneExpired nowMs).entries ++
        [CacheEntry.mk record.key (saturatingAdd nowMs cache.ttlMs)]).length), ?_, ?_⟩, ?_⟩
      · rw [ttlMs_observe, recentEntries_concat_new, ← ttlMs_pruneExpired nowMs cache, recent,
          List.append_assoc, Recent.rtake_append, entries]
        rfl
      · exact fun entry member => expired entry ((Recent.rtake_suffix _ _).subset member)
      · have missing : record.key ∉ (cache.pruneExpired nowMs).entries.map CacheEntry.key := by
          rintro member
          obtain ⟨entry, stored, same⟩ := List.mem_map.mp member
          obtain ⟨before, live⟩ := mem_entries_pruneExpired.mp stored
          have duplicate := DedupeCache.observe_duplicate_iff.mpr ⟨entry, before, live, same⟩
          rw [outcome] at duplicate
          cases duplicate
        rw [entries]
        refine List.Sublist.nodup ((Recent.rtake_suffix _ _).sublist.map _) ?_
        rw [List.map_append, List.map_singleton, List.nodup_append]
        refine ⟨pruned.distinct, List.nodup_singleton _, ?_⟩
        rintro key member _ own rfl
        rw [List.mem_singleton.mp own] at member
        exact missing member

/-- Over a whole sequence of calls a mirror stays one, and each call is answered as the window of
the calls before it does. -/
theorem Mirrors.observeAll {calls : List (TelemetryRecord × UInt64)}
    (mirrors : Mirrors history latest cache)
    (increasing : history.Pairwise fun earlier later => earlier.nowMs ≤ later.nowMs)
    (before : ∀ observation ∈ history, observation.nowMs ≤ latest)
    (after : ∀ call ∈ calls, latest ≤ call.2)
    (nondecreasing : calls.Pairwise fun earlier later => earlier.2 ≤ later.2) :
    (∃ final, Mirrors (history ++ (cache.observeAll calls).1) final (cache.observeAll calls).2) ∧
      (history ++ (cache.observeAll calls).1).Pairwise
        (fun earlier later => earlier.nowMs ≤ later.nowMs) ∧
      ∀ front this back, (cache.observeAll calls).1 = front ++ this :: back →
        (this.outcome = .duplicate ↔
          InWindow N cache.ttlMs (history ++ front) this.record.key this.nowMs) := by
  induction calls generalizing history latest cache with
  | nil =>
      refine ⟨⟨latest, by simpa [DedupeCache.observeAll] using mirrors⟩,
        by simpa [DedupeCache.observeAll] using increasing, fun front this back split => ?_⟩
      simp [DedupeCache.observeAll] at split
  | cons call calls ih =>
      obtain ⟨record, nowMs⟩ := call
      obtain ⟨first, rest⟩ := List.pairwise_cons.mp nondecreasing
      have later : latest ≤ nowMs := after (record, nowMs) List.mem_cons_self
      have grown :
          (history ++ [Observation.mk record nowMs (cache.observe record nowMs).1]).Pairwise
          fun earlier later => earlier.nowMs ≤ later.nowMs := by
        rw [List.pairwise_append]
        refine ⟨increasing, List.pairwise_singleton _ _, fun earlier member _ own => ?_⟩
        rw [List.mem_singleton.mp own]
        exact UInt64.le_trans (before earlier member) later
      have bounded : ∀ observation ∈ history ++
          [⟨record, nowMs, (cache.observe record nowMs).1⟩], observation.nowMs ≤ nowMs := by
        intro observation member
        rcases List.mem_append.mp member with old | own
        · exact UInt64.le_trans (before observation old) later
        · rw [List.mem_singleton.mp own]
          exact UInt64.le_refl _
      obtain ⟨mirrored, sorted, answers⟩ := ih (mirrors.observe later increasing) grown bounded
        first rest
      rw [List.append_assoc] at mirrored sorted
      refine ⟨mirrored, sorted, fun front this back split => ?_⟩
      cases front with
      | nil =>
          obtain ⟨rfl, -⟩ := List.cons.inj split
          rw [List.append_nil]
          exact mirrors.observe_duplicate_iff later
      | cons earlier front =>
          obtain ⟨rfl, remaining⟩ := List.cons.inj split
          have answer := answers front this back remaining
          rwa [ttlMs_observe, List.append_assoc] at answer

theorem mirrors_new (ttlMs : UInt64) : Mirrors [] 0 (new ttlMs : DedupeCache N) :=
  ⟨⟨[], by simp [recentEntries, new], by simp⟩, List.nodup_nil⟩

/-- A cache refines its window: in every sequence of calls at times that do not decrease, a call
returns `Duplicate` exactly if the key is in the window of the calls before it.  The cache holds at
most `N` entries, no key twice, in order of their expiry. -/
theorem observeAll_refines_window (N : ℕ) (ttlMs : UInt64)
    (calls : List (TelemetryRecord × UInt64))
    (nondecreasing : calls.Pairwise fun earlier later => earlier.2 ≤ later.2) :
    (∀ front this back,
      ((new ttlMs : DedupeCache N).observeAll calls).1 = front ++ this :: back →
        (this.outcome = .duplicate ↔ InWindow N ttlMs front this.record.key this.nowMs)) ∧
      ((new ttlMs : DedupeCache N).observeAll calls).2.entries.length ≤ N ∧
      (((new ttlMs : DedupeCache N).observeAll calls).2.entries.map CacheEntry.key).Nodup ∧
      Ordered ((new ttlMs : DedupeCache N).observeAll calls).2.entries := by
  obtain ⟨⟨final, mirrors⟩, sorted, answers⟩ := (mirrors_new (N := N) ttlMs).observeAll
    List.Pairwise.nil (by simp) (fun call _ => UInt64.zero_le) nondecreasing
  rw [List.nil_append] at mirrors sorted
  exact ⟨answers, DedupeCache.bounded _, mirrors.distinct, mirrors.ordered sorted⟩

/-- A record, the same record within its time to live, and once more after it. -/
def repeatedCalls : List (TelemetryRecord × UInt64) :=
  [(⟨7, 2, 185, true, 0⟩, 1000), (⟨7, 2, 185, true, 0⟩, 20000), (⟨7, 2, 185, true, 0⟩, 31001)]

theorem observeAll_refines_window_repeated :
    (∀ front this back,
      ((new 30000 : DedupeCache 8).observeAll repeatedCalls).1 = front ++ this :: back →
        (this.outcome = .duplicate ↔ InWindow 8 30000 front this.record.key this.nowMs)) ∧
      ((new 30000 : DedupeCache 8).observeAll repeatedCalls).2.entries.length ≤ 8 ∧
      (((new 30000 : DedupeCache 8).observeAll repeatedCalls).2.entries.map
        CacheEntry.key).Nodup ∧
      Ordered ((new 30000 : DedupeCache 8).observeAll repeatedCalls).2.entries :=
  observeAll_refines_window 8 30000 repeatedCalls (by simp [repeatedCalls])

end DedupeCache
end TelemetryCore
end Motonet
