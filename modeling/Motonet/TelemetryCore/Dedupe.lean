import Mathlib.Algebra.Group.Nat.Defs
import Mathlib.Data.List.Basic
import Mathlib.Tactic.Common
import Mathlib.Tactic.SplitIfs

/-!
# The dedupe cache

A cache of at most `N` keys, each with a time at which it expires.  A record whose key is cached is
a duplicate; any other record is new, and its key is cached, if need be in the place of the key that
expires first.
-/

namespace Motonet
namespace TelemetryCore

/-- `u64::saturating_add`. -/
def saturatingAdd (left right : UInt64) : UInt64 :=
  if left.toNat + right.toNat < 2 ^ 64 then left + right else UInt64.ofNat (2 ^ 64 - 1)

theorem toNat_saturatingAdd (left right : UInt64) :
    (saturatingAdd left right).toNat = min (left.toNat + right.toNat) (2 ^ 64 - 1) := by
  unfold saturatingAdd
  split
  · rename_i fits
    rw [UInt64.toNat_add, Nat.mod_eq_of_lt fits]
    omega
  · rename_i exceeds
    rw [UInt64.toNat_ofNat_of_lt' (by decide)]
    omega

/-- `TelemetryRecord`. -/
structure TelemetryRecord where
  sensorId : UInt8
  channel : UInt8
  temperatureDeciC : Int16
  batteryOk : Bool
  timestamp : UInt64
  deriving DecidableEq

/-- `DedupeOutcome`. -/
inductive DedupeOutcome
  | new
  | duplicate
  deriving DecidableEq, Repr

/-- `DedupeKey`. -/
structure DedupeKey where
  sensorId : UInt8
  channel : UInt8
  temperatureDeciC : Int16
  batteryOk : Bool
  deriving DecidableEq

/-- The key of a record. -/
def TelemetryRecord.key (record : TelemetryRecord) : DedupeKey where
  sensorId := record.sensorId
  channel := record.channel
  temperatureDeciC := record.temperatureDeciC
  batteryOk := record.batteryOk

/-- `CacheEntry`. -/
structure CacheEntry where
  key : DedupeKey
  expiresAt : UInt64
  deriving DecidableEq

/-- `DedupeCache`, whose vector holds at most `N` entries. -/
@[ext]
structure DedupeCache (N : ℕ) where
  ttlMs : UInt64
  entries : List CacheEntry
  bounded : entries.length ≤ N

namespace DedupeCache

variable {N : ℕ}

/-- `DedupeCache::new`. -/
def new (ttlMs : UInt64) : DedupeCache N := ⟨ttlMs, [], Nat.zero_le N⟩

/-- `DedupeCache::prune_expired`. -/
def pruneExpired (nowMs : UInt64) (cache : DedupeCache N) : DedupeCache N where
  ttlMs := cache.ttlMs
  entries := cache.entries.filter fun entry => nowMs < entry.expiresAt
  bounded := Nat.le_trans (List.length_filter_le _ _) cache.bounded

/-- `heapless::Vec::push`, which refuses an entry when the vector is full. -/
def push (entry : CacheEntry) (cache : DedupeCache N) : Option (DedupeCache N) :=
  if room : cache.entries.length < N then
    some ⟨cache.ttlMs, cache.entries ++ [entry], by simpa using Nat.succ_le_of_lt room⟩
  else none

/-- `DedupeCache::evict_oldest`: of the entries that expire first, the first one is removed. -/
def evictOldest (cache : DedupeCache N) : DedupeCache N :=
  match cache.entries.minIdxOn? CacheEntry.expiresAt with
  | some idx =>
      { cache with
        entries := cache.entries.eraseIdx idx
        bounded := Nat.le_trans (List.length_eraseIdx_le _ _) cache.bounded }
  | none => cache

/-- `DedupeCache::observe`: the outcome, and the cache afterwards. -/
def observe (record : TelemetryRecord) (nowMs : UInt64) (cache : DedupeCache N) :
    DedupeOutcome × DedupeCache N :=
  let pruned := cache.pruneExpired nowMs
  if pruned.entries.any fun entry => entry.key = record.key then
    (.duplicate, pruned)
  else
    let newEntry : CacheEntry := ⟨record.key, saturatingAdd nowMs cache.ttlMs⟩
    match pruned.push newEntry with
    | some grown => (.new, grown)
    | none =>
        let evicted := pruned.evictOldest
        (.new, (evicted.push newEntry).getD evicted)

@[simp]
theorem mem_entries_pruneExpired {nowMs : UInt64} {cache : DedupeCache N} {entry : CacheEntry} :
    entry ∈ (cache.pruneExpired nowMs).entries ↔
      entry ∈ cache.entries ∧ nowMs < entry.expiresAt := by
  simp [pruneExpired]

@[simp]
theorem ttlMs_pruneExpired (nowMs : UInt64) (cache : DedupeCache N) :
    (cache.pruneExpired nowMs).ttlMs = cache.ttlMs := rfl

theorem push_eq_some_iff {entry : CacheEntry} {cache grown : DedupeCache N} :
    cache.push entry = some grown ↔
      cache.entries.length < N ∧ grown.ttlMs = cache.ttlMs ∧
        grown.entries = cache.entries ++ [entry] := by
  unfold push
  split
  · rename_i room
    simp [DedupeCache.ext_iff, room, eq_comm]
  · rename_i full
    simp [full]

@[simp]
theorem ttlMs_evictOldest (cache : DedupeCache N) : cache.evictOldest.ttlMs = cache.ttlMs := by
  unfold evictOldest
  split <;> rfl

theorem evictOldest_sublist (cache : DedupeCache N) :
    cache.evictOldest.entries.Sublist cache.entries := by
  unfold evictOldest
  split
  · exact List.eraseIdx_sublist _ _
  · exact List.Sublist.refl _

/-- A record is a duplicate exactly if its key is cached and has not expired. -/
theorem observe_duplicate_iff {record : TelemetryRecord} {nowMs : UInt64} {cache : DedupeCache N} :
    (cache.observe record nowMs).1 = .duplicate ↔
      ∃ entry ∈ cache.entries, nowMs < entry.expiresAt ∧ entry.key = record.key := by
  have cached :
      (((cache.pruneExpired nowMs).entries.any fun entry => entry.key = record.key) = true) ↔
        ∃ entry ∈ cache.entries, nowMs < entry.expiresAt ∧ entry.key = record.key := by
    simp [and_assoc]
  rw [← cached]
  unfold observe
  dsimp only
  split
  · rename_i found
    exact ⟨fun _ => found, fun _ => rfl⟩
  · rename_i missing
    refine ⟨fun duplicate => ?_, fun found => absurd found missing⟩
    split at duplicate <;> cases duplicate

@[simp]
theorem ttlMs_observe (record : TelemetryRecord) (nowMs : UInt64) (cache : DedupeCache N) :
    (cache.observe record nowMs).2.ttlMs = cache.ttlMs := by
  unfold observe
  dsimp only
  split
  · rfl
  · split
    · rename_i grown pushed
      exact (push_eq_some_iff.mp pushed).2.1
    · cases pushed : (cache.pruneExpired nowMs).evictOldest.push
          ⟨record.key, saturatingAdd nowMs cache.ttlMs⟩ with
      | none => simp
      | some grown => simpa using (push_eq_some_iff.mp pushed).2.1

/-- After a duplicate the cache has lost its expired entries and nothing else. -/
theorem observe_of_duplicate {record : TelemetryRecord} {nowMs : UInt64} {cache : DedupeCache N}
    (duplicate : (cache.observe record nowMs).1 = .duplicate) :
    (cache.observe record nowMs).2 = cache.pruneExpired nowMs := by
  unfold observe at duplicate ⊢
  dsimp only at duplicate ⊢
  split
  · rfl
  · rename_i missing
    rw [if_neg missing] at duplicate
    split at duplicate <;> cases duplicate

/-- A new record's entry is pushed to what has not expired, or else to that without its oldest
entry. -/
theorem observe_cases_of_new {record : TelemetryRecord} {nowMs : UInt64} {cache : DedupeCache N}
    (isNew : (cache.observe record nowMs).1 = .new) :
    (cache.pruneExpired nowMs).push ⟨record.key, saturatingAdd nowMs cache.ttlMs⟩ =
        some (cache.observe record nowMs).2 ∨
      ((cache.pruneExpired nowMs).push ⟨record.key, saturatingAdd nowMs cache.ttlMs⟩ = none ∧
        (cache.observe record nowMs).2 =
          ((cache.pruneExpired nowMs).evictOldest.push
            ⟨record.key, saturatingAdd nowMs cache.ttlMs⟩).getD
              (cache.pruneExpired nowMs).evictOldest) := by
  unfold observe at isNew ⊢
  dsimp only at isNew ⊢
  split
  · rename_i found
    rw [if_pos found] at isNew
    cases isNew
  · split
    · rename_i grown pushed
      exact .inl pushed
    · rename_i full
      exact .inr ⟨full, rfl⟩

/-- A new record's entry comes last, behind entries that have not expired. -/
theorem observe_of_new {record : TelemetryRecord} {nowMs : UInt64} {cache : DedupeCache N}
    (isNew : (cache.observe record nowMs).1 = .new) :
    ∃ kept : List CacheEntry, kept.Sublist (cache.pruneExpired nowMs).entries ∧
      ((cache.observe record nowMs).2.entries =
          kept ++ [⟨record.key, saturatingAdd nowMs cache.ttlMs⟩] ∨
        (cache.observe record nowMs).2.entries = kept) := by
  rcases observe_cases_of_new isNew with pushed | ⟨-, evicted⟩
  · exact ⟨_, List.Sublist.refl _, .inl (push_eq_some_iff.mp pushed).2.2⟩
  · refine ⟨_, (cache.pruneExpired nowMs).evictOldest_sublist, ?_⟩
    rw [evicted]
    cases pushed : (cache.pruneExpired nowMs).evictOldest.push
        ⟨record.key, saturatingAdd nowMs cache.ttlMs⟩ with
    | none => exact .inr rfl
    | some grown => exact .inl (push_eq_some_iff.mp pushed).2.2

/-- What a cache holds after an observation: entries that it held and that have not expired, of
other keys if the record is new, and then the record's own entry. -/
theorem mem_entries_observe {record : TelemetryRecord} {nowMs : UInt64} {cache : DedupeCache N}
    {entry : CacheEntry} (member : entry ∈ (cache.observe record nowMs).2.entries) :
    (entry ∈ cache.entries ∧ ((cache.observe record nowMs).1 = .new → entry.key ≠ record.key)) ∨
      ((cache.observe record nowMs).1 = .new ∧
        entry = ⟨record.key, saturatingAdd nowMs cache.ttlMs⟩) := by
  have unexpired (held : CacheEntry) (kept : held ∈ (cache.pruneExpired nowMs).entries)
      (isNew : (cache.observe record nowMs).1 = .new) : held.key ≠ record.key := by
    obtain ⟨held_before, live⟩ := mem_entries_pruneExpired.mp kept
    intro same
    have duplicate := observe_duplicate_iff.mpr ⟨held, held_before, live, same⟩
    rw [isNew] at duplicate
    cases duplicate
  cases outcome : (cache.observe record nowMs).1 with
  | duplicate =>
      rw [observe_of_duplicate outcome] at member
      exact .inl ⟨(mem_entries_pruneExpired.mp member).1, fun isNew => by cases isNew⟩
  | new =>
      obtain ⟨kept, sublist, entries | entries⟩ := observe_of_new outcome
      · rw [entries, List.mem_append, List.mem_singleton] at member
        rcases member with old | own
        · have pruned := sublist.subset old
          exact .inl ⟨(mem_entries_pruneExpired.mp pruned).1, fun _ =>
            unexpired entry pruned outcome⟩
        · exact .inr ⟨rfl, own⟩
      · rw [entries] at member
        have pruned := sublist.subset member
        exact .inl ⟨(mem_entries_pruneExpired.mp pruned).1, fun _ => unexpired entry pruned outcome⟩

end DedupeCache
end TelemetryCore
end Motonet
