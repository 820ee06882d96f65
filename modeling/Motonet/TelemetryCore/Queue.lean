import Motonet.TelemetryCore.Dedupe

/-!
# The telemetry queue

A queue of at most `N` records.  A record that finds the queue full is dropped, or the oldest record
is dropped for it, as the policy of the queue says; either is counted.  A history equation relates
what was offered to the queue, what was taken from it and what it holds.
-/

namespace Motonet
namespace TelemetryCore

/-- `DropPolicy`. -/
inductive DropPolicy
  | dropOldest
  | dropNewest
  deriving DecidableEq, Repr

/-- `EnqueueOutcome`. -/
inductive EnqueueOutcome
  | enqueued
  | droppedOldest
  | droppedNewest
  deriving DecidableEq, Repr

/-- `TelemetryQueue`, whose deque holds at most `N` records. -/
@[ext]
structure TelemetryQueue (N : ℕ) where
  records : List TelemetryRecord
  dropPolicy : DropPolicy
  droppedTotal : UInt64
  bounded : records.length ≤ N

/-- A call of a queue and what it returned. -/
inductive QueueEvent
  | enqueue (record : TelemetryRecord) (outcome : EnqueueOutcome)
  | dequeue (record : Option TelemetryRecord)
  deriving DecidableEq

/-- A call of a queue. -/
inductive QueueCall
  | enqueue (record : TelemetryRecord)
  | dequeue
  deriving DecidableEq

namespace TelemetryQueue

variable {N : ℕ}

/-- `TelemetryQueue::new`. -/
def new (dropPolicy : DropPolicy) : TelemetryQueue N := ⟨[], dropPolicy, 0, Nat.zero_le N⟩

/-- `heapless::Deque::push_back`, which refuses a record when the deque is full. -/
def pushBack (record : TelemetryRecord) (queue : TelemetryQueue N) : Option (TelemetryQueue N) :=
  if room : queue.records.length < N then
    some
      { queue with
        records := queue.records ++ [record]
        bounded := by simpa using Nat.succ_le_of_lt room }
  else none

/-- `heapless::Deque::pop_front`. -/
def popFront (queue : TelemetryQueue N) : Option TelemetryRecord × TelemetryQueue N :=
  (queue.records.head?,
    { queue with
      records := queue.records.tail
      bounded := Nat.le_trans (by simp) queue.bounded })

/-- `TelemetryQueue::enqueue`.  The counter wraps around, as the release profile checks no
overflow. -/
def enqueue (record : TelemetryRecord) (queue : TelemetryQueue N) :
    EnqueueOutcome × TelemetryQueue N :=
  match queue.pushBack record with
  | some pushed => (.enqueued, pushed)
  | none =>
      let counted : TelemetryQueue N := { queue with droppedTotal := queue.droppedTotal + 1 }
      match counted.dropPolicy with
      | .dropOldest =>
          let popped := counted.popFront.2
          (.droppedOldest, (popped.pushBack record).getD popped)
      | .dropNewest => (.droppedNewest, counted)

/-- `TelemetryQueue::dequeue`. -/
def dequeue (queue : TelemetryQueue N) : Option TelemetryRecord × TelemetryQueue N :=
  queue.popFront

/-- One call of a queue: what it returned, and the queue afterwards. -/
def serve (queue : TelemetryQueue N) : QueueCall → QueueEvent × TelemetryQueue N
  | .enqueue record =>
      let enqueued := queue.enqueue record
      (.enqueue record enqueued.1, enqueued.2)
  | .dequeue =>
      let dequeued := queue.dequeue
      (.dequeue dequeued.1, dequeued.2)

/-- Calls of a queue one after the other. -/
def serveAll : TelemetryQueue N → List QueueCall → List QueueEvent × TelemetryQueue N
  | queue, [] => ([], queue)
  | queue, call :: calls =>
      let served := queue.serve call
      let rest := serveAll served.2 calls
      (served.1 :: rest.1, rest.2)

end TelemetryQueue

/-- The record that a call offers to the queue. -/
def QueueCall.offered : QueueCall → Option TelemetryRecord
  | .enqueue record => some record
  | .dequeue => none

namespace QueueEvent

/-- The record that an event offers to the queue. -/
def offered : QueueEvent → Option TelemetryRecord
  | enqueue record _ => some record
  | dequeue _ => none

/-- The record that an event takes from the queue. -/
def taken : QueueEvent → Option TelemetryRecord
  | enqueue _ _ => none
  | dequeue record => record

end QueueEvent

/-- The records offered to a queue, the first one first. -/
def offered (events : List QueueEvent) : List TelemetryRecord :=
  events.filterMap QueueEvent.offered

/-- The records taken from a queue, the first one first. -/
def taken (events : List QueueEvent) : List TelemetryRecord :=
  events.filterMap QueueEvent.taken

namespace TelemetryQueue

variable {N : ℕ}

/-- What an outcome says of the queues before and after a record was offered. -/
inductive Enqueues (record : TelemetryRecord) (before : TelemetryQueue N) :
    EnqueueOutcome → TelemetryQueue N → Prop
  | enqueued {after : TelemetryQueue N} : before.records.length < N →
      after.records = before.records ++ [record] → after.dropPolicy = before.dropPolicy →
      after.droppedTotal = before.droppedTotal → Enqueues record before .enqueued after
  | droppedOldest {after : TelemetryQueue N} {oldest : TelemetryRecord}
      {rest : List TelemetryRecord} : before.dropPolicy = .dropOldest →
      before.records.length = N → before.records = oldest :: rest →
      after.records = rest ++ [record] → after.dropPolicy = before.dropPolicy →
      after.droppedTotal = before.droppedTotal + 1 → Enqueues record before .droppedOldest after
  | droppedNewest {after : TelemetryQueue N} : before.dropPolicy = .dropNewest →
      before.records.length = N → after.records = before.records →
      after.dropPolicy = before.dropPolicy →
      after.droppedTotal = before.droppedTotal + 1 → Enqueues record before .droppedNewest after

theorem pushBack_of_lt (queue : TelemetryQueue N) (record : TelemetryRecord)
    (room : queue.records.length < N) :
    ∃ pushed, queue.pushBack record = some pushed ∧ pushed.records = queue.records ++ [record] ∧
      pushed.dropPolicy = queue.dropPolicy ∧ pushed.droppedTotal = queue.droppedTotal :=
  ⟨_, dif_pos room, rfl, rfl, rfl⟩

theorem pushBack_of_length_eq {queue : TelemetryQueue N} (full : queue.records.length = N)
    (record : TelemetryRecord) : queue.pushBack record = none :=
  dif_neg (by omega)

/-- The outcome of `enqueue` says what happened. -/
theorem enqueue_enqueues (nonempty : 1 ≤ N) (queue : TelemetryQueue N)
    (record : TelemetryRecord) :
    Enqueues record queue (queue.enqueue record).1 (queue.enqueue record).2 := by
  have bounded := queue.bounded
  by_cases room : queue.records.length < N
  · obtain ⟨pushed, eq, records, policy, total⟩ := pushBack_of_lt queue record room
    rw [enqueue, eq]
    exact .enqueued room records policy total
  · have full : queue.records.length = N := by omega
    rw [enqueue, pushBack_of_length_eq full]
    dsimp only
    split
    · rename_i policy
      obtain ⟨oldest, rest, held⟩ :=
        List.exists_cons_of_length_pos (Nat.lt_of_lt_of_eq nonempty full.symm)
      have popped : queue.records.tail = rest := by rw [held, List.tail_cons]
      have room : queue.records.tail.length < N := by
        rw [List.length_tail]
        omega
      obtain ⟨pushed, eq, records, kept, total⟩ := pushBack_of_lt
        (popFront { queue with droppedTotal := queue.droppedTotal + 1 }).2 record room
      rw [eq, Option.getD_some]
      refine .droppedOldest policy full held ?_ kept total
      rw [← popped]
      exact records
    · rename_i policy
      exact .droppedNewest policy full rfl rfl rfl

/-- The equation of a history of calls: what was taken and what is held is, in order, a part of what
was held and what was offered, and the rest of it was dropped and counted. -/
structure Conserves (before : TelemetryQueue N) (events : List QueueEvent)
    (after : TelemetryQueue N) : Prop where
  sublist : (taken events ++ after.records).Sublist (before.records ++ offered events)
  policy : after.dropPolicy = before.dropPolicy
  counted : ∃ dropped, before.records.length + (offered events).length =
      (taken events).length + after.records.length + dropped ∧
    after.droppedTotal = before.droppedTotal + UInt64.ofNat dropped

theorem conserves_enqueue {record : TelemetryRecord} {outcome : EnqueueOutcome}
    {before middle after : TelemetryQueue N} {events : List QueueEvent}
    (enqueues : Enqueues record before outcome middle) (rest : Conserves middle events after) :
    Conserves before (.enqueue record outcome :: events) after := by
  obtain ⟨sublist, kept, dropped, counted, total⟩ := rest
  have offers : offered (.enqueue record outcome :: events) = record :: offered events := rfl
  have takes : taken (.enqueue record outcome :: events) = taken events := rfl
  cases enqueues with
  | enqueued room records policy same =>
      rw [records, List.append_assoc, List.singleton_append] at sublist
      refine ⟨by rwa [offers, takes], kept.trans policy, dropped, ?_, by rw [total, same]⟩
      rw [records, List.length_append, List.length_singleton] at counted
      rw [offers, takes, List.length_cons]
      omega
  | @droppedOldest _ oldest others drops full held records policy more =>
      rw [records, List.append_assoc, List.singleton_append] at sublist
      refine ⟨?_, kept.trans policy, dropped + 1, ?_, ?_⟩
      · rw [offers, takes, held]
        exact sublist.cons oldest
      · rw [records, List.length_append, List.length_singleton] at counted
        rw [offers, takes, held, List.length_cons, List.length_cons]
        omega
      · rw [total, more, UInt64.ofNat_add, UInt64.add_assoc, UInt64.add_comm 1]
        rfl
  | droppedNewest drops full records policy more =>
      rw [records] at sublist counted
      refine ⟨?_, kept.trans policy, dropped + 1, ?_, ?_⟩
      · rw [offers, takes]
        exact sublist.trans (List.Sublist.append_left (List.sublist_cons_self _ _) _)
      · rw [offers, takes, List.length_cons]
        omega
      · rw [total, more, UInt64.ofNat_add, UInt64.add_assoc, UInt64.add_comm 1]
        rfl

theorem conserves_dequeue {before after : TelemetryQueue N} {events : List QueueEvent}
    (rest : Conserves before.dequeue.2 events after) :
    Conserves before (.dequeue before.dequeue.1 :: events) after := by
  obtain ⟨sublist, kept, dropped, counted, total⟩ := rest
  have held : before.records = before.records.head?.toList ++ before.dequeue.2.records := by
    change before.records = before.records.head?.toList ++ before.records.tail
    cases before.records <;> rfl
  have takes : taken (.dequeue before.dequeue.1 :: events) =
      before.records.head?.toList ++ taken events := by
    change taken (.dequeue before.records.head? :: events) = _
    cases before.records <;> rfl
  have offers : offered (.dequeue before.dequeue.1 :: events) = offered events := rfl
  refine ⟨?_, kept, dropped, ?_, total⟩
  · rw [takes, offers, List.append_assoc]
    have whole := sublist.append_left before.records.head?.toList
    rwa [← List.append_assoc, ← List.append_assoc, ← held, List.append_assoc] at whole
  · have length := congrArg List.length held
    rw [List.length_append] at length
    rw [takes, offers, List.length_append]
    omega

/-- A sequence of calls conserves the records. -/
theorem serveAll_conserves (nonempty : 1 ≤ N) (queue : TelemetryQueue N)
    (calls : List QueueCall) :
    Conserves queue (queue.serveAll calls).1 (queue.serveAll calls).2 := by
  induction calls generalizing queue with
  | nil =>
      refine ⟨?_, rfl, 0, ?_, (UInt64.add_zero _).symm⟩
      · simp [serveAll, offered, taken]
      · simp [serveAll, offered, taken]
  | cons call calls ih =>
      cases call with
      | enqueue record => exact conserves_enqueue (queue.enqueue_enqueues nonempty record) (ih _)
      | dequeue => exact conserves_dequeue (ih _)

theorem offered_serveAll (queue : TelemetryQueue N) (calls : List QueueCall) :
    offered (queue.serveAll calls).1 = calls.filterMap QueueCall.offered := by
  induction calls generalizing queue with
  | nil => rfl
  | cons call calls ih =>
      have rest := ih (queue.serve call).2
      cases call with
      | enqueue record => exact congrArg (record :: ·) rest
      | dequeue => exact rest

/-- After every sequence of calls, what was taken from the queue and what it holds is, in order, a
part of what was offered to it; what is missing of that is counted, modulo the width of the counter;
and the outcome of the next call of `enqueue` says what happens to which record. -/
theorem serveAll_accounts (N : ℕ) (nonempty : 1 ≤ N) (dropPolicy : DropPolicy)
    (calls : List QueueCall) :
    let served := (new dropPolicy : TelemetryQueue N).serveAll calls
    let kept := taken served.1 ++ served.2.records
    kept.Sublist (calls.filterMap QueueCall.offered) ∧
      served.2.droppedTotal.toNat =
        ((calls.filterMap QueueCall.offered).length - kept.length) % 2 ^ 64 ∧
      served.2.dropPolicy = dropPolicy ∧
      ∀ record, Enqueues record served.2 (served.2.enqueue record).1
        (served.2.enqueue record).2 := by
  intro served kept
  obtain ⟨sublist, policy, dropped, counted, total⟩ :=
    serveAll_conserves nonempty (new dropPolicy : TelemetryQueue N) calls
  rw [offered_serveAll] at sublist counted
  refine ⟨sublist, ?_, policy, fun record => served.2.enqueue_enqueues nonempty record⟩
  have missing : (calls.filterMap QueueCall.offered).length - kept.length = dropped := by
    have empty : (new dropPolicy : TelemetryQueue N).records.length = 0 := rfl
    have length : kept.length = (taken served.1).length + served.2.records.length :=
      List.length_append
    rw [length]
    change _ = (taken served.1).length + served.2.records.length + dropped at counted
    omega
  rw [missing, total]
  change (0 + UInt64.ofNat dropped).toNat = dropped % 2 ^ 64
  rw [UInt64.zero_add, UInt64.toNat_ofNat']

/-- Three records and a queue of two. -/
theorem serveAll_accounts_three :
    let served := (new .dropOldest : TelemetryQueue 2).serveAll
      [.enqueue ⟨1, 1, 215, true, 0⟩, .enqueue ⟨2, 1, 220, true, 0⟩, .enqueue ⟨3, 1, 225, true, 0⟩,
        .dequeue]
    let kept := taken served.1 ++ served.2.records
    kept.Sublist ([QueueCall.enqueue ⟨1, 1, 215, true, 0⟩, .enqueue ⟨2, 1, 220, true, 0⟩,
        .enqueue ⟨3, 1, 225, true, 0⟩, .dequeue].filterMap QueueCall.offered) ∧
      served.2.droppedTotal.toNat =
        (([QueueCall.enqueue ⟨1, 1, 215, true, 0⟩, .enqueue ⟨2, 1, 220, true, 0⟩,
          .enqueue ⟨3, 1, 225, true, 0⟩, .dequeue].filterMap QueueCall.offered).length -
            kept.length) % 2 ^ 64 ∧
      served.2.dropPolicy = .dropOldest ∧
      ∀ record, Enqueues record served.2 (served.2.enqueue record).1
        (served.2.enqueue record).2 :=
  serveAll_accounts 2 (by decide) .dropOldest _

theorem filterMap_offered_replicate (count : ℕ) (record : TelemetryRecord) :
    (List.replicate count (QueueCall.enqueue record)).filterMap QueueCall.offered =
      List.replicate count record := by
  induction count with
  | zero => rfl
  | succ count ih => exact congrArg (record :: ·) ih

theorem taken_serveAll_replicate (count : ℕ) (record : TelemetryRecord)
    (queue : TelemetryQueue N) :
    taken (queue.serveAll (List.replicate count (.enqueue record))).1 = [] := by
  induction count generalizing queue with
  | zero => rfl
  | succ count ih => exact ih (queue.enqueue record).2

/-- The counter wraps around: a queue of one record that was offered `2 ^ 64 + 1` records misses
more records than it has counted. -/
theorem droppedTotal_wraps :
    let calls := List.replicate (2 ^ 64 + 1) (QueueCall.enqueue ⟨1, 1, 215, true, 0⟩)
    let served := (new .dropNewest : TelemetryQueue 1).serveAll calls
    served.2.droppedTotal.toNat ≠ (calls.filterMap QueueCall.offered).length -
      (taken served.1 ++ served.2.records).length := by
  intro calls served equal
  have narrow := served.2.droppedTotal.toNat_lt
  have held := served.2.bounded
  have none : taken served.1 = [] := taken_serveAll_replicate _ _ _
  have offered : (calls.filterMap QueueCall.offered).length = 2 ^ 64 + 1 := by
    rw [filterMap_offered_replicate, List.length_replicate]
  rw [offered, none, List.nil_append] at equal
  omega

end TelemetryQueue
end TelemetryCore
end Motonet
