import Motonet.Tasks.Run

/-!
# Deliveries of retained commands

The broker sends its retained command in every new session.  A retained command that was forwarded
is not cleared, so it is handed over again unless somebody else replaces it in time, or it is
delivered while confirmation is pending.
-/

namespace Motonet
namespace Tasks

open OtaCore Firmware

/-! ## Messages are told apart -/

/-- The numbers that were claimed by a hand-over are distinct, no live message in the inbox was
claimed before, and the broker gives every message a new number. -/
structure Distinct (claimed : List ℕ) (broker : Broker) : Prop where
  once : claimed.Nodup
  claimed_lt : ∀ id ∈ claimed, id < broker.published
  inbox_nodup : (broker.inbox.map Publish.id).Nodup
  inbox_lt : ∀ publish ∈ broker.inbox, publish.id < broker.published
  live : ∀ publish ∈ broker.inbox, publish.retain = false → publish.id ∉ claimed
  retained_lt : ∀ kept ∈ broker.retained, kept.id < broker.published
  unsubscribed : broker.subscribed = false → broker.inbox = []

namespace Distinct

variable {claimed : List ℕ} {broker next : Broker} {message : Publish} {inbox : List Publish}

theorem keep (distinct : Distinct claimed broker) (inbox : next.inbox = broker.inbox)
    (subscribed : next.subscribed = broker.subscribed)
    (published : broker.published ≤ next.published)
    (retained : ∀ kept ∈ next.retained, kept.id < next.published) : Distinct claimed next := by
  obtain ⟨once, claimed_lt, inbox_nodup, inbox_lt, live, -, unsubscribed⟩ := distinct
  refine ⟨once, fun id member => (claimed_lt id member).trans_le published, ?_, ?_, ?_, retained,
    ?_⟩
  · rwa [inbox]
  · rw [inbox]
    exact fun message member => (inbox_lt message member).trans_le published
  · rwa [inbox]
  · rwa [inbox, subscribed]

theorem extend (message : Publish) (distinct : Distinct claimed broker)
    (inbox : next.inbox = broker.inbox ++ [message])
    (subscribed : next.subscribed = true) (published : broker.published ≤ next.published)
    (retained : ∀ kept ∈ next.retained, kept.id < next.published)
    (bound : message.id < next.published) (fresh : message.id ∉ broker.inbox.map Publish.id)
    (unclaimed : message.retain = false → message.id ∉ claimed) : Distinct claimed next := by
  obtain ⟨once, claimed_lt, inbox_nodup, inbox_lt, live, -, -⟩ := distinct
  refine ⟨once, fun id member => (claimed_lt id member).trans_le published, ?_, ?_, ?_, retained,
    by simp [subscribed]⟩
  · rw [inbox, List.map_append, List.map_singleton, ← List.concat_eq_append]
    exact inbox_nodup.concat fresh
  · intro other member
    rw [inbox] at member
    rcases List.mem_append.mp member with early | late
    · exact (inbox_lt other early).trans_le published
    · rwa [List.mem_singleton.mp late]
  · intro other member
    rw [inbox] at member
    rcases List.mem_append.mp member with early | late
    · exact live other early
    · rwa [List.mem_singleton.mp late]

theorem publish (distinct : Distinct claimed broker) (topic : String) (payload : List UInt8)
    (retain : Bool) : Distinct claimed (broker.publish topic payload retain) := by
  have retained : ∀ kept ∈ (broker.publish topic payload retain).retained,
      kept.id < broker.published + 1 := by
    intro kept member
    simp only [Broker.publish] at member
    split at member
    · split at member <;> cases member
      exact Nat.lt_succ_self _
    · exact (distinct.retained_lt kept member).trans (Nat.lt_succ_self _)
  cases subscribed : broker.subscribed with
  | false =>
      exact distinct.keep (by simp [Broker.publish, subscribed]) rfl (Nat.le_succ _) retained
  | true =>
      refine distinct.extend ⟨topic, payload, false, broker.published⟩
        (by simp [Broker.publish, subscribed]) subscribed (Nat.le_succ _) retained
        (Nat.lt_succ_self _) ?_ fun _ member => (distinct.claimed_lt _ member).false
      intro member
      obtain ⟨other, inside, same⟩ := List.mem_map.mp member
      exact (distinct.inbox_lt other inside).ne same

theorem subscribe (distinct : Distinct claimed broker) (topic : String)
    (outside : broker.subscribed = false) : Distinct claimed (broker.subscribe topic) := by
  have empty := distinct.unsubscribed outside
  cases retained : broker.retained with
  | none =>
      obtain ⟨once, claimed_lt, inbox_nodup, inbox_lt, live, retained_lt, -⟩ := distinct
      have inbox_eq : (broker.subscribe topic).inbox = [] := by
        simp [Broker.subscribe, retained, empty]
      refine ⟨once, claimed_lt, ?_, ?_, ?_, retained_lt, Bool.noConfusion⟩
      · rw [inbox_eq]
        exact .nil
      · simp [inbox_eq]
      · simp [inbox_eq]
  | some kept =>
      refine distinct.extend ⟨topic, kept.payload, true, kept.id⟩
        (by simp [Broker.subscribe, retained]) rfl le_rfl distinct.retained_lt
        (distinct.retained_lt kept retained) ?_ Bool.noConfusion
      simp [empty]

theorem disconnect (distinct : Distinct claimed broker) : Distinct claimed broker.disconnect := by
  obtain ⟨once, claimed_lt, inbox_nodup, inbox_lt, live, retained_lt, unsubscribed⟩ := distinct
  exact ⟨once, claimed_lt, .nil, nofun, nofun, retained_lt, fun _ => rfl⟩

theorem pop (distinct : Distinct claimed broker) (next : broker.inbox = message :: inbox) :
    Distinct claimed { broker with inbox := inbox } := by
  obtain ⟨once, claimed_lt, inbox_nodup, inbox_lt, live, retained_lt, unsubscribed⟩ := distinct
  rw [next] at inbox_nodup inbox_lt live
  exact ⟨once, claimed_lt, (List.nodup_cons.mp inbox_nodup).2,
    fun other member => inbox_lt other (List.mem_cons_of_mem _ member),
    fun other member => live other (List.mem_cons_of_mem _ member), retained_lt,
    fun outside => by cases (unsubscribed outside).symm.trans next⟩

/-- The first message of the inbox is there once. -/
theorem apart (distinct : Distinct claimed broker) (next : broker.inbox = message :: inbox) :
    ∀ publish ∈ inbox, publish.id ≠ message.id := by
  intro publish member same
  have nodup := distinct.inbox_nodup
  rw [next, List.map_cons, List.nodup_cons] at nodup
  exact nodup.1 (same ▸ List.mem_map_of_mem member)

theorem claim (distinct : Distinct claimed broker) (next : broker.inbox = message :: inbox)
    (fresh : message.id ∉ claimed) :
    Distinct (claimed ++ [message.id]) { broker with inbox := inbox } := by
  have popped := distinct.pop next
  have bound : message.id < broker.published :=
    distinct.inbox_lt message (next ▸ List.mem_cons_self)
  refine ⟨?_, ?_, popped.inbox_nodup, popped.inbox_lt, ?_, popped.retained_lt,
    popped.unsubscribed⟩
  · rw [← List.concat_eq_append]
    exact distinct.once.concat fresh
  · intro id member
    rcases List.mem_append.mp member with early | late
    · exact distinct.claimed_lt id early
    · rwa [List.mem_singleton.mp late]
  · intro other member unretained claimed
    rcases List.mem_append.mp claimed with early | late
    · exact popped.live other member unretained early
    · exact distinct.apart next other member (List.mem_singleton.mp late)

end Distinct

/-! ## The journal of deliveries -/

/-- What becomes of the manifests on the OTA command topic. -/
inductive ManifestEvent
  /-- A session subscribes, and the broker sends its retained message. -/
  | subscribed
  /-- A live manifest is delivered, and is to be handed over. -/
  | live (id : ℕ)
  /-- A retained manifest is delivered with `ForwardAndClearRetained`. -/
  | forwarded (id : ℕ)
  /-- A reset loses a delivered manifest that waits for the channel of the OTA task. -/
  | lost (id : ℕ)
  /-- A retained message is published, by anybody; the kept one is replaced or cleared. -/
  | replaced
  deriving DecidableEq, Repr

/-- What the delivery of the next message is. -/
def nextDelivery (config : Config) (system : System) : List ManifestEvent :=
  match system.broker.inbox with
  | [] => []
  | publish :: _ =>
      match copyOtaManifest publish config.otaTopic with
      | none => []
      | some manifest =>
          match resolveOtaManifestAction config system.deliveryState manifest.retained
              manifest.command.bytes with
          | .forwardOnly => [.live publish.id]
          | .forwardAndClearRetained => [.forwarded publish.id]
          | .clearRetainedOnly => []

/-- What a step loses. -/
def lostManifest (before after : System) : List ManifestEvent :=
  match before.mqttTask.pending, after.mqttTask.pending with
  | some command, none => [.lost command.id]
  | _, _ => []

/-- What a step shows of the manifests. -/
def manifestEvents (config : Config) (before : System) (action : Action) (after : System) :
    List ManifestEvent :=
  match action with
  | .mqtt (.connect true) => [.subscribed]
  | .mqtt (.setupEvent .publish) | .mqtt (.event .publish) => nextDelivery config before
  | .mqtt (.clearedEarly true) | .mqtt (.cleared true) | .operatorPublish _ true => [.replaced]
  | .ota _ | .powerCycle _ => lostManifest before after
  | _ => []

/-- The whole system with a journal of the manifests. -/
def handOverSystem (config : Config) : TransitionSystem (System × List ManifestEvent) Action :=
  (taskSystem config).journaled (manifestEvents config)

/-- What has happened since the last subscription. -/
def sinceSubscribed (journal : List ManifestEvent) : List ManifestEvent :=
  journal.takeWhile (· != .subscribed)

@[simp]
theorem sinceSubscribed_subscribed (journal : List ManifestEvent) :
    sinceSubscribed (.subscribed :: journal) = [] := rfl

@[simp]
theorem sinceSubscribed_cons {event : ManifestEvent} (other : event ≠ .subscribed)
    (journal : List ManifestEvent) :
    sinceSubscribed (event :: journal) = event :: sinceSubscribed journal :=
  List.takeWhile_cons_of_pos (by simpa using other)

theorem mem_of_mem_sinceSubscribed {event : ManifestEvent} {journal : List ManifestEvent}
    (member : event ∈ sinceSubscribed journal) : event ∈ journal :=
  (List.takeWhile_prefix _).subset member

/-- The numbers of the manifests that were handed over or wait to be handed over. -/
def System.claimed (system : System) : List ℕ :=
  system.handedOver ++ (system.mqttTask.pending.map OtaCommand.id).toList

/-- No manifest is handed to the OTA task twice, counting one that waits for the channel, and no
session is sent a retained copy that was delivered with `ForwardAndClearRetained` before. -/
structure HandedOverOnce (state : System × List ManifestEvent) : Prop where
  once : state.1.claimed.Nodup
  cleared : ∀ publish ∈ state.1.broker.inbox, publish.retain = true →
    .forwarded publish.id ∉ state.2

/-- If a session was delivered a retained manifest with `ForwardAndClearRetained`, a retained
message has been published before the next session subscribes.  The retained copy of a manifest
that was delivered live is not delivered with `ForwardAndClearRetained`, unless the live one was
lost. -/
def ReplacedInTime (config : Config) (state : System × List ManifestEvent) : Action → Prop
  | .mqtt (.connect true) =>
      ∀ id, .forwarded id ∈ sinceSubscribed state.2 → .replaced ∈ sinceSubscribed state.2
  | .mqtt (.setupEvent .publish) | .mqtt (.event .publish) =>
      ∀ id, .forwarded id ∈ nextDelivery config state.1 → .live id ∈ state.2 → .lost id ∈ state.2
  | _ => True

/-- The journal accounts for what was claimed, and knows whether the broker still keeps what the
session was sent. -/
structure Recorded (claimed : List ℕ) (broker : Broker) (journal : List ManifestEvent) :
    Prop where
  known : ∀ id, .live id ∈ journal ∨ .forwarded id ∈ journal ∨ .lost id ∈ journal →
    id < broker.published
  unseen : ∀ publish ∈ broker.inbox, publish.retain = false →
    .live publish.id ∉ journal ∧ .lost publish.id ∉ journal
  delivered : ∀ id ∈ claimed,
    .live id ∈ journal ∧ .lost id ∉ journal ∨ .forwarded id ∈ journal
  claimed : ∀ id, .live id ∈ journal → .lost id ∉ journal → id ∈ claimed
  cleared : ∀ publish ∈ broker.inbox, publish.retain = true → .forwarded publish.id ∉ journal
  /-- A copy on its way is that of the kept message, unless that was replaced. -/
  copied : ∀ publish ∈ broker.inbox, publish.retain = true →
    ((∃ kept ∈ broker.retained, kept.id = publish.id) ↔ .replaced ∉ sinceSubscribed journal)
  forwarded : ∀ id, .forwarded id ∈ sinceSubscribed journal →
    ((∃ kept ∈ broker.retained, kept.id = id) ↔ .replaced ∉ sinceSubscribed journal)
  /-- What earlier sessions forwarded is not kept any more. -/
  earlier : ∀ kept ∈ broker.retained, .forwarded kept.id ∈ journal →
    .forwarded kept.id ∈ sinceSubscribed journal

namespace Recorded

variable {claimed : List ℕ} {broker : Broker} {journal : List ManifestEvent} {message : Publish}
  {inbox : List Publish}

/-- Messages that leave the inbox change nothing else. -/
theorem narrow (recorded : Recorded claimed broker journal) (subscribed : Bool)
    (part : inbox ⊆ broker.inbox) :
    Recorded claimed { broker with subscribed := subscribed, inbox := inbox } journal :=
  { recorded with
    unseen := fun publish member => recorded.unseen publish (part member)
    cleared := fun publish member => recorded.cleared publish (part member)
    copied := fun publish member => recorded.copied publish (part member) }

theorem disconnect (recorded : Recorded claimed broker journal) :
    Recorded claimed broker.disconnect journal :=
  recorded.narrow false (List.nil_subset _)

/-- A reset loses the last claim. -/
theorem lose {id : ℕ} (recorded : Recorded (claimed ++ [id]) broker journal)
    (once : (claimed ++ [id]).Nodup) (bound : id < broker.published) (empty : broker.inbox = []) :
    Recorded claimed broker (.lost id :: journal) := by
  have others : id ∉ claimed := by
    rw [← List.concat_eq_append, List.nodup_concat] at once
    exact once.1
  refine ⟨?_, by simp [empty], ?_, ?_, by simp [empty], by simp [empty],
    by simpa using recorded.forwarded, by simpa using recorded.earlier⟩
  · rintro other (live | forwarded | lost)
    · exact recorded.known other (.inl (by simpa using live))
    · exact recorded.known other (.inr (.inl (by simpa using forwarded)))
    · rcases List.mem_cons.mp lost with same | before
      · cases same
        exact bound
      · exact recorded.known other (.inr (.inr before))
  · intro other member
    have apart : other ≠ id := fun same => others (same ▸ member)
    rcases recorded.delivered other (List.mem_append_left _ member) with ⟨live, kept⟩ | forwarded
    · exact .inl ⟨List.mem_cons_of_mem _ live, by simp [apart, kept]⟩
    · exact .inr (List.mem_cons_of_mem _ forwarded)
  · intro other live kept
    have live : ManifestEvent.live other ∈ journal := by simpa using live
    obtain ⟨apart, kept⟩ : other ≠ id ∧ .lost other ∉ journal := by simpa using kept
    rcases List.mem_append.mp (recorded.claimed other live kept) with early | late
    · exact early
    · exact absurd (List.mem_singleton.mp late) apart

/-- A new session is sent the kept message, and nothing that was forwarded. -/
theorem subscribe (recorded : Recorded claimed broker journal) (topic : String)
    (empty : broker.inbox = [])
    (replaced : ∀ id, .forwarded id ∈ sinceSubscribed journal →
      .replaced ∈ sinceSubscribed journal) :
    Recorded claimed (broker.subscribe topic) (.subscribed :: journal) := by
  have fresh : ∀ kept ∈ broker.retained, .forwarded kept.id ∉ journal := by
    intro kept member forwarded
    have since := recorded.earlier kept member forwarded
    exact (recorded.forwarded kept.id since).mp ⟨kept, member, rfl⟩ (replaced _ since)
  have sent : ∀ publish ∈ (broker.subscribe topic).inbox,
      publish.retain = true ∧ ∃ kept ∈ broker.retained, kept.id = publish.id := by
    intro publish member
    simp only [Broker.subscribe, empty, List.nil_append, List.mem_map] at member
    obtain ⟨kept, member, rfl⟩ := member
    exact ⟨rfl, kept, by simpa using member, rfl⟩
  have known : ∀ id, .live id ∈ journal ∨ .forwarded id ∈ journal ∨ .lost id ∈ journal →
      id < (broker.subscribe topic).published := recorded.known
  refine ⟨by simpa using known, ?_, by simpa using recorded.delivered,
    by simpa using recorded.claimed, ?_, ?_, ?_, ?_⟩
  · intro publish member live
    rw [(sent publish member).1] at live
    cases live
  · intro publish member _
    obtain ⟨-, kept, member, same⟩ := sent publish member
    rw [← same]
    simpa using fresh kept member
  · intro publish member _
    exact ⟨fun _ => List.not_mem_nil, fun _ => (sent publish member).2⟩
  · simp
  · intro kept member forwarded
    exact absurd (by simpa using forwarded) (fresh kept member)

/-- A retained message that is published replaces the kept one; a live copy of every message goes to
the session. -/
theorem publish (recorded : Recorded claimed broker journal) (topic : String)
    (payload : List UInt8) (retain : Bool) (bound : ∀ publish ∈ broker.inbox,
      publish.id < broker.published) :
    Recorded claimed (broker.publish topic payload retain)
      (if retain then .replaced :: journal else journal) := by
  have grown : ∀ publish ∈ (broker.publish topic payload retain).inbox, publish ∈ broker.inbox ∨
      publish.retain = false ∧ publish.id = broker.published := by
    intro publish member
    simp only [Broker.publish] at member
    split at member
    · rcases List.mem_append.mp member with early | late
      · exact .inl early
      · cases List.mem_singleton.mp late
        exact .inr ⟨rfl, rfl⟩
    · exact .inl member
  have known : ∀ id, .live id ∈ journal ∨ .forwarded id ∈ journal ∨ .lost id ∈ journal →
      id < broker.published := recorded.known
  have unseen : ∀ publish ∈ (broker.publish topic payload retain).inbox,
      publish.retain = false → .live publish.id ∉ journal ∧ .lost publish.id ∉ journal := by
    intro publish member live
    rcases grown publish member with early | ⟨-, late⟩
    · exact recorded.unseen publish early live
    · rw [late]
      exact ⟨fun live => (known _ (.inl live)).false, fun lost =>
        (known _ (.inr (.inr lost))).false⟩
  have cleared : ∀ publish ∈ (broker.publish topic payload retain).inbox,
      publish.retain = true → .forwarded publish.id ∉ journal := by
    intro publish member copy
    rcases grown publish member with early | ⟨live, -⟩
    · exact recorded.cleared publish early copy
    · cases live.symm.trans copy
  cases retain with
  | false =>
      refine { recorded with
        known := fun id event => (known id event).trans (Nat.lt_succ_self _)
        unseen := unseen
        cleared := cleared
        copied := fun publish member copy => ?_ }
      rcases grown publish member with early | ⟨live, -⟩
      · exact recorded.copied publish early copy
      · cases live.symm.trans copy
  | true =>
      -- The kept message has a new number, if there is one.
      have new : ∀ kept ∈ (broker.publish topic payload true).retained,
          kept.id = broker.published := by
        intro kept member
        simp only [Broker.publish, if_true] at member
        split at member <;> cases member
        rfl
      have older : ∀ id, id < broker.published →
          ((∃ kept ∈ (broker.publish topic payload true).retained, kept.id = id) ↔
            .replaced ∉ sinceSubscribed (.replaced :: journal)) := by
        intro id lt
        refine ⟨?_, fun unreplaced => absurd (by simp) unreplaced⟩
        rintro ⟨kept, member, rfl⟩
        exact absurd (new kept member) lt.ne
      refine ⟨fun id event => (known id (by simpa using event)).trans (Nat.lt_succ_self _),
        by simpa using unseen, by simpa using recorded.delivered,
        by simpa using recorded.claimed, by simpa using cleared, ?_, ?_, ?_⟩
      · intro publish member copy
        rcases grown publish member with early | ⟨live, -⟩
        · exact older publish.id (bound publish early)
        · cases live.symm.trans copy
      · intro id since
        exact older id (known id (.inr (.inl (by simpa using mem_of_mem_sinceSubscribed since))))
      · intro kept member forwarded
        have lt := known kept.id (.inr (.inl (by simpa using forwarded)))
        exact absurd (new kept member) lt.ne

/-- A live manifest is delivered. -/
theorem deliver (recorded : Recorded claimed broker journal) (distinct : Distinct claimed broker)
    (next : broker.inbox = message :: inbox) (retain : message.retain = false) :
    Recorded (claimed ++ [message.id]) { broker with inbox := inbox }
      (.live message.id :: journal) := by
  have part : inbox ⊆ broker.inbox := next ▸ List.subset_cons_self _ _
  have others : ∀ publish ∈ inbox, publish.id ≠ message.id := distinct.apart next
  have bound : message.id < broker.published :=
    distinct.inbox_lt message (next ▸ List.mem_cons_self)
  obtain ⟨-, kept⟩ := recorded.unseen message (next ▸ List.mem_cons_self) retain
  refine ⟨?_, ?_, ?_, ?_, ?_, ?_, ?_, ?_⟩
  · rintro id (live | forwarded | lost)
    · rcases List.mem_cons.mp live with same | before
      · cases same
        exact bound
      · exact recorded.known id (.inl before)
    · exact recorded.known id (.inr (.inl (by simpa using forwarded)))
    · exact recorded.known id (.inr (.inr (by simpa using lost)))
  · intro publish member live
    simpa [others publish member] using recorded.unseen publish (part member) live
  · intro id member
    rcases List.mem_append.mp member with early | late
    · rcases recorded.delivered id early with ⟨live, unlost⟩ | forwarded
      · exact .inl ⟨List.mem_cons_of_mem _ live, by simpa using unlost⟩
      · exact .inr (List.mem_cons_of_mem _ forwarded)
    · rw [List.mem_singleton.mp late]
      exact .inl ⟨List.mem_cons_self, by simpa using kept⟩
  · intro id live unlost
    rcases List.mem_cons.mp live with same | before
    · cases same
      exact List.mem_append_right _ List.mem_cons_self
    · exact List.mem_append_left _ (recorded.claimed id before (by simpa using unlost))
  · simpa using fun publish member => recorded.cleared publish (part member)
  · simpa using fun publish member => recorded.copied publish (part member)
  · simpa using recorded.forwarded
  · simpa using recorded.earlier

/-- A retained manifest is delivered, and forwarded. -/
theorem forward (recorded : Recorded claimed broker journal) (distinct : Distinct claimed broker)
    (next : broker.inbox = message :: inbox) (retain : message.retain = true) :
    Recorded (claimed ++ [message.id]) { broker with inbox := inbox }
      (.forwarded message.id :: journal) := by
  have part : inbox ⊆ broker.inbox := next ▸ List.subset_cons_self _ _
  have others : ∀ publish ∈ inbox, publish.id ≠ message.id := distinct.apart next
  have bound : message.id < broker.published :=
    distinct.inbox_lt message (next ▸ List.mem_cons_self)
  have copied := recorded.copied message (next ▸ List.mem_cons_self) retain
  refine ⟨?_, ?_, ?_, ?_, ?_, ?_, ?_, ?_⟩
  · rintro id (live | forwarded | lost)
    · exact recorded.known id (.inl (by simpa using live))
    · rcases List.mem_cons.mp forwarded with same | before
      · cases same
        exact bound
      · exact recorded.known id (.inr (.inl before))
    · exact recorded.known id (.inr (.inr (by simpa using lost)))
  · simpa using fun publish member => recorded.unseen publish (part member)
  · intro id member
    rcases List.mem_append.mp member with early | late
    · simpa using (recorded.delivered id early).imp_right Or.inr
    · rw [List.mem_singleton.mp late]
      exact .inr List.mem_cons_self
  · intro id live unlost
    exact List.mem_append_left _
      (recorded.claimed id (by simpa using live) (by simpa using unlost))
  · intro publish member copy
    simpa [others publish member] using recorded.cleared publish (part member) copy
  · simpa using fun publish member => recorded.copied publish (part member)
  · intro id since
    rw [sinceSubscribed_cons (by simp)] at since ⊢
    rcases List.mem_cons.mp since with same | before
    · cases same
      simpa using copied
    · simpa using recorded.forwarded id before
  · intro kept member forwarded
    rw [sinceSubscribed_cons (by simp)]
    rcases List.mem_cons.mp forwarded with same | before
    · rw [same]
      exact List.mem_cons_self
    · exact List.mem_cons_of_mem _ (recorded.earlier kept member before)

end Recorded

/-! ## Runs -/

/-- Claimed messages are distinct and accounted for, and the broker's subscription is that of the
session. -/
structure HandedOnce (state : System × List ManifestEvent) : Prop where
  distinct : Distinct state.1.claimed state.1.broker
  recorded : Recorded state.1.claimed state.1.broker state.2
  subscribed : state.1.broker.subscribed = state.1.mqttTask.inSession

section Invariant

variable {config : Config} {before after : System} {journal : List ManifestEvent}

theorem HandedOnce.handedOverOnce {state : System × List ManifestEvent}
    (holds : HandedOnce state) : HandedOverOnce state :=
  ⟨holds.distinct.once, holds.recorded.cleared⟩

theorem System.claimed_of_pending_none (nothing : before.mqttTask.pending = none) :
    before.claimed = before.handedOver := by
  simp [claimed, nothing]

theorem System.claimed_of_pending {command : OtaCommand}
    (pending : before.mqttTask.pending = some command) :
    before.claimed = before.handedOver ++ [command.id] := by
  simp [claimed, pending]

/-- The manifest that is copied out of a message is that of the message. -/
theorem copyOtaManifest_eq_some {publish : Publish} {topic : String}
    {manifest : IncomingOtaManifest}
    (copied : copyOtaManifest publish topic = some manifest) :
    manifest = ⟨⟨publish.payload, publish.id⟩, publish.retain⟩ := by
  unfold copyOtaManifest at copied
  split at copied
  · cases copied
  split at copied
  · cases copied
  split at copied <;> cases copied
  rfl

/-- A retained manifest is cleared only, or forwarded as a retained one. -/
theorem resolveOtaManifestAction_retained (otaState : OtaState) (bytes : List UInt8) :
    resolveOtaManifestAction config otaState true bytes ≠ .clearRetainedOnly →
      resolveOtaManifestAction config otaState true bytes = .forwardAndClearRetained := by
  intro forwarded
  cases otaState with
  | inactive | downloading | applying => rfl
  | pendingConfirmation =>
      simp only [resolveOtaManifestAction, classifyOtaManifestDelivery] at forwarded ⊢
      cases verified : OtaManifest.parseAndVerify config.serde config.otaManifestVerifier bytes with
      | error error => simp [verified] at forwarded
      | ok manifest =>
          cases force : manifest.force with
          | false => simp [verified, force] at forwarded
          | true => simp [force]

/-- The next message carries no manifest that is to be handed over. -/
theorem nextDelivery_eq_nil {publish : Publish} {inbox : List Publish}
    (next : before.broker.inbox = publish :: inbox)
    (cleared : ∀ manifest, copyOtaManifest publish config.otaTopic = some manifest →
      resolveOtaManifestAction config before.deliveryState manifest.retained
        manifest.command.bytes = .clearRetainedOnly) : nextDelivery config before = [] := by
  simp only [nextDelivery, next]
  cases copied : copyOtaManifest publish config.otaTopic with
  | none => rfl
  | some manifest => simp only [cleared manifest copied]

/-- The next message carries a manifest that is to be handed over. -/
theorem nextDelivery_eq_singleton {publish : Publish} {inbox : List Publish}
    {manifest : IncomingOtaManifest} (next : before.broker.inbox = publish :: inbox)
    (copied : copyOtaManifest publish config.otaTopic = some manifest)
    (forwards : resolveOtaManifestAction config before.deliveryState manifest.retained
      manifest.command.bytes ≠ .clearRetainedOnly) :
    publish.retain = false ∧ nextDelivery config before = [.live publish.id] ∨
      publish.retain = true ∧ nextDelivery config before = [.forwarded publish.id] := by
  obtain rfl := copyOtaManifest_eq_some copied
  simp only [nextDelivery, next, copied]
  cases retain : publish.retain with
  | false =>
      simp only [resolveOtaManifestAction_live]
      exact .inl ⟨trivial, trivial⟩
  | true =>
      simp only [retain] at forwards ⊢
      simp only [resolveOtaManifestAction_retained _ _ forwards]
      exact .inr ⟨trivial, trivial⟩

/-- A retained manifest that is forwarded is claimed. -/
theorem claimed_of_delivered {action : MqttAction} {id : ℕ}
    (delivery : action = .setupEvent .publish ∨ action = .event .publish)
    (taken : MqttStep config before action after)
    (event : .forwarded id ∈ nextDelivery config before) :
    after.claimed = before.claimed ++ [id] := by
  cases taken with
  | received _ quiet _ nothing _ _ next _ forwarded =>
      rcases forwarded with ⟨-, cleared⟩ | ⟨manifest, copied, forwards, pending⟩
      · rw [nextDelivery_eq_nil next cleared] at event
        cases event
      · rcases nextDelivery_eq_singleton next copied forwards with ⟨-, shown⟩ | ⟨-, shown⟩
        · simp [shown] at event
        · obtain rfl := copyOtaManifest_eq_some copied
          obtain rfl : id = _ := by simpa [shown] using event
          rw [System.claimed_of_pending_none nothing, System.claimed_of_pending pending,
            quiet.handedOver]
  | moved _ _ _ _ _ silent | handedOver _ _ _ _ _ _ _ _ silent | slept _ silent =>
      rcases delivery with rfl | rfl <;> cases silent
  | subscribed => rcases delivery with other | other <;> cases other
  | cleared clears =>
      rcases delivery with rfl | rfl <;> rcases clears with other | other <;> cases other

/-- A reset keeps what was handed over. -/
theorem HandedOnce.reset (holds : HandedOnce (before, journal)) (device : Device) :
    HandedOnce (before.reset device, lostManifest before (before.reset device) ++ journal) := by
  obtain ⟨⟨once, claimed_lt, -, -, -, retained_lt, -⟩, recorded, -⟩ := holds
  have claimed_eq : (before.reset device).claimed = before.handedOver :=
    System.claimed_of_pending_none rfl
  have kept : ∀ id ∈ before.handedOver, id ∈ before.claimed :=
    fun id member => List.mem_append_left _ member
  refine ⟨⟨?_, ?_, .nil, nofun, nofun, retained_lt, fun _ => rfl⟩, ?_, rfl⟩
  · rw [claimed_eq]
    exact (List.nodup_append.mp once).1
  · rw [claimed_eq]
    exact fun id member => claimed_lt id (kept id member)
  · rw [claimed_eq]
    cases pending : before.mqttTask.pending with
    | none =>
        have nothing : lostManifest before (before.reset device) = [] := by
          simp [lostManifest, pending]
        rw [nothing, List.nil_append, ← System.claimed_of_pending_none pending]
        exact recorded.disconnect
    | some command =>
        have lost : lostManifest before (before.reset device) = [.lost command.id] := by
          have nothing : (before.reset device).mqttTask.pending = none := rfl
          rw [lostManifest, pending, nothing]
        have claimed := System.claimed_of_pending pending
        simp only [claimed] at recorded once claimed_lt
        rw [lost]
        exact recorded.disconnect.lose once (claimed_lt _ (by simp)) rfl

/-- A step that leaves what was claimed and the broker alone. -/
theorem HandedOnce.keep (holds : HandedOnce (before, journal))
    (handedOver : after.handedOver = before.handedOver)
    (mqttTask : after.mqttTask = before.mqttTask) (broker : after.broker = before.broker) :
    HandedOnce (after, lostManifest before after ++ journal) := by
  have nothing : lostManifest before after = [] := by
    rw [lostManifest, mqttTask]
    cases before.mqttTask.pending <;> rfl
  have claimed : after.claimed = before.claimed := by
    rw [System.claimed, handedOver, mqttTask, System.claimed]
  obtain ⟨distinct, recorded, subscribed⟩ := holds
  rw [nothing]
  refine ⟨?_, ?_, ?_⟩
  · rwa [claimed, broker]
  · rwa [List.nil_append, claimed, broker]
  · rwa [broker, mqttTask]

theorem HandedOnce.otaStep {action : OtaAction} (holds : HandedOnce (before, journal))
    (taken : OtaStep config before action after) :
    HandedOnce (after, lostManifest before after ++ journal) := by
  cases taken with
  | rejected | accepted | standDown | standDownTimeout | lockFlash | failed =>
      exact holds.keep rfl rfl rfl
  | installed => exact holds.reset _

/-- What a silent step of `mqtt_task` shows. -/
theorem manifestEvents_of_isSilent {action : MqttAction} (silent : action.isSilent = true) :
    manifestEvents config before (.mqtt action) after = [] := by
  cases action with
  | connect succeeds | clearedEarly succeeds | cleared succeeds =>
      cases succeeds with
      | true => cases silent
      | false => rfl
  | setupEvent event | event event =>
      cases event with
      | publish => cases silent
      | suback accepted | other => rfl
  | _ => rfl

theorem HandedOnce.mqttStep {action : MqttAction} (holds : HandedOnce (before, journal))
    (inTime : ReplacedInTime config (before, journal) (.mqtt action))
    (taken : MqttStep config before action after) :
    HandedOnce (after, manifestEvents config before (.mqtt action) after ++ journal) := by
  obtain ⟨distinct, recorded, subscribed⟩ := holds
  have same : before.mqttTask.pending = none → after.mqttTask.pending = none →
      after.handedOver = before.handedOver → after.claimed = before.claimed := by
    intro nothing still handedOver
    rw [System.claimed_of_pending_none still, System.claimed_of_pending_none nothing, handedOver]
  cases taken with
  | moved quiet _ nothing still session silent =>
      rw [manifestEvents_of_isSilent silent]
      rcases session with ⟨broker, session⟩ | ⟨broker, outside⟩
      · refine ⟨?_, ?_, ?_⟩ <;> simp only [same nothing still quiet.handedOver, broker]
        · exact distinct
        · exact recorded
        · exact subscribed.trans session.symm
      · refine ⟨?_, ?_, ?_⟩ <;> simp only [same nothing still quiet.handedOver, broker]
        · exact distinct.disconnect
        · exact recorded.disconnect
        · exact outside.symm
  | subscribed quiet _ nothing still outside session broker =>
      have away : before.broker.subscribed = false := subscribed.trans outside
      refine ⟨?_, ?_, ?_⟩ <;> simp only [same nothing still quiet.handedOver, broker]
      · exact distinct.subscribe _ away
      · exact recorded.subscribe _ (distinct.unsubscribed away) inTime
      · exact session.symm
  | @received _ _ publish inbox delivery quiet _ nothing session also next broker forwarded =>
      have subscribes : after.broker.subscribed = after.mqttTask.inSession := by
        rw [broker, also]
        exact subscribed.trans session
      have member : publish ∈ before.broker.inbox := next ▸ List.mem_cons_self
      have shown : manifestEvents config before (.mqtt action) after =
          nextDelivery config before := by
        rcases delivery with rfl | rfl <;> rfl
      rw [shown]
      rcases forwarded with ⟨still, cleared⟩ | ⟨manifest, copied, forwards, pending⟩
      · rw [nextDelivery_eq_nil next cleared]
        refine ⟨?_, ?_, subscribes⟩ <;> simp only [same nothing still quiet.handedOver, broker]
        · exact distinct.pop next
        · exact recorded.narrow _ (next ▸ List.subset_cons_self _ _)
      have claimed : after.claimed = before.claimed ++ [publish.id] := by
        obtain rfl := copyOtaManifest_eq_some copied
        rw [System.claimed_of_pending_none nothing, System.claimed_of_pending pending,
          quiet.handedOver]
      rcases nextDelivery_eq_singleton next copied forwards with ⟨retain, event⟩ | ⟨retain, event⟩
      · rw [event]
        refine ⟨?_, ?_, subscribes⟩ <;> simp only [claimed, broker]
        · exact distinct.claim next (distinct.live publish member retain)
        · exact recorded.deliver distinct next retain
      · -- The live copy, if there was one, is lost, and no earlier session forwarded this one.
        have unclaimed : publish.id ∉ before.claimed := by
          have lost : .live publish.id ∈ journal → .lost publish.id ∈ journal := by
            have inTime : ∀ id, .forwarded id ∈ nextDelivery config before →
                .live id ∈ journal → .lost id ∈ journal := by
              rcases delivery with rfl | rfl
              · exact inTime
              · exact inTime
            exact inTime publish.id (by simp [event])
          intro claimed
          rcases recorded.delivered _ claimed with ⟨live, kept⟩ | before
          · exact kept (lost live)
          · exact recorded.cleared publish member retain before
        rw [event]
        refine ⟨?_, ?_, subscribes⟩ <;> simp only [claimed, broker]
        · exact distinct.claim next unclaimed
        · exact recorded.forward distinct next retain
  | handedOver outside pending queue handedOver still _ session broker silent =>
      have claimed : after.claimed = before.claimed := by
        rw [System.claimed_of_pending pending, System.claimed_of_pending_none still, handedOver]
      rw [manifestEvents_of_isSilent silent]
      refine ⟨?_, ?_, ?_⟩ <;> simp only [claimed, broker]
      · exact distinct.disconnect
      · exact recorded.disconnect
      · exact session.symm
  | cleared clears quiet _ nothing still session also broker =>
      have shown : manifestEvents config before (.mqtt action) after = [.replaced] := by
        rcases clears with rfl | rfl <;> rfl
      rw [shown]
      refine ⟨?_, ?_, ?_⟩ <;> simp only [same nothing still quiet.handedOver, broker]
      · exact distinct.publish _ _ _
      · exact recorded.publish _ _ true distinct.inbox_lt
      · exact subscribed.trans (session.trans also.symm)
  | slept nothing silent =>
      rw [manifestEvents_of_isSilent silent]
      simpa [lostManifest, nothing] using
        HandedOnce.reset ⟨distinct, recorded, subscribed⟩ before.device

/-- Claims stay distinct while what is forwarded is replaced in time. -/
theorem HandedOnce.step {action : Action} {shown : List ManifestEvent}
    (holds : HandedOnce (before, journal)) (inTime : ReplacedInTime config (before, journal) action)
    (taken : (handOverSystem config).step (before, journal) action = some (after, shown)) :
    HandedOnce (after, shown) := by
  obtain ⟨moved, entries⟩ := TransitionSystem.journaled_step_eq_some_iff.mp taken
  dsimp only at moved entries
  subst entries
  cases action with
  | ota action => exact holds.otaStep (.of_step moved)
  | confirm action =>
      cases OtaConfirmStep.of_step moved with
      | _ => exact ⟨holds.distinct, holds.recorded, holds.subscribed⟩
  | mqtt action => exact holds.mqttStep inTime (.of_step moved)
  | operatorPublish payload retain =>
      cases moved
      refine ⟨holds.distinct.publish _ _ _, ?_, holds.subscribed⟩
      have published := holds.recorded.publish config.otaTopic payload retain
        holds.distinct.inbox_lt
      cases retain with
      | true => exact published
      | false => exact published
  | queueReading reading =>
      obtain ⟨commands, rfl⟩ := step_queueReading moved
      exact ⟨holds.distinct, holds.recorded, holds.subscribed⟩
  | powerCycle progress =>
      cases moved
      exact holds.reset _

/-- A step after which everything is handed over once is one in which what was forwarded has been
replaced in time. -/
theorem HandedOnce.replacedInTime {action : Action} {shown : List ManifestEvent}
    (holds : HandedOnce (before, journal))
    (taken : (handOverSystem config).step (before, journal) action = some (after, shown))
    (once : HandedOverOnce (after, shown)) : ReplacedInTime config (before, journal) action := by
  obtain ⟨moved, entries⟩ := TransitionSystem.journaled_step_eq_some_iff.mp taken
  dsimp only at moved entries
  subst entries
  have delivered : ∀ {action : MqttAction},
      action = .setupEvent .publish ∨ action = .event .publish →
      (taskSystem config).step before (.mqtt action) = some after →
      ∀ id, .forwarded id ∈ nextDelivery config before → .live id ∈ journal →
        .lost id ∈ journal := by
    intro action delivery taken id event live
    by_contra kept
    have nodup := once.once
    rw [claimed_of_delivered delivery (.of_step taken) event, ← List.concat_eq_append,
      List.nodup_concat] at nodup
    exact nodup.1 (holds.recorded.claimed id live kept)
  cases action with
  | mqtt action =>
      cases action with
      | connect succeeds =>
          cases succeeds with
          | false => trivial
          | true =>
              have moved : Tasks.mqttStep config before (.connect true) = some after := moved
              cases mqttMove_of_step moved with
              | subscribed otaState task =>
                  -- What the broker still keeps is sent again.
                  intro id since
                  by_contra unreplaced
                  obtain ⟨kept, member, rfl⟩ :=
                    (holds.recorded.forwarded id since).mpr unreplaced
                  refine once.cleared ⟨config.otaTopic, kept.payload, true, kept.id⟩ ?_ rfl
                    (List.mem_cons_of_mem _ (mem_of_mem_sinceSubscribed since))
                  simpa [Broker.subscribe] using .inr ⟨kept, member, rfl, rfl⟩
      | setupEvent event =>
          cases event with
          | publish => exact delivered (.inl rfl) moved
          | suback accepted | other => trivial
      | event event =>
          cases event with
          | publish => exact delivered (.inr rfl) moved
          | suback accepted | other => trivial
      | _ => trivial
  | _ => trivial

end Invariant

/-- In a run of the whole system every manifest is handed over at most once, and every retained one
that was delivered with `ForwardAndClearRetained` is gone before the next session, exactly if
somebody replaces it in time. -/
theorem handed_over_once_iff {config : Config} {start : System} {actions : List Action}
    {finish : System × List ManifestEvent} (initial : Initial start) :
    (handOverSystem config).Path (fun before action => HandedOverOnce before ∧
        ∀ after, (handOverSystem config).step before action = some after → HandedOverOnce after)
        (start, []) actions finish ↔
      (handOverSystem config).Path (ReplacedInTime config) (start, []) actions finish := by
  obtain ⟨device, broker, known, rfl⟩ := initial
  have booted : HandedOnce (System.booted device broker [], []) :=
    ⟨⟨.nil, nofun, .nil, nofun, nofun, known, fun _ => rfl⟩,
      ⟨by simp, nofun, nofun, nofun, nofun, nofun, nofun, nofun⟩, rfl⟩
  refine TransitionSystem.path_congr HandedOnce ?_ ?_ booted
  · rintro ⟨before, journal⟩ action ⟨after, shown⟩ holds taken
    constructor
    · rintro ⟨-, once⟩
      exact holds.replacedInTime taken (once _ taken)
    · intro inTime
      refine ⟨holds.handedOverOnce, fun other also => ?_⟩
      obtain rfl := Option.some.inj (taken.symm.trans also)
      exact (holds.step inTime taken).handedOverOnce
  · rintro ⟨before, journal⟩ action ⟨after, shown⟩ holds inTime taken
    exact holds.step inTime taken

/-- The confirmed device with a broker that keeps the small manifest. -/
def keepingStart : System :=
  System.booted sampleDevice (keepingBroker false) []

theorem initial_keepingStart : Initial keepingStart :=
  ⟨sampleDevice, keepingBroker false, by simp [keepingBroker], rfl⟩

/-- The retained command is handed over, and the operator clears it before the next session. -/
def clearedInTimeActions : List Action :=
  [.mqtt (.openSession true), .mqtt (.connect true), .mqtt (.setupEvent .publish),
    .mqtt .handOverEarly, .operatorPublish [] true, .mqtt (.openSession true),
    .mqtt (.connect true)]

theorem handed_over_once_iff_cleared :
    ∃ finish, (handOverSystem (smallConfig false)).Path (fun before action =>
          HandedOverOnce before ∧ ∀ after,
            (handOverSystem (smallConfig false)).step before action = some after →
              HandedOverOnce after)
        (keepingStart, []) clearedInTimeActions finish ∧
      finish.1.handedOver = [0] ∧ finish.1.broker.subscribed = true ∧
      finish.2 = [.subscribed, .replaced, .forwarded 0, .subscribed] := by
  have copied := copyOtaManifest_keepingBroker false
  let connecting : System := { keepingStart with
    mqttHealth := Watch.empty.send .disconnected
    otaStateSeen := 1
    mqttTask := .connecting .inactive }
  let subscribed : System := { connecting with
    broker := ⟨some ⟨smallPayload false, 0⟩, true,
      [⟨(smallConfig false).otaTopic, smallPayload false, true, 0⟩], 1⟩
    mqttTask := .awaitingSuback .inactive }
  let forwarding : System := { subscribed with
    broker := ⟨some ⟨smallPayload false, 0⟩, true, [], 1⟩
    mqttTask := .forwardingEarly ⟨smallPayload false, 0⟩ }
  let handed : System := { forwarding with
    handedOver := [0]
    otaCommands := [⟨smallPayload false, 0⟩]
    broker := ⟨some ⟨smallPayload false, 0⟩, false, [], 1⟩
    mqttTask := .setupBackoff }
  let cleared : System := { handed with broker := ⟨none, false, [], 2⟩ }
  let reconnecting : System := { cleared with mqttTask := .connecting .inactive }
  have shown : nextDelivery (smallConfig false) subscribed = [.forwarded 0] := by
    simp only [nextDelivery, subscribed, copied]
    rfl
  have taken : (handOverSystem (smallConfig false)).step (subscribed, [.subscribed])
      (.mqtt (.setupEvent .publish)) = some (forwarding, [.forwarded 0, .subscribed]) := by
    refine TransitionSystem.journaled_step_eq_some_iff.mpr ⟨?_, ?_⟩
    · simp only [taskSystem, step, mqttStep, subscribed, handleSetupEvent, nextPublish, copied]
      rfl
    · exact congrArg (· ++ [.subscribed]) shown.symm
  have start : (handOverSystem (smallConfig false)).Path (ReplacedInTime (smallConfig false))
      (keepingStart, []) [] (keepingStart, []) := .nil
  have opened := start.snoc
    (show ReplacedInTime (smallConfig false) _ (.mqtt (.openSession true)) from trivial)
    (show _ = some (connecting, []) from rfl)
  have connected := opened.snoc
    (show ReplacedInTime (smallConfig false) (connecting, []) (.mqtt (.connect true)) from
      fun _ forwarded => absurd forwarded List.not_mem_nil)
    (show _ = some (subscribed, [.subscribed]) from rfl)
  have delivered := connected.snoc
    (show ReplacedInTime (smallConfig false) (subscribed, [.subscribed])
      (.mqtt (.setupEvent .publish)) from fun _ _ => by simp) taken
  have handedOver := delivered.snoc
    (show ReplacedInTime (smallConfig false) _ (.mqtt .handOverEarly) from trivial)
    (show _ = some (handed, [.forwarded 0, .subscribed]) from rfl)
  have replaced := handedOver.snoc
    (show ReplacedInTime (smallConfig false) _ (.operatorPublish [] true) from trivial)
    (show _ = some (cleared, [.replaced, .forwarded 0, .subscribed]) from rfl)
  have reopened := replaced.snoc
    (show ReplacedInTime (smallConfig false) _ (.mqtt (.openSession true)) from trivial)
    (show _ = some (reconnecting, [.replaced, .forwarded 0, .subscribed]) from rfl)
  have reconnected := reopened.snoc
    (show ReplacedInTime (smallConfig false) (_, [.replaced, .forwarded 0, .subscribed])
      (.mqtt (.connect true)) from fun _ _ => by decide) rfl
  exact ⟨_, (handed_over_once_iff initial_keepingStart).mpr reconnected, rfl, rfl, rfl⟩

/-- The retained command is handed over again in the next session after an attempt that fails. -/
theorem retained_handed_over_twice :
    Initial keepingStart ∧
      ∃ final, (taskSystem (smallConfig false)).run keepingStart
          (retainedActions unreachable ++ retainedActions unreachable) = some final ∧
        final.handedOver = [0, 0] := by
  refine ⟨initial_keepingStart, ?_⟩
  obtain ⟨middle, first, attempted⟩ := run_retained (waiting_booted sampleDevice
    (keepingBroker false) []) rfl rfl (smallPayload_ne_nil false) (length_smallPayload_le false)
    rfl (acceptManifest_small false) (install_unreachable false _)
  have inactive : middle.currentOtaState = .inactive := by
    rw [System.currentOtaState, attempted.otaState]
    rfl
  obtain ⟨final, second, again⟩ := run_retained attempted.waiting attempted.retained
    (by rw [inactive]; rfl) (smallPayload_ne_nil false) (length_smallPayload_le false)
    (by rw [inactive]; rfl) (acceptManifest_small false) (install_unreachable false _)
  refine ⟨final, TransitionSystem.run_trans first second, ?_⟩
  rw [again.handedOver, attempted.handedOver]
  rfl

end Tasks
end Motonet
