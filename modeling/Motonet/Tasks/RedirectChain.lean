import Motonet.Tasks.Run

/-!
# Redirect chains

The request loop of a download again, as the code runs it: with a counter of redirects, and with a
journal of the URLs that it requests and of the responses whose bodies it processes.  Without the
journal this is the loop of the download; with it, every server is shown to be kept within bounds.
-/

namespace Motonet
namespace Tasks

open OtaCore Firmware Fallible

/-- The requests of a download and the responses whose bodies it processed. -/
structure FetchJournal where
  requested : List String
  processed : List Response

namespace FetchJournal

def empty : FetchJournal := ⟨[], []⟩

/-- Note a request. -/
def request (journal : FetchJournal) (url : String) : FetchJournal :=
  { journal with requested := journal.requested ++ [url] }

/-- Note a response whose body is processed. -/
def process (journal : FetchJournal) (response : Response) : FetchJournal :=
  { journal with processed := journal.processed ++ [response] }

end FetchJournal

section Turns

variable (crypto : CryptoPrimitives) (env : Environment) (args : BodyArgs) (downloadSize : ℕ)

/-- What a turn does with the response: process its body or find the next URL. -/
def takeResponse (redirects : ℕ) (response : Response) :
    Fallible Halt (Device × FetchJournal) (EncryptedResult ⊕ String) := do
  if isRedirection response.status then
    let nextUrl ← Fallible.lift (redirectLocation response)
    Fallible.ensure (redirects < maxRedirects) (.err .tooManyRedirects)
    Fallible.ensure
      (startsWith nextUrl "https://" = true ∧ validateOtaUrlPolicy nextUrl = .ok ())
      (.err .redirectRejected)
    return .inr nextUrl
  else
    Fallible.lift (validateResponseMetadata response downloadSize)
    record fun _ journal => journal.process response
    let result ← unrecorded
      (Fallible.extend response.body (processEncryptedBody crypto env.faults args))
    return .inl result

/-- One turn of the loop of `fetch_and_process_encrypted`: the result or the next URL. -/
def fetchTurn (redirects : ℕ) (currentUrl : String) :
    Fallible Halt (Device × FetchJournal) (EncryptedResult ⊕ String) := do
  Fallible.lift (acquireForUrl currentUrl (env.tlsFree redirects))
  record fun _ journal => journal.request currentUrl
  let response ← Fallible.lift (request env redirects currentUrl)
  takeResponse crypto env args downloadSize redirects response

/-- The loop for a number of turns, with nothing as the outcome if it has not ended by then. -/
def fetchTurns : ℕ → ℕ → String → Fallible Halt (Device × FetchJournal) (Option EncryptedResult)
  | 0, _, _ => return none
  | turns + 1, redirects, currentUrl => do
      match ← fetchTurn crypto env args downloadSize redirects currentUrl with
      | .inl result => return some result
      | .inr nextUrl => fetchTurns turns (redirects + 1) nextUrl

/-- `fetch_and_process_encrypted` with a journal, for a number of turns of its loop. -/
def fetchJournaled (turns : ℕ) (url : String) :
    Fallible Halt (Device × FetchJournal) (Option EncryptedResult) := do
  let currentUrl ← Fallible.lift (boundedUrl url)
  fetchTurns crypto env args downloadSize turns 0 currentUrl

end Turns

/-! ## The journal -/

namespace FetchJournal

/-- What every server is held to. -/
structure Safe (downloadSize : ℕ) (journal : FetchJournal) : Prop where
  few : journal.requested.length ≤ maxRedirects + 1
  allowed : ∀ url ∈ journal.requested, validateOtaUrlPolicy url = .ok ()
  upgraded : ∀ url ∈ journal.requested.tail, startsWith url "https://" = true
  once : journal.processed.length ≤ 1
  plain : ∀ response ∈ journal.processed,
    response.status = 200 ∧ response.contentLength = some downloadSize ∧ response.chunked = false

/-- Only requests have been made, as many as there were redirects. -/
structure Requests (redirects : ℕ) (journal : FetchJournal) : Prop where
  unprocessed : journal.processed = []
  count : journal.requested.length = redirects
  allowed : ∀ url ∈ journal.requested, validateOtaUrlPolicy url = .ok ()
  upgraded : ∀ url ∈ journal.requested.tail, startsWith url "https://" = true

/-- The loop is about to request a URL. -/
structure Awaits (redirects : ℕ) (currentUrl : String) (journal : FetchJournal) : Prop extends
    Requests redirects journal where
  within : redirects ≤ maxRedirects
  next_allowed : validateOtaUrlPolicy currentUrl = .ok ()
  next_upgraded : 0 < redirects → startsWith currentUrl "https://" = true

variable {downloadSize redirects : ℕ} {currentUrl : String} {journal : FetchJournal}

/-- What the checks on a response have found. -/
theorem of_validateResponseMetadata {response : Response}
    (valid : validateResponseMetadata response downloadSize = .ok ()) :
    response.status = 200 ∧ response.contentLength = some downloadSize ∧
      response.chunked = false := by
  unfold validateResponseMetadata at valid
  by_cases status : response.status = 200
  · cases declared : response.contentLength with
    | none => simp [status, declared] at valid
    | some contentLength =>
        by_cases length : contentLength = downloadSize
        · cases chunked : response.chunked with
          | false => exact ⟨status, congrArg some length, rfl⟩
          | true => simp [status, declared, length, chunked] at valid
        · simp [status, declared, length] at valid
  · simp [status] at valid

theorem Requests.safe (requests : journal.Requests redirects)
    (within : redirects ≤ maxRedirects + 1) :
    journal.Safe downloadSize where
  few := requests.count.trans_le within
  allowed := requests.allowed
  upgraded := requests.upgraded
  once := by
    rw [requests.unprocessed]
    exact Nat.zero_le 1
  plain := by
    rw [requests.unprocessed]
    nofun

theorem awaits_empty (allowed : validateOtaUrlPolicy currentUrl = .ok ()) :
    empty.Awaits 0 currentUrl where
  unprocessed := rfl
  count := rfl
  allowed := nofun
  upgraded := nofun
  within := Nat.zero_le _
  next_allowed := allowed
  next_upgraded := nofun

/-- A request of an awaited URL keeps the requests in order. -/
theorem Awaits.request (awaits : journal.Awaits redirects currentUrl) :
    (journal.request currentUrl).Requests (redirects + 1) where
  unprocessed := awaits.unprocessed
  count := by rw [FetchJournal.request, List.length_append, awaits.count, List.length_singleton]
  allowed := by
    intro url member
    obtain earlier | last := List.mem_append.mp member
    · exact awaits.allowed url earlier
    · rw [List.mem_singleton.mp last]
      exact awaits.next_allowed
  upgraded := by
    intro url member
    by_cases first : journal.requested = []
    · rw [FetchJournal.request, first] at member
      exact absurd member List.not_mem_nil
    · rw [FetchJournal.request, List.tail_append_of_ne_nil first] at member
      obtain earlier | last := List.mem_append.mp member
      · exact awaits.upgraded url earlier
      · rw [List.mem_singleton.mp last]
        refine awaits.next_upgraded ?_
        rw [← awaits.count]
        exact List.length_pos_of_ne_nil first

/-- The only body that is processed is that of a plain response. -/
theorem Requests.process (requests : journal.Requests redirects)
    (within : redirects ≤ maxRedirects + 1) {response : Response}
    (valid : validateResponseMetadata response downloadSize = .ok ()) :
    (journal.process response).Safe downloadSize where
  few := requests.count.trans_le within
  allowed := requests.allowed
  upgraded := requests.upgraded
  once := by
    rw [FetchJournal.process, requests.unprocessed]
    exact le_refl 1
  plain := by
    intro processed member
    rw [FetchJournal.process, requests.unprocessed, List.nil_append,
      List.mem_singleton] at member
    rw [member]
    exact of_validateResponseMetadata valid

end FetchJournal

section Runs

variable {crypto : CryptoPrimitives} {env : Environment} {args : BodyArgs} {downloadSize : ℕ}

/-- What a turn may leave behind. -/
def TurnOutcome (downloadSize redirects : ℕ) (outcome : EncryptedResult ⊕ String)
    (state : Device × FetchJournal) : Prop :=
  match outcome with
  | .inl _ => state.2.Safe downloadSize
  | .inr nextUrl => state.2.Awaits (redirects + 1) nextUrl

/-- A response is processed or leads to a URL that may be requested. -/
theorem takeResponse_journal {redirects : ℕ} (within : redirects ≤ maxRedirects)
    (response : Response) :
    Triple (fun state => state.2.Requests (redirects + 1))
      (takeResponse crypto env args downloadSize redirects response)
      (TurnOutcome downloadSize redirects) fun _ state => state.2.Safe downloadSize := by
  have few := Nat.succ_le_succ within
  unfold takeResponse
  split_ifs
  · refine .lift_bind (fun _ _ state requests => requests.safe few) fun nextUrl _ => ?_
    refine .ensure_bind (fun _ state requests => requests.safe few) fun more => ?_
    refine .ensure_bind (fun _ state requests => requests.safe few) fun accepted => ?_
    exact .pure _ fun state requests => ⟨requests, more, accepted.2, fun _ => accepted.1⟩
  · refine .lift_bind (fun _ _ state requests => requests.safe few) fun _ valid => ?_
    refine .record_bind ?_
      (.bind (.unrecorded _ (FetchJournal.Safe downloadSize)) fun _ => .pure _ fun _ safe => safe)
    exact fun state requests => requests.process few valid

/-- One turn ends within bounds, or goes on with a URL that may be requested. -/
theorem fetchTurn_journal (redirects : ℕ) (currentUrl : String) :
    Triple (fun state => state.2.Awaits redirects currentUrl)
      (fetchTurn crypto env args downloadSize redirects currentUrl)
      (TurnOutcome downloadSize redirects) fun _ state => state.2.Safe downloadSize := by
  refine .of_each fun start awaits => ?_
  have asked : Triple (fun state => state.2.Requests (redirects + 1))
      (Fallible.lift (request env redirects currentUrl) >>=
        takeResponse crypto env args downloadSize redirects)
      (TurnOutcome downloadSize redirects) fun _ state => state.2.Safe downloadSize :=
    .lift_bind (fun _ _ state requests => requests.safe (Nat.succ_le_succ awaits.within))
      fun response _ => takeResponse_journal awaits.within response
  refine .lift_bind (fun _ _ state same => ?_) fun _ _ => .record_bind (fun state same => ?_) asked
  · rw [same]
    exact awaits.safe (Nat.le_succ_of_le awaits.within)
  · rw [same]
    exact awaits.request

/-- The loop stays within bounds for any number of turns, and it has ended after as many turns as
there are redirects, and one more. -/
theorem fetchTurns_journal (turns redirects : ℕ) (currentUrl : String) :
    Triple (fun state => state.2.Awaits redirects currentUrl)
      (fetchTurns crypto env args downloadSize turns redirects currentUrl)
      (fun outcome state => state.2.Safe downloadSize ∧
        (maxRedirects < redirects + turns → outcome.isSome = true))
      fun _ state => state.2.Safe downloadSize := by
  induction turns generalizing redirects currentUrl with
  | zero =>
      exact .pure _ fun state awaits => ⟨awaits.safe (Nat.le_succ_of_le awaits.within),
        fun beyond => absurd beyond (Nat.not_lt.mpr awaits.within)⟩
  | succ turns ih =>
      refine .bind (fetchTurn_journal redirects currentUrl) fun outcome => ?_
      cases outcome with
      | inl result => exact .pure _ fun state safe => ⟨safe, fun _ => rfl⟩
      | inr nextUrl =>
          refine (ih (redirects + 1) nextUrl).consequence (fun _ awaits => awaits) ?_
            fun _ _ safe => safe
          rintro outcome state ⟨safe, ended⟩
          exact ⟨safe, fun beyond => ended (by omega)⟩

/-- Without the journal, the body of a response that is no redirect is processed. -/
theorem erases_takeResponse {response : Response} (direct : ¬ isRedirection response.status = true)
    (redirects : ℕ)
    {next :
      EncryptedResult ⊕ String → Fallible Halt (Device × FetchJournal) (Option EncryptedResult)}
    (ends : ∀ result, next (.inl result) = pure (some result)) :
    Erases (takeResponse crypto env args downloadSize redirects response >>= next)
      (do
        Fallible.lift (validateResponseMetadata response downloadSize)
        let result ← Fallible.extend response.body (processEncryptedBody crypto env.faults args)
        return some result) := by
  rw [takeResponse, if_neg direct]
  simp only [bind_assoc, pure_bind, ends]
  exact .bind (.lift _) fun _ => .record_bind (.bind (.unrecorded _) fun _ => .pure _)

/-- Without the journal, the turns are the loop of the download. -/
theorem erases_fetchTurns {left turns : ℕ} (within : left ≤ maxRedirects) (enough : left < turns)
    (currentUrl : String) :
    Erases (fetchTurns crypto env args downloadSize turns (maxRedirects - left) currentUrl)
      (do
        let result ← fetchLoop crypto env args downloadSize left currentUrl
        return some result) := by
  induction left generalizing turns currentUrl with
  | zero =>
      obtain ⟨turns, rfl⟩ : ∃ more, turns = more + 1 := ⟨turns - 1, by omega⟩
      rw [fetchTurns, fetchLoop, fetchTurn]
      simp only [bind_assoc]
      refine .bind (.lift _) fun _ => .record_bind (.bind (.lift _) fun response => ?_)
      split_ifs with redirected
      · rw [takeResponse, if_pos redirected]
        simp only [bind_assoc]
        refine .bind (.lift _) fun nextUrl => ?_
        rw [Nat.sub_zero, ensure, if_neg (Nat.lt_irrefl _)]
        exact .throw _
      · simp only [bind_assoc]
        exact erases_takeResponse redirected _ fun _ => rfl
  | succ left ih =>
      obtain ⟨turns, rfl⟩ : ∃ more, turns = more + 1 := ⟨turns - 1, by omega⟩
      have more : maxRedirects - (left + 1) < maxRedirects := by omega
      have counted : maxRedirects - (left + 1) + 1 = maxRedirects - left := by omega
      rw [fetchTurns, fetchLoop, fetchTurn]
      simp only [bind_assoc]
      refine .bind (.lift _) fun _ => .record_bind (.bind (.lift _) fun response => ?_)
      split_ifs with redirected
      · rw [takeResponse, if_pos redirected]
        simp only [bind_assoc]
        refine .bind (.lift _) fun nextUrl => ?_
        rw [ensure, if_pos more]
        simp only [pure_bind]
        refine .bind (.ensure _ _) fun _ => ?_
        rw [counted]
        exact ih (by omega) (by omega) nextUrl
      · simp only [bind_assoc]
        exact erases_takeResponse redirected _ fun _ => rfl

/-- Without the journal, enough turns are the download. -/
theorem erases_fetchJournaled {turns : ℕ} (enough : maxRedirects < turns) (url : String) :
    Erases (fetchJournaled crypto env args downloadSize turns url)
      (do
        let result ← fetchAndProcessEncrypted crypto env args downloadSize url
        return some result) := by
  unfold fetchJournaled fetchAndProcessEncrypted
  simp only [bind_assoc]
  exact .bind (.lift _) fun currentUrl => erases_fetchTurns (le_refl _) enough currentUrl

/-- A URL that fits its buffer is taken as it is. -/
theorem eq_of_boundedUrl {text url : String} (bounded : boundedUrl text = .ok url) :
    url = text := by
  unfold boundedUrl at bounded
  split_ifs at bounded
  exact (Except.ok.inj bounded).symm

/-- The whole loop stays within bounds, and ends. -/
theorem fetchJournaled_journal {url : String} (allowed : validateOtaUrlPolicy url = .ok ())
    (turns : ℕ) :
    Triple (fun state => state.2 = .empty)
      (fetchJournaled crypto env args downloadSize turns url)
      (fun outcome state => state.2.Safe downloadSize ∧
        (maxRedirects < turns → outcome.isSome = true))
      fun _ state => state.2.Safe downloadSize := by
  have awaits {state : Device × FetchJournal} (start : state.2 = .empty) :
      state.2.Awaits 0 url := by
    rw [start]
    exact FetchJournal.awaits_empty allowed
  refine .lift_bind (fun _ _ state start => (awaits start).safe (Nat.zero_le _))
    fun taken fits => ?_
  rw [eq_of_boundedUrl fits]
  refine (fetchTurns_journal turns 0 url).consequence (fun _ start => awaits start) ?_
    fun _ _ safe => safe
  rintro outcome state ⟨safe, ended⟩
  exact ⟨safe, fun enough => ended (by omega)⟩

end Runs

/-- The download of a manifest for a number of turns: its outcome, the device and the journal. -/
def fetchRun (crypto : CryptoPrimitives) (env : Environment) (args : BodyArgs)
    (manifest : OtaManifest) (turns : ℕ) (device : Device) :
    Except Halt (Option EncryptedResult) × Device × FetchJournal :=
  exec (fetchJournaled crypto env args manifest.downloadSize.toNat turns manifest.url)
    (device, .empty)

/-- The OTA task lets only manifests through whose URL is allowed. -/
theorem url_of_acceptManifest {config : Config} {bytes : List UInt8} {manifest : OtaManifest}
    (accepted : acceptManifest config bytes = some manifest) :
    validateOtaUrlPolicy manifest.url = .ok () := by
  unfold acceptManifest at accepted
  split at accepted
  · cases accepted
  · split at accepted
    · cases accepted
    · rename_i allowed
      split_ifs at accepted
      cases accepted
      exact allowed

/-- Whatever the server answers, the download of a manifest that the OTA task lets through makes a
bounded number of requests, all of them to allowed URLs and none after the first without TLS; it
processes at most one body, of a plain response of the declared length, and it ends. -/
theorem redirect_chain_safe {config : Config} {bytes : List UInt8} {manifest : OtaManifest}
    (accepted : acceptManifest config bytes = some manifest) (crypto : CryptoPrimitives)
    (env : Environment) (args : BodyArgs) (device : Device) (turns : ℕ) :
    (fetchRun crypto env args manifest turns device).2.2.Safe manifest.downloadSize.toNat ∧
      (maxRedirects < turns →
        (fetchRun crypto env args manifest turns device).1 ≠ .ok none ∧
          exec (do
              let result ← fetchAndProcessEncrypted crypto env args manifest.downloadSize.toNat
                manifest.url
              return some result) device =
            ((fetchRun crypto env args manifest turns device).1,
              (fetchRun crypto env args manifest turns device).2.1)) := by
  have journal : Triple (fun state => state.2 = .empty)
      (fetchJournaled crypto env args manifest.downloadSize.toNat turns manifest.url) _ _ :=
    fetchJournaled_journal (url_of_acceptManifest accepted) turns
  have outcome := journal (device, .empty) rfl
  refine ⟨?_, fun enough => ⟨fun unfinished => ?_,
    erases_fetchJournaled enough manifest.url (device, .empty)⟩⟩
  · rw [fetchRun]
    rcases executed : exec (fetchJournaled crypto env args manifest.downloadSize.toNat turns
      manifest.url) (device, FetchJournal.empty) with ⟨error | result, after⟩
    · rw [executed] at outcome
      exact outcome
    · rw [executed] at outcome
      exact outcome.1
  · rw [fetchRun] at unfinished
    rcases executed : exec (fetchJournaled crypto env args manifest.downloadSize.toNat turns
      manifest.url) (device, FetchJournal.empty) with ⟨error | result, after⟩
    · rw [executed] at unfinished
      cases unfinished
    · rw [executed] at unfinished outcome
      cases unfinished
      cases outcome.2 enough

/-- A server that sends the client around in circles. -/
def circling : Environment :=
  { unreachable with
    server := fun _ _ =>
      .response ⟨302, [("Location", asBytes "https://a.example/b")], none, false, []⟩ }

/-- The small manifest meets a server that never delivers. -/
theorem redirect_chain_safe_sample :
    (fetchRun sampleCrypto circling
        (bodyArgs ⟨sampleNonce, sampleInputs.masterKey, sampleInputs.masterKey,
          sampleInputs.manifestDigest⟩ .ota1 (smallManifest false))
        (smallManifest false) 4 sampleDevice).2.2.Safe 61 ∧
      (fetchRun sampleCrypto circling
        (bodyArgs ⟨sampleNonce, sampleInputs.masterKey, sampleInputs.masterKey,
          sampleInputs.manifestDigest⟩ .ota1 (smallManifest false))
        (smallManifest false) 4 sampleDevice).1 ≠ .ok none :=
  have chain := redirect_chain_safe (acceptManifest_small false) sampleCrypto circling
    (bodyArgs ⟨sampleNonce, sampleInputs.masterKey, sampleInputs.masterKey,
      sampleInputs.manifestDigest⟩ .ota1 (smallManifest false)) sampleDevice 4
  ⟨chain.1, (chain.2 (by decide)).1⟩

example : (fetchJournaled sampleCrypto circling ⟨⟨sampleNonce, sampleInputs.masterKey,
      sampleInputs.masterKey, sampleInputs.manifestDigest⟩, .ota1, 9⟩ 61 9
      "https://a.example/a").exec (sampleDevice, .empty) |>.2.2.requested =
    ["https://a.example/a", "https://a.example/b", "https://a.example/b",
      "https://a.example/b"] := by
  decide +kernel

end Tasks
end Motonet
