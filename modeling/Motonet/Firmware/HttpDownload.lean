import Motonet.Firmware.EncryptedBody
import Motonet.Foundation.DataRefinement
import Motonet.Http.Response

/-!
# The download over the HTTP client

The download again, down to the connections: responses are read from them by the HTTP client, and
the chunk loop reads its body through the client's buffer.  A stalled connection counts as one that
ends with an error.  Whatever the pieces are in which the bytes arrive, this is the download from an
environment whose servers answer with the meaning of those bytes.
-/

namespace Motonet
namespace Firmware

open ByteReader ByteString OtaCore Fallible
open Http (HeadParser HttpConnection HttpError BodyReader BufferingReader ErrorKind headIn)

/-! ## The chunk loop on any reader -/

section Body

variable {ρ α : Type}

/-- A program on the reader. -/
def onBody (program : Fallible OtaFlashWriteError ρ α) : Fallible Halt (Device × ρ) α :=
  zoom Prod.snd (fun state reader => (state.1, reader)) (mapError Halt.err program)

/-- A program on the device. -/
def onFlash (program : Fallible Halt Device α) : Fallible Halt (Device × ρ) α :=
  zoom Prod.fst (fun state device => (device, state.2)) program

variable [BufRead HttpError ρ]

/-- `read_exact`. -/
def readExactFrom (len : ℕ) : Fallible OtaFlashWriteError ρ (List UInt8) :=
  ByteReader.readExact .readFailed len

variable (crypto : CryptoPrimitives) (faults : FlashFaults) (args : BodyArgs)

/-- One iteration of the chunk loop. -/
def processChunkFrom (progress : BodyProgress) (chunkIndex : ℕ) :
    Fallible Halt (Device × ρ) BodyProgress := do
  let lenBuf ← onBody (readExactFrom 4)
  let ciphertextLen := ofBigEndian lenBuf
  let expectedLen ← lift (expectedChunkLen args.imageSize.toNat chunkIndex)
  ensure (ciphertextLen = expectedLen) (.err .chunkTruncated)
  ensure (ciphertextLen ≤ encChunkSize) .panic
  let ct ← onBody (readExactFrom ciphertextLen)
  let tagBuf ← onBody (readExactFrom hmacTagSize)
  ensure
    (verifyChunkHmac crypto args.hmacKey args.manifestDigest chunkIndex progress.flashOffset
      ciphertextLen ct tagBuf = true) (.err .hmacMismatch)
  let plaintext ← lift
    ((aesCtrCryptInPlace crypto args.aesKey args.noncePrefix chunkIndex ct).mapError
      fun error => Halt.err (.aesError error))
  let progress ← lift (checkImagePrefix progress plaintext)
  onFlash (flashOperation
    (writeRegion args.slot progress.flashOffset plaintext (faults.write chunkIndex)))
  let copy := min plaintext.length (flashReadbackLen - progress.readbackLen)
  let flashOffset ← lift (checkedAdd progress.flashOffset ciphertextLen)
  let totalPlaintext ← lift (checkedAdd progress.totalPlaintext ciphertextLen)
  return { progress with
    totalPlaintext := totalPlaintext
    flashOffset := flashOffset
    shaHasher := progress.shaHasher ++ plaintext
    readbackHasher := progress.readbackHasher ++ plaintext.take copy
    readbackLen := progress.readbackLen + copy }

/-- Validate the header, then verify, decrypt and write the chunks one by one. -/
def processEncryptedBodyFrom : Fallible Halt (Device × ρ) EncryptedResult := do
  let header ← onBody (readExactFrom otaV2HeaderSize)
  lift ((validateOtaHeader header).mapError fun error => Halt.err (.ofHeader error))
  let progress ← (List.range (numChunks args.imageSize.toNat)).foldlM
    (processChunkFrom crypto faults args) BodyProgress.initial
  return {
    totalPlaintext := progress.totalPlaintext
    digest := crypto.sha256 progress.shaHasher
    readbackLen := progress.readbackLen
    readbackDigest := crypto.sha256 progress.readbackHasher }

end Body

/-! ## Fetching over connections -/

def httpHeaderBufSize : ℕ := 8 * 1024

theorem httpHeaderBufSize_pos : 0 < httpHeaderBufSize := by decide

/-- What a download meets, down to the connections: none is made where DNS, TCP, TLS or the request
fails. -/
structure Network where
  faults : FlashFaults
  slotSize : Slot → UInt32
  tlsFree : ℕ → ℕ → Bool
  parse : HeadParser
  connect : ℕ → String → Option HttpConnection

/-- What the download looks at in a response besides its body. -/
def viewResponse (response : Http.Response) (body : Reader) : Response where
  status := response.status.toNat
  headers := response.headers
  contentLength := response.contentLength
  chunked := .chunked ∈ response.transferEncoding
  body := body

/-- Send a request and read the head of the response. -/
def Network.respond (network : Network) (redirects : ℕ) (url : String) :
    Except Halt (Http.Response × HttpConnection) :=
  match network.connect redirects url with
  | none => throw (.err .httpConnect)
  | some connection =>
      match exec (Http.Response.read network.parse .get httpHeaderBufSize httpHeaderBufSize_pos)
        connection with
      | (.ok response, rest) => pure (response, rest)
      | (.error _, _) => throw (.err .httpConnect)

section Fetch

variable (crypto : CryptoPrimitives) (network : Network) (args : BodyArgs) (downloadSize : ℕ)

/-- The request loop with a number of redirects left. -/
def fetchLoopFrom : ℕ → String → Fallible Halt Device EncryptedResult
  | redirectsLeft, currentUrl => do
      let redirects := maxRedirects - redirectsLeft
      lift (acquireForUrl currentUrl (network.tlsFree redirects))
      let (response, connection) ← lift (network.respond redirects currentUrl)
      let view := viewResponse response []
      if isRedirection view.status then
        let nextUrl ← lift (redirectLocation view)
        match redirectsLeft with
        | 0 => throw (.err .tooManyRedirects)
        | redirectsLeft + 1 =>
            ensure (startsWith nextUrl "https://" = true ∧ validateOtaUrlPolicy nextUrl = .ok ())
              (.err .redirectRejected)
            fetchLoopFrom redirectsLeft nextUrl
      else
        lift (validateResponseMetadata view downloadSize)
        extend (response.reader connection) (processEncryptedBodyFrom crypto network.faults args)

/-- Fetch the image, following redirects, and process it chunk by chunk. -/
def fetchFrom (url : String) : Fallible Halt Device EncryptedResult := do
  let currentUrl ← lift (boundedUrl url)
  fetchLoopFrom crypto network args downloadSize maxRedirects currentUrl

end Fetch

/-! ## The environment behind a network -/

/-- The bytes of a body. -/
def bodyBytes (response : Http.Response) (connection : HttpConnection) : List UInt8 :=
  ((response.reader connection).contents BufferingReader.contents).bytes

/-- The environment in which the bytes of a body arrive in one piece. -/
def Network.environment (network : Network) : Environment where
  faults := network.faults
  slotSize := network.slotSize
  tlsFree := network.tlsFree
  server redirects url :=
    match network.respond redirects url with
    | .error _ => .sendFailed
    | .ok (response, connection) =>
        .response (viewResponse response [.slice (bodyBytes response connection)])

/-- A body reader and the answers that stand for it. -/
def SameBytes {ρ : Type} (contents : ρ → Contents HttpError) (body : ρ) (reader : Reader) : Prop :=
  (contents body).bytes = available reader

/-- Reading from the answers. -/
theorem readExactLoop_eq (missing : ℕ) (reader : Reader) (ending : Except HttpError Unit) :
    (readExactLoop missing reader).1 =
        (⟨available reader, ending⟩ : Contents HttpError).takeExactly .readFailed missing ∧
      ((readExactLoop missing reader).1.isOk →
        available (readExactLoop missing reader).2 = (available reader).drop missing) := by
  have spec := readExactLoop_spec missing reader
  rcases outcome : readExactLoop missing reader with ⟨error | bytes, rest⟩ <;>
    simp only [outcome] at spec ⊢
  · obtain ⟨rfl, short⟩ := spec
    refine ⟨(if_neg (Nat.not_le.mpr short)).symm, fun impossible => ?_⟩
    cases impossible
  · obtain ⟨length, split⟩ := spec
    rw [split, ← length, List.drop_left]
    refine ⟨Eq.symm (Contents.takeExactly_eq_ok_iff.mpr ⟨rfl, ?_⟩), fun _ => rfl⟩
    simp only [Contents.drop, Contents.prepend, List.drop_left]

section Refinement

variable {ρ α : Type} [BufRead HttpError ρ] {contents : ρ → Contents HttpError}

/-- Reading an exact number of bytes is the same on both sides. -/
theorem readExactFrom_refines (fills : Fills contents) (len : ℕ) :
    Refines (SameBytes contents) (fun _ _ => True) (readExactFrom len) (readExact len) := by
  intro body reader same
  obtain ⟨result, kept⟩ := fills.readExact_spec OtaFlashWriteError.readFailed len body
  obtain ⟨result', kept'⟩ := readExactLoop_eq len reader (contents body).ending
  have start : (⟨available reader, (contents body).ending⟩ : Contents HttpError) =
      contents body := by
    rw [← same]
  rw [start, ← result] at result'
  have executed : exec (readExact len) reader = readExactLoop len reader := rfl
  rw [executed, readExactFrom]
  rcases outcome : exec (ByteReader.readExact OtaFlashWriteError.readFailed len) body with
    ⟨error | bytes, after⟩ <;> rcases outcome' : readExactLoop len reader with
      ⟨error' | bytes', after'⟩ <;> rw [outcome, outcome'] at result'
  · cases result'
    exact .failed error trivial
  · cases result'
  · cases result'
  · cases result'
    rw [outcome] at kept
    rw [outcome'] at kept'
    refine .returned bytes ?_
    have left : contents after = (contents body).drop len := kept rfl
    have right : available after' = (available reader).drop len := kept' rfl
    rw [SameBytes, left, right, ← same]
    rfl

/-- From related readers. -/
abbrev BodyRefines (contents : ρ → Contents HttpError) (concrete : Fallible Halt (Device × ρ) α)
    (abstract : Fallible Halt (Device × Reader) α) : Prop :=
  Refines (Beside (SameBytes contents)) SameFirst concrete abstract

theorem onBody_refines (fills : Fills contents) (len : ℕ) :
    BodyRefines contents (onBody (readExactFrom len)) (onReader (readExact len)) :=
  ((readExactFrom_refines fills len).mapError Halt.err).second

theorem processChunkFrom_refines (fills : Fills contents) (crypto : CryptoPrimitives)
    (faults : FlashFaults) (args : BodyArgs) (progress : BodyProgress) (chunkIndex : ℕ) :
    BodyRefines contents (processChunkFrom crypto faults args progress chunkIndex)
      (processChunk crypto faults args progress chunkIndex) := by
  refine (onBody_refines fills 4).bind fun lenBuf => ?_
  refine (Refines.lift sameFirst_of_beside _).bind fun expectedLen => ?_
  refine (Refines.ensure sameFirst_of_beside _ _).bind fun _ => ?_
  refine (Refines.ensure sameFirst_of_beside _ _).bind fun _ => ?_
  refine (onBody_refines fills _).bind fun ct => ?_
  refine (onBody_refines fills hmacTagSize).bind fun tagBuf => ?_
  refine (Refines.ensure sameFirst_of_beside _ _).bind fun _ => ?_
  refine (Refines.lift sameFirst_of_beside _).bind fun plaintext => ?_
  refine (Refines.lift sameFirst_of_beside _).bind fun checked => ?_
  refine (Refines.first _).bind fun _ => ?_
  refine (Refines.lift sameFirst_of_beside _).bind fun flashOffset => ?_
  exact (Refines.lift sameFirst_of_beside _).bind fun totalPlaintext => Refines.pure _

/-- The chunk loop does the same on a reader as on the answers that stand for it. -/
theorem processEncryptedBodyFrom_refines (fills : Fills contents) (crypto : CryptoPrimitives)
    (faults : FlashFaults) (args : BodyArgs) :
    BodyRefines contents (processEncryptedBodyFrom crypto faults args)
      (processEncryptedBody crypto faults args) := by
  refine (onBody_refines fills otaV2HeaderSize).bind fun header => ?_
  refine (Refines.lift sameFirst_of_beside _).bind fun _ => ?_
  refine (Refines.foldlM (fun progress chunkIndex =>
    processChunkFrom_refines fills crypto faults args progress chunkIndex) _ _).bind fun _ => ?_
  exact Refines.pure _

end Refinement

/-- A request fails in one way only. -/
theorem Network.respond_error {network : Network} {redirects : ℕ} {url : String} {halt : Halt}
    (failed : network.respond redirects url = .error halt) : halt = .err .httpConnect := by
  unfold respond at failed
  split at failed
  · cases failed
    rfl
  · split at failed <;> cases failed
    rfl

/-- The environment answers a request like the network. -/
theorem request_environment (network : Network) (redirects : ℕ) (url : String) :
    request network.environment redirects url =
      (network.respond redirects url).map fun answer =>
        viewResponse answer.1 [.slice (bodyBytes answer.1 answer.2)] := by
  unfold request Network.environment
  dsimp only
  cases responded : network.respond redirects url with
  | error halt =>
      rw [Network.respond_error responded]
      rfl
  | ok answer => rfl

section Fetch

variable (crypto : CryptoPrimitives) (network : Network) (args : BodyArgs) (downloadSize : ℕ)

/-- The body is processed like the answers that stand for it. -/
theorem extend_reader (response : Http.Response) (connection : HttpConnection) (device : Device) :
    exec (extend (response.reader connection)
        (processEncryptedBodyFrom crypto network.faults args)) device =
      exec (extend [.slice (bodyBytes response connection)]
        (processEncryptedBody crypto network.faults args)) device := by
  refine (processEncryptedBodyFrom_refines (BodyReader.fills BufferingReader.reads
    BufferingReader.fills) crypto network.faults args).exec_extend ?_ device
  rw [SameBytes, ← bodyBytes]
  cases empty : (bodyBytes response connection).isEmpty with
  | true =>
      rw [available, empty, List.isEmpty_iff.mp empty]
      rfl
  | false =>
      rw [available, empty]
      exact (List.append_nil _).symm

private theorem fetchLoopFrom_step {redirectsLeft : ℕ} (url : String)
    (next : ∀ fewer nextUrl, redirectsLeft = fewer + 1 →
      Refines Eq Eq (fetchLoopFrom crypto network args downloadSize fewer nextUrl)
        (fetchLoop crypto network.environment args downloadSize fewer nextUrl)) :
    Refines Eq Eq (fetchLoopFrom crypto network args downloadSize redirectsLeft url)
      (fetchLoop crypto network.environment args downloadSize redirectsLeft url) := by
  unfold fetchLoopFrom fetchLoop
  refine (Refines.refl _).bind fun _ => ?_
  rw [request_environment]
  refine Refines.lift_map_bind (fun _ _ => id) _ _ ?_
  rintro ⟨response, connection⟩
  refine Refines.ite ?_ ?_
  · refine (Refines.refl _).bind fun nextUrl => ?_
    cases redirectsLeft with
    | zero => exact Refines.refl _
    | succ fewer => exact (Refines.refl _).bind fun _ => next fewer nextUrl rfl
  · refine (Refines.refl _).bind fun _ => ?_
    exact Refines.of_exec_eq fun device => extend_reader crypto network args response _ device

theorem fetchLoopFrom_refines (redirectsLeft : ℕ) (url : String) :
    Refines Eq Eq (fetchLoopFrom crypto network args downloadSize redirectsLeft url)
      (fetchLoop crypto network.environment args downloadSize redirectsLeft url) := by
  induction redirectsLeft generalizing url with
  | zero =>
      refine fetchLoopFrom_step crypto network args downloadSize url fun fewer nextUrl same => ?_
      cases same
  | succ redirectsLeft ih =>
      refine fetchLoopFrom_step crypto network args downloadSize url fun fewer nextUrl same => ?_
      cases same
      exact ih nextUrl

/-- Whatever the servers send and however it arrives, the download does what it does in the
environment whose answers carry the bytes of the bodies. -/
theorem fetchFrom_eq (url : String) (device : Device) :
    exec (fetchFrom crypto network args downloadSize url) device =
      exec (fetchAndProcessEncrypted crypto network.environment args downloadSize url) device :=
  ((Refines.refl _).bind fun currentUrl =>
    fetchLoopFrom_refines crypto network args downloadSize maxRedirects currentUrl).exec_eq device

end Fetch

/-! ## Pieces do not matter -/

/-- No server sends more than it has announced. -/
def Network.Framed (network : Network) : Prop :=
  ∀ redirects url connection, network.connect redirects url = some connection →
    Http.Response.Framed network.parse .get httpHeaderBufSize_pos connection.contents

/-- The answer in the bytes of a connection. -/
def answerOf (parse : HeadParser) (connection : Option HttpConnection) : Exchange :=
  match connection.bind fun connection =>
    Http.Response.ofContents parse .get httpHeaderBufSize_pos connection.contents with
  | none => .sendFailed
  | some (response, contents) => .response (viewResponse response [.slice contents.bytes])

/-- The environment answers with what the bytes of the connections mean. -/
theorem server_environment {network : Network} (incremental : network.parse.Incremental)
    {redirects : ℕ} {url : String}
    (framed : ∀ connection, network.connect redirects url = some connection →
      Http.Response.Framed network.parse .get httpHeaderBufSize_pos connection.contents) :
    network.environment.server redirects url =
      answerOf network.parse (network.connect redirects url) := by
  unfold Network.environment Network.respond answerOf
  dsimp only
  cases connected : network.connect redirects url with
  | none => rfl
  | some connection =>
      have meaning := Http.Response.read_eq incremental .get httpHeaderBufSize_pos connection
        (framed connection connected)
      rcases executed : exec (Http.Response.read network.parse .get httpHeaderBufSize
          httpHeaderBufSize_pos) connection with ⟨error | response, after⟩ <;>
        rw [executed] at meaning <;> dsimp only at meaning ⊢ <;>
        rw [executed, Option.bind_some, meaning] <;> rfl

/-- In two networks the same bytes arrive, in pieces of their own and with or without TLS. -/
structure SameContents (left right : Network) : Prop where
  faults : left.faults = right.faults
  slotSize : left.slotSize = right.slotSize
  tlsFree : left.tlsFree = right.tlsFree
  parse : left.parse = right.parse
  connect : ∀ redirects url, (left.connect redirects url).map HttpConnection.contents =
    (right.connect redirects url).map HttpConnection.contents

namespace SameContents

variable {left right : Network}

theorem framed (same : SameContents left right) (framed : left.Framed) : right.Framed := by
  intro redirects url connection connected
  have contents := same.connect redirects url
  rw [connected, Option.map_some, Option.map_eq_some_iff] at contents
  obtain ⟨other, other_connected, contents⟩ := contents
  rw [← contents, ← same.parse]
  exact framed redirects url other other_connected

theorem answerOf_eq (same : SameContents left right) (redirects : ℕ) (url : String) :
    answerOf left.parse (left.connect redirects url) =
      answerOf right.parse (right.connect redirects url) := by
  have contents := same.connect redirects url
  rw [same.parse]
  unfold answerOf
  cases connected : left.connect redirects url with
  | none =>
      rw [connected, Option.map_none, eq_comm, Option.map_eq_none_iff] at contents
      rw [contents]
  | some connection =>
      rw [connected, Option.map_some, eq_comm, Option.map_eq_some_iff] at contents
      obtain ⟨other, other_connected, contents⟩ := contents
      rw [other_connected, Option.bind_some, Option.bind_some, contents]

theorem environment_eq (same : SameContents left right) (incremental : left.parse.Incremental)
    (framed : left.Framed) : left.environment = right.environment := by
  have server : left.environment.server = right.environment.server := by
    funext redirects url
    rw [server_environment incremental (framed redirects url),
      server_environment (same.parse ▸ incremental) (same.framed framed redirects url),
      same.answerOf_eq]
  unfold Network.environment at server ⊢
  rw [Environment.mk.injEq]
  exact ⟨same.faults, same.slotSize, same.tlsFree, server⟩

end SameContents

end Firmware
end Motonet
