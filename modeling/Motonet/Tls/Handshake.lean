import Mathlib.Data.List.DropRight
import Motonet.Foundation.TransitionSystem
import Motonet.Tls.KeySchedule

/-!
# The handshake

The client as a state machine over the records of the server.  After `ServerHello` it accepts the
messages of the server in any order, encrypted or not, until `Finished` ends the flight.
-/

namespace Motonet
namespace Tls

open ByteReader ByteString Fallible Http

/-- `ServerRecord`. -/
inductive ServerRecord
  | handshake (message : ServerHandshake)
  | changeCipherSpec
  | alert (alert : Alert)
  | applicationData (header data : List UInt8)
  deriving DecidableEq

/-- `ServerRecord::decode`; of a record with several messages only the first one is read. -/
def ServerRecord.decode (record : Record) (transcript : List UInt8) :
    Except TlsError (ServerRecord × List UInt8) :=
  match record.contentType with
  | .invalid => throw .unimplemented
  | .changeCipherSpec => return (.changeCipherSpec, transcript)
  | .alert => return (.alert (← Alert.parse record.data), transcript)
  | .handshake => do
      let (message, transcript, _) ← ServerHandshake.read transcript record.data
      return (.handshake message, transcript)
  | .applicationData => return (.applicationData record.header record.data, transcript)

/-- `read` of the record reader: a record of the server, with its messages in the transcript. -/
def readServerRecord {σ : Type} [Read ErrorKind σ] (capacity : ℕ) :
    Fallible TlsHalt (σ × KeySchedule) ServerRecord := do
  let record ← zoom Prod.fst (fun state transport => (transport, state.2)) (readRecord capacity)
  let state ← update fun state => (state, state)
  let (record, transcript) ← lift
    ((ServerRecord.decode record state.2.transcript).mapError .err)
  update fun state => (record, (state.1, { state.2 with transcript := transcript }))

/-! ## Decryption -/

section Decryption

variable {α : Type} (suite : CipherSuite)
  (handle : KeySchedule → ServerRecord → α → Except TlsHalt α)

/-- The zeros behind the type of the content are dropped, if there is anything else. -/
def stripPadding (plaintext : List UInt8) : List UInt8 :=
  let stripped := plaintext.rdropWhile (· == 0)
  if stripped = [] then plaintext else stripped

/-- The messages in a record, one after the other; each takes at least a byte. -/
def handleMessages : ℕ → List UInt8 → KeySchedule × α → Except TlsHalt (KeySchedule × α)
  | _, [], state => return state
  | 0, _ :: _, _ => throw (.err .invalidHandshake)
  | fuel + 1, text, (keySchedule, value) => do
      let (message, transcript, rest) ←
        (ServerHandshake.read keySchedule.transcript text).mapError .err
      let keySchedule := { keySchedule with transcript := transcript }
      let value ← handle keySchedule (.handshake message) value
      handleMessages fuel rest (keySchedule, value)

variable {handle} in
/-- What each message keeps is kept by the messages of a record; each has its own transcript. -/
theorem handleMessages_keeps (holds : KeySchedule × α → Prop)
    (each : ∀ keySchedule transcript message value after, holds (keySchedule, value) →
      handle { keySchedule with transcript := transcript } (.handshake message) value = .ok after →
        holds ({ keySchedule with transcript := transcript }, after))
    {fuel : ℕ} {text : List UInt8} {before after : KeySchedule × α} (base : holds before)
    (returned : handleMessages handle fuel text before = .ok after) : holds after := by
  induction fuel generalizing text before with
  | zero =>
      cases text with
      | nil =>
          cases returned
          exact base
      | cons => cases returned
  | succ fuel ih =>
      cases text with
      | nil =>
          cases returned
          exact base
      | cons byte text =>
          obtain ⟨keySchedule, value⟩ := before
          rw [handleMessages] at returned
          obtain ⟨⟨message, transcript, rest⟩, -, second⟩ := Except.of_bind_eq_ok returned
          obtain ⟨middle, handled, last⟩ := Except.of_bind_eq_ok second
          exact ih (each _ _ _ _ _ base handled) last
          all_goals exact fun impossible => by cases impossible

/-- The content of a record that has been decrypted. -/
def handleContent (header plaintext : List UInt8) (state : KeySchedule × α) :
    Except TlsHalt (KeySchedule × α) :=
  let appData := stripPadding plaintext
  match appData.getLast? with
  | none => throw .panic
  | some last =>
      let content := appData.dropLast
      match ContentType.of last with
      | none => throw (.err .invalidRecord)
      | some .handshake => handleMessages handle content.length content state
      | some .applicationData => do
          return (state.1, ← handle state.1 (.applicationData header content) state.2)
      | some .alert => do
          let alert ← (Alert.parse content).mapError .err
          return (state.1, ← handle state.1 (.alert alert) state.2)
      | some _ => throw (.err .unimplemented)

/-- `decrypt_record`; a record that is not encrypted is handled as it is. -/
def decryptRecord (record : ServerRecord) (state : KeySchedule × α) :
    Except TlsHalt (KeySchedule × α) :=
  match record with
  | .applicationData header data => do
      let server := state.1.serverState
      match suite.decrypt server.key server.getNonce header data with
      | none => throw (.err .cryptoError)
      | some plaintext =>
          let (keySchedule, value) ← handleContent handle header plaintext state
          let serverState ← keySchedule.serverState.incrementCounter
          return ({ keySchedule with serverState := serverState }, value)
  | record => do return (state.1, ← handle state.1 record state.2)

section Keeps

variable {suite} {handle} {before after : KeySchedule × α}

/-- What each message keeps is kept by the content of a record. -/
theorem handleContent_keeps (holds : KeySchedule × α → Prop)
    (each : ∀ keySchedule transcript record value after, holds (keySchedule, value) →
      handle { keySchedule with transcript := transcript } record value = .ok after →
        holds ({ keySchedule with transcript := transcript }, after))
    {header plaintext : List UInt8} (base : holds before)
    (returned : handleContent handle header plaintext before = .ok after) : holds after := by
  dsimp only [handleContent] at returned
  split at returned
  · cases returned
  · split at returned
    · cases returned
    · exact handleMessages_keeps holds (fun _ _ _ _ _ held handled => each _ _ _ _ _ held handled)
        base returned
    · obtain ⟨value, handled, last⟩ := Except.of_bind_eq_ok returned
      cases last
      exact each before.1 before.1.transcript _ _ _ base handled
    · obtain ⟨alert, -, second⟩ := Except.of_bind_eq_ok returned
      obtain ⟨value, handled, last⟩ := Except.of_bind_eq_ok second
      cases last
      exact each before.1 before.1.transcript _ _ _ base handled
    · cases returned

/-- What each message and the counter of the server keep is kept by a record, encrypted or not. -/
theorem decryptRecord_keeps (holds : KeySchedule × α → Prop)
    (each : ∀ keySchedule transcript record value after, holds (keySchedule, value) →
      handle { keySchedule with transcript := transcript } record value = .ok after →
        holds ({ keySchedule with transcript := transcript }, after))
    (counts : ∀ keySchedule serverState value, holds (keySchedule, value) →
      holds ({ keySchedule with serverState := serverState }, value))
    {record : ServerRecord} (base : holds before)
    (returned : decryptRecord suite handle record before = .ok after) : holds after := by
  cases record with
  | applicationData header data =>
      dsimp only [decryptRecord] at returned
      split at returned
      · cases returned
      · obtain ⟨middle, handled, second⟩ := Except.of_bind_eq_ok returned
        obtain ⟨serverState, -, last⟩ := Except.of_bind_eq_ok second
        cases last
        exact counts _ serverState _ (handleContent_keeps holds each base handled)
  | _ =>
      obtain ⟨value, handled, last⟩ := Except.of_bind_eq_ok returned
      cases last
      exact each before.1 before.1.transcript _ _ _ base handled

end Keeps

end Decryption

/-! ## States -/

/-- `State`.  A client without a certificate of its own has no `ClientCertVerify`. -/
inductive State
  | clientHello
  | serverHello
  | serverVerify
  | clientCert
  | clientFinished
  | applicationData
  deriving DecidableEq, Repr

/-- What the client sends: `ClientRecord`, with what a message holds. -/
inductive ClientRecord
  | clientHello (message : List UInt8)
  | clientCert (requestContext : List UInt8)
  | finished (verify : List UInt8)
  | alert (alert : Alert)
  deriving DecidableEq

/-- What a connection is opened with: the encoded `ClientHello` and the secret to it, the size of
the read buffer, and whether sending fails after what has been sent. -/
structure Opening where
  clientHello : List UInt8
  secret : List UInt8
  capacity : ℕ
  sendFault : List ClientRecord → Option ErrorKind

/-- A connection while it is opened: the transport, what has been sent over it, the keys, the
verifier, and the data of `Handshake`. -/
structure Client (σ : Type) where
  transport : σ
  sent : List ClientRecord
  keySchedule : KeySchedule
  verifier : CertVerifier
  trafficHash : Option (List UInt8)
  secret : Option (List UInt8)
  certificateRequest : Option (List UInt8)

/-- What the messages of the server change. -/
structure Flight where
  state : State
  verifier : CertVerifier
  trafficHash : Option (List UInt8)
  certificateRequest : Option (List UInt8)

section Process

variable {σ : Type} [Read ErrorKind σ] (suite : CipherSuite) (now : Option UInt64)
  (opening : Opening)

/-- `respond`: a record is sent, and the counter of the client goes on. -/
def respond (record : ClientRecord) : Fallible TlsHalt (Client σ) Unit :=
  ExceptT.mk fun client =>
    match opening.sendFault client.sent with
    | some kind => (.error (.err (.io kind)), client)
    | none =>
        let client := { client with sent := client.sent ++ [record] }
        match client.keySchedule.clientState.incrementCounter with
        | .error halt => (.error halt, client)
        | .ok clientState =>
            (.ok (), { client with
              keySchedule := { client.keySchedule with clientState := clientState } })

/-- `process_server_hello`. -/
def processServerHello (record : ServerRecord) (client : Client σ) :
    Except TlsError (Client σ) :=
  match record with
  | .handshake (.serverHello keyShare) => do
      let secret ← required client.secret .invalidHandshake
      let shared ← required (keyShare >>= suite.diffieHellman secret) .invalidKeyShare
      return { client with
        secret := none
        keySchedule := client.keySchedule.initializeHandshakeSecret suite shared }
  | .handshake _ => throw .invalidHandshake
  | .alert alert => throw (.handshakeAborted alert.level alert.description)
  | _ => throw .invalidRecord

/-- What `process_server_verify` does with each message. -/
def handleServerVerify (keySchedule : KeySchedule) (record : ServerRecord) (flight : Flight) :
    Except TlsHalt Flight :=
  match record with
  | .handshake .encryptedExtensions => return flight
  | .handshake (.certificate certificate) => do
      let verifier ← (flight.verifier.verifyCertificate suite.pki now keySchedule.transcript
        certificate).mapError .err
      return { flight with verifier := verifier }
  | .handshake (.certificateVerify verify) => do
      return { flight with verifier := ← flight.verifier.verifySignature suite.pki verify }
  | .handshake (.certificateRequest requestContext) =>
      if 256 < requestContext.length then throw (.err .insufficientSpace)
      else return { flight with certificateRequest := some requestContext }
  | .handshake (.finished verify hash) => do
      let verified ← (keySchedule.verifyServerFinished suite verify hash).mapError .err
      if verified = false then throw (.err .invalidSignature)
      else if flight.certificateRequest.isSome then return { flight with state := .clientCert }
      else return { flight with
        trafficHash := some keySchedule.transcript
        state := .clientFinished }
  | .handshake _ => throw (.err .invalidHandshake)
  | .changeCipherSpec => return flight
  | _ => throw (.err .invalidRecord)

/-- `process_server_verify`. -/
def processServerVerify (record : ServerRecord) (client : Client σ) :
    Except TlsHalt (State × Client σ) := do
  let (keySchedule, flight) ← decryptRecord suite (handleServerVerify suite now) record
    (client.keySchedule,
      ⟨.serverVerify, client.verifier, client.trafficHash, client.certificateRequest⟩)
  return (flight.state, { client with
    keySchedule := keySchedule
    verifier := flight.verifier
    trafficHash := flight.trafficHash
    certificateRequest := flight.certificateRequest })

/-- `handle_processing_error`: before some errors an alert is sent. -/
def handleProcessingError {α : Type} (result : Except TlsHalt α) :
    Fallible TlsHalt (Client σ) α :=
  match result with
  | .ok value => pure value
  | .error (.err (.abortHandshake level description)) => do
      respond opening (.alert ⟨level, description⟩)
      throw (.err (.abortHandshake level description))
  | .error halt => throw halt

/-- A record for the client. -/
def Client.nextRecord : Fallible TlsHalt (Client σ) ServerRecord :=
  zoom (fun client => (client.transport, client.keySchedule))
    (fun client state => { client with transport := state.1, keySchedule := state.2 })
    (readServerRecord opening.capacity)

/-- The encoded `Certificate` of a client that has none. -/
def noCertificate (requestContext : List UInt8) : List UInt8 :=
  11 :: toBigEndian 3 (requestContext.length + 4) ++ toBigEndian 1 requestContext.length ++
    requestContext ++ toBigEndian 3 0

/-- `process`, for a client without a certificate. -/
def process : State → Fallible TlsHalt (Client σ) State
  | .clientHello => do
      update fun client => ((), { client with
        keySchedule := { client.keySchedule.initializeEarlySecret suite with
          transcript := client.keySchedule.transcript ++ opening.clientHello }
        secret := some opening.secret })
      respond opening (.clientHello opening.clientHello)
      return .serverHello
  | .serverHello => do
      let record ← Client.nextRecord opening
      let client ← update fun client => (client, client)
      let client ← handleProcessingError opening
        ((processServerHello suite record client).mapError .err)
      update fun _ => (.serverVerify, client)
  | .serverVerify => do
      let record ← Client.nextRecord opening
      let client ← update fun client => (client, client)
      let (state, client) ← handleProcessingError opening
        (processServerVerify suite now record client)
      update fun _ => (state, client)
  | .clientCert => do
      let client ← update fun client => (client, { client with
        trafficHash := some client.keySchedule.transcript })
      let requestContext ← lift
        ((required client.certificateRequest .invalidHandshake).mapError .err)
      update fun client => ((), { client with
        keySchedule := { client.keySchedule with
          transcript := client.keySchedule.transcript ++ noCertificate requestContext } })
      respond opening (.clientCert requestContext)
      return .clientFinished
  | .clientFinished => do
      let client ← update fun client => (client, client)
      let verify ← lift ((client.keySchedule.createClientFinished suite).mapError
        fun _ => .err .invalidHandshake)
      respond opening (.finished verify)
      let trafficHash ← lift ((required client.trafficHash .invalidHandshake).mapError .err)
      update fun client => (.applicationData, { client with
        trafficHash := none
        keySchedule := KeySchedule.initializeMasterSecret suite
          { client.keySchedule with transcript := trafficHash } })
  | .applicationData => return .applicationData

end Process

end Tls
end Motonet
