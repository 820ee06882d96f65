import Motonet.Foundation.Sha256
import Motonet.Tls.Handshake

/-!
# Opening a connection

The loop of `open`.  After `ServerHello` one record with the rest of the flight opens a connection,
whatever messages are in it before `Finished`; and none has to be: whoever agrees on a shared secret
with the client can open the connection, for every authority and every host.
-/

namespace Motonet
namespace Tls

open ByteReader ByteString Fallible Http

section Runs

variable {σ : Type} [Read ErrorKind σ] (suite : CipherSuite) (now : Option UInt64)
  (opening : Opening)

/-- A connection that is about to be opened; the verifier knows the host. -/
def Client.start (transport : σ) (verifier : CertVerifier) : Client σ where
  transport := transport
  sent := []
  keySchedule := .new
  verifier := verifier
  trafficHash := none
  secret := none
  certificateRequest := none

/-- The loop of `open`: the states until the data of the application. -/
def openSystem (transport : σ) (verifier : CertVerifier) :
    TransitionSystem (State × Client σ) Unit where
  initial := (· = (.clientHello, .start transport verifier))
  step := fun state _ =>
    if state.1 = .applicationData then none
    else
      match exec (process suite now opening state.1) state.2 with
      | (.ok next, client) => some (next, client)
      | (.error _, _) => none

/-- The connection can be opened, with this outcome. -/
def Opens (transport : σ) (verifier : CertVerifier) (finish : Client σ) : Prop :=
  (openSystem suite now opening transport verifier).Reachable (.applicationData, finish)

end Runs

/-! ## Records -/

section Records

variable {σ : Type} {suite : CipherSuite} {now : Option UInt64} {opening : Opening}

/-- A record is sent, unless sending fails or the counter has come to its end. -/
theorem exec_respond {record : ClientRecord} {client : Client σ}
    (sends : opening.sendFault client.sent = none)
    (room : client.keySchedule.clientState.counter + 1 < 2 ^ 64) :
    exec (respond opening record) client = (.ok (), { client with
      sent := client.sent ++ [record]
      keySchedule := { client.keySchedule with clientState := { client.keySchedule.clientState with
        counter := client.keySchedule.clientState.counter + 1 } } }) := by
  simp only [respond, exec, ExceptT.mk, ExceptT.run, StateT.run, sends,
    KeyScheduleState.incrementCounter, if_pos room]

/-- A record of the server leaves the keys of the client alone. -/
theorem clientState_of_decryptRecord {α : Type}
    {handle : KeySchedule → ServerRecord → α → Except TlsHalt α} {record : ServerRecord}
    {before after : KeySchedule × α}
    (returned : decryptRecord suite handle record before = .ok after) :
    after.1.clientState = before.1.clientState :=
  decryptRecord_keeps (fun state => state.1.clientState = before.1.clientState)
    (fun _ _ _ _ _ same _ => same) (fun _ _ _ same => same) rfl returned

variable [Read ErrorKind σ]

theorem exec_nextRecord {client : Client σ} {record : Record} {decoded : ServerRecord}
    {transport : σ} {transcript : List UInt8}
    (read : exec (readRecord opening.capacity) client.transport = (.ok record, transport))
    (decodes : ServerRecord.decode record client.keySchedule.transcript =
      .ok (decoded, transcript)) :
    exec (Client.nextRecord opening) client = (.ok decoded, { client with
      transport := transport
      keySchedule := { client.keySchedule with transcript := transcript } }) := by
  have received : exec (readServerRecord opening.capacity)
      (client.transport, client.keySchedule) =
        (.ok decoded, (transport, { client.keySchedule with transcript := transcript })) := by
    rw [readServerRecord, exec_bind, exec_zoom, read]
    dsimp only
    rw [exec_bind, exec_update]
    dsimp only
    rw [decodes]
    rfl
  rw [Client.nextRecord, exec_zoom, received]

variable (suite)

/-- The keys behind `ServerHello`, for a shared secret and the transcript. -/
def handshakeKeys (shared transcript : List UInt8) : KeySchedule :=
  KeySchedule.initializeHandshakeSecret suite shared
    { KeySchedule.new.initializeEarlySecret suite with transcript := transcript }

variable {suite}

/-! ## The states of the loop -/

theorem exec_clientHello {client : Client σ} (sends : opening.sendFault client.sent = none)
    (room : client.keySchedule.clientState.counter + 1 < 2 ^ 64) :
    exec (process suite now opening .clientHello) client = (.ok .serverHello, { client with
      sent := client.sent ++ [.clientHello opening.clientHello]
      secret := some opening.secret
      keySchedule := { client.keySchedule.initializeEarlySecret suite with
        transcript := client.keySchedule.transcript ++ opening.clientHello
        clientState := { client.keySchedule.clientState with
          counter := client.keySchedule.clientState.counter + 1 } } }) := by
  let started : Client σ := { client with
    secret := some opening.secret
    keySchedule := { client.keySchedule.initializeEarlySecret suite with
      transcript := client.keySchedule.transcript ++ opening.clientHello } }
  have sent : opening.sendFault started.sent = none := sends
  rw [process, exec_bind, exec_update]
  change exec (respond opening (.clientHello opening.clientHello) >>= _) started = _
  rw [exec_bind, exec_respond sent room]
  rfl

theorem exec_serverHello {client : Client σ} {record : Record} {transport : σ}
    {key secret shared transcript rest : List UInt8}
    (read : exec (readRecord opening.capacity) client.transport = (.ok record, transport))
    (plain : record.contentType = .handshake)
    (greeting : ServerHandshake.read client.keySchedule.transcript record.data =
      .ok (.serverHello (some key), transcript, rest))
    (held : client.secret = some secret) (agreed : suite.diffieHellman secret key = some shared) :
    exec (process suite now opening .serverHello) client = (.ok .serverVerify, { client with
      transport := transport
      secret := none
      keySchedule := KeySchedule.initializeHandshakeSecret suite shared
        { client.keySchedule with transcript := transcript } }) := by
  have decodes : ServerRecord.decode record client.keySchedule.transcript =
      .ok (.handshake (.serverHello (some key)), transcript) := by
    rw [ServerRecord.decode, plain]
    dsimp only
    rw [greeting]
    rfl
  rw [process, exec_bind, exec_nextRecord read decodes]
  dsimp only
  rw [exec_bind, exec_update]
  dsimp only
  have processed : processServerHello suite (.handshake (.serverHello (some key))) { client with
      transport := transport
      keySchedule := { client.keySchedule with transcript := transcript } } = .ok { client with
        transport := transport
        secret := none
        keySchedule := KeySchedule.initializeHandshakeSecret suite shared
          { client.keySchedule with transcript := transcript } } := by
    dsimp only [processServerHello]
    rw [held]
    change (required (suite.diffieHellman secret key) .invalidKeyShare >>= _) = _
    rw [agreed]
    rfl
  rw [processed]
  rfl

/-- A record of the server ends the state that reads it in the state that its messages lead to. -/
theorem exec_serverVerify {client : Client σ} {record : Record} {decoded : ServerRecord}
    {transport : σ} {transcript : List UInt8} {keySchedule : KeySchedule} {flight : Flight}
    (read : exec (readRecord opening.capacity) client.transport = (.ok record, transport))
    (decodes : ServerRecord.decode record client.keySchedule.transcript =
      .ok (decoded, transcript))
    (decrypted : decryptRecord suite (handleServerVerify suite now) decoded
      ({ client.keySchedule with transcript := transcript },
        ⟨.serverVerify, client.verifier, client.trafficHash, client.certificateRequest⟩) =
          .ok (keySchedule, flight)) :
    exec (process suite now opening .serverVerify) client = (.ok flight.state, { client with
      transport := transport
      keySchedule := keySchedule
      verifier := flight.verifier
      trafficHash := flight.trafficHash
      certificateRequest := flight.certificateRequest }) := by
  rw [process, exec_bind, exec_nextRecord read decodes]
  dsimp only
  rw [exec_bind, exec_update]
  dsimp only
  rw [processServerVerify, decrypted]
  rfl

theorem exec_clientFinished {client : Client σ} {trafficSecret trafficHash : List UInt8}
    (sends : opening.sendFault client.sent = none)
    (room : client.keySchedule.clientState.counter + 1 < 2 ^ 64)
    (keyed : client.keySchedule.clientState.trafficSecret = some trafficSecret)
    (hashed : client.trafficHash = some trafficHash) :
    exec (process suite now opening .clientFinished) client = (.ok .applicationData, { client with
      sent := client.sent ++
        [.finished (finishedCode suite trafficSecret client.keySchedule.transcript)]
      trafficHash := none
      keySchedule := KeySchedule.initializeMasterSecret suite { client.keySchedule with
        transcript := trafficHash
        clientState := { client.keySchedule.clientState with
          counter := client.keySchedule.clientState.counter + 1 } } }) := by
  rw [process, exec_bind, exec_update]
  dsimp only [KeySchedule.createClientFinished]
  rw [keyed, exec_bind]
  dsimp only [Except.mapError]
  rw [exec_lift_ok]
  dsimp only
  rw [exec_bind, exec_respond sends room]
  dsimp only
  rw [hashed, exec_bind]
  dsimp only [required, Except.mapError]
  rw [exec_lift_ok]
  rfl

/-- A run of the loop in which one record behind `ServerHello` ends the flight of the server. -/
theorem opens_of_flight {transport middle last : σ} {hello record : Record}
    {key shared transcript rest after trafficHash : List UInt8} {decoded : ServerRecord}
    {keySchedule : KeySchedule} {flight : Flight} (verifier : CertVerifier)
    (sends : ∀ sent, opening.sendFault sent = none)
    (hello_read : exec (readRecord opening.capacity) transport = (.ok hello, middle))
    (plain : hello.contentType = .handshake)
    (greeting : ServerHandshake.read opening.clientHello hello.data =
      .ok (.serverHello (some key), transcript, rest))
    (agreed : suite.diffieHellman opening.secret key = some shared)
    (record_read : exec (readRecord opening.capacity) middle = (.ok record, last))
    (decodes : ServerRecord.decode record transcript = .ok (decoded, after))
    (decrypted : decryptRecord suite (handleServerVerify suite now) decoded
      ({ handshakeKeys suite shared transcript with transcript := after },
        ⟨.serverVerify, verifier, none, none⟩) = .ok (keySchedule, flight))
    (ended : flight.state = .clientFinished) (hashed : flight.trafficHash = some trafficHash) :
    ∃ finish, Opens suite now opening transport verifier finish ∧
      finish.verifier = flight.verifier ∧ finish.transport = last := by
  have reached : ∀ {state next : State} {before after : Client σ},
      (openSystem suite now opening transport verifier).Reachable (state, before) →
        state ≠ .applicationData →
          exec (process suite now opening state) before = (.ok next, after) →
            (openSystem suite now opening transport verifier).Reachable (next, after) := by
    rintro state next before after ⟨start, actions, started, path⟩ going executed
    refine ⟨start, actions ++ [()], started, path.snoc trivial ?_⟩
    simp only [openSystem, if_neg going, executed]
  have started : (openSystem suite now opening transport verifier).Reachable
      (.clientHello, .start transport verifier) := ⟨_, [], rfl, .nil⟩
  -- Both records are sent with a counter of zero: the keys are new after each of them.
  have room : 0 + 1 < 2 ^ 64 := by decide
  have clientState :
      keySchedule.clientState = (handshakeKeys suite shared transcript).clientState :=
    clientState_of_decryptRecord decrypted
  have counter : keySchedule.clientState.counter + 1 < 2 ^ 64 := by
    rw [clientState]
    exact room
  have greeted := reached started (by decide) (exec_clientHello (sends _) room)
  have keyed := reached greeted (by decide)
    (exec_serverHello hello_read plain greeting rfl agreed)
  have verified := reached keyed (by decide) (exec_serverVerify record_read decodes decrypted)
  rw [ended] at verified
  have finished := reached verified (by decide)
    (exec_clientFinished (sends _) counter (congrArg KeyScheduleState.trafficSecret clientState)
      hashed)
  exact ⟨_, finished, rfl, rfl⟩

/-! ## Opening without a certificate -/

section Finished

variable (suite)

/-- The secret behind the keys of the server, for a shared secret and the transcript. -/
def serverTrafficSecret (shared transcript : List UInt8) : List UInt8 :=
  makeExpandedHkdfLabel suite
    (hmac suite (KeySchedule.new.initializeEarlySecret suite).secret shared) hashSize
    "s hs traffic" (some (suite.pki.sha256 transcript))

/-- `Finished` in a record that is not encrypted. -/
def finishedRecord (code : List UInt8) : Record where
  header := [22, 3, 3, 0, 36]
  contentType := .handshake
  data := [20, 0, 0, 32] ++ code

variable {suite}

theorem framed_finishedRecord {code : List UInt8} (length : code.length = 32) {capacity : ℕ}
    (room : 36 ≤ capacity) : (finishedRecord code).Framed capacity where
  header := rfl
  contentType := rfl
  length := by
    rw [finishedRecord, List.length_append, length]
    rfl
  fits := by
    rw [finishedRecord, List.length_append, length]
    exact room

theorem read_finished {code : List UInt8} (length : code.length = 32) (transcript : List UInt8) :
    ServerHandshake.read transcript (finishedRecord code).data =
      .ok (.finished code (some transcript), transcript ++ (finishedRecord code).data, []) := by
  have sliced : Parser.slice 32 Parser.missing code = .ok (code, []) := by
    unfold Parser.slice
    rw [if_pos length.ge, List.take_of_length_le length.le, List.drop_eq_nil_of_le length.le]
  have parsed : ServerHandshake.parse (finishedRecord code).data =
      .ok (.finished code none, []) := by
    have front : ServerHandshake.parse (finishedRecord code).data =
        (Parser.slice 32 Parser.missing >>= fun verify =>
          (return .finished verify none : Parser ServerHandshake)) code := rfl
    rw [front]
    change (Parser.slice 32 Parser.missing code >>= fun result =>
      Except.ok (ServerHandshake.finished result.1 none, result.2)) = _
    rw [sliced]
    rfl
  rw [ServerHandshake.read, parsed]
  change Except.ok (_, transcript ++ (finishedRecord code).data.take
    ((finishedRecord code).data.length - 0), _) = _
  rw [Nat.sub_zero, List.take_length]

theorem decode_finishedRecord {code : List UInt8} (length : code.length = 32)
    (transcript : List UInt8) :
    ServerRecord.decode (finishedRecord code) transcript =
      .ok (.handshake (.finished code (some transcript)),
        transcript ++ (finishedRecord code).data) := by
  change (ServerHandshake.read transcript (finishedRecord code).data >>= _) = _
  rw [read_finished length]
  rfl

/-- The right code ends the flight, whatever the verifier holds. -/
theorem decryptRecord_finished {keySchedule : KeySchedule} {flight : Flight}
    {trafficSecret : List UInt8} (transcript : List UInt8)
    (keyed : keySchedule.serverState.trafficSecret = some trafficSecret)
    (unasked : flight.certificateRequest = none) :
    decryptRecord suite (handleServerVerify suite now) (.handshake (.finished
      (finishedCode suite trafficSecret transcript) (some transcript))) (keySchedule, flight) =
        .ok (keySchedule, { flight with
          trafficHash := some keySchedule.transcript
          state := .clientFinished }) := by
  have verified : KeySchedule.verifyServerFinished suite
      (finishedCode suite trafficSecret transcript) (some transcript) keySchedule = .ok true := by
    dsimp only [KeySchedule.verifyServerFinished]
    rw [keyed]
    exact congrArg Except.ok (beq_self_eq_true _)
  dsimp only [decryptRecord, handleServerVerify]
  rw [verified, unasked]
  rfl

/-- For every verifier, whoever agrees on a shared secret with the client opens the connection:
`ServerHello` and `Finished` suffice, and what the verifier holds stays as it was. -/
theorem opens_without_certificate {contents : σ → Contents ErrorKind} (reads : Reads contents)
    {transport : σ} {later : Contents ErrorKind} {hello : Record}
    {key shared transcript rest : List UInt8} (verifier : CertVerifier)
    (size : ∀ text, (suite.pki.sha256 text).length = 32)
    (sends : ∀ sent, opening.sendFault sent = none) (framed : hello.Framed opening.capacity)
    (room : 36 ≤ opening.capacity) (plain : hello.contentType = .handshake)
    (greeting : ServerHandshake.read opening.clientHello hello.data =
      .ok (.serverHello (some key), transcript, rest))
    (agreed : suite.diffieHellman opening.secret key = some shared)
    (arrived : contents transport = later.prepend (hello.bytes ++ (finishedRecord
      (finishedCode suite (serverTrafficSecret suite shared transcript) transcript)).bytes)) :
    ∃ finish, Opens suite now opening transport verifier finish ∧ finish.verifier = verifier ∧
      contents finish.transport = later := by
  rw [Contents.prepend_append] at arrived
  obtain ⟨middle, hello_read, rest_arrived⟩ := exec_readRecord_of_framed reads framed arrived
  obtain ⟨last, finished_read, ended⟩ :=
    exec_readRecord_of_framed reads (framed_finishedRecord (size _) room) rest_arrived
  let keySchedule : KeySchedule := { handshakeKeys suite shared transcript with
    transcript := transcript ++ (finishedRecord
      (finishedCode suite (serverTrafficSecret suite shared transcript) transcript)).data }
  let flight : Flight := ⟨.serverVerify, verifier, none, none⟩
  have keyed : keySchedule.serverState.trafficSecret =
      some (serverTrafficSecret suite shared transcript) := rfl
  have unasked : flight.certificateRequest = none := rfl
  have opens : ∃ finish, Opens suite now opening transport verifier finish ∧
      finish.verifier = verifier ∧ finish.transport = last :=
    opens_of_flight verifier sends hello_read plain greeting agreed finished_read
      (decode_finishedRecord (size _) transcript) (decryptRecord_finished transcript keyed unasked)
      rfl rfl
  obtain ⟨finish, opened, same, reached⟩ := opens
  exact ⟨finish, opened, same, reached ▸ ended⟩

end Finished

end Records

/-! ## A small run -/

/-- The first coordinate of the base point of P-256. -/
def baseCoordinate : List UInt8 :=
  toBigEndian 32 0x6b17d1f2e12c4247f8bce6e563a440f277037d812deb33a0f4a13945d898c296

def basePoint : List UInt8 :=
  4 :: baseCoordinate ++
    toBigEndian 32 0x4fe342e2fe1a7f9b8ee7eb4a7c0f9e162bce33576b315ececbb6406837bf51f5

/-- A suite that knows SHA-256, and the shared secret of two parties whose secrets are one. -/
def smallSuite : CipherSuite where
  pki :=
    { fromDer := fun _ => none
      readTlv := fun _ => none
      certificateTlvBytes := fun _ => none
      p256 := ⟨fun _ => false, fun _ => false, fun _ _ _ => false⟩
      p384 := ⟨fun _ => false, fun _ => false, fun _ _ _ => false⟩
      sha256 := Sha256.hash }
  decrypt := fun _ _ _ _ => none
  diffieHellman := fun secret publicKey =>
    if secret = toBigEndian 32 1 ∧ publicKey = basePoint then some baseCoordinate else none

/-- The client asks for the host `a`. -/
def smallOpening : Opening where
  clientHello := [1, 0, 0, 0xad, 3, 3] ++ List.replicate 32 0 ++
    [0, 0, 2, 0x13, 1, 1, 0, 0, 0x82, 0, 0x2b, 0, 3, 2, 3, 4, 0, 0x0d, 0, 0x14, 0, 0x12,
      4, 1, 5, 1, 6, 1, 8, 4, 8, 5, 8, 6, 4, 3, 5, 3, 8, 7, 0, 0x0a, 0, 4, 0, 2, 0, 0x17,
      0, 0x2d, 0, 2, 1, 1, 0, 0x33, 0, 0x47, 0, 0x45, 0, 0x17, 0, 0x41] ++
    basePoint ++ [0, 0, 0, 6, 0, 4, 0, 0, 1, 0x61]
  secret := toBigEndian 32 1
  capacity := 16640
  sendFault := fun _ => none

def smallHello : Record where
  header := [22, 3, 3, 0, 123]
  contentType := .handshake
  data := [2, 0, 0, 0x77, 3, 3] ++ List.replicate 32 0 ++
    [0, 0x13, 1, 0, 0, 0x4f, 0, 0x2b, 0, 2, 3, 4, 0, 0x33, 0, 0x45, 0, 0x17, 0, 0x41] ++ basePoint

/-- The code of the server in `Finished`. -/
def smallCode : List UInt8 :=
  toBigEndian 32 0xd2e029cf765ba2535f5fe391aab20623075d4275b5fd1b4c01bc8b2cf81a3d6d

/-- The records arrive in two pieces, cut within the second one. -/
def smallTransport : HttpConnection where
  segments :=
    [⟨smallHello.bytes ++ [22, 3], by decide⟩, ⟨[3, 0, 36, 20, 0, 0, 32] ++ smallCode, by decide⟩]
  ending := .ok ()
  buffered := false

/-- A verifier for the host `a`. -/
def smallVerifier : CertVerifier :=
  { CertVerifier.new [] none 8192 with host := some [0x61] }

example : (CertVerifier.new [] none 8192).setHostnameVerification [0x61] = .ok smallVerifier := rfl

theorem read_smallHello : ServerHandshake.read smallOpening.clientHello smallHello.data =
    .ok (.serverHello (some basePoint), smallOpening.clientHello ++ smallHello.data, []) := by
  decide +kernel

theorem finishedCode_smallHello :
    finishedCode smallSuite
      (serverTrafficSecret smallSuite baseCoordinate (smallOpening.clientHello ++ smallHello.data))
      (smallOpening.clientHello ++ smallHello.data) = smallCode := by
  decide +kernel

theorem framed_smallHello : smallHello.Framed smallOpening.capacity :=
  ⟨rfl, rfl, by decide, by decide⟩

theorem agreed_smallSuite :
    smallSuite.diffieHellman smallOpening.secret basePoint = some baseCoordinate := by
  simp [smallSuite, smallOpening]

theorem opens_without_certificate_smallTransport :
    ∃ finish, Opens smallSuite none smallOpening smallTransport smallVerifier finish ∧
      finish.verifier = smallVerifier ∧ finish.transport.contents = ⟨[], .ok ()⟩ := by
  refine opens_without_certificate HttpConnection.reads smallVerifier Sha256.length_hash
    (fun _ => rfl) framed_smallHello (by decide) rfl read_smallHello agreed_smallSuite ?_
  rw [finishedCode_smallHello]
  rfl

end Tls
end Motonet
