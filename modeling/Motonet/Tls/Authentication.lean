import Motonet.Tls.Opening

/-!
# What an open connection says about the server

A certificate that the client holds when the connection is open has been accepted by the verifier as
it was configured, and if it has been proved, then by a signature.
-/

namespace Motonet
namespace Tls

open ByteReader ByteString Fallible Http

/-! ## Certificates -/

section Certificates

variable (pki : Pki) (now : Option UInt64)

/-- A verifier accepts a certificate. -/
def CertVerifier.Accepts (verifier : CertVerifier) (cert : CertificateRef) : Prop :=
  ∃ transcript after, CertVerifier.verifyCertificate pki now verifier transcript cert = .ok after

/-- The key of a certificate has signed a transcript. -/
def Proved (rsaVerifier : Option RsaVerifier) (cert : CertificateRef) : Prop :=
  ∃ transcript verify,
    verifySignature pki rsaVerifier (serverContext ++ pki.sha256 transcript) cert verify = .ok ()

/-- What a verifier has come to hold: certificates that the configured one accepts, proved once
nothing is left to sign. -/
structure Vouched (configured verifier : CertVerifier) : Prop where
  ca : verifier.ca = configured.ca
  host : verifier.host = configured.host
  rsaVerifier : verifier.rsaVerifier = configured.rsaVerifier
  certSize : verifier.certSize = configured.certSize
  accepted : ∀ cert, verifier.certificate = some cert → configured.Accepts pki now cert
  proved : ∀ cert, verifier.certificate = some cert → verifier.certificateTranscript = none →
    Proved pki configured.rsaVerifier cert

variable {pki now}

/-- Only what is configured decides whether a certificate is accepted. -/
theorem Vouched.verifyCertificate {configured verifier after : CertVerifier}
    (vouched : Vouched pki now configured verifier) {transcript : List UInt8}
    {cert : CertificateRef}
    (returned : CertVerifier.verifyCertificate pki now verifier transcript cert = .ok after) :
    Vouched pki now configured after := by
  obtain ⟨⟨names, walked, good⟩, ⟨context, raw⟩, rfl⟩ :=
    CertVerifier.verifyCertificate_eq_ok_iff.mp returned
  rw [vouched.ca, vouched.rsaVerifier] at walked
  rw [vouched.host] at good
  rw [vouched.certSize] at raw
  have accepts : configured.Accepts pki now cert :=
    ⟨transcript, _, CertVerifier.verifyCertificate_eq_ok_iff.mpr
      ⟨⟨names, walked, good⟩, ⟨context, raw⟩, rfl⟩⟩
  refine ⟨vouched.ca, vouched.host, vouched.rsaVerifier, vouched.certSize, ?_, ?_⟩
  · intro shown same
    cases same
    exact accepts
  · intro shown _ impossible
    cases impossible

theorem Vouched.verifySignature {configured verifier after : CertVerifier}
    (vouched : Vouched pki now configured verifier) {verify : CertificateVerify}
    (returned : CertVerifier.verifySignature pki verifier verify = .ok after) :
    Vouched pki now configured after := by
  obtain ⟨transcript, cert, -, held, signed, rfl⟩ :=
    CertVerifier.verifySignature_eq_ok_iff.mp returned
  rw [vouched.rsaVerifier] at signed
  refine ⟨vouched.ca, vouched.host, vouched.rsaVerifier, vouched.certSize, vouched.accepted, ?_⟩
  intro shown same _
  rw [held] at same
  cases same
  exact ⟨transcript, verify, signed⟩

end Certificates

/-! ## Runs -/

section Runs

variable {σ : Type} {suite : CipherSuite} {now : Option UInt64} {opening : Opening}

/-- The messages of the server change the verifier only through its own operations. -/
theorem vouched_of_handleServerVerify {configured : CertVerifier}
    {keySchedule : KeySchedule} {record : ServerRecord} {before after : Flight}
    (vouched : Vouched suite.pki now configured before.verifier)
    (returned : handleServerVerify suite now keySchedule record before = .ok after) :
    Vouched suite.pki now configured after.verifier := by
  unfold handleServerVerify at returned
  -- Only `Certificate` and `CertificateVerify` reach the verifier.
  split at returned
  · cases returned
    exact vouched
  · obtain ⟨verifier, verified, last⟩ := Except.of_bind_eq_ok returned
    cases last
    exact vouched.verifyCertificate (Except.of_mapError_eq_ok verified)
  · obtain ⟨verifier, verified, last⟩ := Except.of_bind_eq_ok returned
    cases last
    exact vouched.verifySignature verified
  · split at returned
    · cases returned
    · cases returned
      exact vouched
  · obtain ⟨verified, -, last⟩ := Except.of_bind_eq_ok returned
    split at last
    · cases last
    · split at last
      · cases last
        exact vouched
      · cases last
        exact vouched
  · cases returned
  · cases returned
    exact vouched
  · cases returned

/-- Sending leaves the verifier alone. -/
theorem preserves_respond (record : ClientRecord) :
    Preserves Client.verifier (respond opening record : Fallible TlsHalt (Client σ) Unit) := by
  intro client
  simp only [respond, exec, ExceptT.mk, ExceptT.run, StateT.run]
  split
  · rfl
  · split <;> rfl

/-- A result that did not stop the client is taken as it is. -/
theorem exec_handleProcessingError_eq_ok {α : Type} {result : Except TlsHalt α}
    {before after : Client σ} {value : α}
    (returned : exec (handleProcessingError opening result) before = (.ok value, after)) :
    result = .ok value ∧ after = before := by
  unfold handleProcessingError at returned
  split at returned
  · cases returned
    exact ⟨rfl, rfl⟩
  · obtain ⟨_, _, -, impossible⟩ := exec_bind_eq_ok returned
    cases impossible
  · cases returned

theorem verifier_of_processServerHello {record : ServerRecord} {before after : Client σ}
    (returned : processServerHello suite record before = .ok after) :
    after.verifier = before.verifier := by
  unfold processServerHello at returned
  split at returned
  · obtain ⟨_, -, second⟩ := Except.of_bind_eq_ok returned
    obtain ⟨_, -, last⟩ := Except.of_bind_eq_ok second
    cases last
    rfl
  all_goals cases returned

theorem vouched_of_processServerVerify {configured : CertVerifier} {record : ServerRecord}
    {before after : Client σ} {next : State}
    (vouched : Vouched suite.pki now configured before.verifier)
    (returned : processServerVerify suite now record before = .ok (next, after)) :
    Vouched suite.pki now configured after.verifier := by
  obtain ⟨⟨keySchedule, flight⟩, decrypted, last⟩ := Except.of_bind_eq_ok returned
  cases last
  let holds : KeySchedule × Flight → Prop := fun state =>
    Vouched suite.pki now configured state.2.verifier
  have kept : holds (keySchedule, flight) := decryptRecord_keeps holds
    (fun _ _ _ _ _ held handled => vouched_of_handleServerVerify held handled)
    (fun _ _ _ held => held) vouched decrypted
  exact kept

variable [Read ErrorKind σ]

/-- Reading a record leaves the verifier alone. -/
theorem Client.preserves_nextRecord :
    Preserves Client.verifier
      (Client.nextRecord opening : Fallible TlsHalt (Client σ) ServerRecord) :=
  fun _ => rfl

/-- A step of the handshake keeps the verifier vouched for. -/
theorem vouched_of_process {configured : CertVerifier} {state next : State}
    {before after : Client σ} (vouched : Vouched suite.pki now configured before.verifier)
    (returned : exec (process suite now opening state) before = (.ok next, after)) :
    Vouched suite.pki now configured after.verifier := by
  cases state with
  | clientHello =>
      obtain ⟨_, _, first, second⟩ := exec_bind_eq_ok returned
      cases first
      obtain ⟨_, _, third, last⟩ := exec_bind_eq_ok second
      cases last
      rw [(preserves_respond _).view_eq third]
      exact vouched
  | serverHello =>
      obtain ⟨record, middle, first, second⟩ := exec_bind_eq_ok returned
      obtain ⟨client, _, third, fourth⟩ := exec_bind_eq_ok second
      cases third
      obtain ⟨client, _, fifth, last⟩ := exec_bind_eq_ok fourth
      obtain ⟨processed, rfl⟩ := exec_handleProcessingError_eq_ok fifth
      cases last
      rw [verifier_of_processServerHello (Except.of_mapError_eq_ok processed),
        Client.preserves_nextRecord.view_eq first]
      exact vouched
  | serverVerify =>
      obtain ⟨record, middle, first, second⟩ := exec_bind_eq_ok returned
      obtain ⟨client, _, third, fourth⟩ := exec_bind_eq_ok second
      cases third
      obtain ⟨⟨reached, client⟩, _, fifth, last⟩ := exec_bind_eq_ok fourth
      obtain ⟨processed, rfl⟩ := exec_handleProcessingError_eq_ok fifth
      cases last
      rw [← Client.preserves_nextRecord.view_eq first] at vouched
      exact vouched_of_processServerVerify vouched processed
  | clientCert =>
      obtain ⟨client, _, first, second⟩ := exec_bind_eq_ok returned
      cases first
      obtain ⟨requestContext, _, third, fourth⟩ := exec_bind_eq_ok second
      obtain ⟨-, rfl⟩ := exec_lift_eq_ok third
      obtain ⟨_, _, fifth, sixth⟩ := exec_bind_eq_ok fourth
      cases fifth
      obtain ⟨_, _, seventh, last⟩ := exec_bind_eq_ok sixth
      cases last
      rw [(preserves_respond _).view_eq seventh]
      exact vouched
  | clientFinished =>
      obtain ⟨client, _, first, second⟩ := exec_bind_eq_ok returned
      cases first
      obtain ⟨verify, _, third, fourth⟩ := exec_bind_eq_ok second
      obtain ⟨-, rfl⟩ := exec_lift_eq_ok third
      obtain ⟨_, middle, fifth, sixth⟩ := exec_bind_eq_ok fourth
      obtain ⟨trafficHash, _, seventh, last⟩ := exec_bind_eq_ok sixth
      obtain ⟨-, rfl⟩ := exec_lift_eq_ok seventh
      cases last
      rw [← (preserves_respond _).view_eq fifth] at vouched
      exact vouched
  | applicationData =>
      cases returned
      exact vouched

/-- In every state of the loop, what the verifier holds is vouched for. -/
theorem vouched_of_reachable {transport : σ} {verifier : CertVerifier}
    (fresh : verifier.certificate = none) {state : State × Client σ}
    (reachable : (openSystem suite now opening transport verifier).Reachable state) :
    Vouched suite.pki now verifier state.2.verifier := by
  refine reachable.invariant (fun state => Vouched suite.pki now verifier state.2.verifier) ?_ ?_
  · rintro _ rfl
    refine ⟨rfl, rfl, rfl, rfl, ?_, ?_⟩
    · intro cert held
      rw [Client.start, fresh] at held
      cases held
    · intro cert held
      rw [Client.start, fresh] at held
      cases held
  · intro before _ after vouched taken
    dsimp only [openSystem] at taken
    split at taken
    · cases taken
    · split at taken
      next next client executed =>
        cases taken
        exact vouched_of_process vouched executed
      next => cases taken

/-- The configuration of the verifier never changes; and a certificate that an open connection
holds has been accepted by the verifier as it was configured, and its key has signed the handshake
unless a signature is still awaited; there may be none at all. -/
theorem certificate_of_opens {transport : σ} {verifier : CertVerifier} {finish : Client σ}
    (fresh : verifier.certificate = none)
    (opened : Opens suite now opening transport verifier finish) :
    (finish.verifier.ca = verifier.ca ∧ finish.verifier.host = verifier.host ∧
      finish.verifier.rsaVerifier = verifier.rsaVerifier ∧
      finish.verifier.certSize = verifier.certSize) ∧
    (finish.verifier.certificate = none ∨
      ∃ cert, finish.verifier.certificate = some cert ∧ verifier.Accepts suite.pki now cert ∧
        (finish.verifier.certificateTranscript = none →
          Proved suite.pki verifier.rsaVerifier cert)) := by
  have vouched : Vouched suite.pki now verifier finish.verifier := vouched_of_reachable fresh opened
  refine ⟨⟨vouched.ca, vouched.host, vouched.rsaVerifier, vouched.certSize⟩, ?_⟩
  cases held : finish.verifier.certificate with
  | none => exact .inl rfl
  | some cert => exact .inr ⟨cert, rfl, vouched.accepted cert held, vouched.proved cert held⟩

end Runs

/-! ## A run with a certificate -/

/-- A value in DER. -/
def tlv (tag : UInt8) (content : List UInt8) : List UInt8 :=
  let length := content.length
  let width := if length < 128 then [] else if length < 256 then [0x81] else [0x82]
  tag :: width ++ toBigEndian (if length < 256 then 1 else 2) length ++ content

/-- A value in DER is read, if its length takes one byte. -/
def readShortTlv : List UInt8 → Option (UInt8 × List UInt8 × List UInt8)
  | tag :: length :: rest =>
      if length < 128 ∧ length.toNat ≤ rest.length then
        some (tag, rest.take length.toNat, rest.drop length.toNat)
      else none
  | _ => none

def ecdsaWithSha256 : List UInt8 := tlv 0x30 (tlv 6 [0x2a, 0x86, 0x48, 0xce, 0x3d, 4, 3, 2])

/-- A name of one letter. -/
def nameBytes (letter : UInt8) : List UInt8 :=
  tlv 0x30 (tlv 0x31 (tlv 0x30 (tlv 6 [0x55, 4, 3] ++ tlv 0x0c [letter])))

/-- The part of a certificate that is signed: issued by `r` for the ten years from 2025 on. -/
def tbsBytes (serial letter : UInt8) (key extensions : List UInt8) : List UInt8 :=
  tlv 0x30 (tlv 0xa0 (tlv 2 [2]) ++ tlv 2 [serial] ++ ecdsaWithSha256 ++ nameBytes 0x72 ++
    tlv 0x30 (tlv 0x17 "250101000000Z".toUTF8.data.toList ++
      tlv 0x17 "350101000000Z".toUTF8.data.toList) ++
    nameBytes letter ++
    tlv 0x30 (tlv 0x30 (tlv 6 [0x2a, 0x86, 0x48, 0xce, 0x3d, 2, 1] ++
      tlv 6 [0x2a, 0x86, 0x48, 0xce, 0x3d, 3, 1, 7]) ++ tlv 3 (0 :: key)) ++ extensions)

def certificateBytes (tbs signature : List UInt8) : List UInt8 :=
  tlv 0x30 (tbs ++ ecdsaWithSha256 ++ tlv 3 (0 :: signature))

/-- A signature on P-256. -/
def signatureBytes (r s : ℕ) : List UInt8 :=
  tlv 0x30 (tlv 2 (toBigEndian 32 r) ++ tlv 2 (toBigEndian 32 s))

/-- The double of the base point. -/
def authorityKey : List UInt8 :=
  4 :: toBigEndian 32 0x7cf27b188d034f7e8a52380304b51ac3c08969e277f21b35a60b48fc47669978 ++
    toBigEndian 32 0x07775510db8ed040293d9ac69f7430dbba7dade63ce982299e04b79d227873d1

def authorityTbs : List UInt8 := tbsBytes 2 0x72 authorityKey []

/-- The authority has signed its own certificate. -/
def authorityOwnSignature : List UInt8 :=
  signatureBytes
    0x65dc9ea9e0a78de3dbc453d9f0b1ef928d90d9cb21547e0cf9a38c579e18c9a2
    0x61d4d2e52038113d64ebb20bc4448d4dfe39b381f27c09836a30e37915e3bbad

def authorityCertificate : List UInt8 := certificateBytes authorityTbs authorityOwnSignature

/-- The server is `a`, by its alternative name; its secret is one. -/
def serverTbs : List UInt8 :=
  tbsBytes 1 0x61 basePoint
    (tlv 0xa3 (tlv 0x30 (tlv 0x30 (tlv 6 [0x55, 0x1d, 0x11] ++
      tlv octetStringTag (tlv sequenceTag (tlv dnsNameTag [0x61]))))))

/-- The signature of the authority. -/
def authoritySignature : List UInt8 :=
  signatureBytes
    0x49156fd8260e10a2198f7844a98324a6ee082f964e36cdfb239a623a7ca507ae
    0x3e63a8aa97bcddd3c335e3874cd388b5d8136bc49f49d4ecaf865ae32b6c5e14

def serverCertificate : List UInt8 := certificateBytes serverTbs authoritySignature

/-- The signature of the server, of the handshake up to its certificate. -/
def handshakeSignature : List UInt8 :=
  signatureBytes
    0x01ffa0657fd3d37b6be0fc464aa0f17350125656c44c450d908fc4523f34a706
    0x71afeae5bf00f14ce26b1def80793fc6d9eb12f98a489c58c86c8ba047b40425

/-- `EncryptedExtensions`, `Certificate`, `CertificateVerify` and `Finished`. -/
def flightBytes : List UInt8 :=
  [8, 0, 0, 2, 0, 0] ++
    [11, 0, 1, 0x22, 0, 0, 1, 0x1e, 0, 1, 0x19] ++ serverCertificate ++ [0, 0] ++
    [15, 0, 0, 0x4a, 4, 3, 0, 0x46] ++ handshakeSignature ++
    [20, 0, 0, 32] ++
    toBigEndian 32 0xe489203280b75c5fb9547674e4ffe935deaae3a95b325ee5851e5e86570c8bd3

/-- The flight as it is encrypted. -/
def flightRecord : Record where
  header := [23, 3, 3, 1, 0xaf]
  contentType := .applicationData
  data :=
    toBigEndian 37 0x95735e88df3cee43ca39679d97e123285caef0ba33cc5b636e7d51ff17ad52c838c60bbbe8 ++
    toBigEndian 37 0xe0866cee93147a3705414a64980980251c84fe989b80cb958d81a920c55a1763c1617aefd9 ++
    toBigEndian 37 0x981f152700d1e885443a54711691b4531422f1212df4a815df89b9677c75e400693a3f9a52 ++
    toBigEndian 37 0x7aa5d00d822991ecadb9e806205be32da49bc747f4651764b4e5af6ea804ae89eadc67966a ++
    toBigEndian 37 0xdb0f960e57708f47877c0b4990f015e290798dd47cf91834739dba8f2c7697c039b4ad91f9 ++
    toBigEndian 37 0x5d3d3901a79faca3ea513ce8ca49e2da16a28e4c4930221352c572e4a48842f2968276ddde ++
    toBigEndian 37 0x48e8cf63f47dfe68b6c593316bd025638c6843cfd3c08c5f1917028343640e5f413eb2338d ++
    toBigEndian 37 0xc03ec6e99d8d9d0d4d4f872b847a9a79bd31f99fca439cc8e5162340558245275f98bb81a8 ++
    toBigEndian 37 0xd3f7500a7602fed9d447fdbd6c770294c8284504a81e31b1f840a350c3e4498f43da2cbb9a ++
    toBigEndian 37 0x8a58e644aaf847db5236da0942d1e62fbf87425d3fb4571b7de31f4f74fb57d649a0c64e53 ++
    toBigEndian 37 0xb5f4676f589149f1fce7cfffc83a1724ee4ccb6aebd7845aadc48a1839f2f161ed38b8fa4d ++
    toBigEndian 24 0x01329d0cd6aceb62ecea4a0470c82a07b7e61f88d2a7e3d8

/-- A suite that can decrypt the flight, and knows the certificates and signatures in it. -/
def certifiedSuite : CipherSuite where
  pki :=
    { fromDer := fun der =>
        if der = serverCertificate then
          some ⟨⟨1735689600, 2051222400, [[⟨commonNameOid, [0x61]⟩]], some basePoint,
            some [⟨subjectAltNameOid, octetStringTag, tlv sequenceTag (tlv dnsNameTag [0x61])⟩]⟩,
            .ecdsaSha256, some authoritySignature⟩
        else if der = authorityCertificate then
          some ⟨⟨1735689600, 2051222400, [[⟨commonNameOid, [0x72]⟩]], some authorityKey, none⟩,
            .ecdsaSha256, some authorityOwnSignature⟩
        else none
      readTlv := readShortTlv
      certificateTlvBytes := fun der =>
        if der = serverCertificate then some serverTbs
        else if der = authorityCertificate then some authorityTbs
        else none
      p256 :=
        { isKey := fun key => key == basePoint || key == authorityKey
          isSignature := fun signature =>
            signature == authoritySignature || signature == handshakeSignature
          verify := fun key message signature =>
            (key == authorityKey && message == serverTbs && signature == authoritySignature) ||
              (key == basePoint && signature == handshakeSignature && message == serverContext ++
                toBigEndian 32 0x18b37031b52d0c2b60541a592fc50e235707911c69008e83915c1c43146f6609) }
      p384 := ⟨fun _ => false, fun _ => false, fun _ _ _ => false⟩
      sha256 := Sha256.hash }
  decrypt := fun key nonce header ciphertext =>
    if key = toBigEndian 16 0x0ccc96ff81d18b96a9f3443ed0886357 ∧
        nonce = toBigEndian 12 0xb3b79ab14c4f06a4272d23df ∧ header = flightRecord.header ∧
        ciphertext = flightRecord.data then
      some (flightBytes ++ [22])
    else none
  diffieHellman := smallSuite.diffieHellman

/-- The records arrive in two pieces, cut within the second one. -/
def certifiedTransport : HttpConnection where
  segments :=
    [⟨smallHello.bytes ++ [23, 3], by decide⟩,
      ⟨[3, 1, 0xaf] ++ flightRecord.data, List.cons_ne_nil _ _⟩]
  ending := .ok ()
  buffered := false

/-- A verifier for the host `a` and the authority. -/
def certifiedVerifier : CertVerifier :=
  { CertVerifier.new authorityCertificate none 8192 with host := some [0x61] }

/-- A time in the year 2025. -/
def certifiedTime : UInt64 := 1750000000

theorem framed_flightRecord : flightRecord.Framed smallOpening.capacity :=
  ⟨rfl, rfl, by decide +kernel, by decide +kernel⟩

theorem decode_flightRecord (transcript : List UInt8) :
    ServerRecord.decode flightRecord transcript =
      .ok (.applicationData flightRecord.header flightRecord.data, transcript) := rfl

/-- What the client does with the flight. -/
def certifiedFlight : Except TlsHalt (KeySchedule × Flight) :=
  let transcript := smallOpening.clientHello ++ smallHello.data
  decryptRecord certifiedSuite (handleServerVerify certifiedSuite (some certifiedTime))
    (.applicationData flightRecord.header flightRecord.data)
    ({ handshakeKeys certifiedSuite baseCoordinate transcript with transcript := transcript },
      ⟨.serverVerify, certifiedVerifier, none, none⟩)

/-- The flight ends the handshake, with the certificate held and proved. -/
theorem certifiedFlight_shown :
    certifiedFlight.toOption.map (fun result =>
        (result.2.state, result.2.trafficHash.isSome,
          result.2.verifier.certificate.map CertificateRef.entries,
          result.2.verifier.certificateTranscript)) =
      some (.clientFinished, true, some [.x509 serverCertificate], none) := by
  decide +kernel

theorem certificate_of_opens_certifiedTransport :
    ∃ finish, Opens certifiedSuite (some certifiedTime) smallOpening certifiedTransport
        certifiedVerifier finish ∧
      (finish.verifier.ca = certifiedVerifier.ca ∧ finish.verifier.host = certifiedVerifier.host ∧
        finish.verifier.rsaVerifier = certifiedVerifier.rsaVerifier ∧
        finish.verifier.certSize = certifiedVerifier.certSize) ∧
      ∃ cert, finish.verifier.certificate = some cert ∧ cert.entries = [.x509 serverCertificate] ∧
        certifiedVerifier.Accepts certifiedSuite.pki (some certifiedTime) cert ∧
        Proved certifiedSuite.pki certifiedVerifier.rsaVerifier cert := by
  have arrived : certifiedTransport.contents = Contents.prepend smallHello.bytes
      (Contents.prepend flightRecord.bytes ⟨[], .ok ()⟩) := rfl
  obtain ⟨middle, hello_read, rest⟩ :=
    exec_readRecord_of_framed HttpConnection.reads framed_smallHello arrived
  obtain ⟨last, flight_read, -⟩ :=
    exec_readRecord_of_framed HttpConnection.reads framed_flightRecord rest
  obtain ⟨⟨keySchedule, flight⟩, decrypted, shown⟩ :=
    Except.of_map_toOption_eq_some certifiedFlight_shown
  simp only [Prod.mk.injEq] at shown
  obtain ⟨ended, hashed, held, proved⟩ := shown
  obtain ⟨trafficHash, hashed⟩ := Option.isSome_iff_exists.mp hashed
  obtain ⟨cert, held, entries⟩ := Option.map_eq_some_iff.mp held
  have opens : ∃ finish, Opens certifiedSuite (some certifiedTime) smallOpening certifiedTransport
      certifiedVerifier finish ∧ finish.verifier = flight.verifier ∧ finish.transport = last :=
    opens_of_flight certifiedVerifier (fun _ => rfl) hello_read rfl read_smallHello
      agreed_smallSuite flight_read (decode_flightRecord _) decrypted ended hashed
  obtain ⟨finish, opened, same, -⟩ := opens
  obtain ⟨configured, nothing | ⟨shown, holds, accepted, signed⟩⟩ := certificate_of_opens rfl opened
  · rw [same, held] at nothing
    cases nothing
  · rw [same] at holds signed
    rw [held] at holds
    cases holds
    exact ⟨finish, opened, configured, cert, same ▸ held, entries, accepted, signed proved⟩

end Tls
end Motonet
