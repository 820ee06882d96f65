import Motonet.Foundation.Fallible
import Motonet.Tls.Hostname
import Motonet.Tls.Protocol

/-!
# The chain of certificates

`CertVerifier` walks from the certificate of the server to the next ones in the message until it
meets the configured authority, its key, or the end of the message.  The server is trusted exactly
if the key of the authority has certified its key, at one or more removes; nothing in a certificate
restricts whom it may certify.
-/

namespace Motonet
namespace Tls

/-- `CertificateEntryRef`. -/
inductive CertificateEntry
  | x509 (der : List UInt8)
  | rawPublicKey (key : List UInt8)
  deriving DecidableEq

/-- `AlgorithmIdentifier`, as far as they are told apart. -/
inductive SignatureAlgorithm
  | ecdsaSha256
  | ecdsaSha384
  | rsaPkcs1Sha256
  | rsaPkcs1Sha384
  | rsaPkcs1Sha512
  | other
  deriving DecidableEq

/-- `AttributeTypeAndValue`. -/
structure AttributeTypeAndValue where
  oid : List ℕ
  value : List UInt8
  deriving DecidableEq

/-- `ExtensionIdAndValue`, with the tag of the value. -/
structure ExtensionIdAndValue where
  extnId : List ℕ
  tag : UInt8
  extnValue : List UInt8
  deriving DecidableEq

/-- `TbsCertificate`; a key that does not end with a byte has no bytes. -/
structure TbsCertificate where
  notBefore : UInt64
  notAfter : UInt64
  subject : List (List AttributeTypeAndValue)
  publicKey : Option (List UInt8)
  extensions : Option (List ExtensionIdAndValue)
  deriving DecidableEq

/-- `DecodedCertificate`. -/
structure DecodedCertificate where
  tbsCertificate : TbsCertificate
  signatureAlgorithm : SignatureAlgorithm
  signature : Option (List UInt8)
  deriving DecidableEq

/-- Signatures on an elliptic curve. -/
structure Ecdsa where
  isKey : List UInt8 → Bool
  isSignature : List UInt8 → Bool
  verify : (publicKey message signature : List UInt8) → Bool

/-- `RsaVerifier`: a public key, a message and a signature are checked. -/
structure RsaVerifier where
  verifyPssSha256 : List UInt8 → List UInt8 → List UInt8 → Except TlsError Unit
  verifyPssSha384 : List UInt8 → List UInt8 → List UInt8 → Except TlsError Unit
  verifyPssSha512 : List UInt8 → List UInt8 → List UInt8 → Except TlsError Unit
  verifyPkcs1v15Sha256 : List UInt8 → List UInt8 → List UInt8 → Except TlsError Unit
  verifyPkcs1v15Sha384 : List UInt8 → List UInt8 → List UInt8 → Except TlsError Unit
  verifyPkcs1v15Sha512 : List UInt8 → List UInt8 → List UInt8 → Except TlsError Unit

/-- What the verifier uses of other crates. -/
structure Pki where
  /-- `DecodedCertificate::from_der`. -/
  fromDer : List UInt8 → Option DecodedCertificate
  /-- A value in DER: its tag, its content, and what follows it. -/
  readTlv : List UInt8 → Option (UInt8 × List UInt8 × List UInt8)
  /-- `get_certificate_tlv_bytes`: the part of a certificate that is signed. -/
  certificateTlvBytes : List UInt8 → Option (List UInt8)
  p256 : Ecdsa
  p384 : Ecdsa
  sha256 : List UInt8 → List UInt8

/-! ## Names -/

def hostnameMaxlen : ℕ := 64

def maxSanDnsNames : ℕ := 8

def dnsNameTag : UInt8 := 0x82

def octetStringTag : UInt8 := 0x04

def sequenceTag : UInt8 := 0x30

def commonNameOid : List ℕ := [2, 5, 4, 3]

def subjectAltNameOid : List ℕ := [2, 5, 29, 17]

/-- `core::str::from_utf8`. -/
def fromUtf8 (bytes : List UInt8) : Option (List UInt8) :=
  (String.fromUTF8? ⟨bytes.toArray⟩).map fun _ => bytes

/-- `extract_common_name`: the last one counts. -/
def extractCommonName (tbs : TbsCertificate) : Option (Option (List UInt8)) :=
  tbs.subject.foldlM (fun commonName elems => do
    let attrs ← elems.head?
    if attrs.oid = commonNameOid then
      if hostnameMaxlen < attrs.value.length then none else some (fromUtf8 attrs.value)
    else some commonName) none

/-- The loop over the general names of an extension.  Every name takes at least a byte, so that the
length of the text is enough for all of them. -/
def pushDnsNames (pki : Pki) : ℕ → List UInt8 → List (List UInt8) → Option (List (List UInt8))
  | _, [], dnsNames => some dnsNames
  | 0, _ :: _, _ => none
  | fuel + 1, text, dnsNames => do
      let (tag, value, rest) ← pki.readTlv text
      if tag = dnsNameTag then
        let dnsName ← fromUtf8 value
        if hostnameMaxlen < dnsName.length then none
        else
          let dnsNames :=
            if dnsNames.length < maxSanDnsNames then dnsNames ++ [dnsName] else dnsNames
          if dnsNames.length = maxSanDnsNames then some dnsNames
          else pushDnsNames pki fuel rest dnsNames
      else pushDnsNames pki fuel rest dnsNames

/-- `extract_san_dns_names`. -/
def extractSanDnsNames (pki : Pki) (tbs : TbsCertificate) : Option (List (List UInt8)) :=
  match tbs.extensions with
  | none => some []
  | some extensions =>
      extensions.foldlM (fun dnsNames elems =>
        if elems.extnId ≠ subjectAltNameOid then some dnsNames
        else if elems.tag ≠ octetStringTag then none
        else do
          let (tag, content, _) ← pki.readTlv elems.extnValue
          if tag ≠ sequenceTag then none
          else pushDnsNames pki content.length content dnsNames) []

/-! ## One certificate -/

/-- `certificate_entry_eq`. -/
def certificateEntryEq : CertificateEntry → CertificateEntry → Bool
  | .x509 left, .x509 right => left == right
  | _, _ => false

/-- `certificate_entry_same_public_key`. -/
def certificateEntrySamePublicKey (pki : Pki) : CertificateEntry → CertificateEntry → Bool
  | .x509 left, .x509 right =>
      match pki.fromDer left, pki.fromDer right with
      | some left, some right => left.tbsCertificate.publicKey == right.tbsCertificate.publicKey
      | _, _ => false
  | _, _ => false

/-- The signature of a certificate, on a curve. -/
def checkEcdsa (ecdsa : Ecdsa) (caPublicKey certificateData : List UInt8)
    (signature : Option (List UInt8)) : Except TlsError Bool :=
  if ecdsa.isKey caPublicKey = false then throw .decodeError
  else
    match signature with
    | none => throw (.parseError .invalidData)
    | some signature =>
        if ecdsa.isSignature signature = false then throw (.parseError .invalidData)
        else return ecdsa.verify caPublicKey certificateData signature

/-- The signature of a certificate, with RSA. -/
def checkRsa (verify : RsaVerifier → List UInt8 → List UInt8 → List UInt8 → Except TlsError Unit)
    (rsaVerifier : Option RsaVerifier) (caPublicKey certificateData : List UInt8)
    (signature : Option (List UInt8)) : Except TlsError Bool :=
  match signature, rsaVerifier with
  | none, _ => throw (.parseError .invalidData)
  | some _, none => throw .invalidSignatureScheme
  | some signature, some rsaVerifier => do
      verify rsaVerifier caPublicKey certificateData signature
      return true

/-- The signature of a certificate. -/
def checkSignature (pki : Pki) (rsaVerifier : Option RsaVerifier) (caPublicKey : List UInt8)
    (certificateData : List UInt8) (certificate : DecodedCertificate) : Except TlsError Bool :=
  match certificate.signatureAlgorithm with
  | .ecdsaSha256 => checkEcdsa pki.p256 caPublicKey certificateData certificate.signature
  | .ecdsaSha384 => checkEcdsa pki.p384 caPublicKey certificateData certificate.signature
  | .rsaPkcs1Sha256 =>
      checkRsa RsaVerifier.verifyPkcs1v15Sha256 rsaVerifier caPublicKey certificateData
        certificate.signature
  | .rsaPkcs1Sha384 =>
      checkRsa RsaVerifier.verifyPkcs1v15Sha384 rsaVerifier caPublicKey certificateData
        certificate.signature
  | .rsaPkcs1Sha512 =>
      checkRsa RsaVerifier.verifyPkcs1v15Sha512 rsaVerifier caPublicKey certificateData
        certificate.signature
  | .other => throw .invalidSignatureScheme

/-- `DecodedCertificate::from_der` of an entry. -/
def decodeEntry (pki : Pki) : CertificateEntry → Except TlsError DecodedCertificate
  | .x509 der =>
      match pki.fromDer der with
      | some certificate => .ok certificate
      | none => .error .decodeError
  | .rawPublicKey _ => .error .decodeError

/-- An optional value that must be there. -/
def required {α : Type} (value : Option α) (error : TlsError) : Except TlsError α :=
  match value with
  | some value => .ok value
  | none => .error error

/-- `verify_certificate`: an issuer has signed a certificate, and it is valid now, if there is a
clock. -/
def verifyCertificate (pki : Pki) (rsaVerifier : Option RsaVerifier) (now : Option UInt64)
    (verifier certificate : CertificateEntry) : Except TlsError CertificateNames := do
  let caCertificate ← decodeEntry pki verifier
  match certificate with
  | .rawPublicKey _ => throw .invalidCertificate
  | .x509 der =>
      let parsedCertificate ← required (pki.fromDer der) .decodeError
      let tbs := parsedCertificate.tbsCertificate
      let caPublicKey ← required caCertificate.tbsCertificate.publicKey .decodeError
      let commonName ← required (extractCommonName tbs) .decodeError
      let sanDnsNames ← required (extractSanDnsNames pki tbs) .decodeError
      if now.any fun now => tbs.notBefore > now || tbs.notAfter < now then
        throw .invalidCertificate
      let certificateData ← required (pki.certificateTlvBytes der) .decodeError
      let verified ← checkSignature pki rsaVerifier caPublicKey certificateData parsedCertificate
      if verified = false then throw .invalidCertificate
      return ⟨commonName, sanDnsNames⟩

/-! ## The certificates of a message -/

/-- `CertificateRef`, with its entries as they are parsed from the raw bytes. -/
structure CertificateRef where
  rawEntries : List UInt8
  requestContext : List UInt8
  entries : List CertificateEntry
  deriving DecidableEq

/-- `CertVerifier`; a hash is what it has been given so far. -/
structure CertVerifier where
  ca : CertificateEntry
  host : Option (List UInt8)
  certificateTranscript : Option (List UInt8)
  certificate : Option CertificateRef
  rsaVerifier : Option RsaVerifier
  certSize : ℕ

/-- The walk over the certificates from an index on: the names in the first one that is verified. -/
def verifyEntries (pki : Pki) (rsaVerifier : Option RsaVerifier) (now : Option UInt64)
    (ca : CertificateEntry) :
    ℕ → List CertificateEntry → CertificateNames → Except TlsError CertificateNames
  | _, [], names => return names
  | idx, certificate :: rest, names =>
      if certificateEntryEq certificate ca ||
          (0 < idx && certificateEntrySamePublicKey pki certificate ca) then
        return names
      else do
        let issuer := rest.head?.getD ca
        let verifiedNames ← verifyCertificate pki rsaVerifier now issuer certificate
        verifyEntries pki rsaVerifier now ca (idx + 1) rest
          (if idx = 0 then verifiedNames else names)

/-- A certificate is copied into buffers of a fixed size. -/
def CertificateRef.toOwned (cert : CertificateRef) (certSize : ℕ) :
    Except TlsError CertificateRef :=
  if 256 < cert.requestContext.length then throw .outOfMemory
  else if certSize < cert.rawEntries.length then throw .outOfMemory
  else return cert

/-- `SignatureScheme`, as far as they are told apart. -/
inductive SignatureScheme
  | ecdsaSecp256r1Sha256
  | ecdsaSecp384r1Sha384
  | rsaPssRsaeSha256
  | rsaPssRsaeSha384
  | rsaPssRsaeSha512
  | other
  deriving DecidableEq

/-- `CertificateVerifyRef`. -/
structure CertificateVerify where
  signatureScheme : SignatureScheme
  signature : List UInt8
  deriving DecidableEq

/-- A signature on a curve in the handshake. -/
def verifyEcdsa (ecdsa : Ecdsa) (publicKey message signature : List UInt8) :
    Except TlsError Bool :=
  if ecdsa.isKey publicKey = false then throw .decodeError
  else if ecdsa.isSignature signature = false then throw .decodeError
  else return ecdsa.verify publicKey message signature

/-- A signature with RSA in the handshake. -/
def verifyPss (verify : RsaVerifier → List UInt8 → List UInt8 → List UInt8 → Except TlsError Unit)
    (rsaVerifier : Option RsaVerifier) (publicKey message signature : List UInt8) :
    Except TlsError Bool := do
  verify (← required rsaVerifier .invalidSignatureScheme) publicKey message signature
  return true

/-- `verify_signature`: a message is signed with the key of the first certificate. -/
def verifySignature (pki : Pki) (rsaVerifier : Option RsaVerifier) (message : List UInt8)
    (certificate : CertificateRef) (verify : CertificateVerify) : Except TlsError Unit := do
  let entry ← required certificate.entries.head? .decodeError
  let certificate ← decodeEntry pki entry
  let publicKey ← required certificate.tbsCertificate.publicKey .decodeError
  let verified ←
    match verify.signatureScheme with
    | .ecdsaSecp256r1Sha256 => verifyEcdsa pki.p256 publicKey message verify.signature
    | .ecdsaSecp384r1Sha384 => verifyEcdsa pki.p384 publicKey message verify.signature
    | .rsaPssRsaeSha256 =>
        verifyPss RsaVerifier.verifyPssSha256 rsaVerifier publicKey message verify.signature
    | .rsaPssRsaeSha384 =>
        verifyPss RsaVerifier.verifyPssSha384 rsaVerifier publicKey message verify.signature
    | .rsaPssRsaeSha512 =>
        verifyPss RsaVerifier.verifyPssSha512 rsaVerifier publicKey message verify.signature
    | .other => throw .invalidSignatureScheme
  if verified = false then throw .invalidSignature

/-- `TLS 1.3, server CertificateVerify`, between padding and a zero. -/
def serverContext : List UInt8 :=
  List.replicate 64 0x20 ++ "TLS 1.3, server CertificateVerify".toUTF8.data.toList ++ [0]

namespace CertVerifier

/-- `CertVerifier::new`, for an authority given as a certificate. -/
def new (ca : List UInt8) (rsaVerifier : Option RsaVerifier) (certSize : ℕ) : CertVerifier where
  ca := .x509 ca
  host := none
  certificateTranscript := none
  certificate := none
  rsaVerifier := rsaVerifier
  certSize := certSize

/-- `set_hostname_verification`. -/
def setHostnameVerification (verifier : CertVerifier) (hostname : List UInt8) :
    Except TlsError CertVerifier :=
  if hostnameMaxlen < hostname.length then throw .insufficientSpace
  else return { verifier with host := some hostname }

/-- `TlsVerifier::verify_certificate`. -/
def verifyCertificate (pki : Pki) (now : Option UInt64) (verifier : CertVerifier)
    (transcript : List UInt8) (cert : CertificateRef) : Except TlsError CertVerifier := do
  let names ← verifyEntries pki verifier.rsaVerifier now verifier.ca 0 cert.entries ⟨none, []⟩
  if tlsHostnameMatch names verifier.host = false then throw .invalidCertificate
  let certificate ← cert.toOwned verifier.certSize
  return { verifier with
    certificate := some certificate
    certificateTranscript := some transcript }

/-- `TlsVerifier::verify_signature`.  Without a certificate before it, the client panics; the
certificate is parsed again from the bytes from which it was parsed before. -/
def verifySignature (pki : Pki) (verifier : CertVerifier) (verify : CertificateVerify) :
    Except TlsHalt CertVerifier :=
  match verifier.certificateTranscript, verifier.certificate with
  | some transcript, some certificate => do
      let message := serverContext ++ pki.sha256 transcript
      (Tls.verifySignature pki verifier.rsaVerifier message certificate verify).mapError .err
      return { verifier with certificateTranscript := none }
  | _, _ => throw .panic

end CertVerifier

/-! ## Who is trusted -/

section Trust

variable (pki : Pki) (rsaVerifier : Option RsaVerifier) (now : Option UInt64)

/-- The key that a certificate is for. -/
def KeyOf (entry : CertificateEntry) (key : List UInt8) : Prop :=
  ∃ der certificate, entry = .x509 der ∧ pki.fromDer der = some certificate ∧
    certificate.tbsCertificate.publicKey = some key

/-- A key has signed a certificate for some names, and the certificate is valid. -/
structure SignedBy (key : List UInt8) (entry : CertificateEntry) (names : CertificateNames) :
    Prop where
  signed : ∃ der certificate data, entry = .x509 der ∧ pki.fromDer der = some certificate ∧
    extractCommonName certificate.tbsCertificate = some names.commonName ∧
    extractSanDnsNames pki certificate.tbsCertificate = some names.sanDnsNames ∧
    (∀ time ∈ now, certificate.tbsCertificate.notBefore ≤ time ∧
      time ≤ certificate.tbsCertificate.notAfter) ∧
    pki.certificateTlvBytes der = some data ∧
    checkSignature pki rsaVerifier key data certificate = .ok true

/-- A key has certified an entry, at one or more removes. -/
inductive Certified (root : List UInt8) : CertificateEntry → CertificateNames → Prop
  | direct {entry : CertificateEntry} {names : CertificateNames} :
      SignedBy pki rsaVerifier now root entry names → Certified root entry names
  | issued {issuer entry : CertificateEntry} {key : List UInt8}
      {issuerNames names : CertificateNames} :
      Certified root issuer issuerNames → KeyOf pki issuer key →
      SignedBy pki rsaVerifier now key entry names → Certified root entry names

/-- An issuer and what follows it in a message, up to the authority. -/
inductive Trusted (ca : CertificateEntry) : List CertificateEntry → Prop
  | nil : Trusted ca []
  | anchor {entry : CertificateEntry} (rest : List CertificateEntry) :
      certificateEntryEq entry ca = true ∨ certificateEntrySamePublicKey pki entry ca = true →
      Trusted ca (entry :: rest)
  | issued {entry : CertificateEntry} {rest : List CertificateEntry} {key : List UInt8}
      {names : CertificateNames} :
      KeyOf pki (rest.head?.getD ca) key → SignedBy pki rsaVerifier now key entry names →
      Trusted ca rest → Trusted ca (entry :: rest)

variable {pki rsaVerifier now}

theorem KeyOf.unique {entry : CertificateEntry} {left right : List UInt8}
    (left_key : KeyOf pki entry left) (right_key : KeyOf pki entry right) : left = right := by
  obtain ⟨der, certificate, rfl, decoded, key⟩ := left_key
  obtain ⟨_, _, same, decoded', key'⟩ := right_key
  cases same
  obtain rfl := Option.some.inj (decoded.symm.trans decoded')
  exact Option.some.inj (key.symm.trans key')

theorem decodeEntry_eq_ok_iff {entry : CertificateEntry} {certificate : DecodedCertificate} :
    decodeEntry pki entry = .ok certificate ↔
      ∃ der, entry = .x509 der ∧ pki.fromDer der = some certificate := by
  cases entry with
  | rawPublicKey => simp [decodeEntry]
  | x509 der => cases decoded : pki.fromDer der <;> simp [decodeEntry, decoded]

theorem required_eq_ok_iff {α : Type} {value : Option α} {error : TlsError} {result : α} :
    required value error = .ok result ↔ value = some result := by
  cases value <;> simp [required]

/-- A certificate is neither too young nor too old. -/
theorem timely_iff {notBefore notAfter : UInt64} :
    ¬ (now.any fun now => notBefore > now || notAfter < now) = true ↔
      ∀ time ∈ now, notBefore ≤ time ∧ time ≤ notAfter := by
  cases now with
  | none => simp
  | some time => simp [UInt64.not_lt]

/-- What `verify_certificate` accepts. -/
theorem verifyCertificate_eq_ok_iff {issuer entry : CertificateEntry} {names : CertificateNames} :
    verifyCertificate pki rsaVerifier now issuer entry = .ok names ↔
      ∃ key, KeyOf pki issuer key ∧ SignedBy pki rsaVerifier now key entry names := by
  unfold verifyCertificate
  rw [Except.bind_eq_ok_iff]
  cases entry with
  | rawPublicKey =>
      constructor
      · rintro ⟨ca, decoded, impossible⟩
        cases impossible
      · rintro ⟨key, issuer_key, ⟨_, _, _, impossible, -⟩⟩
        cases impossible
  | x509 der =>
      simp only [Except.bind_eq_ok_iff, required_eq_ok_iff, Except.guard_eq_ok_iff,
        decodeEntry_eq_ok_iff, timely_iff]
      constructor
      · rintro ⟨ca, ⟨caDer, rfl, decoded⟩, certificate, parsed, key, key_eq, commonName, common,
          sanDnsNames, alternatives, timely, data, signed, verified, checked, passed, returned⟩
        cases returned
        obtain rfl : verified = true := by simpa using passed
        exact ⟨key, ⟨caDer, ca, rfl, decoded, key_eq⟩,
          ⟨der, certificate, data, rfl, parsed, common, alternatives, timely, signed, checked⟩⟩
      · rintro ⟨key, ⟨caDer, ca, rfl, decoded, key_eq⟩,
          ⟨_, certificate, data, same, parsed, common, alternatives, timely, signed, checked⟩⟩
        cases same
        exact ⟨ca, ⟨caDer, rfl, decoded⟩, certificate, parsed, key, key_eq, _, common, _,
          alternatives, timely, data, signed, true, checked, by decide, rfl⟩

/-- Entries behind the first one are walked over exactly if they are trusted. -/
theorem verifyEntries_succ_iff {ca : CertificateEntry} {idx : ℕ} {entries : List CertificateEntry}
    {names result : CertificateNames} :
    verifyEntries pki rsaVerifier now ca (idx + 1) entries names = .ok result ↔
      Trusted pki rsaVerifier now ca entries ∧ result = names := by
  induction entries generalizing idx with
  | nil =>
      rw [verifyEntries]
      constructor
      · intro returned
        cases returned
        exact ⟨.nil, rfl⟩
      · rintro ⟨-, rfl⟩
        rfl
  | cons entry rest ih =>
      rw [verifyEntries]
      by_cases anchor : certificateEntryEq entry ca = true ∨
          certificateEntrySamePublicKey pki entry ca = true
      · rw [if_pos (by simpa using anchor)]
        constructor
        · intro returned
          cases returned
          exact ⟨.anchor rest anchor, rfl⟩
        · rintro ⟨-, rfl⟩
          rfl
      · rw [if_neg (by simpa using anchor)]
        simp only [Except.bind_eq_ok_iff, verifyCertificate_eq_ok_iff, if_neg (Nat.succ_ne_zero _),
          ih]
        constructor
        · rintro ⟨entryNames, ⟨key, issuer_key, signed⟩, trusted, rfl⟩
          exact ⟨.issued issuer_key signed trusted, rfl⟩
        · rintro ⟨trusted, rfl⟩
          cases trusted with
          | anchor _ found => exact absurd found anchor
          | issued issuer_key signed trusted => exact ⟨_, ⟨_, issuer_key, signed⟩, trusted, rfl⟩

/-- The names that the walk over a message gives: those of its first certificate, if the ones behind
it vouch for it; none if there is no certificate, or the first one is the authority's own. -/
theorem verifyEntries_zero_iff {ca : CertificateEntry} {entries : List CertificateEntry}
    {names : CertificateNames} :
    verifyEntries pki rsaVerifier now ca 0 entries ⟨none, []⟩ = .ok names ↔
      match entries with
      | [] => names = ⟨none, []⟩
      | leaf :: others =>
          if certificateEntryEq leaf ca = true then names = ⟨none, []⟩
          else (∃ key, KeyOf pki (others.head?.getD ca) key ∧
              SignedBy pki rsaVerifier now key leaf names) ∧
            Trusted pki rsaVerifier now ca others := by
  cases entries with
  | nil =>
      rw [verifyEntries]
      exact ⟨fun returned => (Except.ok.inj returned).symm, fun same => by rw [same]; rfl⟩
  | cons leaf others =>
      rw [verifyEntries]
      dsimp only
      by_cases own : certificateEntryEq leaf ca = true
      · rw [if_pos (by simpa using own), if_pos own]
        exact ⟨fun returned => (Except.ok.inj returned).symm, fun same => by rw [same]; rfl⟩
      · rw [if_neg (by simpa using own), if_neg own]
        simp only [Except.bind_eq_ok_iff, verifyCertificate_eq_ok_iff, if_true,
          verifyEntries_succ_iff]
        constructor
        · rintro ⟨_, issued, trusted, rfl⟩
          exact ⟨issued, trusted⟩
        · rintro ⟨issued, trusted⟩
          exact ⟨_, issued, trusted, rfl⟩

/-- What is trusted has been certified by the authority, also where its key is met under another
certificate. -/
theorem certified_of_trusted {ca entry : CertificateEntry} {others : List CertificateEntry}
    {key : List UInt8} {names : CertificateNames} (trusted : Trusted pki rsaVerifier now ca others)
    (issuer_key : KeyOf pki (others.head?.getD ca) key)
    (signed : SignedBy pki rsaVerifier now key entry names) :
    ∃ root, KeyOf pki ca root ∧ Certified pki rsaVerifier now root entry names := by
  induction trusted generalizing entry key names with
  | nil => exact ⟨key, issuer_key, .direct signed⟩
  | @anchor anchor rest found =>
      obtain ⟨der, certificate, rfl, decoded, key_eq⟩ := issuer_key
      refine ⟨key, ?_, .direct signed⟩
      cases ca with
      | rawPublicKey =>
          obtain found | found := found <;> cases found
      | x509 caDer =>
          obtain same | same_key := found
          · obtain rfl : der = caDer := by simpa [certificateEntryEq] using same
            exact ⟨der, certificate, rfl, decoded, key_eq⟩
          · cases caDecoded : pki.fromDer caDer with
            | none => simp [certificateEntrySamePublicKey, decoded, caDecoded] at same_key
            | some caCertificate =>
                refine ⟨caDer, caCertificate, rfl, caDecoded, ?_⟩
                rw [certificateEntrySamePublicKey, decoded, caDecoded] at same_key
                exact (beq_iff_eq.mp same_key).symm.trans key_eq
  | @issued issuer rest _ _ key_of_next issuer_signed _ ih =>
      obtain ⟨root, root_key, certified⟩ := ih key_of_next issuer_signed
      exact ⟨root, root_key, .issued certified issuer_key signed⟩

/-- Whatever the key of the authority has certified can be shown to be trusted. -/
theorem trusted_of_certified {ca entry : CertificateEntry} {root : List UInt8}
    {names : CertificateNames} (root_key : KeyOf pki ca root)
    (certified : Certified pki rsaVerifier now root entry names) :
    ∃ others key, KeyOf pki (others.head?.getD ca) key ∧
      SignedBy pki rsaVerifier now key entry names ∧ Trusted pki rsaVerifier now ca others := by
  induction certified with
  | direct signed => exact ⟨[], root, root_key, signed, .nil⟩
  | @issued issuer entry key _ _ _ issuer_key signed ih =>
      obtain ⟨others, nextKey, next_key, issuer_signed, trusted⟩ := ih
      exact ⟨issuer :: others, key, issuer_key, signed, .issued next_key issuer_signed trusted⟩

/-- There are entries behind a certificate other than the authority's own with which the walk gives
its names exactly if the key of the authority has certified it, directly or through any others: who
has been certified for a name may certify any name.  A message has room for 16 of the entries. -/
theorem verifyEntries_certified_iff {ca leaf : CertificateEntry} {names : CertificateNames} :
    (certificateEntryEq leaf ca = false ∧
      ∃ others, verifyEntries pki rsaVerifier now ca 0 (leaf :: others) ⟨none, []⟩ = .ok names) ↔
      certificateEntryEq leaf ca = false ∧
        ∃ root, KeyOf pki ca root ∧ Certified pki rsaVerifier now root leaf names := by
  refine and_congr_right fun other => ?_
  simp only [verifyEntries_zero_iff, other, Bool.false_eq_true, if_false]
  constructor
  · rintro ⟨others, ⟨key, issuer_key, signed⟩, trusted⟩
    exact certified_of_trusted trusted issuer_key signed
  · rintro ⟨root, root_key, certified⟩
    obtain ⟨others, key, issuer_key, signed, trusted⟩ := trusted_of_certified root_key certified
    exact ⟨others, ⟨key, issuer_key, signed⟩, trusted⟩

theorem CertificateRef.toOwned_eq_ok_iff {cert owned : CertificateRef} {certSize : ℕ} :
    cert.toOwned certSize = .ok owned ↔
      owned = cert ∧ cert.requestContext.length ≤ 256 ∧ cert.rawEntries.length ≤ certSize := by
  unfold toOwned
  split_ifs with context raw
  · exact iff_of_false (fun impossible => by cases impossible) fun fits => by omega
  · exact iff_of_false (fun impossible => by cases impossible) fun fits => by omega
  · constructor
    · intro returned
      cases returned
      exact ⟨rfl, by omega, by omega⟩
    · rintro ⟨rfl, -, -⟩
      rfl

/-- A certificate message is accepted, and kept with the transcript. -/
theorem CertVerifier.verifyCertificate_eq_ok_iff {verifier after : CertVerifier}
    {transcript : List UInt8} {cert : CertificateRef} :
    CertVerifier.verifyCertificate pki now verifier transcript cert = .ok after ↔
      (∃ names, verifyEntries pki verifier.rsaVerifier now verifier.ca 0 cert.entries
          ⟨none, []⟩ = .ok names ∧ tlsHostnameMatch names verifier.host = true) ∧
        (cert.requestContext.length ≤ 256 ∧ cert.rawEntries.length ≤ verifier.certSize) ∧
        after = { verifier with
          certificate := some cert
          certificateTranscript := some transcript } := by
  simp only [CertVerifier.verifyCertificate, Except.bind_eq_ok_iff, Except.guard_eq_ok_iff,
    CertificateRef.toOwned_eq_ok_iff, Bool.not_eq_false]
  constructor
  · rintro ⟨names, accepted, good, _, ⟨rfl, fits⟩, last⟩
    cases last
    exact ⟨⟨names, accepted, good⟩, fits, rfl⟩
  · rintro ⟨⟨names, accepted, good⟩, fits, rfl⟩
    exact ⟨names, accepted, good, cert, ⟨rfl, fits⟩, rfl⟩

/-- A signature is accepted for the certificate that is kept, and the transcript is used up. -/
theorem CertVerifier.verifySignature_eq_ok_iff {verifier after : CertVerifier}
    {verify : CertificateVerify} :
    CertVerifier.verifySignature pki verifier verify = .ok after ↔
      ∃ transcript cert, verifier.certificateTranscript = some transcript ∧
        verifier.certificate = some cert ∧
        Tls.verifySignature pki verifier.rsaVerifier (serverContext ++ pki.sha256 transcript) cert
          verify = .ok () ∧
        after = { verifier with certificateTranscript := none } := by
  unfold CertVerifier.verifySignature
  constructor
  · intro returned
    split at returned
    · rename_i transcript cert shown held
      obtain ⟨_, signed, last⟩ := Except.of_bind_eq_ok returned
      cases last
      exact ⟨transcript, cert, shown, held, Except.of_mapError_eq_ok signed, rfl⟩
    · cases returned
  · rintro ⟨transcript, cert, shown, held, signed, rfl⟩
    rw [shown, held]
    exact Except.bind_eq_ok_iff.mpr ⟨(), congrArg (Except.mapError TlsHalt.err) signed, rfl⟩

/-- A message is accepted for a host exactly if a name in its first certificate is good for the
host, that certificate is not the authority's own, the certificates behind it vouch for it up to the
authority, and it fits into the buffer. -/
theorem verifyCertificate_accepts_iff {verifier : CertVerifier} {host transcript : List UInt8}
    {cert : CertificateRef} :
    (∃ after, CertVerifier.verifyCertificate pki now { verifier with host := some host } transcript
        cert = .ok after) ↔
      (∃ leaf others names, cert.entries = leaf :: others ∧
        certificateEntryEq leaf verifier.ca = false ∧
        (∃ key, KeyOf pki (others.head?.getD verifier.ca) key ∧
          SignedBy pki verifier.rsaVerifier now key leaf names) ∧
        Trusted pki verifier.rsaVerifier now verifier.ca others ∧
        ∃ name, (name ∈ names.sanDnsNames ∨ names.commonName = some name) ∧ GoodFor name host) ∧
        cert.requestContext.length ≤ 256 ∧ cert.rawEntries.length ≤ verifier.certSize := by
  have nameless : ¬ tlsHostnameMatch ⟨none, []⟩ (some host) = true := by simp [tlsHostnameMatch]
  have walked : (∃ names, verifyEntries pki verifier.rsaVerifier now verifier.ca 0 cert.entries
        ⟨none, []⟩ = .ok names ∧ tlsHostnameMatch names (some host) = true) ↔
      ∃ leaf others names, cert.entries = leaf :: others ∧
        certificateEntryEq leaf verifier.ca = false ∧
        (∃ key, KeyOf pki (others.head?.getD verifier.ca) key ∧
          SignedBy pki verifier.rsaVerifier now key leaf names) ∧
        Trusted pki verifier.rsaVerifier now verifier.ca others ∧
        tlsHostnameMatch names (some host) = true := by
    simp only [verifyEntries_zero_iff]
    constructor
    · rintro ⟨names, accepted, good⟩
      cases entries : cert.entries with
      | nil =>
          rw [entries] at accepted
          exact absurd (accepted ▸ good) nameless
      | cons leaf others =>
          rw [entries] at accepted
          dsimp only at accepted
          split_ifs at accepted with own
          · exact absurd (accepted ▸ good) nameless
          · exact ⟨leaf, others, names, rfl, Bool.eq_false_iff.mpr own, accepted.1, accepted.2,
              good⟩
    · rintro ⟨leaf, others, names, entries, other, issued, trusted, good⟩
      rw [entries]
      refine ⟨names, ?_, good⟩
      dsimp only
      rw [if_neg (Bool.eq_false_iff.mp other)]
      exact ⟨issued, trusted⟩
  simp only [tlsHostnameMatch_iff] at walked
  rw [← walked]
  simp only [CertVerifier.verifyCertificate_eq_ok_iff, tlsHostnameMatch_iff]
  constructor
  · rintro ⟨after, named, fits, -⟩
    exact ⟨named, fits⟩
  · rintro ⟨named, fits⟩
    exact ⟨_, named, fits, rfl⟩

end Trust

end Tls
end Motonet
