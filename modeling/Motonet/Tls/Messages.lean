import Motonet.Foundation.ByteString
import Motonet.Tls.CertVerifier

/-!
# Handshake messages

The messages of a server as the client parses them.  The length of a message is read and ignored:
where a message ends is found out by parsing it.
-/

namespace Motonet
namespace Tls

open ByteString

/-- `ParseBuffer`: a parser takes bytes from the front of a text. -/
abbrev Parser := StateT (List UInt8) (Except TlsError)

namespace Parser

/-- The error of `?` where bytes are missing. -/
def missing : TlsError := .parseError .insufficientBytes

/-- `slice` and `fill`. -/
def slice (len : ℕ) (error : TlsError) : Parser (List UInt8) := fun text =>
  if len ≤ text.length then .ok (text.take len, text.drop len) else .error error

/-- `read_u8` to `read_u32`. -/
def readNumber (width : ℕ) (error : TlsError) : Parser ℕ := do
  return ofBigEndian (← slice width error)

def fail {α : Type} (error : TlsError) : Parser α := fun _ => .error error

/-- `read_list`: the items in a text, not more than there is room for.  Items take at least a byte,
so that the length of the text is enough for all of them. -/
def readItems (capacity : ℕ) (read : Parser Unit) : ℕ → List UInt8 → ℕ → Except TlsError Unit
  | _, [], _ => .ok ()
  | 0, _ :: _, _ => .error missing
  | fuel + 1, text, count =>
      match read text with
      | .error error => .error error
      | .ok (_, rest) =>
          if capacity ≤ count then .error (.parseError .insufficientSpace)
          else readItems capacity read fuel rest (count + 1)

end Parser

open Tls.Parser

/-! ## Extensions -/

namespace ExtensionType

def serverName : ℕ := 0
def maxFragmentLength : ℕ := 1
def statusRequest : ℕ := 5
def supportedGroups : ℕ := 10
def signatureAlgorithms : ℕ := 13
def useSrtp : ℕ := 14
def heartbeat : ℕ := 15
def applicationLayerProtocolNegotiation : ℕ := 16
def signedCertificateTimestamp : ℕ := 18
def clientCertificateType : ℕ := 19
def serverCertificateType : ℕ := 20
def padding : ℕ := 21
def compressCertificate : ℕ := 27
def preSharedKey : ℕ := 41
def earlyData : ℕ := 42
def supportedVersions : ℕ := 43
def cookie : ℕ := 44
def pskKeyExchangeModes : ℕ := 45
def certificateAuthorities : ℕ := 47
def oidFilters : ℕ := 48
def postHandshakeAuth : ℕ := 49
def signatureAlgorithmsCert : ℕ := 50
def keyShare : ℕ := 51

/-- The types that `ExtensionType::parse` knows. -/
def known : List ℕ :=
  [serverName, maxFragmentLength, statusRequest, supportedGroups, signatureAlgorithms, useSrtp,
    heartbeat, applicationLayerProtocolNegotiation, signedCertificateTimestamp,
    clientCertificateType, serverCertificateType, padding, compressCertificate, preSharedKey,
    earlyData, supportedVersions, cookie, pskKeyExchangeModes, certificateAuthorities, oidFilters,
    postHandshakeAuth, signatureAlgorithmsCert, keyShare]

end ExtensionType

/-- The named groups, by number. -/
def namedGroups : List ℕ :=
  [0x0017, 0x0018, 0x0019, 0x001D, 0x001E, 0x0100, 0x0101, 0x0102, 0x0103, 0x0104, 0x11EB, 0x11EC,
    0x11ED]

/-- The signature schemes, by number. -/
def signatureSchemes : List ℕ :=
  [0x0401, 0x0501, 0x0601, 0x0403, 0x0503, 0x0603, 0x0804, 0x0805, 0x0806, 0x0807, 0x0808, 0x0809,
    0x080a, 0x080b, 0x0303, 0x0301, 0x0302, 0x0201, 0x0203, 0x081A, 0x081B, 0x081C, 0x0904, 0x0905,
    0x0906]

/-- A number of two bytes from a list. -/
def readMember (numbers : List ℕ) (error : TlsError) : Parser ℕ := do
  let number ← readNumber 2 error
  if number ∈ numbers then return number else fail error

/-- A list of numbers, with its length in front. -/
def readMembers (capacity : ℕ) (numbers : List ℕ) : Parser Unit := do
  let dataLength ← readNumber 2 missing
  let data ← slice dataLength missing
  StateT.lift (readItems capacity (do let _ ← readMember numbers missing) data.length data 0)

/-- `Unimplemented`: any data. -/
def unimplemented : Parser (List UInt8) := return []

/-- `KeyShareEntry::parse`: the key in it. -/
def keyShareEntry : Parser (List UInt8) := do
  let _ ← readMember namedGroups missing
  let opaqueLen ← readNumber 2 missing
  slice opaqueLen missing

/-- The names of a protocol list; none of them is empty. -/
def protocolName : Parser Unit := do
  let nameLen ← readNumber 1 missing
  if nameLen = 0 then fail (.parseError .invalidData)
  let _ ← slice nameLen missing

/-- An extension group: how many extensions there may be, and how the data of each is parsed. -/
structure ExtensionGroup where
  capacity : ℕ
  parsers : List (ℕ × Parser (List UInt8))

open ExtensionType

/-- `ServerHelloExtension`. -/
def serverHelloExtension : ExtensionGroup where
  capacity := 4
  parsers :=
    [(keyShare, keyShareEntry), (preSharedKey, do let _ ← readNumber 2 missing; return []),
      (cookie, unimplemented), (supportedVersions, do let _ ← readNumber 2 missing; return [])]

/-- `EncryptedExtensionsExtension`. -/
def encryptedExtensionsExtension : ExtensionGroup where
  capacity := 16
  parsers :=
    [(serverName, fun text =>
        if text = [] then .ok ([], []) else .error (.parseError .invalidData)),
      (maxFragmentLength, do
        let number ← readNumber 1 missing
        if number ∈ [1, 2, 3, 4] then return [] else fail (.parseError .invalidData)),
      (supportedGroups, do readMembers 13 namedGroups; return []),
      (useSrtp, unimplemented), (heartbeat, unimplemented),
      (applicationLayerProtocolNegotiation, do
        let listLen ← readNumber 2 missing
        let list ← slice listLen missing
        StateT.lift (readItems list.length protocolName list.length list 0)
        return []),
      (clientCertificateType, unimplemented), (serverCertificateType, unimplemented),
      (earlyData, unimplemented)]

/-- `CertificateRequestExtension`. -/
def certificateRequestExtension : ExtensionGroup where
  capacity := 6
  parsers :=
    [(statusRequest, unimplemented),
      (signatureAlgorithms, do readMembers 25 signatureSchemes; return []),
      (signedCertificateTimestamp, unimplemented), (certificateAuthorities, unimplemented),
      (oidFilters, unimplemented), (signatureAlgorithmsCert, unimplemented),
      (compressCertificate, unimplemented)]

/-- `CertificateExtension`. -/
def certificateExtension : ExtensionGroup where
  capacity := 2
  parsers := [(statusRequest, unimplemented), (signedCertificateTimestamp, unimplemented)]

/-- `NewSessionTicketExtension`. -/
def newSessionTicketExtension : ExtensionGroup where
  capacity := 1
  parsers := [(earlyData, unimplemented)]

/-- `parse` of an extension group, with nothing for an extension of an unknown type. -/
def ExtensionGroup.parse (group : ExtensionGroup) : Parser (Option (ℕ × List UInt8)) := do
  let extensionType ← readNumber 2 .decodeError
  let dataLen ← readNumber 2 .decodeError
  let extData ← slice dataLen .decodeError
  if extensionType ∉ known then return none
  else
    match group.parsers.lookup extensionType with
    | none => fail (.abortHandshake .fatal .illegalParameter)
    | some parseData =>
        match parseData extData with
        | .ok (data, _) => return some (extensionType, data)
        | .error _ => fail .decodeError

/-- The extensions in a text; each takes at least a byte. -/
def ExtensionGroup.parseAll (group : ExtensionGroup) :
    ℕ → List UInt8 → List (ℕ × List UInt8) → Except TlsError (List (ℕ × List UInt8))
  | _, [], extensions => .ok extensions
  | 0, _ :: _, _ => .error .decodeError
  | fuel + 1, text, extensions =>
      match group.parse text with
      | .error error => .error error
      | .ok (none, rest) => group.parseAll fuel rest extensions
      | .ok (some extension, rest) =>
          if group.capacity ≤ extensions.length then .error .decodeError
          else group.parseAll fuel rest (extensions ++ [extension])

/-- `parse_vector`. -/
def ExtensionGroup.parseVector (group : ExtensionGroup) : Parser (List (ℕ × List UInt8)) := do
  let extensionsLen ← readNumber 2 .invalidExtensionsLength
  let text ← slice extensionsLen missing
  StateT.lift (group.parseAll text.length text [])

/-! ## Messages -/

/-- The types that `HandshakeType::parse` knows. -/
def handshakeTypes : List ℕ := [1, 2, 4, 5, 8, 11, 13, 15, 20, 24, 254]

/-- The cipher suites, by number. -/
def cipherSuites : List ℕ := [0x1301, 0x1302, 0x1303, 0x1304, 0x1305, 0x00A8]

/-- `SignatureScheme::parse` of a known number. -/
def SignatureScheme.of (number : ℕ) : SignatureScheme :=
  if number = 0x0403 then .ecdsaSecp256r1Sha256
  else if number = 0x0503 then .ecdsaSecp384r1Sha384
  else if number = 0x0804 then .rsaPssRsaeSha256
  else if number = 0x0805 then .rsaPssRsaeSha384
  else if number = 0x0806 then .rsaPssRsaeSha512
  else .other

/-- `ServerHandshake`, with what the client uses of each message.  A hash is what it has been given
so far. -/
inductive ServerHandshake
  | serverHello (keyShare : Option (List UInt8))
  | encryptedExtensions
  | newSessionTicket
  | certificate (cert : CertificateRef)
  | certificateRequest (requestContext : List UInt8)
  | certificateVerify (verify : CertificateVerify)
  | finished (verify : List UInt8) (hash : Option (List UInt8))
  deriving DecidableEq

/-- `ServerHello::parse`, with `key_share` of it.  Version, random numbers, session and cipher suite
are ignored. -/
def parseServerHello : Parser (Option (List UInt8)) := do
  let _ ← readNumber 2 .invalidHandshake
  let _ ← slice 32 missing
  let sessionIdLength ← readNumber 1 .invalidSessionIdLength
  let _ ← slice sessionIdLength .invalidSessionIdLength
  let _ ← readMember cipherSuites .invalidCipherSuite
  let _ ← readNumber 1 missing
  let extensions ← serverHelloExtension.parseVector
  return extensions.lookup ExtensionType.keyShare

/-- `CertificateEntryRef::parse`. -/
def parseCertificateEntry : Parser CertificateEntry := do
  let entryLen ← readNumber 3 .invalidCertificateEntry
  let cert ← slice entryLen .invalidCertificateEntry
  let _ ← certificateExtension.parseVector
  return .x509 cert

/-- `CertificateEntryRef::parse_vector`, with room for 16 entries; each takes at least a byte. -/
def parseCertificateEntries :
    ℕ → List UInt8 → List CertificateEntry → Except TlsError (List CertificateEntry)
  | _, [], entries => .ok entries
  | 0, _ :: _, _ => .error .decodeError
  | fuel + 1, text, entries =>
      match parseCertificateEntry text with
      | .error error => .error error
      | .ok (entry, rest) =>
          if 16 ≤ entries.length then .error .decodeError
          else parseCertificateEntries fuel rest (entries ++ [entry])

/-- `CertificateRef::parse`. -/
def parseCertificate : Parser CertificateRef := do
  let requestContextLen ← readNumber 1 .invalidCertificate
  let requestContext ← slice requestContextLen .invalidCertificate
  let entriesLen ← readNumber 3 .invalidCertificate
  let rawEntries ← slice entriesLen .invalidCertificate
  let entries ← StateT.lift (parseCertificateEntries rawEntries.length rawEntries [])
  return ⟨rawEntries, requestContext, entries⟩

/-- `CertificateRequestRef::parse`: the context. -/
def parseCertificateRequest : Parser (List UInt8) := do
  let requestContextLen ← readNumber 1 .invalidCertificateRequest
  let requestContext ← slice requestContextLen .invalidCertificateRequest
  let _ ← certificateRequestExtension.parseVector
  return requestContext

/-- `CertificateVerifyRef::parse`. -/
def parseCertificateVerify : Parser CertificateVerify := do
  let signatureScheme ← readMember signatureSchemes .invalidSignatureScheme
  let len ← readNumber 2 .invalidSignature
  let signature ← slice len .invalidSignature
  return ⟨.of signatureScheme, signature⟩

/-- `NewSessionTicket::parse`. -/
def parseNewSessionTicket : Parser Unit := do
  let _ ← readNumber 4 missing
  let _ ← readNumber 4 missing
  let nonceLength ← readNumber 1 missing
  let _ ← slice nonceLength .invalidNonceLength
  let ticketLength ← readNumber 2 missing
  let _ ← slice ticketLength .invalidTicketLength
  let _ ← newSessionTicketExtension.parseVector

/-- `ServerHandshake::parse`; `Finished` has the length of a hash. -/
def ServerHandshake.parse : Parser ServerHandshake := do
  let handshakeType ← readNumber 1 .invalidHandshake
  if handshakeType ∉ handshakeTypes then fail .invalidHandshake
  let _ ← readNumber 3 .invalidHandshake
  match handshakeType with
  | 2 => return .serverHello (← parseServerHello)
  | 4 => do
      parseNewSessionTicket
      return .newSessionTicket
  | 8 => do
      let _ ← encryptedExtensionsExtension.parseVector
      return .encryptedExtensions
  | 11 => return .certificate (← parseCertificate)
  | 13 => return .certificateRequest (← parseCertificateRequest)
  | 15 => return .certificateVerify (← parseCertificateVerify)
  | 20 => return .finished (← slice 32 missing) none
  | _ => fail .unimplemented

/-- `ServerHandshake::read`: a message is added to the transcript; `Finished` is given the
transcript before it.  The transcript after the message, and what follows the message. -/
def ServerHandshake.read (transcript text : List UInt8) :
    Except TlsError (ServerHandshake × List UInt8 × List UInt8) := do
  let (message, rest) ← ServerHandshake.parse text
  let message :=
    match message with
    | .finished verify _ => .finished verify (some transcript)
    | other => other
  return (message, transcript ++ text.take (text.length - rest.length), rest)

end Tls
end Motonet
