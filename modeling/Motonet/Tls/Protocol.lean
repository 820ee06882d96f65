import Motonet.Http.Connection

/-!
# Content types, alerts and errors

The numbers of TLS 1.3 that the client tells apart, and the errors in which it stops.
-/

namespace Motonet
namespace Tls

inductive ContentType
  | invalid
  | changeCipherSpec
  | alert
  | handshake
  | applicationData
  deriving DecidableEq, Repr

namespace ContentType

def of (num : UInt8) : Option ContentType :=
  if num = 0 then some .invalid
  else if num = 20 then some .changeCipherSpec
  else if num = 21 then some .alert
  else if num = 22 then some .handshake
  else if num = 23 then some .applicationData
  else none

end ContentType

inductive AlertLevel
  | warning
  | fatal
  deriving DecidableEq, Repr

def AlertLevel.of (num : UInt8) : Option AlertLevel :=
  if num = 1 then some .warning else if num = 2 then some .fatal else none

inductive AlertDescription
  | closeNotify | unexpectedMessage | badRecordMac | recordOverflow | handshakeFailure
  | badCertificate | unsupportedCertificate | certificateRevoked | certificateExpired
  | certificateUnknown | illegalParameter | unknownCa | accessDenied | decodeError | decryptError
  | protocolVersion | insufficientSecurity | internalError | inappropriateFallback | userCanceled
  | missingExtension | unsupportedExtension | unrecognizedName | badCertificateStatusResponse
  | unknownPskIdentity | certificateRequired | noApplicationProtocol
  deriving DecidableEq, Repr

namespace AlertDescription

/-- The descriptions and their numbers. -/
def numbers : List (UInt8 × AlertDescription) :=
  [(0, closeNotify), (10, unexpectedMessage), (20, badRecordMac), (22, recordOverflow),
    (40, handshakeFailure), (42, badCertificate), (43, unsupportedCertificate),
    (44, certificateRevoked), (45, certificateExpired), (46, certificateUnknown),
    (47, illegalParameter), (48, unknownCa), (49, accessDenied), (50, decodeError),
    (51, decryptError), (70, protocolVersion), (71, insufficientSecurity), (80, internalError),
    (86, inappropriateFallback), (90, userCanceled), (109, missingExtension),
    (110, unsupportedExtension), (112, unrecognizedName), (113, badCertificateStatusResponse),
    (115, unknownPskIdentity), (116, certificateRequired), (120, noApplicationProtocol)]

def of (num : UInt8) : Option AlertDescription := numbers.lookup num

end AlertDescription

structure Alert where
  level : AlertLevel
  description : AlertDescription
  deriving DecidableEq, Repr

/-- `ParseError`. -/
inductive ParseError
  | insufficientBytes
  | insufficientSpace
  | invalidData
  deriving DecidableEq, Repr

/-- The errors of the client that the modelled functions return. -/
inductive TlsError
  | connectionClosed
  | unimplemented
  | missingHandshake
  | handshakeAborted (level : AlertLevel) (description : AlertDescription)
  | abortHandshake (level : AlertLevel) (description : AlertDescription)
  | ioError
  | internalError
  | invalidRecord
  | invalidNonceLength
  | invalidTicketLength
  | insufficientSpace
  | invalidHandshake
  | invalidCipherSuite
  | invalidSignatureScheme
  | invalidSignature
  | invalidExtensionsLength
  | invalidSessionIdLength
  | invalidApplicationData
  | invalidKeyShare
  | invalidCertificate
  | invalidCertificateEntry
  | invalidCertificateRequest
  | parseError (error : ParseError)
  | outOfMemory
  | cryptoError
  | encodeError
  | decodeError
  | io (kind : Http.ErrorKind)
  deriving DecidableEq, Repr

/-- `TlsError::kind`. -/
def TlsError.kind : TlsError → Http.ErrorKind
  | .io kind => kind
  | _ => .other

/-- Why the client stops: an error, or a panic. -/
inductive TlsHalt
  | err (error : TlsError)
  | panic
  deriving DecidableEq, Repr

/-- `Alert::parse`; what follows the two bytes is ignored. -/
def Alert.parse : List UInt8 → Except TlsError Alert
  | level :: description :: _ =>
      match AlertLevel.of level, AlertDescription.of description with
      | some level, some description => .ok ⟨level, description⟩
      | _, _ => .error .decodeError
  | _ => .error (.parseError .insufficientBytes)

end Tls
end Motonet
