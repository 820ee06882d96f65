import Motonet.Foundation.SymmetricCryptography
import Motonet.Tls.RecordReader

/-!
# The key schedule

The secrets of a connection are derived one from the other, and from the transcript of the
handshake.  The keys of a direction come with a counter, from which the nonce of each record is
made.
-/

namespace Motonet
namespace Tls

open ByteString

/-- What the connection uses of other crates, beside what its verifier uses: AES-128 in
Galois/Counter mode, and the agreement on a shared secret. -/
structure CipherSuite where
  pki : Pki
  /-- `decrypt_in_place`. -/
  decrypt : (key nonce additionalData ciphertext : List UInt8) → Option (List UInt8)
  /-- `diffie_hellman`, for the bytes of a public key. -/
  diffieHellman : (secret publicKey : List UInt8) → Option (List UInt8)

variable (suite : CipherSuite)

def hashSize : ℕ := 32

/-- `SimpleHmac` with SHA-256, for keys that are not longer than a block. -/
def hmac (key message : List UInt8) : List UInt8 :=
  suite.pki.sha256 (Hmac.padKey 64 0x5c key ++
    suite.pki.sha256 (Hmac.padKey 64 0x36 key ++ message))

/-- `make_expanded_hkdf_label`, for an output that is not longer than a hash. -/
def makeExpandedHkdfLabel (secret : List UInt8) (length : ℕ) (label : String)
    (context : Option (List UInt8)) : List UInt8 :=
  let label := label.toUTF8.data.toList
  let hkdfLabel := toBigEndian 2 length ++ toBigEndian 1 (6 + label.length) ++
    "tls13 ".toUTF8.data.toList ++ label ++
    match context with
    | none => [0]
    | some context => toBigEndian 1 context.length ++ context
  (hmac suite secret (hkdfLabel ++ [1])).take length

/-- `KeyScheduleState`: the keys of one direction. -/
structure KeyScheduleState where
  trafficSecret : Option (List UInt8)
  counter : ℕ
  key : List UInt8
  iv : List UInt8
  deriving DecidableEq

namespace KeyScheduleState

def new : KeyScheduleState := ⟨none, 0, List.replicate 16 0, List.replicate 12 0⟩

/-- `get_nonce`: the counter, filled up to the length of the vector, is XORed to it. -/
def getNonce (state : KeyScheduleState) : List UInt8 :=
  List.zipWith (· ^^^ ·) state.iv (toBigEndian 12 state.counter)

/-- `calculate_traffic_secret`, from a secret and the transcript. -/
def calculateTrafficSecret (secret : List UInt8) (label : String) (transcript : List UInt8) :
    KeyScheduleState :=
  let trafficSecret := makeExpandedHkdfLabel suite secret hashSize label
    (some (suite.pki.sha256 transcript))
  { trafficSecret := some trafficSecret
    counter := 0
    key := makeExpandedHkdfLabel suite trafficSecret 16 "key" none
    iv := makeExpandedHkdfLabel suite trafficSecret 12 "iv" none }

/-- `increment_counter`, which panics at its end. -/
def incrementCounter (state : KeyScheduleState) : Except TlsHalt KeyScheduleState :=
  if state.counter + 1 < 2 ^ 64 then .ok { state with counter := state.counter + 1 }
  else .error .panic

end KeyScheduleState

/-- The code in `Finished` for a traffic secret and a transcript. -/
def finishedCode (trafficSecret transcript : List UInt8) : List UInt8 :=
  hmac suite (makeExpandedHkdfLabel suite trafficSecret hashSize "finished" none)
    (suite.pki.sha256 transcript)

/-- `KeySchedule`, with the transcript of the handshake. -/
structure KeySchedule where
  secret : List UInt8
  clientState : KeyScheduleState
  serverState : KeyScheduleState
  transcript : List UInt8
  deriving DecidableEq

namespace KeySchedule

def new : KeySchedule := ⟨List.replicate hashSize 0, .new, .new, []⟩

/-- `initialize` and `calculate_traffic_secrets`, then `derived`. -/
def initializeSecrets (ikm : List UInt8) (clientLabel serverLabel : String)
    (keySchedule : KeySchedule) : KeySchedule :=
  let secret := hmac suite keySchedule.secret ikm
  { keySchedule with
    secret := makeExpandedHkdfLabel suite secret hashSize "derived" (some (suite.pki.sha256 []))
    clientState := .calculateTrafficSecret suite secret clientLabel keySchedule.transcript
    serverState := .calculateTrafficSecret suite secret serverLabel keySchedule.transcript }

/-- `initialize_early_secret`, without a shared key. -/
def initializeEarlySecret (keySchedule : KeySchedule) : KeySchedule :=
  let secret := hmac suite keySchedule.secret (List.replicate hashSize 0)
  { keySchedule with
    secret := makeExpandedHkdfLabel suite secret hashSize "derived" (some (suite.pki.sha256 [])) }

def initializeHandshakeSecret (ikm : List UInt8) (keySchedule : KeySchedule) : KeySchedule :=
  keySchedule.initializeSecrets suite ikm "c hs traffic" "s hs traffic"

def initializeMasterSecret (keySchedule : KeySchedule) : KeySchedule :=
  keySchedule.initializeSecrets suite (List.replicate hashSize 0) "c ap traffic" "s ap traffic"

/-- `create_client_finished`. -/
def createClientFinished (keySchedule : KeySchedule) : Except TlsError (List UInt8) :=
  match keySchedule.clientState.trafficSecret with
  | none => .error .internalError
  | some trafficSecret => .ok (finishedCode suite trafficSecret keySchedule.transcript)

/-- `verify_server_finished`. -/
def verifyServerFinished (verify : List UInt8) (hash : Option (List UInt8))
    (keySchedule : KeySchedule) : Except TlsError Bool :=
  match keySchedule.serverState.trafficSecret, hash with
  | some trafficSecret, some transcript =>
      .ok (finishedCode suite trafficSecret transcript == verify)
  | _, _ => .error .internalError

end KeySchedule

end Tls
end Motonet
