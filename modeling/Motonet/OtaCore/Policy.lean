import Mathlib.Algebra.GroupWithZero.Nat
import Mathlib.Data.List.Basic
import Mathlib.Tactic.Common

/-!
# OTA policies of `ota-core`

The OTA state that the tasks share, the delivery rule for incoming manifests, the URL policy for
firmware downloads and the plausibility check of an ESP image prefix.
-/

namespace Motonet
namespace OtaCore

/-! ## Runtime coordination -/

/-- The state published on the OTA state watch. -/
inductive OtaState
  | inactive
  | downloading
  | applying
  | pendingConfirmation
  deriving DecidableEq, Repr

/-- MQTT-side action for an incoming OTA manifest command. -/
inductive OtaManifestDeliveryAction
  /-- Forward a live command to the OTA task. -/
  | forwardOnly
  /-- Forward a retained command once, then clear the broker's retained copy. -/
  | forwardAndClearRetained
  /-- Clear an obsolete retained command without running OTA again. -/
  | clearRetainedOnly
  deriving DecidableEq, Repr

/-- How MQTT should handle an incoming OTA manifest command. -/
def classifyOtaManifestDelivery : OtaState → Bool → OtaManifestDeliveryAction
  | .pendingConfirmation, true => .clearRetainedOnly
  | _, true => .forwardAndClearRetained
  | _, false => .forwardOnly

/-- A zero-length payload is the retained-message delete convention, not a manifest. -/
def isOtaManifestPayloadCandidate (payloadLen : ℕ) : Bool :=
  payloadLen ≠ 0

/-- MQTT may connect and publish. -/
def isMqttAllowed : OtaState → Bool
  | .inactive | .pendingConfirmation => true
  | .downloading | .applying => false

/-- Radio capture is permitted. -/
def isRadioCaptureAllowed (state : OtaState) : Bool :=
  state = .inactive

/-- UI input handling is permitted. -/
def isUiInputAllowed (state : OtaState) : Bool :=
  state = .inactive

/-- The status message for the display during an update. -/
def displayMessage : OtaState → Option String
  | .downloading => some "OTA download..."
  | .applying => some "OTA applying..."
  | .inactive | .pendingConfirmation => none

/-- A retained command is cleared without a handoff only while confirmation is pending. -/
theorem classify_eq_clearRetainedOnly_iff (state : OtaState) (retained : Bool) :
    classifyOtaManifestDelivery state retained = .clearRetainedOnly ↔
      state = .pendingConfirmation ∧ retained = true := by
  cases state <;> cases retained <;> simp [classifyOtaManifestDelivery]

/-! ## URL policy -/

/-- Why a download URL is refused. -/
inductive OtaUrlPolicyError
  | invalidScheme
  | userInfoNotAllowed
  | hostMustBeIpv4
  | invalidHttpsHost
  | missingPort
  | emptyPath
  | queryNotAllowed
  | fragmentNotAllowed
  deriving DecidableEq, Repr

/-- Length in bytes of a text in UTF-8, which is what `str::len` returns. -/
def byteLen (text : List Char) : ℕ :=
  (text.map Char.utf8Size).sum

theorem byteLen_cons (char : Char) (chars : List Char) :
    byteLen (char :: chars) = char.utf8Size + byteLen chars := by
  rw [byteLen, List.map_cons, List.sum_cons]
  rfl

theorem byteLen_append (left right : List Char) :
    byteLen (left ++ right) = byteLen left + byteLen right := by
  rw [byteLen, List.map_append, List.sum_append]
  rfl

/-- The parts of a text before and after the first occurrence of a separator. -/
def splitOnce (separator : Char) : List Char → Option (List Char × List Char)
  | [] => none
  | char :: chars =>
      if char = separator then some ([], chars)
      else (splitOnce separator chars).map fun (before, after) => (char :: before, after)

/-- The parts of a text before and after the last occurrence of a separator. -/
def rsplitOnce (separator : Char) (text : List Char) : Option (List Char × List Char) :=
  (splitOnce separator text.reverse).map fun (after, before) => (before.reverse, after.reverse)

/-- Value of an ASCII digit. -/
def digitValue (char : Char) : ℕ :=
  char.toNat - '0'.toNat

/-- Accumulate a port number, giving up as soon as it exceeds 65535. -/
def portValue : ℕ → List Char → Option ℕ
  | value, [] => some value
  | value, char :: chars =>
      let value := value * 10 + digitValue char
      if value > 65535 then none else portValue value chars

/-- A decimal port between 1 and 65535. -/
def validPort (port : List Char) : Bool :=
  if port.isEmpty || !port.all Char.isDigit then false
  else
    match portValue 0 port with
    | none => false
    | some value => value ≠ 0

/-- Value of a decimal octet. -/
def octetValue (octet : List Char) : ℕ :=
  octet.foldl (fun value char => value * 10 + digitValue char) 0

/-- Accept a dotted quad of decimal octets. -/
def validateIpv4Host (host : List Char) : Except OtaUrlPolicyError Unit := do
  if host.isEmpty || (host.splitOn '.').length ≠ 4 then throw .hostMustBeIpv4
  for octet in host.splitOn '.' do
    if octet.isEmpty || byteLen octet > 3 || !octet.all Char.isDigit then throw .hostMustBeIpv4
    if octetValue octet > 255 then throw .hostMustBeIpv4

/-- Accept a dot-separated host name of ASCII letters, digits and hyphens. -/
def validateHttpsHost (host : List Char) : Except OtaUrlPolicyError Unit := do
  if host.isEmpty || byteLen host > 253 || host.head? = some '.' || host.getLast? = some '.' ||
      !host.all (fun char => char.isAlphanum || char = '.' || char = '-') then
    throw .invalidHttpsHost
  for label in host.splitOn '.' do
    if label.isEmpty || byteLen label > 63 || label.head? = some '-' ||
        label.getLast? = some '-' then
      throw .invalidHttpsHost

/-- Local profile: `<ipv4>:<port>/<path>` without query or fragment. -/
def validateLocalHttpUrl (rest : List Char) : Except OtaUrlPolicyError Unit := do
  if rest.contains '#' then throw .fragmentNotAllowed
  if rest.contains '?' then throw .queryNotAllowed
  match splitOnce '/' rest with
  | none => throw .emptyPath
  | some (authority, path) =>
      if authority.contains '@' then throw .userInfoNotAllowed
      if path.isEmpty then throw .emptyPath
      match rsplitOnce ':' authority with
      | none => throw .missingPort
      | some (host, port) =>
          if !validPort port then throw .missingPort
          validateIpv4Host host

/-- Release profile: `<hostname>[:port]/<path>[?query]` without fragment. -/
def validateHttpsUrl (rest : List Char) : Except OtaUrlPolicyError Unit := do
  if rest.contains '#' then throw .fragmentNotAllowed
  match splitOnce '/' rest with
  | none => throw .emptyPath
  | some (authority, pathAndQuery) =>
      if authority.contains '@' then throw .userInfoNotAllowed
      if pathAndQuery.isEmpty || pathAndQuery.head? = some '?' then throw .emptyPath
      let (host, port) :=
        match rsplitOnce ':' authority with
        | none => (authority, none)
        | some (host, port) =>
            if port.all Char.isDigit then (host, some port) else (authority, none)
      if port.any fun port => !validPort port then throw .missingPort
      validateHttpsHost host

/-- Validate the firmware's download URL policy. -/
def validateOtaUrlPolicy (url : String) : Except OtaUrlPolicyError Unit :=
  match url.toList.dropPrefix? "http://".toList with
  | some rest => validateLocalHttpUrl rest
  | none =>
      match url.toList.dropPrefix? "https://".toList with
      | some rest => validateHttpsUrl rest
      | none => throw .invalidScheme

example : validateOtaUrlPolicy "http://192.168.1.10:8000/firmware.bin" = .ok () := by decide

example : validateOtaUrlPolicy "https://github.com/a/b?c" = .ok () := by decide

/-! ## ESP image prefix -/

/-- Why an image prefix is implausible. -/
inductive EspImagePrefixError
  | tooShort
  | wrongMagic
  | invalidSegmentCount
  | invalidFlashMode
  | invalidFlashSizeFrequency
  | zeroEntryAddress
  deriving DecidableEq, Repr

/-- Check the basic ESP image header fields in the first eight bytes. -/
def validateEspImagePrefix : List UInt8 → Except EspImagePrefixError Unit
  | magic :: segments :: mode :: sizeFrequency :: e0 :: e1 :: e2 :: e3 :: _ => do
      if magic ≠ 0xe9 then throw .wrongMagic
      if ¬ (1 ≤ segments ∧ segments ≤ 16) then throw .invalidSegmentCount
      if ¬ mode ≤ 0x03 then throw .invalidFlashMode
      let frequency := sizeFrequency &&& 0x0f
      let size := sizeFrequency >>> 4
      if ¬ (frequency = 0x0 ∨ frequency = 0x1 ∨ frequency = 0x2 ∨ frequency = 0xf) ∨
          ¬ size ≤ 0x8 then
        throw .invalidFlashSizeFrequency
      let entry := e0.toNat + e1.toNat * 256 + e2.toNat * 256 ^ 2 + e3.toNat * 256 ^ 3
      if entry = 0 then throw .zeroEntryAddress
  | _ => throw .tooShort

/-- A plausible prefix has at least the eight header bytes. -/
theorem length_of_validateEspImagePrefix {bytes : List UInt8}
    (accepted : validateEspImagePrefix bytes = .ok ()) : 8 ≤ bytes.length := by
  unfold validateEspImagePrefix at accepted
  split at accepted
  · simp only [List.length_cons]
    omega
  · cases accepted

end OtaCore
end Motonet
