import Motonet.Foundation.Fallible
import Motonet.OtaCore.Policy
import Mathlib.Data.UInt

/-!
# Signed OTA manifests

The v2 manifest of `ota-core`: its fields, its validation, the canonical JSON that the signature
covers, and parsing with signature verification.  `serde_json` and the signature primitive are
parameters.
-/

namespace Motonet
namespace OtaCore

def schemaVersion : UInt8 := 2
def target : String := "motonet-of-things/esp32"
def chip : String := "esp32-wroom"
def maxManifestBytes : ℕ := 1024
def maxUrlLen : ℕ := 512
def maxVersionLen : ℕ := 32
def maxTargetLen : ℕ := 48
def maxChipLen : ℕ := 24
def maxRedirects : ℕ := 3
def maxRedirectUrlLen : ℕ := 2048
def sha256HexLen : ℕ := 64
def ed25519SignatureHexLen : ℕ := 128
def encNoncePrefixHexLen : ℕ := 24
def encChunkSize : ℕ := 4096
def encAlg : String := "AES-256-CTR-HMAC-SHA256"

/-- Encryption metadata of a manifest. -/
structure EncMetadata where
  alg : String
  keyId : UInt32
  chunkSize : UInt32
  noncePrefix : String
  deriving DecidableEq, Repr

/-- A v2 OTA manifest. -/
structure OtaManifest where
  schema : UInt8
  keyId : UInt32
  target : String
  chip : String
  version : String
  build : UInt32
  force : Bool
  url : String
  downloadSize : UInt32
  imageSize : UInt32
  imageSha256 : String
  enc : EncMetadata
  signature : String
  deriving DecidableEq, Repr

/-- Why a manifest is refused. -/
inductive ManifestError
  | oversized
  | malformed
  | wrongSchema
  | wrongTarget
  | wrongChip
  | fieldTooLong (field : String)
  | invalidImageSha256
  | missingSignature
  | signatureRejected
  | invalidEncAlgorithm
  | invalidEncChunkSize
  | invalidEncNoncePrefix
  | invalidImageSize
  | invalidDownloadSize
  deriving DecidableEq, Repr

/-- What the code uses of `serde_json`: the JSON text of a string, and the derived reader of
manifests. -/
structure SerdeJson where
  toString : String → Option String
  fromSlice : List UInt8 → Option OtaManifest

/-- The interface `SignatureVerifier`: key id, canonical manifest bytes, signature text. -/
abbrev SignatureVerifier := UInt32 → List UInt8 → String → Bool

/-- The bytes of a string, as `str::as_bytes` returns them. -/
def asBytes (text : String) : List UInt8 :=
  text.toUTF8.data.toList

theorem asBytes_injective : Function.Injective asBytes := by
  intro left right same
  exact String.toByteArray_inj.mp (ByteArray.ext (Array.toList_inj.mp same))

theorem length_asBytes (text : String) : (asBytes text).length = text.utf8ByteSize := rfl

theorem asBytes_ofList (chars : List Char) :
    asBytes (String.ofList chars) = chars.flatMap String.utf8EncodeChar := by
  change (List.utf8Encode chars).data.toList = _
  rw [List.utf8Encode, List.data_toByteArray]

theorem length_asBytes_ofList (chars : List Char) :
    (asBytes (String.ofList chars)).length = byteLen chars := by
  rw [asBytes_ofList, List.length_flatMap, byteLen]
  simp only [String.length_utf8EncodeChar]

theorem utf8ByteSize_eq_byteLen (text : String) : text.utf8ByteSize = byteLen text.toList := by
  rw [← length_asBytes, ← length_asBytes_ofList, String.ofList_toList]

/-- An ASCII hexadecimal digit. -/
def isAsciiHexdigit (byte : UInt8) : Bool :=
  (48 ≤ byte && byte ≤ 57) || (65 ≤ byte && byte ≤ 70) || (97 ≤ byte && byte ≤ 102)

/-- Refuse a field that is longer than its limit in bytes. -/
def validateLen (field value : String) (max : ℕ) : Except ManifestError Unit :=
  if value.utf8ByteSize > max then throw (.fieldTooLong field) else pure ()

/-- Number of chunks of an image. -/
def numChunks (imageSize : ℕ) : ℕ :=
  (imageSize + encChunkSize - 1) / encChunkSize

/-- A text of a number of hexadecimal digits. -/
def IsHexText (len : ℕ) (text : String) : Prop :=
  text.utf8ByteSize = len ∧ (asBytes text).all isAsciiHexdigit = true

theorem hex_check_iff {len : ℕ} {text : String} :
    ¬ (decide (text.utf8ByteSize ≠ len) || !(asBytes text).all isAsciiHexdigit) = true ↔
      IsHexText len text := by
  simp [IsHexText]

theorem validateLen_bind_eq_ok_iff {α : Type} {field value : String} {max : ℕ}
    {next : Unit → Except ManifestError α} {result : α} :
    (validateLen field value max >>= next) = .ok result ↔
      value.utf8ByteSize ≤ max ∧ next () = .ok result := by
  rw [validateLen]
  split_ifs with long
  · exact ⟨nofun, fun passed => absurd passed.1 (Nat.not_le.mpr long)⟩
  · exact ⟨fun returned => ⟨Nat.not_lt.mp long, returned⟩, And.right⟩

namespace OtaManifest

/-- Schema, device identity, limits, hash and signature shape, encryption metadata and
download-size consistency. -/
def validate (manifest : OtaManifest) : Except ManifestError Unit := do
  if manifest.schema ≠ schemaVersion then throw .wrongSchema
  if manifest.target ≠ OtaCore.target then throw .wrongTarget
  if manifest.chip ≠ OtaCore.chip then throw .wrongChip
  validateLen "target" manifest.target maxTargetLen
  validateLen "chip" manifest.chip maxChipLen
  validateLen "version" manifest.version maxVersionLen
  validateLen "url" manifest.url maxUrlLen
  if manifest.imageSha256.utf8ByteSize ≠ sha256HexLen ||
      !(asBytes manifest.imageSha256).all isAsciiHexdigit then
    throw .invalidImageSha256
  if manifest.signature.isEmpty then throw .missingSignature
  if manifest.signature.utf8ByteSize ≠ ed25519SignatureHexLen ||
      !(asBytes manifest.signature).all isAsciiHexdigit then
    throw .signatureRejected
  if manifest.enc.alg ≠ encAlg then throw .invalidEncAlgorithm
  if manifest.enc.chunkSize.toNat ≠ encChunkSize then throw .invalidEncChunkSize
  if manifest.enc.noncePrefix.utf8ByteSize ≠ encNoncePrefixHexLen ||
      !(asBytes manifest.enc.noncePrefix).all isAsciiHexdigit then
    throw .invalidEncNoncePrefix
  if manifest.imageSize = 0 then throw .invalidImageSize
  -- The sum is taken in `u64`: 16 header bytes, the image, 36 bytes for each chunk.
  let expectedDownload := 16 + manifest.imageSize.toNat + numChunks manifest.imageSize.toNat * 36
  if manifest.downloadSize.toNat ≠ expectedDownload then throw .invalidDownloadSize

/-- What the checks on a manifest amount to. -/
structure IsValid (manifest : OtaManifest) : Prop where
  schema : manifest.schema = schemaVersion
  target : manifest.target = OtaCore.target
  chip : manifest.chip = OtaCore.chip
  version : manifest.version.utf8ByteSize ≤ maxVersionLen
  url : manifest.url.utf8ByteSize ≤ maxUrlLen
  imageSha256 : IsHexText sha256HexLen manifest.imageSha256
  signature : IsHexText ed25519SignatureHexLen manifest.signature
  alg : manifest.enc.alg = encAlg
  chunkSize : manifest.enc.chunkSize.toNat = encChunkSize
  noncePrefix : IsHexText encNoncePrefixHexLen manifest.enc.noncePrefix
  imageSize : manifest.imageSize ≠ 0
  downloadSize : manifest.downloadSize.toNat =
    16 + manifest.imageSize.toNat + numChunks manifest.imageSize.toNat * 36

/-- The checks accept exactly the valid manifests. -/
theorem validate_eq_ok_iff {manifest : OtaManifest} :
    manifest.validate = .ok () ↔ manifest.IsValid := by
  unfold validate
  dsimp only
  simp only [Except.guard_eq_ok_iff, validateLen_bind_eq_ok_iff, not_not, hex_check_iff,
    Except.check_eq_ok_iff]
  constructor
  · rintro ⟨schema, target, chip, -, -, version, url, hash, -, signature, alg, chunkSize, nonce,
      imageSize, downloadSize⟩
    exact ⟨schema, target, chip, version, url, hash, signature, alg, chunkSize, nonce, imageSize,
      downloadSize⟩
  · intro valid
    have target_fits : manifest.target.utf8ByteSize ≤ maxTargetLen := by
      rw [valid.target]
      decide
    have chip_fits : manifest.chip.utf8ByteSize ≤ maxChipLen := by
      rw [valid.chip]
      decide
    have signed : ¬ manifest.signature.isEmpty = true := by
      intro empty
      have size := valid.signature.1
      rw [String.isEmpty_iff.mp empty] at size
      cases size
    exact ⟨valid.schema, valid.target, valid.chip, target_fits, chip_fits, valid.version, valid.url,
      valid.imageSha256, signed, valid.signature, valid.alg, valid.chunkSize, valid.noncePrefix,
      valid.imageSize, valid.downloadSize⟩

/-- A valid manifest declares an image, and the size of its container. -/
theorem sizes_of_validate {manifest : OtaManifest} (valid : manifest.validate = .ok ()) :
    manifest.imageSize ≠ 0 ∧ manifest.downloadSize.toNat =
      16 + manifest.imageSize.toNat + numChunks manifest.imageSize.toNat * 36 :=
  have checks := validate_eq_ok_iff.mp valid
  ⟨checks.imageSize, checks.downloadSize⟩

end OtaManifest

section Canonical

variable (serde : SerdeJson)

/-- JSON text of a string. -/
def jsonString (value : String) : Except ManifestError String :=
  match serde.toString value with
  | some text => pure text
  | none => throw .malformed

/-- Canonical JSON of the encryption metadata. -/
def canonicalEncJson (enc : EncMetadata) : Except ManifestError String := do
  let alg ← jsonString serde enc.alg
  let noncePrefix ← jsonString serde enc.noncePrefix
  return "\x7b\"alg\":" ++ alg ++ ",\"key_id\":" ++ toString enc.keyId.toNat ++
    ",\"chunk_size\":" ++ toString enc.chunkSize.toNat ++ ",\"nonce_prefix\":" ++ noncePrefix ++
    "\x7d"

/-- The exact text covered by the manifest signature. -/
def canonicalUnsignedJson (manifest : OtaManifest) : Except ManifestError String := do
  let target ← jsonString serde manifest.target
  let chip ← jsonString serde manifest.chip
  let version ← jsonString serde manifest.version
  let url ← jsonString serde manifest.url
  let imageSha256 ← jsonString serde manifest.imageSha256
  let enc ← canonicalEncJson serde manifest.enc
  return "\x7b\"schema\":" ++ toString manifest.schema.toNat ++ ",\"key_id\":" ++
    toString manifest.keyId.toNat ++ ",\"target\":" ++ target ++ ",\"chip\":" ++ chip ++
    ",\"version\":" ++ version ++ ",\"build\":" ++ toString manifest.build.toNat ++
    ",\"force\":" ++ toString manifest.force ++ ",\"url\":" ++ url ++ ",\"download_size\":" ++
    toString manifest.downloadSize.toNat ++ ",\"image_size\":" ++
    toString manifest.imageSize.toNat ++ ",\"image_sha256\":" ++ imageSha256 ++ ",\"enc\":" ++
    enc ++ "\x7d"

/-- Parse a manifest and validate it. -/
def OtaManifest.parse (bytes : List UInt8) : Except ManifestError OtaManifest := do
  if bytes.length > maxManifestBytes then throw .oversized
  match serde.fromSlice bytes with
  | none => throw .malformed
  | some manifest =>
      manifest.validate
      return manifest

/-- Parse a manifest and verify its signature over the canonical unsigned JSON. -/
def OtaManifest.parseAndVerify (verifier : SignatureVerifier) (bytes : List UInt8) :
    Except ManifestError OtaManifest := do
  let manifest ← OtaManifest.parse serde bytes
  let canonical ← canonicalUnsignedJson serde manifest
  if verifier manifest.keyId (asBytes canonical) manifest.signature then return manifest
  else throw .signatureRejected

/-- A manifest is parsed from bytes within the limit that spell it, if it is valid. -/
theorem parse_eq_ok_iff {serde : SerdeJson} {bytes : List UInt8} {manifest : OtaManifest} :
    OtaManifest.parse serde bytes = .ok manifest ↔
      bytes.length ≤ maxManifestBytes ∧ serde.fromSlice bytes = some manifest ∧
        manifest.validate = .ok () := by
  by_cases oversized : bytes.length > maxManifestBytes
  · simp only [OtaManifest.parse, if_pos oversized, Nat.not_le.mpr oversized, false_and, iff_false]
    split <;> nofun
  simp only [OtaManifest.parse, if_neg oversized, Nat.not_lt.mp oversized, true_and]
  cases serde.fromSlice bytes with
  | none => exact ⟨nofun, nofun⟩
  | some candidate =>
      constructor
      · intro parsed
        obtain ⟨⟨⟩, valid, returned⟩ := Except.of_bind_eq_ok parsed
        cases returned
        exact ⟨rfl, valid⟩
      · rintro ⟨read, valid⟩
        cases read
        simp only [valid]
        rfl

/-- A manifest is accepted if it is parsed and the verifier accepts its canonical text. -/
theorem parseAndVerify_eq_ok_iff {serde : SerdeJson} {verifier : SignatureVerifier}
    {bytes : List UInt8} {manifest : OtaManifest} :
    OtaManifest.parseAndVerify serde verifier bytes = .ok manifest ↔
      OtaManifest.parse serde bytes = .ok manifest ∧
        ∃ canonical, canonicalUnsignedJson serde manifest = .ok canonical ∧
          verifier manifest.keyId (asBytes canonical) manifest.signature = true := by
  constructor
  · intro accepted
    obtain ⟨candidate, parsed, accepted⟩ := Except.of_bind_eq_ok accepted
    obtain ⟨canonical, written, accepted⟩ := Except.of_bind_eq_ok accepted
    split at accepted
    · rename_i verified
      cases accepted
      exact ⟨parsed, canonical, written, verified⟩
    · cases accepted
  · rintro ⟨parsed, canonical, written, verified⟩
    simp only [OtaManifest.parseAndVerify, parsed, written, bind, Except.bind, verified]
    rfl

end Canonical

/-- The manifest of the unit tests, signed with the development key. -/
def sampleManifest : OtaManifest where
  schema := schemaVersion
  keyId := 1001
  target := target
  chip := chip
  version := "0.2.0"
  build := 42
  force := false
  url := "http://192.168.1.10:8000/firmware.bin"
  downloadSize := 1057808
  imageSize := 1048576
  imageSha256 := "0123456789abcdef0123456789abcdef0123456789abcdef0123456789abcdef"
  enc :=
    { alg := encAlg
      keyId := 1001
      chunkSize := 4096
      noncePrefix := "abcdef0123456789abcdef01" }
  signature := "decacf785ca2b7f7e98e0fcdb676c6831688bd61856ce461c0d32f1485678b22" ++
    "df7121040a397947c32959b398dcb3cb802363d34283aa0bfd813912ce413d04"

theorem validate_sampleManifest : sampleManifest.validate = .ok () := by
  decide +kernel

end OtaCore
end Motonet
