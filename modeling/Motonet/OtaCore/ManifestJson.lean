import Motonet.Foundation.Json
import Motonet.OtaCore.SignedBytes

/-!
# Manifests as JSON

The reader that `serde` derives for manifests, and the round trip of a manifest through its signed
text.
-/

namespace Motonet
namespace OtaCore

open Json

/-- The canonical text of a manifest together with its signature. -/
def canonicalSignedJson (serde : SerdeJson) (manifest : OtaManifest) :
    Except ManifestError String := do
  let target ← jsonString serde manifest.target
  let chip ← jsonString serde manifest.chip
  let version ← jsonString serde manifest.version
  let url ← jsonString serde manifest.url
  let imageSha256 ← jsonString serde manifest.imageSha256
  let enc ← canonicalEncJson serde manifest.enc
  let signature ← jsonString serde manifest.signature
  return "\x7b\"schema\":" ++ toString manifest.schema.toNat ++ ",\"key_id\":" ++
    toString manifest.keyId.toNat ++ ",\"target\":" ++ target ++ ",\"chip\":" ++ chip ++
    ",\"version\":" ++ version ++ ",\"build\":" ++ toString manifest.build.toNat ++
    ",\"force\":" ++ toString manifest.force ++ ",\"url\":" ++ url ++ ",\"download_size\":" ++
    toString manifest.downloadSize.toNat ++ ",\"image_size\":" ++
    toString manifest.imageSize.toNat ++ ",\"image_sha256\":" ++ imageSha256 ++ ",\"enc\":" ++
    enc ++ ",\"signature\":" ++ signature ++ "\x7d"

/-! ## The derived reader -/

/-- Read a `u8`. -/
def readU8 : Value → Option UInt8
  | .number value => if value < 2 ^ 8 then some (UInt8.ofNat value) else none
  | _ => none

/-- Read a `u32`. -/
def readU32 : Value → Option UInt32
  | .number value => if value < 2 ^ 32 then some (UInt32.ofNat value) else none
  | _ => none

/-- Read a `bool`. -/
def readBool : Value → Option Bool
  | .bool value => some value
  | _ => none

/-- Read a `String`. -/
def readText : Value → Option String
  | .string value => some value
  | _ => none

/-- Read a field of an object. -/
def readField {α : Type} (fields : List (String × Value)) (name : String)
    (reader : Value → Option α) : Option α :=
  (fields.lookup name).bind reader

/-- Every key is known and occurs once. -/
def onlyKnown (names : List String) (fields : List (String × Value)) : Bool :=
  fields.all (fun field => names.contains field.1) && decide (fields.map Prod.fst).Nodup

/-- The derived reader of `EncMetadata`. -/
def readEncMetadata : Value → Option EncMetadata
  | .object fields =>
      if onlyKnown ["alg", "key_id", "chunk_size", "nonce_prefix"] fields then do
        let alg ← readField fields "alg" readText
        let keyId ← readField fields "key_id" readU32
        let chunkSize ← readField fields "chunk_size" readU32
        let noncePrefix ← readField fields "nonce_prefix" readText
        return ⟨alg, keyId, chunkSize, noncePrefix⟩
      else none
  | _ => none

/-- The derived reader of `OtaManifest`. -/
def readManifest : Value → Option OtaManifest
  | .object fields =>
      if onlyKnown ["schema", "key_id", "target", "chip", "version", "build", "force", "url",
          "download_size", "image_size", "image_sha256", "enc", "signature"] fields then do
        let schema ← readField fields "schema" readU8
        let keyId ← readField fields "key_id" readU32
        let target ← readField fields "target" readText
        let chip ← readField fields "chip" readText
        let version ← readField fields "version" readText
        let build ← readField fields "build" readU32
        let force ← readField fields "force" readBool
        let url ← readField fields "url" readText
        let downloadSize ← readField fields "download_size" readU32
        let imageSize ← readField fields "image_size" readU32
        let imageSha256 ← readField fields "image_sha256" readText
        let enc ← readField fields "enc" readEncMetadata
        let signature ← readField fields "signature" readText
        return ⟨schema, keyId, target, chip, version, build, force, url, downloadSize, imageSize,
          imageSha256, enc, signature⟩
      else none
  | _ => none

/-- Encryption metadata is read from its four fields. -/
theorem of_readEncMetadata {fields : List (String × Value)} {enc : EncMetadata}
    (read : readEncMetadata (.object fields) = some enc) :
    readField fields "key_id" readU32 = some enc.keyId := by
  rw [readEncMetadata] at read
  split_ifs at read
  obtain ⟨alg, -, read⟩ := Option.bind_eq_some_iff.mp read
  obtain ⟨keyId, key_read, read⟩ := Option.bind_eq_some_iff.mp read
  obtain ⟨chunkSize, -, read⟩ := Option.bind_eq_some_iff.mp read
  obtain ⟨noncePrefix, -, read⟩ := Option.bind_eq_some_iff.mp read
  cases read
  exact key_read

/-- A manifest is read field by field. -/
theorem of_readManifest {fields : List (String × Value)} {manifest : OtaManifest}
    (read : readManifest (.object fields) = some manifest) :
    readField fields "key_id" readU32 = some manifest.keyId ∧
      readField fields "version" readText = some manifest.version ∧
      readField fields "build" readU32 = some manifest.build ∧
      readField fields "url" readText = some manifest.url ∧
      readField fields "download_size" readU32 = some manifest.downloadSize ∧
      readField fields "enc" readEncMetadata = some manifest.enc := by
  rw [readManifest] at read
  split_ifs at read
  obtain ⟨schema, -, read⟩ := Option.bind_eq_some_iff.mp read
  obtain ⟨keyId, key_read, read⟩ := Option.bind_eq_some_iff.mp read
  obtain ⟨target, -, read⟩ := Option.bind_eq_some_iff.mp read
  obtain ⟨chip, -, read⟩ := Option.bind_eq_some_iff.mp read
  obtain ⟨version, version_read, read⟩ := Option.bind_eq_some_iff.mp read
  obtain ⟨build, build_read, read⟩ := Option.bind_eq_some_iff.mp read
  obtain ⟨force, -, read⟩ := Option.bind_eq_some_iff.mp read
  obtain ⟨url, url_read, read⟩ := Option.bind_eq_some_iff.mp read
  obtain ⟨downloadSize, download_read, read⟩ := Option.bind_eq_some_iff.mp read
  obtain ⟨imageSize, -, read⟩ := Option.bind_eq_some_iff.mp read
  obtain ⟨imageSha256, -, read⟩ := Option.bind_eq_some_iff.mp read
  obtain ⟨enc, enc_read, read⟩ := Option.bind_eq_some_iff.mp read
  obtain ⟨signature, -, read⟩ := Option.bind_eq_some_iff.mp read
  cases read
  exact ⟨key_read, version_read, build_read, url_read, download_read, enc_read⟩

/-- What is relied on of `serde_json`: it reads standard JSON into the derived structs, and what it
writes for a string is a JSON text of that string. -/
structure StandardJson (serde : SerdeJson) : Prop where
  reads : ∀ {fields : List (String × Value)} {text space : List Char},
    Spells (.object fields) text → (∀ char ∈ space, isSpace char = true) →
      serde.fromSlice (asBytes (String.ofList (text ++ space))) = readManifest (.object fields)
  writes : ∀ {value text : String}, serde.toString value = some text →
    StringText value text.toList

/-! ## The signed text -/

/-- The fields of encryption metadata. -/
def EncMetadata.fields (enc : EncMetadata) : List (String × Value) :=
  [("alg", .string enc.alg), ("key_id", .number enc.keyId.toNat),
    ("chunk_size", .number enc.chunkSize.toNat), ("nonce_prefix", .string enc.noncePrefix)]

/-- The fields of a manifest. -/
def OtaManifest.fields (manifest : OtaManifest) : List (String × Value) :=
  [("schema", .number manifest.schema.toNat), ("key_id", .number manifest.keyId.toNat),
    ("target", .string manifest.target), ("chip", .string manifest.chip),
    ("version", .string manifest.version), ("build", .number manifest.build.toNat),
    ("force", .bool manifest.force), ("url", .string manifest.url),
    ("download_size", .number manifest.downloadSize.toNat),
    ("image_size", .number manifest.imageSize.toNat),
    ("image_sha256", .string manifest.imageSha256), ("enc", .object manifest.enc.fields),
    ("signature", .string manifest.signature)]

@[simp]
theorem readU8_toNat (value : UInt8) : readU8 (.number value.toNat) = some value := by
  rw [readU8, if_pos value.toNat_lt, UInt8.ofNat_toNat]

@[simp]
theorem readU32_toNat (value : UInt32) : readU32 (.number value.toNat) = some value := by
  rw [readU32, if_pos value.toNat_lt, UInt32.ofNat_toNat]

theorem readEncMetadata_fields (enc : EncMetadata) :
    readEncMetadata (.object enc.fields) = some enc := by
  have known : onlyKnown ["alg", "key_id", "chunk_size", "nonce_prefix"] enc.fields = true := by
    simp [onlyKnown, EncMetadata.fields]
  rw [readEncMetadata, if_pos known]
  simp [readField, EncMetadata.fields, readText, List.lookup_cons]

/-- The derived reader gets every manifest back from its fields. -/
theorem readManifest_fields (manifest : OtaManifest) :
    readManifest (.object manifest.fields) = some manifest := by
  have known : onlyKnown ["schema", "key_id", "target", "chip", "version", "build", "force", "url",
      "download_size", "image_size", "image_sha256", "enc", "signature"] manifest.fields =
        true := by
    simp [onlyKnown, OtaManifest.fields]
  rw [readManifest, if_pos known]
  simp [readField, OtaManifest.fields, readText, readBool, List.lookup_cons, readEncMetadata_fields]

section Canonical

variable {serde : SerdeJson}

/-- The canonical text of encryption metadata spells its fields. -/
theorem spells_canonicalEncJson (standard : StandardJson serde) {enc : EncMetadata} {text : String}
    (written : canonicalEncJson serde enc = .ok text) :
    Spells (.object enc.fields) text.toList := by
  obtain ⟨alg, noncePrefix, alg_text, nonce_text, text_eq⟩ := canonicalEncJson_eq_ok written
  have spelled : Spells (.object enc.fields) _ :=
    .object (.cons (.literal "alg" (by decide)) (.string (standard.writes alg_text))
      (.cons (.literal "key_id" (by decide)) (.number _)
      (.cons (.literal "chunk_size" (by decide)) (.number _)
      (.last (.literal "nonce_prefix" (by decide)) (.string (standard.writes nonce_text))))))
  convert spelled using 1
  rw [text_eq]
  simp

/-- The signed text of a manifest spells its fields. -/
theorem spells_canonicalSignedJson (standard : StandardJson serde) {manifest : OtaManifest}
    {text : String} (written : canonicalSignedJson serde manifest = .ok text) :
    Spells (.object manifest.fields) text.toList := by
  obtain ⟨target, target_text, written⟩ := Except.of_bind_eq_ok written
  obtain ⟨chip, chip_text, written⟩ := Except.of_bind_eq_ok written
  obtain ⟨version, version_text, written⟩ := Except.of_bind_eq_ok written
  obtain ⟨url, url_text, written⟩ := Except.of_bind_eq_ok written
  obtain ⟨imageSha256, sha_text, written⟩ := Except.of_bind_eq_ok written
  obtain ⟨enc, enc_text, written⟩ := Except.of_bind_eq_ok written
  obtain ⟨signature, signature_text, written⟩ := Except.of_bind_eq_ok written
  have string {value text : String} (produced : jsonString serde value = .ok text) :
      Spells (.string value) text.toList := .string (standard.writes (jsonString_eq_ok produced))
  have spelled : Spells (.object manifest.fields) _ :=
    .object (.cons (.literal "schema" (by decide)) (.number _)
      (.cons (.literal "key_id" (by decide)) (.number _)
      (.cons (.literal "target" (by decide)) (string target_text)
      (.cons (.literal "chip" (by decide)) (string chip_text)
      (.cons (.literal "version" (by decide)) (string version_text)
      (.cons (.literal "build" (by decide)) (.number _)
      (.cons (.literal "force" (by decide)) (.bool _)
      (.cons (.literal "url" (by decide)) (string url_text)
      (.cons (.literal "download_size" (by decide)) (.number _)
      (.cons (.literal "image_size" (by decide)) (.number _)
      (.cons (.literal "image_sha256" (by decide)) (string sha_text)
      (.cons (.literal "enc" (by decide)) (spells_canonicalEncJson standard enc_text)
      (.last (.literal "signature" (by decide)) (string signature_text))))))))))))))
  convert spelled using 1
  rw [← Except.ok.inj written]
  simp

/-- A manifest that can be signed has a canonical text without its signature. -/
theorem exists_canonicalUnsignedJson {manifest : OtaManifest} {text : String}
    (written : canonicalSignedJson serde manifest = .ok text) :
    ∃ canonical, canonicalUnsignedJson serde manifest = .ok canonical := by
  obtain ⟨target, target_text, written⟩ := Except.of_bind_eq_ok written
  obtain ⟨chip, chip_text, written⟩ := Except.of_bind_eq_ok written
  obtain ⟨version, version_text, written⟩ := Except.of_bind_eq_ok written
  obtain ⟨url, url_text, written⟩ := Except.of_bind_eq_ok written
  obtain ⟨imageSha256, sha_text, written⟩ := Except.of_bind_eq_ok written
  obtain ⟨enc, enc_text, -⟩ := Except.of_bind_eq_ok written
  rw [canonicalUnsignedJson, target_text, chip_text, version_text, url_text, sha_text, enc_text]
  exact ⟨_, rfl⟩

/-- The signed text of a valid manifest within the limit is parsed as the manifest. -/
theorem parse_canonicalSignedJson (standard : StandardJson serde) {manifest : OtaManifest}
    {text : String} (valid : manifest.validate = .ok ())
    (written : canonicalSignedJson serde manifest = .ok text)
    (short : (asBytes text).length ≤ maxManifestBytes) :
    OtaManifest.parse serde (asBytes text) = .ok manifest := by
  refine parse_eq_ok_iff.mpr ⟨short, ?_, valid⟩
  have read := standard.reads (spells_canonicalSignedJson standard written)
    (fun _ member => absurd member List.not_mem_nil : ∀ char ∈ [], isSpace char = true)
  rw [List.append_nil, String.ofList_toList, readManifest_fields] at read
  exact read

end Canonical

/-- The manifest round trip: the signed text of a valid manifest is parsed as that manifest, and
accepted exactly if the verifier accepts its canonical text; and whatever is parsed is valid. -/
theorem manifest_round_trip {serde : SerdeJson} (standard : StandardJson serde)
    {manifest : OtaManifest} {text : String} (valid : manifest.validate = .ok ())
    (written : canonicalSignedJson serde manifest = .ok text)
    (short : (asBytes text).length ≤ maxManifestBytes) :
    OtaManifest.parse serde (asBytes text) = .ok manifest ∧
      (∃ canonical, canonicalUnsignedJson serde manifest = .ok canonical ∧
        ∀ verifier : SignatureVerifier,
          OtaManifest.parseAndVerify serde verifier (asBytes text) = .ok manifest ↔
            verifier manifest.keyId (asBytes canonical) manifest.signature = true) ∧
      ∀ bytes parsed, OtaManifest.parse serde bytes = .ok parsed → parsed.validate = .ok () := by
  have read := parse_canonicalSignedJson standard valid written short
  obtain ⟨canonical, canonical_text⟩ := exists_canonicalUnsignedJson written
  refine ⟨read, ⟨canonical, canonical_text, fun verifier => ?_⟩,
    fun bytes parsed accepted => (parse_eq_ok_iff.mp accepted).2.2⟩
  rw [parseAndVerify_eq_ok_iff]
  constructor
  · rintro ⟨-, other, other_text, verified⟩
    rw [canonical_text] at other_text
    cases other_text
    exact verified
  · exact fun verified => ⟨read, canonical, canonical_text, verified⟩

/-- `serde_json` with the derived reader on texts of the grammar. -/
def readingSerde : SerdeJson :=
  serdeJson fun bytes =>
    (String.fromUTF8? ⟨bytes.toArray⟩).bind fun text => (Json.read text.toList).bind readManifest

/-- The bytes of a text are the text in UTF-8. -/
theorem fromUTF8_asBytes (text : String) :
    String.fromUTF8? ⟨(asBytes text).toArray⟩ = some text := by
  have bytes : (⟨(asBytes text).toArray⟩ : ByteArray) = text.toUTF8 := by
    rw [asBytes, Array.toArray_toList]
  rw [bytes, String.fromUTF8?]
  exact dif_pos text.isValidUTF8

theorem standardJson_readingSerde : StandardJson readingSerde where
  reads := by
    intro fields text space spelled blank
    simp only [readingSerde, serdeJson, fromUTF8_asBytes, Option.bind_some, String.toList_ofList,
      read_of_spells spelled blank]
  writes := by
    intro value text written
    cases written
    exact stringText_jsonStringText value

theorem canonicalSignedJson_sample :
    canonicalSignedJson readingSerde sampleManifest = .ok sampleSignedText := by
  decide +kernel

theorem manifest_round_trip_sample :
    OtaManifest.parse readingSerde (asBytes sampleSignedText) = .ok sampleManifest ∧
      ∃ canonical, canonicalUnsignedJson readingSerde sampleManifest = .ok canonical ∧
        (OtaManifest.parseAndVerify readingSerde sampleVerifier (asBytes sampleSignedText) =
          .ok sampleManifest ↔
            sampleVerifier sampleManifest.keyId (asBytes canonical) sampleManifest.signature =
              true) := by
  have short : (asBytes sampleSignedText).length ≤ maxManifestBytes := by
    rw [length_asBytes]
    decide +kernel
  obtain ⟨parsed, ⟨canonical, written, verified⟩, -⟩ :=
    manifest_round_trip standardJson_readingSerde validate_sampleManifest canonicalSignedJson_sample
      short
  exact ⟨parsed, canonical, written, verified sampleVerifier⟩

end OtaCore
end Motonet
