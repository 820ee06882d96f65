import Motonet.OtaCore.JsonString
import Motonet.OtaCore.Manifest

/-!
# The signed bytes determine the manifest

The canonical text of a manifest is assembled by hand from literals, decimal numbers and JSON
strings.  Each field is followed by a literal that its own text cannot contain, so the text is
read back field by field.
-/

namespace Motonet
namespace OtaCore

open SelfDelimiting

/-- What is relied on of `serde_json::to_string` on strings: it is injective, and its text is a
quoted body in which every quote is escaped. -/
structure InjectiveStringEncoder (serde : SerdeJson) : Prop where
  injective : ∀ {left right text : String}, serde.toString left = some text →
    serde.toString right = some text → left = right
  quoted : ∀ {value text : String}, serde.toString value = some text →
    ∃ body, text.toList = '"' :: (body ++ ['"']) ∧ Quotable '"' '\\' body

section Fields

variable {serde : SerdeJson}

/-- A JSON string field ends at its closing quote. -/
theorem InjectiveStringEncoder.append_cancel (encoder : InjectiveStringEncoder serde)
    {left right leftText rightText : String} {leftTail rightTail : List Char}
    (left_text : serde.toString left = some leftText)
    (right_text : serde.toString right = some rightText)
    (same : leftText.toList ++ leftTail = rightText.toList ++ rightTail) :
    left = right ∧ leftTail = rightTail := by
  obtain ⟨leftBody, left_eq, left_quotable⟩ := encoder.quoted left_text
  obtain ⟨rightBody, right_eq, right_quotable⟩ := encoder.quoted right_text
  have stripped : leftBody ++ '"' :: leftTail = rightBody ++ '"' :: rightTail := by
    simpa [left_eq, right_eq] using same
  obtain ⟨bodies, tails⟩ := left_quotable.append_cons (by decide) right_quotable stripped
  refine ⟨?_, tails⟩
  have texts : leftText = rightText := by
    apply String.toList_inj.mp
    rw [left_eq, right_eq, bodies]
  exact encoder.injective left_text (texts ▸ right_text)

/-- A decimal field ends at the literal that follows it. -/
theorem decimal_append_cancel {left right : ℕ} (literal : String) {leftTail rightTail : List Char}
    (not_digit : literal.toList.head?.any (fun char => !char.isDigit) = true)
    (same : (toString left).toList ++ (literal.toList ++ leftTail) =
      (toString right).toList ++ (literal.toList ++ rightTail)) :
    left = right ∧ leftTail = rightTail := by
  have digits (number : ℕ) : (toString number).toList = Nat.toDigits 10 number :=
    Nat.toList_repr
  rw [digits, digits] at same
  cases spelled : literal.toList with
  | nil => simp [spelled] at not_digit
  | cons separator rest =>
      rw [spelled] at same not_digit
      have stop : separator.isDigit = false := by simpa using not_digit
      obtain ⟨numbers, tails⟩ := decimal_append_cons stop stop same
      exact ⟨numbers, List.append_cancel_left (List.cons.inj tails).2⟩

/-- A Boolean field ends where its keyword does. -/
theorem bool_append_cancel {left right : Bool} {leftTail rightTail : List Char}
    (same : (toString left).toList ++ leftTail = (toString right).toList ++ rightTail) :
    left = right ∧ leftTail = rightTail := by
  cases left <;> cases right <;> simp_all [toString]

end Fields

section Canonical

variable {serde : SerdeJson}

theorem jsonString_eq_ok {value text : String} (written : jsonString serde value = .ok text) :
    serde.toString value = some text := by
  unfold jsonString at written
  split at written
  · rename_i produced
    cases written
    exact produced
  · cases written

/-- The texts of the string fields that a canonical encryption text is assembled from. -/
theorem canonicalEncJson_eq_ok {enc : EncMetadata} {text : String}
    (written : canonicalEncJson serde enc = .ok text) :
    ∃ alg noncePrefix, serde.toString enc.alg = some alg ∧
      serde.toString enc.noncePrefix = some noncePrefix ∧
      text.toList = "\x7b\"alg\":".toList ++ (alg.toList ++ (",\"key_id\":".toList ++
        ((toString enc.keyId.toNat).toList ++ (",\"chunk_size\":".toList ++
        ((toString enc.chunkSize.toNat).toList ++ (",\"nonce_prefix\":".toList ++
        (noncePrefix.toList ++ "\x7d".toList))))))) := by
  obtain ⟨alg, alg_text, written⟩ := Except.of_bind_eq_ok written
  obtain ⟨noncePrefix, nonce_text, written⟩ := Except.of_bind_eq_ok written
  refine ⟨alg, noncePrefix, jsonString_eq_ok alg_text, jsonString_eq_ok nonce_text, ?_⟩
  rw [← Except.ok.inj written]
  simp only [String.toList_append, List.append_assoc]

/-- The texts of the string fields that a canonical manifest text is assembled from. -/
theorem canonicalUnsignedJson_eq_ok {manifest : OtaManifest} {text : String}
    (written : canonicalUnsignedJson serde manifest = .ok text) :
    ∃ target chip version url imageSha256 enc, serde.toString manifest.target = some target ∧
      serde.toString manifest.chip = some chip ∧
      serde.toString manifest.version = some version ∧ serde.toString manifest.url = some url ∧
      serde.toString manifest.imageSha256 = some imageSha256 ∧
      canonicalEncJson serde manifest.enc = .ok enc ∧
      text.toList = "\x7b\"schema\":".toList ++ ((toString manifest.schema.toNat).toList ++
        (",\"key_id\":".toList ++ ((toString manifest.keyId.toNat).toList ++
        (",\"target\":".toList ++ (target.toList ++ (",\"chip\":".toList ++ (chip.toList ++
        (",\"version\":".toList ++ (version.toList ++ (",\"build\":".toList ++
        ((toString manifest.build.toNat).toList ++ (",\"force\":".toList ++
        ((toString manifest.force).toList ++ (",\"url\":".toList ++ (url.toList ++
        (",\"download_size\":".toList ++ ((toString manifest.downloadSize.toNat).toList ++
        (",\"image_size\":".toList ++ ((toString manifest.imageSize.toNat).toList ++
        (",\"image_sha256\":".toList ++ (imageSha256.toList ++ (",\"enc\":".toList ++
        (enc.toList ++ "\x7d".toList))))))))))))))))))))))) := by
  obtain ⟨target, target_text, written⟩ := Except.of_bind_eq_ok written
  obtain ⟨chip, chip_text, written⟩ := Except.of_bind_eq_ok written
  obtain ⟨version, version_text, written⟩ := Except.of_bind_eq_ok written
  obtain ⟨url, url_text, written⟩ := Except.of_bind_eq_ok written
  obtain ⟨imageSha256, sha_text, written⟩ := Except.of_bind_eq_ok written
  obtain ⟨enc, enc_text, written⟩ := Except.of_bind_eq_ok written
  refine ⟨target, chip, version, url, imageSha256, enc, jsonString_eq_ok target_text,
    jsonString_eq_ok chip_text, jsonString_eq_ok version_text, jsonString_eq_ok url_text,
    jsonString_eq_ok sha_text, enc_text, ?_⟩
  rw [← Except.ok.inj written]
  simp only [String.toList_append, List.append_assoc]

/-- Canonical encryption texts are told apart in front of any continuation. -/
theorem canonicalEncJson_append_cancel (encoder : InjectiveStringEncoder serde)
    {left right : EncMetadata} {leftText rightText : String} {leftTail rightTail : List Char}
    (left_text : canonicalEncJson serde left = .ok leftText)
    (right_text : canonicalEncJson serde right = .ok rightText)
    (same : leftText.toList ++ leftTail = rightText.toList ++ rightTail) :
    left = right ∧ leftTail = rightTail := by
  obtain ⟨_, _, left_alg, left_nonce, left_eq⟩ := canonicalEncJson_eq_ok left_text
  obtain ⟨_, _, right_alg, right_nonce, right_eq⟩ := canonicalEncJson_eq_ok right_text
  simp only [left_eq, right_eq, List.append_assoc] at same
  obtain ⟨alg_eq, same⟩ := encoder.append_cancel left_alg right_alg (List.append_cancel_left same)
  obtain ⟨key_eq, same⟩ :=
    decimal_append_cancel ",\"chunk_size\":" (by decide) (List.append_cancel_left same)
  obtain ⟨chunk_eq, same⟩ := decimal_append_cancel ",\"nonce_prefix\":" (by decide) same
  obtain ⟨nonce_eq, same⟩ := encoder.append_cancel left_nonce right_nonce same
  refine ⟨?_, List.append_cancel_left same⟩
  cases left
  cases right
  simp_all [UInt32.toNat_inj]

/-- Manifests with the same canonical text agree on every field that it spells. -/
theorem canonicalUnsignedJson_inj (encoder : InjectiveStringEncoder serde)
    {left right : OtaManifest} {text : String}
    (left_text : canonicalUnsignedJson serde left = .ok text)
    (right_text : canonicalUnsignedJson serde right = .ok text) :
    { left with signature := right.signature } = right := by
  obtain ⟨_, _, _, _, _, _, left_target, left_chip, left_version, left_url, left_sha, left_enc,
    left_eq⟩ := canonicalUnsignedJson_eq_ok left_text
  obtain ⟨_, _, _, _, _, _, right_target, right_chip, right_version, right_url, right_sha,
    right_enc, right_eq⟩ := canonicalUnsignedJson_eq_ok right_text
  have same := left_eq.symm.trans right_eq
  obtain ⟨schema_eq, same⟩ :=
    decimal_append_cancel ",\"key_id\":" (by decide) (List.append_cancel_left same)
  obtain ⟨key_eq, same⟩ := decimal_append_cancel ",\"target\":" (by decide) same
  obtain ⟨target_eq, same⟩ := encoder.append_cancel left_target right_target same
  obtain ⟨chip_eq, same⟩ :=
    encoder.append_cancel left_chip right_chip (List.append_cancel_left same)
  obtain ⟨version_eq, same⟩ :=
    encoder.append_cancel left_version right_version (List.append_cancel_left same)
  obtain ⟨build_eq, same⟩ :=
    decimal_append_cancel ",\"force\":" (by decide) (List.append_cancel_left same)
  obtain ⟨force_eq, same⟩ := bool_append_cancel same
  obtain ⟨url_eq, same⟩ :=
    encoder.append_cancel left_url right_url (List.append_cancel_left same)
  obtain ⟨download_eq, same⟩ :=
    decimal_append_cancel ",\"image_size\":" (by decide) (List.append_cancel_left same)
  obtain ⟨image_eq, same⟩ := decimal_append_cancel ",\"image_sha256\":" (by decide) same
  obtain ⟨sha_eq, same⟩ := encoder.append_cancel left_sha right_sha same
  obtain ⟨enc_eq, -⟩ :=
    canonicalEncJson_append_cancel encoder left_enc right_enc (List.append_cancel_left same)
  cases left
  cases right
  simp_all [UInt32.toNat_inj, UInt8.toNat_inj]

/-- The signature is not part of the signed text. -/
theorem canonicalUnsignedJson_signature (serde : SerdeJson) (manifest : OtaManifest)
    (signature : String) :
    canonicalUnsignedJson serde { manifest with signature := signature } =
      canonicalUnsignedJson serde manifest := rfl

/-- All messages that a verifier accepts with one of the given signature texts are the same: the
texts are spellings of one signature. -/
def OneSignature (verifier : SignatureVerifier) (spellings : String → Prop) : Prop :=
  ∀ first second, spellings first → spellings second →
    ∀ firstKey secondKey firstMessage secondMessage,
      verifier firstKey firstMessage first = true →
        verifier secondKey secondMessage second = true → firstMessage = secondMessage

/-- Manifests accepted on one signature agree on every field that it covers. -/
theorem parseAndVerify_inj (encoder : InjectiveStringEncoder serde) {verifier : SignatureVerifier}
    {spellings : String → Prop} (one_signature : OneSignature verifier spellings)
    {leftBytes rightBytes : List UInt8} {left right : OtaManifest}
    (left_spelling : spellings left.signature) (right_spelling : spellings right.signature)
    (left_accepted : OtaManifest.parseAndVerify serde verifier leftBytes = .ok left)
    (right_accepted : OtaManifest.parseAndVerify serde verifier rightBytes = .ok right) :
    { left with signature := right.signature } = right := by
  obtain ⟨-, leftText, left_text, left_verified⟩ := parseAndVerify_eq_ok_iff.mp left_accepted
  obtain ⟨-, rightText, right_text, right_verified⟩ := parseAndVerify_eq_ok_iff.mp right_accepted
  have messages : asBytes leftText = asBytes rightText :=
    one_signature _ _ left_spelling right_spelling _ _ _ _ left_verified right_verified
  rw [← asBytes_injective messages] at right_text
  exact canonicalUnsignedJson_inj encoder left_text right_text

end Canonical

/-- The signed bytes determine the manifest: equal canonical texts come from manifests that agree
on every field but the signature, so no two manifests that differ elsewhere are accepted on one
signature. -/
theorem signed_bytes_determine_manifest (serde : SerdeJson)
    (encoder : InjectiveStringEncoder serde) :
    (∀ (left right : OtaManifest) (text : String),
      canonicalUnsignedJson serde left = .ok text → canonicalUnsignedJson serde right = .ok text →
        { left with signature := right.signature } = right) ∧
      ∀ (verifier : SignatureVerifier) (spellings : String → Prop),
        OneSignature verifier spellings →
          ∀ (leftBytes rightBytes : List UInt8) (left right : OtaManifest),
            spellings left.signature → spellings right.signature →
              OtaManifest.parseAndVerify serde verifier leftBytes = .ok left →
                OtaManifest.parseAndVerify serde verifier rightBytes = .ok right →
                  { left with signature := right.signature } = right :=
  ⟨fun _ _ _ left_text right_text => canonicalUnsignedJson_inj encoder left_text right_text,
    fun _ _ one_signature _ _ _ _ left_spelling right_spelling left_accepted right_accepted =>
      parseAndVerify_inj encoder one_signature left_spelling right_spelling left_accepted
        right_accepted⟩

/-! ## The escaping of `serde_json` -/

/-- `serde_json`'s writer of strings together with a reader of manifests. -/
def serdeJson (fromSlice : List UInt8 → Option OtaManifest) : SerdeJson where
  toString value := some (jsonStringText value)
  fromSlice := fromSlice

/-- The escaping of `serde_json` is injective and quotes its strings. -/
theorem injectiveStringEncoder_serdeJson (fromSlice : List UInt8 → Option OtaManifest) :
    InjectiveStringEncoder (serdeJson fromSlice) where
  injective := by
    intro left right text left_text right_text
    have texts : jsonStringText left = jsonStringText right :=
      Option.some.inj (left_text.trans right_text.symm)
    have bodies := (List.cons.inj (String.ofList_inj.mp texts)).2
    exact String.toList_inj.mp (escapeBody_injective (List.append_cancel_right bodies))
  quoted := by
    intro value text written
    cases written
    exact ⟨escapeBody value.toList, String.toList_ofList, quotable_escapeBody value.toList⟩

/-- The fields of the sample manifest up to its signature. -/
def sampleFieldsText : String :=
  "\x7b\"schema\":2,\"key_id\":1001,\"target\":\"motonet-of-things/esp32\",\"chip\":\"esp32-wroom\"," ++
  "\"version\":\"0.2.0\",\"build\":42,\"force\":false," ++
  "\"url\":\"http://192.168.1.10:8000/firmware.bin\"," ++
  "\"download_size\":1057808,\"image_size\":1048576,\"image_sha256\":" ++
  "\"0123456789abcdef0123456789abcdef0123456789abcdef0123456789abcdef\"," ++
  "\"enc\":\x7b\"alg\":\"AES-256-CTR-HMAC-SHA256\",\"key_id\":1001,\"chunk_size\":4096," ++
  "\"nonce_prefix\":\"abcdef0123456789abcdef01\"\x7d"

/-- The canonical text of the sample manifest. -/
def sampleCanonicalText : String :=
  sampleFieldsText ++ "\x7d"

/-- The signed text of the sample manifest. -/
def sampleSignedText : String :=
  sampleFieldsText ++ ",\"signature\":\"" ++ sampleManifest.signature ++ "\"\x7d"

/-- A reader that knows the text of one manifest. -/
def readerOf (known : List UInt8) (manifest : OtaManifest) (bytes : List UInt8) :
    Option OtaManifest :=
  if bytes = known then some manifest else none

theorem serdeJson_readerOf (known : List UInt8) (manifest : OtaManifest) :
    (serdeJson (readerOf known manifest)).fromSlice known = some manifest := if_pos rfl

/-- `serde_json` as far as the sample manifest needs it. -/
def sampleSerde : SerdeJson :=
  serdeJson (readerOf (asBytes sampleSignedText) sampleManifest)

/-- A verifier that knows the signature of the sample manifest. -/
def sampleVerifier : SignatureVerifier := fun keyId message signature =>
  keyId = 1001 && message = asBytes sampleCanonicalText && signature = sampleManifest.signature

/-- The sample manifest before it is signed. -/
def unsignedSample : OtaManifest :=
  { sampleManifest with signature := String.ofList (List.replicate 128 '0') }

private theorem canonicalUnsignedJson_sample :
    canonicalUnsignedJson sampleSerde sampleManifest = .ok sampleCanonicalText := by
  decide +kernel

private theorem parseAndVerify_sample :
    OtaManifest.parseAndVerify sampleSerde sampleVerifier (asBytes sampleSignedText) =
      .ok sampleManifest := by
  refine parseAndVerify_eq_ok_iff.mpr ⟨parse_eq_ok_iff.mpr ⟨?_, ?_, validate_sampleManifest⟩,
    sampleCanonicalText, canonicalUnsignedJson_sample, ?_⟩
  · rw [length_asBytes]
    decide +kernel
  · unfold sampleSerde
    exact serdeJson_readerOf _ _
  · simp only [sampleVerifier, show sampleManifest.keyId = 1001 from rfl, decide_true,
      Bool.and_true]

private theorem oneSignature_sample :
    OneSignature sampleVerifier (· = sampleManifest.signature) := by
  intro first second _ _ firstKey secondKey firstMessage secondMessage first_ok second_ok
  simp only [sampleVerifier, Bool.and_eq_true, decide_eq_true_eq] at first_ok second_ok
  rw [first_ok.1.2, second_ok.1.2]

theorem signed_bytes_determine_manifest_sample :
    { unsignedSample with signature := sampleManifest.signature } = sampleManifest ∧
      { sampleManifest with signature := sampleManifest.signature } = sampleManifest :=
  have determined := signed_bytes_determine_manifest sampleSerde
    (injectiveStringEncoder_serdeJson _)
  ⟨determined.1 _ _ _
      ((canonicalUnsignedJson_signature _ _ _).trans canonicalUnsignedJson_sample)
      canonicalUnsignedJson_sample,
    determined.2 _ _ oneSignature_sample _ _ _ _ rfl rfl parseAndVerify_sample
      parseAndVerify_sample⟩

end OtaCore
end Motonet
