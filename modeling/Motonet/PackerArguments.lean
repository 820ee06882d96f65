import Motonet.OtaCore.ManifestJson
import Motonet.OtaCore.UrlGrammar
import Motonet.RoundTrip

/-!
# The command line of the packer

What `scripts/ota-pack.sh` checks of its arguments, and the manifest that it writes for them.  The
script repeats the limits of `ota-core` by hand: the manifest that it writes is the device's exactly
if the arguments meet the limits that the script leaves out.
-/

namespace Motonet
namespace Packer

open ByteString OtaCore Firmware

def maxU32 : ℤ := 4294967295

/-- The tools that the script runs. -/
structure Tools where
  crypto : CryptoPrimitives
  /-- The text that `jq` prints for a string. -/
  jqString : String → List Char
  /-- `openssl pkeyutl -sign` with a seed, in hexadecimal. -/
  pkeyutlSign : String → List UInt8 → String
  /-- `openssl rand -hex 12`. -/
  randHex : String

/-- A printable ASCII character that needs no escape. -/
def isPlainAscii (char : Char) : Bool :=
  Json.isPlain char && char.toNat < 127

/-- What is relied on of `jq`: it prints a string as a JSON text of it, and escapes nothing in texts
of plain ASCII characters. -/
structure PrintsStrings (tools : Tools) : Prop where
  spells : ∀ value, Json.StringText value (tools.jqString value)
  plain : ∀ value : String, value.toList.all isPlainAscii = true →
    tools.jqString value = '"' :: (value.toList ++ ['"'])

/-- The arguments of the script, and what their paths and the environment refer to. -/
structure Arguments where
  input : String
  output : String
  manifestOut : String
  url : String
  version : String
  buildNum : String
  seedHexFile : String
  otaKeyId : String
  signingKeyId : String
  masterKeyHex : String
  noncePrefix : String
  forceFlag : Bool
  inputContents : Option (List UInt8)
  seedContents : Option String
  masterKeyEnv : String

/-- Why the script writes no manifest. -/
inductive PackError
  | missingArguments
  | inputNotFound
  | seedNotFound
  | buildNotInteger
  | buildTooLarge
  | versionTooLong
  | otaKeyIdNotInteger
  | signingKeyIdNotInteger
  | noMasterKey
  | masterKeyNotHex
  | seedNotHex
  | noncePrefixNotHex
  | emptyInput
  | keyDerivationFailed
  | signatureNotHex
  | manifestTooLarge
  deriving DecidableEq, Repr

/-! ## Numbers and texts in the shell -/

/-- `[[ $text =~ ^[0-9]+$ ]]`. -/
def isDigits (text : String) : Bool :=
  !text.toList.isEmpty && text.toList.all Char.isDigit

/-- The number that the shell takes digits for: octal ones behind a leading zero. -/
def shellConstant (text : String) : Option ℕ :=
  match text.toList with
  | '0' :: digits =>
      if digits.all fun digit => digit < '8' then some (Nat.ofDigitChars 8 digits 0) else none
  | digits => some (decimal digits)

/-- `(( text > MAX_U32 ))` in 64-bit arithmetic that wraps around; an error counts as false. -/
def exceedsMaxU32 (text : String) : Bool :=
  match shellConstant text with
  | some value => maxU32 < Int.bmod value (2 ^ 64)
  | none => false

/-- The number that `printf '%08x'` takes digits for, up to the largest of 64 bits. -/
def printfNumber (text : String) : Option ℕ :=
  (shellConstant text).map fun value => min value (2 ^ 64 - 1)

/-- The number that `jq` takes digits for. -/
def jqNumber (text : String) : ℕ :=
  decimal text.toList

/-- The text that `jq` prints for a number. -/
def jqDigits (value : ℕ) : List Char :=
  Nat.toDigits 10 value

/-- A hexadecimal digit in either case. -/
def isHexChar (char : Char) : Bool :=
  char.isDigit || ('a' ≤ char && char ≤ 'f') || ('A' ≤ char && char ≤ 'F')

/-- `validate_hex_chars`. -/
def isHexChars (value : String) (expectedLen : ℕ) : Bool :=
  value.toList.length = expectedLen && value.toList.all isHexChar

/-- `tr -d '[:space:]'`. -/
def deleteSpace (text : String) : String :=
  String.ofList (text.toList.filter fun char => !(isAsciiWhitespace char || char = '\x0b'))

/-! ## The checks -/

section Script

variable (tools : Tools) (args : Arguments)

/-- The checks on the numbers and on the version. -/
def checkArguments : Except PackError Unit := do
  if !isDigits args.buildNum then throw .buildNotInteger
  if exceedsMaxU32 args.buildNum then throw .buildTooLarge
  if args.version.length > maxVersionLen then throw .versionTooLong
  if !isDigits args.otaKeyId then throw .otaKeyIdNotInteger

/-- The signing key id, 1001 unless it is given. -/
def resolvedSigningKeyId : String :=
  if args.signingKeyId.toList.isEmpty then "1001" else args.signingKeyId

/-- The master key from its file or from the environment. -/
def resolvedMasterKey : String :=
  deleteSpace (if args.masterKeyHex.toList.isEmpty then args.masterKeyEnv else args.masterKeyHex)

/-- The nonce prefix, a random one unless it is given. -/
def resolvedNoncePrefix : String :=
  if args.noncePrefix.toList.isEmpty then tools.randHex else args.noncePrefix

/-- The checks on keys, seed and nonce prefix. -/
def checkKeys (seed : String) : Except PackError Unit := do
  if !isDigits (resolvedSigningKeyId args) then throw .signingKeyIdNotInteger
  if args.masterKeyHex.toList.isEmpty && args.masterKeyEnv.toList.isEmpty then throw .noMasterKey
  if !isHexChars (resolvedMasterKey args) 64 then throw .masterKeyNotHex
  if !isHexChars seed 64 then throw .seedNotHex
  if !isHexChars (resolvedNoncePrefix tools args) 24 then throw .noncePrefixNotHex

/-! ## The manifest -/

/-- A member of an object as `jq` prints it. -/
def jqMember (key : String) (text : List Char) : List Char :=
  tools.jqString key ++ ':' :: text

/-- An object as `jq -c` prints it. -/
def jqObject (members : List (List Char)) : List Char :=
  '{' :: ([','].intercalate members ++ ['}'])

/-- Size of the container. -/
def containerSize (imageSize : ℕ) : ℕ :=
  16 + imageSize + (imageSize + chunkSize - 1) / chunkSize * 36

/-- The members of the manifest before it is signed. -/
def unsignedMembers (plaintext : List UInt8) : List (List Char) :=
  [jqMember tools "schema" (jqDigits 2),
    jqMember tools "key_id" (jqDigits (jqNumber (resolvedSigningKeyId args))),
    jqMember tools "target" (tools.jqString "motonet-of-things/esp32"),
    jqMember tools "chip" (tools.jqString "esp32-wroom"),
    jqMember tools "version" (tools.jqString args.version),
    jqMember tools "build" (jqDigits (jqNumber args.buildNum)),
    jqMember tools "force" (toString args.forceFlag).toList,
    jqMember tools "url" (tools.jqString args.url),
    jqMember tools "download_size" (jqDigits (containerSize plaintext.length)),
    jqMember tools "image_size" (jqDigits plaintext.length),
    jqMember tools "image_sha256" (tools.jqString (sha256Hex (tools.crypto.sha256 plaintext))),
    jqMember tools "enc" (jqObject
      [jqMember tools "alg" (tools.jqString "AES-256-CTR-HMAC-SHA256"),
        jqMember tools "key_id" (jqDigits (jqNumber args.otaKeyId)),
        jqMember tools "chunk_size" (jqDigits chunkSize),
        jqMember tools "nonce_prefix" (tools.jqString (resolvedNoncePrefix tools args))])]

/-- The unsigned manifest. -/
def unsignedText (plaintext : List UInt8) : List Char :=
  jqObject (unsignedMembers tools args plaintext)

/-- The signed manifest: the members of the unsigned one and the signature. -/
def signedText (plaintext : List UInt8) (signature : String) : List Char :=
  jqObject (unsignedMembers tools args plaintext ++
    [jqMember tools "signature" (tools.jqString signature)])

/-- What the script writes: the manifest file, and the inputs of the container. -/
structure Packed where
  manifest : List UInt8
  inputs : Inputs

/-- A required argument is missing. -/
def missingArguments : Bool :=
  [args.input, args.output, args.manifestOut, args.url, args.version, args.buildNum,
    args.seedHexFile, args.otaKeyId].any fun text => text.toList.isEmpty

/-- The script up to the manifest that it writes. -/
def pack : Except PackError Packed := do
  if missingArguments args then throw .missingArguments
  match args.inputContents, args.seedContents with
  | none, _ => throw .inputNotFound
  | some _, none => throw .seedNotFound
  | some plaintext, some seedContents =>
      checkArguments args
      let seed := deleteSpace seedContents
      checkKeys tools args seed
      if plaintext.isEmpty then throw .emptyInput
      match printfNumber args.otaKeyId with
      | none => throw .keyDerivationFailed
      | some keyNumber =>
          let unsigned := asBytes (String.ofList (unsignedText tools args plaintext))
          let signature := tools.pkeyutlSign seed unsigned
          if !isHexChars signature 128 then throw .signatureNotHex
          let signed := signedText tools args plaintext signature
          if (asBytes (String.ofList signed)).length > maxManifestBytes then
            throw .manifestTooLarge
          return {
            manifest := asBytes (String.ofList (signed ++ ['\n']))
            inputs := {
              masterKey := .ofFn fun index =>
                (Hexadecimal.decode (asBytes (resolvedMasterKey args))).getD index 0
              otaKeyId := keyNumber
              noncePrefix := resolvedNoncePrefix tools args
              manifestDigest := tools.crypto.sha256 unsigned
              plaintext := plaintext } }

end Script

/-! ## What the script lets through -/

section Written

variable {tools : Tools} {args : Arguments}

theorem isHexChars_of_checkKeys {seed : String} (keys : checkKeys tools args seed = .ok ()) :
    isHexChars (resolvedNoncePrefix tools args) 24 = true := by
  unfold checkKeys at keys
  simp only [Except.guard_eq_ok_iff, Except.check_eq_ok_iff] at keys
  simpa using keys.2.2.2.2

/-- What is known of the arguments when a manifest has been written. -/
theorem of_pack {packed : Packed} (written : pack tools args = .ok packed) :
    ∃ plaintext keyNumber signature, args.inputContents = some plaintext ∧ plaintext ≠ [] ∧
      isHexChars (resolvedNoncePrefix tools args) 24 = true ∧
      printfNumber args.otaKeyId = some keyNumber ∧ isHexChars signature 128 = true ∧
      (asBytes (String.ofList (signedText tools args plaintext signature))).length ≤
        maxManifestBytes ∧
      packed.manifest =
        asBytes (String.ofList (signedText tools args plaintext signature ++ ['\n'])) ∧
      packed.inputs.otaKeyId = keyNumber ∧ packed.inputs.plaintext = plaintext := by
  unfold pack at written
  obtain ⟨-, written⟩ := Except.of_guard_eq_ok written
  split at written
  · cases written
  · cases written
  rename_i plaintext seedContents input seed_file
  obtain ⟨_, -, written⟩ := Except.of_bind_eq_ok written
  obtain ⟨⟨⟩, keys, written⟩ := Except.of_bind_eq_ok written
  obtain ⟨nonempty, written⟩ := Except.of_guard_eq_ok written
  split at written
  · cases written
  rename_i keyNumber reading
  obtain ⟨hex, written⟩ := Except.of_guard_eq_ok written
  obtain ⟨short, written⟩ := Except.of_guard_eq_ok written
  cases written
  exact ⟨plaintext, keyNumber, _, input, by simpa using nonempty, isHexChars_of_checkKeys keys,
    reading, by simpa using hex, Nat.not_lt.mp short, rfl, rfl, rfl⟩

/-- The fields of the signed manifest. -/
def signedFields (tools : Tools) (args : Arguments) (plaintext : List UInt8) (signature : String) :
    List (String × Json.Value) :=
  [("schema", .number 2), ("key_id", .number (jqNumber (resolvedSigningKeyId args))),
    ("target", .string "motonet-of-things/esp32"), ("chip", .string "esp32-wroom"),
    ("version", .string args.version), ("build", .number (jqNumber args.buildNum)),
    ("force", .bool args.forceFlag), ("url", .string args.url),
    ("download_size", .number (containerSize plaintext.length)),
    ("image_size", .number plaintext.length),
    ("image_sha256", .string (sha256Hex (tools.crypto.sha256 plaintext))),
    ("enc", .object [("alg", .string "AES-256-CTR-HMAC-SHA256"),
      ("key_id", .number (jqNumber args.otaKeyId)), ("chunk_size", .number chunkSize),
      ("nonce_prefix", .string (resolvedNoncePrefix tools args))]),
    ("signature", .string signature)]

/-- The signed manifest is a JSON text of its fields. -/
theorem spells_signedText (prints : PrintsStrings tools) (plaintext : List UInt8)
    (signature : String) :
    Json.Spells (.object (signedFields tools args plaintext signature))
      (signedText tools args plaintext signature) := by
  have string (value : String) : Json.Spells (.string value) (tools.jqString value) :=
    .string (prints.spells value)
  have enc : Json.Spells (.object [("alg", .string "AES-256-CTR-HMAC-SHA256"),
      ("key_id", .number (jqNumber args.otaKeyId)), ("chunk_size", .number chunkSize),
      ("nonce_prefix", .string (resolvedNoncePrefix tools args))]) _ :=
    .object (.cons (prints.spells "alg") (string _) (.cons (prints.spells "key_id") (.number _)
      (.cons (prints.spells "chunk_size") (.number _)
      (.last (prints.spells "nonce_prefix") (string _)))))
  have spelled : Json.Spells (.object (signedFields tools args plaintext signature)) _ :=
    .object (.cons (prints.spells "schema") (.number _)
      (.cons (prints.spells "key_id") (.number _) (.cons (prints.spells "target") (string _)
      (.cons (prints.spells "chip") (string _) (.cons (prints.spells "version") (string _)
      (.cons (prints.spells "build") (.number _) (.cons (prints.spells "force") (.bool _)
      (.cons (prints.spells "url") (string _) (.cons (prints.spells "download_size") (.number _)
      (.cons (prints.spells "image_size") (.number _)
      (.cons (prints.spells "image_sha256") (string _) (.cons (prints.spells "enc") enc
      (.last (prints.spells "signature") (string _))))))))))))))
  convert spelled using 1
  simp [signedText, unsignedMembers, jqObject, jqMember, jqDigits]

/-- Size of the signed manifest. -/
def manifestSize (tools : Tools) (args : Arguments) (imageSize : ℕ) : ℕ :=
  480 + byteLen (tools.jqString args.version) + byteLen (tools.jqString args.url) +
    (toString args.forceFlag).toList.length + (jqDigits (jqNumber args.buildNum)).length +
    (jqDigits (jqNumber (resolvedSigningKeyId args))).length +
    (jqDigits (jqNumber args.otaKeyId)).length + (jqDigits imageSize).length +
    (jqDigits (containerSize imageSize)).length

theorem byteLen_jqDigits (value : ℕ) : byteLen (jqDigits value) = (jqDigits value).length :=
  byteLen_eq_length fun _ member =>
    val_le_of_isDigit (Nat.isDigit_of_mem_toDigits (by decide) (by decide) member)

theorem byteLen_jqMember (key : String) (text : List Char) :
    byteLen (jqMember tools key text) = byteLen (tools.jqString key) + 1 + byteLen text := by
  have colon : Char.utf8Size ':' = 1 := rfl
  rw [jqMember, byteLen_append, byteLen_cons, colon, Nat.add_assoc]

theorem byteLen_jqObject (member : List Char) (members : List (List Char)) :
    byteLen (jqObject (member :: members)) =
      2 + byteLen member + (members.map fun member => 1 + byteLen member).sum := by
  have opening : Char.utf8Size '{' = 1 := rfl
  have closing : byteLen ['}'] = 1 := rfl
  have separated : ∀ member : List Char, byteLen ([','].intercalate (member :: members)) =
      byteLen member + (members.map fun member => 1 + byteLen member).sum := by
    induction members with
    | nil => exact fun member => by rw [List.intercalate_singleton, List.map_nil, List.sum_nil]; rfl
    | cons next members ih =>
        intro member
        have comma : byteLen [','] = 1 := rfl
        rw [List.intercalate_cons_cons, byteLen_append, byteLen_append, ih next, comma,
          List.map_cons, List.sum_cons]
        omega
  rw [jqObject, byteLen_cons, byteLen_append, separated member, opening, closing]
  omega

theorem val_le_of_isPlainAscii {char : Char} (plain : isPlainAscii char = true) :
    char.val ≤ 127 := by
  rw [isPlainAscii, Bool.and_eq_true, decide_eq_true_eq] at plain
  exact Nat.le_of_lt plain.2

/-- A text of plain characters is printed with two quotes. -/
theorem byteLen_plain (prints : PrintsStrings tools) (value : String)
    (plain : value.toList.all isPlainAscii = true) :
    byteLen (tools.jqString value) = value.toList.length + 2 := by
  have quote : Char.utf8Size '"' = 1 := rfl
  have closing : byteLen ['"'] = 1 := rfl
  have ascii : ∀ char ∈ value.toList, char.val ≤ 127 := fun char member =>
    val_le_of_isPlainAscii (List.all_eq_true.mp plain char member)
  rw [prints.plain value plain, byteLen_cons, byteLen_append, byteLen_eq_length ascii, quote,
    closing]
  omega

/-- The codes of hexadecimal digits. -/
theorem isHexChar_iff {char : Char} :
    isHexChar char = true ↔ (48 ≤ char.toNat ∧ char.toNat ≤ 57) ∨
      (97 ≤ char.toNat ∧ char.toNat ≤ 102) ∨ (65 ≤ char.toNat ∧ char.toNat ≤ 70) := by
  simp only [isHexChar, Char.isDigit, Bool.or_eq_true, Bool.and_eq_true, decide_eq_true_eq,
    or_assoc]
  rfl

theorem isPlainAscii_of_isHexChar {char : Char} (hex : isHexChar char = true) :
    isPlainAscii char = true := by
  have codes := isHexChar_iff.mp hex
  rw [isPlainAscii, Bool.and_eq_true, Json.isPlain_iff, decide_eq_true_eq]
  refine ⟨⟨by omega, ?_, ?_⟩, by omega⟩
  · rintro rfl
    exact absurd hex (by decide)
  · rintro rfl
    exact absurd hex (by decide)

theorem byteLen_hex (prints : PrintsStrings tools) {value : String} {len : ℕ}
    (hex : isHexChars value len = true) : byteLen (tools.jqString value) = len + 2 := by
  simp only [isHexChars, Bool.and_eq_true, decide_eq_true_eq, List.all_eq_true] at hex
  have plain : value.toList.all isPlainAscii = true :=
    List.all_eq_true.mpr fun char member => isPlainAscii_of_isHexChar (hex.2 char member)
  rw [byteLen_plain prints value plain, hex.1]

theorem isHexChar_digitChar {value : ℕ} (nibble : value < 16) :
    isHexChar (Nat.digitChar value) = true := by
  have each : ∀ value < 16, isHexChar (Nat.digitChar value) = true := by decide
  exact each value nibble

theorem isHexChars_sha256Hex (digest : Digest) : isHexChars (sha256Hex digest) 64 = true := by
  simp only [isHexChars, sha256Hex, String.toList_ofList, Bool.and_eq_true, decide_eq_true_eq,
    List.all_eq_true, List.mem_flatMap]
  constructor
  · rw [List.length_flatMap]
    simp
  · rintro char ⟨byte, -, member⟩
    have bound := byte.toNat_lt
    simp only [List.mem_cons, List.not_mem_nil, or_false] at member
    obtain rfl | rfl := member
    · exact isHexChar_digitChar (by omega)
    · exact isHexChar_digitChar (by omega)

/-- What the script takes for hexadecimal digits the device does, too. -/
theorem isHexText_of_isHexChars {text : String} {len : ℕ} (hex : isHexChars text len = true) :
    IsHexText len text := by
  simp only [isHexChars, Bool.and_eq_true, decide_eq_true_eq, List.all_eq_true] at hex
  obtain ⟨length, digits⟩ := hex
  have ascii : ∀ char ∈ text.toList, char.val ≤ 127 := fun char member =>
    val_le_of_isPlainAscii (isPlainAscii_of_isHexChar (digits char member))
  constructor
  · rw [utf8ByteSize_eq_byteLen, byteLen_eq_length ascii, length]
  · rw [← String.ofList_toList (s := text), asBytes_ofList, List.all_eq_true]
    intro byte member
    obtain ⟨char, inside, encoded⟩ := List.mem_flatMap.mp member
    have one : char.utf8Size = 1 := if_pos (ascii char inside)
    rw [String.utf8EncodeChar_eq_singleton one, List.mem_singleton] at encoded
    have codes := isHexChar_iff.mp (digits char inside)
    have value : byte.toNat = char.toNat := by
      rw [encoded, UInt32.toNat_toUInt8]
      exact Nat.mod_eq_of_lt (Nat.lt_of_le_of_lt (ascii char inside) (by decide))
    simp only [isAsciiHexdigit, Bool.or_eq_true, Bool.and_eq_true, decide_eq_true_eq,
      UInt8.le_iff_toNat_le, value, UInt8.reduceToNat]
    omega

theorem byteLen_signedText (prints : PrintsStrings tools) {plaintext : List UInt8}
    {signature : String} (nonce : isHexChars (resolvedNoncePrefix tools args) 24 = true)
    (hex : isHexChars signature 128 = true) :
    byteLen (signedText tools args plaintext signature) =
      manifestSize tools args plaintext.length := by
  have force :
      byteLen (toString args.forceFlag).toList = (toString args.forceFlag).toList.length := by
    cases args.forceFlag <;> rfl
  have constants : byteLen (jqDigits 2) = 1 ∧ byteLen (jqDigits chunkSize) = 4 := by decide
  simp only [signedText, unsignedMembers, List.cons_append, List.nil_append, byteLen_jqObject,
    List.map_cons, List.map_nil, List.sum_cons, List.sum_nil, byteLen_jqMember,
    byteLen_plain prints "schema" (by decide), byteLen_plain prints "key_id" (by decide),
    byteLen_plain prints "target" (by decide), byteLen_plain prints "chip" (by decide),
    byteLen_plain prints "version" (by decide), byteLen_plain prints "build" (by decide),
    byteLen_plain prints "force" (by decide), byteLen_plain prints "url" (by decide),
    byteLen_plain prints "download_size" (by decide),
    byteLen_plain prints "image_size" (by decide),
    byteLen_plain prints "image_sha256" (by decide), byteLen_plain prints "enc" (by decide),
    byteLen_plain prints "alg" (by decide), byteLen_plain prints "chunk_size" (by decide),
    byteLen_plain prints "nonce_prefix" (by decide), byteLen_plain prints "signature" (by decide),
    byteLen_plain prints "motonet-of-things/esp32" (by decide),
    byteLen_plain prints "esp32-wroom" (by decide),
    byteLen_plain prints "AES-256-CTR-HMAC-SHA256" (by decide),
    byteLen_hex prints nonce, byteLen_hex prints hex,
    byteLen_hex prints (isHexChars_sha256Hex _), force, constants.1, constants.2]
  simp only [byteLen_jqDigits, manifestSize]
  simp
  omega

/-- A manifest is written when the checks pass and the manifest is not too large. -/
theorem exists_pack (prints : PrintsStrings tools) {plaintext : List UInt8} {seedContents : String}
    {keyNumber : ℕ}
    (given : missingArguments args = false)
    (input : args.inputContents = some plaintext)
    (seed_file : args.seedContents = some seedContents)
    (checked : checkArguments args = .ok ())
    (keys : checkKeys tools args (deleteSpace seedContents) = .ok ()) (nonempty : plaintext ≠ [])
    (reading : printfNumber args.otaKeyId = some keyNumber)
    (signed : ∀ seed message, isHexChars (tools.pkeyutlSign seed message) 128 = true)
    (room : manifestSize tools args plaintext.length ≤ maxManifestBytes) :
    ∃ packed, pack tools args = .ok packed := by
  have nonce : isHexChars (resolvedNoncePrefix tools args) 24 = true := isHexChars_of_checkKeys keys
  have not_empty : plaintext.isEmpty = false := by simpa using nonempty
  have short (signature : String) (hex : isHexChars signature 128 = true) :
      ¬ (asBytes (String.ofList (signedText tools args plaintext signature))).length >
        maxManifestBytes := by
    rw [length_asBytes_ofList, byteLen_signedText prints nonce hex]
    exact Nat.not_lt.mpr room
  simp only [pack, given, input, seed_file, checked, keys, not_empty, reading, signed,
    if_neg (short _ (signed _ _)), Bool.not_true, Bool.false_eq_true, if_false]
  exact ⟨_, rfl⟩

/-! ## The manifest on the device -/

theorem readU32_eq_some_iff {number : ℕ} {value : UInt32} :
    readU32 (.number number) = some value ↔ value.toNat = number := by
  rw [readU32]
  split_ifs with fits
  · rw [Option.some.injEq]
    constructor
    · rintro rfl
      exact UInt32.toNat_ofNat_of_lt' fits
    · rintro rfl
      exact UInt32.ofNat_toNat
  · simp only [false_iff]
    rintro rfl
    exact fits value.toNat_lt

/-- The packer's manifest suits the device: it is parsed, and the numbers that keys and tags are
computed from have four bytes and are the device's. -/
def Agrees (serde : SerdeJson) (packed : Packed) : Prop :=
  ∃ manifest, OtaManifest.parse serde packed.manifest = .ok manifest ∧
    word packed.inputs.otaKeyId = toBigEndian 4 manifest.enc.keyId.toNat ∧
    ∀ index < packedChunks packed.inputs,
      word index = toBigEndian 4 index ∧
        word (index * chunkSize) = toBigEndian 4 (index * chunkSize) ∧
        word (plainLen packed.inputs index) = toBigEndian 4 (plainLen packed.inputs index)

/-- The limits that the device needs the arguments to meet. -/
structure Fits (tools : Tools) (args : Arguments) (imageSize : ℕ) : Prop where
  version : args.version.utf8ByteSize ≤ maxVersionLen
  url : args.url.utf8ByteSize ≤ maxUrlLen
  build : jqNumber args.buildNum < 2 ^ 32
  signingKeyId : jqNumber (resolvedSigningKeyId args) < 2 ^ 32
  otaKeyId : jqNumber args.otaKeyId < 2 ^ 32
  /-- A leading zero does not change the key id. -/
  same_reading : printfNumber args.otaKeyId = some (jqNumber args.otaKeyId)
  size : containerSize imageSize < 2 ^ 32
  /-- The newline at the end of the manifest file needs room, too. -/
  room : manifestSize tools args imageSize < maxManifestBytes

/-- An octal reading is not larger than the decimal one. -/
theorem ofDigitChars_octal_le (digits : List Char) {low high : ℕ} (ordered : low ≤ high) :
    Nat.ofDigitChars 8 digits low ≤ Nat.ofDigitChars 10 digits high := by
  induction digits generalizing low high with
  | nil => exact ordered
  | cons digit digits ih =>
      rw [Nat.ofDigitChars_cons, Nat.ofDigitChars_cons]
      exact ih (by omega)

theorem printfNumber_le {text : String} {number : ℕ} (reading : printfNumber text = some number) :
    number ≤ jqNumber text := by
  obtain ⟨value, constant, rfl⟩ := Option.map_eq_some_iff.mp reading
  refine Nat.le_trans (Nat.min_le_left _ _) ?_
  unfold shellConstant at constant
  rw [jqNumber, decimal]
  split at constant
  · rename_i digits text_eq
    split_ifs at constant
    cases constant
    rw [text_eq, Nat.ofDigitChars_cons]
    exact ofDigitChars_octal_le digits (Nat.zero_le _)
  · cases constant
    exact le_refl _

section Device

variable {serde : SerdeJson} {packed : Packed}

theorem fits_of_agrees (standard : StandardJson serde) (prints : PrintsStrings tools)
    (written : pack tools args = .ok packed) (agrees : Agrees serde packed) :
    Fits tools args packed.inputs.plaintext.length := by
  obtain ⟨plaintext, keyNumber, signature, -, nonempty, nonce, reading, hex, -, file, key, text⟩ :=
    of_pack written
  obtain ⟨manifest, parsed, same_word, -⟩ := agrees
  obtain ⟨short, read, valid⟩ := parse_eq_ok_iff.mp parsed
  have valid := OtaManifest.validate_eq_ok_iff.mp valid
  have blank : ∀ char ∈ ['\n'], Json.isSpace char = true := List.forall_mem_singleton.mpr rfl
  rw [file, standard.reads (spells_signedText prints plaintext signature) blank] at read
  obtain ⟨key_read, version_read, build_read, url_read, download_read, enc_read⟩ :=
    of_readManifest read
  have version_eq : args.version = manifest.version := by
    simpa [readField, signedFields, List.lookup_cons, readText] using version_read
  have url_eq : args.url = manifest.url := by
    simpa [readField, signedFields, List.lookup_cons, readText] using url_read
  have key_eq : manifest.keyId.toNat = jqNumber (resolvedSigningKeyId args) := by
    simpa [readField, signedFields, List.lookup_cons, readU32_eq_some_iff] using key_read
  have build_eq : manifest.build.toNat = jqNumber args.buildNum := by
    simpa [readField, signedFields, List.lookup_cons, readU32_eq_some_iff] using build_read
  have download_eq : manifest.downloadSize.toNat = containerSize plaintext.length := by
    simpa [readField, signedFields, List.lookup_cons, readU32_eq_some_iff] using download_read
  have enc_key_eq : manifest.enc.keyId.toNat = jqNumber args.otaKeyId := by
    have enc_read := of_readEncMetadata (show readEncMetadata (.object _) = some manifest.enc by
      simpa [readField, signedFields, List.lookup_cons] using enc_read)
    simpa [readField, List.lookup_cons, readU32_eq_some_iff] using enc_read
  have ota_fits : jqNumber args.otaKeyId < 2 ^ 32 := enc_key_eq ▸ manifest.enc.keyId.toNat_lt
  have fits : keyNumber < 2 ^ 32 := Nat.lt_of_le_of_lt (printfNumber_le reading) ota_fits
  have same_number : keyNumber = jqNumber args.otaKeyId := by
    rw [key, word_eq_toBigEndian fits, enc_key_eq] at same_word
    exact toBigEndian_injective fits ota_fits same_word
  rw [file, length_asBytes_ofList, byteLen_append, byteLen_signedText prints nonce hex] at short
  rw [text]
  exact {
    version := version_eq ▸ valid.version
    url := url_eq ▸ valid.url
    build := build_eq ▸ manifest.build.toNat_lt
    signingKeyId := key_eq ▸ manifest.keyId.toNat_lt
    otaKeyId := ota_fits
    same_reading := same_number ▸ reading
    size := download_eq ▸ manifest.downloadSize.toNat_lt
    room := Nat.lt_of_succ_le short }

/-- The manifest that the script writes. -/
def signedManifest (tools : Tools) (args : Arguments) (plaintext : List UInt8)
    (signature : String) : OtaManifest where
  schema := 2
  keyId := .ofNat (jqNumber (resolvedSigningKeyId args))
  target := "motonet-of-things/esp32"
  chip := "esp32-wroom"
  version := args.version
  build := .ofNat (jqNumber args.buildNum)
  force := args.forceFlag
  url := args.url
  downloadSize := .ofNat (containerSize plaintext.length)
  imageSize := .ofNat plaintext.length
  imageSha256 := sha256Hex (tools.crypto.sha256 plaintext)
  enc := {
    alg := "AES-256-CTR-HMAC-SHA256"
    keyId := .ofNat (jqNumber args.otaKeyId)
    chunkSize := .ofNat chunkSize
    noncePrefix := resolvedNoncePrefix tools args }
  signature := signature

/-- An image is smaller than its container. -/
theorem lt_containerSize (imageSize : ℕ) : imageSize < containerSize imageSize := by
  unfold containerSize
  omega

section Fitting

variable {plaintext : List UInt8} {signature : String}

/-- Numbers that fit are written as they are. -/
theorem fields_signedManifest (fits : Fits tools args plaintext.length) :
    (signedManifest tools args plaintext signature).fields =
      signedFields tools args plaintext signature := by
  have image_fits := Nat.lt_trans (lt_containerSize plaintext.length) fits.size
  simp only [OtaManifest.fields, EncMetadata.fields, signedManifest, signedFields,
    UInt32.toNat_ofNat_of_lt' fits.signingKeyId, UInt32.toNat_ofNat_of_lt' fits.build,
    UInt32.toNat_ofNat_of_lt' fits.otaKeyId, UInt32.toNat_ofNat_of_lt' fits.size,
    UInt32.toNat_ofNat_of_lt' image_fits]
  rfl

/-- The manifest passes the checks of the device. -/
theorem isValid_signedManifest (fits : Fits tools args plaintext.length) (nonempty : plaintext ≠ [])
    (nonce : isHexChars (resolvedNoncePrefix tools args) 24 = true)
    (hex : isHexChars signature 128 = true) :
    (signedManifest tools args plaintext signature).IsValid := by
  have image_fits := Nat.lt_trans (lt_containerSize plaintext.length) fits.size
  have image_size : (UInt32.ofNat plaintext.length).toNat = plaintext.length :=
    UInt32.toNat_ofNat_of_lt' image_fits
  exact {
    schema := rfl
    target := rfl
    chip := rfl
    version := fits.version
    url := fits.url
    imageSha256 := isHexText_of_isHexChars (isHexChars_sha256Hex _)
    signature := isHexText_of_isHexChars hex
    alg := rfl
    chunkSize := rfl
    noncePrefix := isHexText_of_isHexChars nonce
    imageSize := by
      intro zero
      have empty : plaintext.length = 0 := image_size ▸ congrArg UInt32.toNat zero
      exact nonempty (List.length_eq_zero_iff.mp empty)
    downloadSize := by
      simp only [signedManifest]
      rw [UInt32.toNat_ofNat_of_lt' fits.size, image_size]
      rfl }

end Fitting

theorem agrees_of_fits (standard : StandardJson serde) (prints : PrintsStrings tools)
    (written : pack tools args = .ok packed)
    (fits : Fits tools args packed.inputs.plaintext.length) : Agrees serde packed := by
  obtain ⟨plaintext, keyNumber, signature, -, nonempty, nonce, reading, hex, -, file, key, text⟩ :=
    of_pack written
  rw [text] at fits
  have blank : ∀ char ∈ ['\n'], Json.isSpace char = true := List.forall_mem_singleton.mpr rfl
  refine ⟨signedManifest tools args plaintext signature, parse_eq_ok_iff.mpr ⟨?_, ?_, ?_⟩, ?_, ?_⟩
  · rw [file, length_asBytes_ofList, byteLen_append, byteLen_signedText prints nonce hex]
    exact fits.room
  · rw [file, standard.reads (spells_signedText prints plaintext signature) blank,
      ← fields_signedManifest fits, readManifest_fields]
  · exact OtaManifest.validate_eq_ok_iff.mpr (isValid_signedManifest fits nonempty nonce hex)
  · have same_number : keyNumber = jqNumber args.otaKeyId :=
      Option.some.inj (reading.symm.trans fits.same_reading)
    have key_fits : keyNumber < 2 ^ 32 := same_number ▸ fits.otaKeyId
    have same_key : (UInt32.ofNat (jqNumber args.otaKeyId)).toNat = keyNumber := by
      rw [UInt32.toNat_ofNat_of_lt' fits.otaKeyId, same_number]
    rw [key, word_eq_toBigEndian key_fits, ← same_key]
    rfl
  · have image_fits : packed.inputs.plaintext.length < 2 ^ 32 := by
      rw [text]
      exact Nat.lt_trans (lt_containerSize _) fits.size
    intro index inside
    obtain ⟨index_fits, offset_fits, len_fits⟩ := fits_of_lt_packedChunks image_fits inside
    rw [← plainLen_eq inside] at len_fits
    exact ⟨word_eq_toBigEndian index_fits, word_eq_toBigEndian offset_fits,
      word_eq_toBigEndian len_fits⟩

end Device

/-- A manifest that the packer writes for an image suits the device exactly if the arguments and the
size of the image meet the limits of the device. -/
theorem packed_agrees_iff {serde : SerdeJson} {packed : Packed} {image : List UInt8}
    (standard : StandardJson serde) (prints : PrintsStrings tools)
    (input : args.inputContents = some image) (written : pack tools args = .ok packed) :
    Agrees serde packed ↔ Fits tools args image.length := by
  obtain ⟨plaintext, _, _, contents, -, -, -, -, -, -, -, text⟩ := of_pack written
  have same : packed.inputs.plaintext = image :=
    text.trans (Option.some.inj (contents.symm.trans input))
  rw [← same]
  exact ⟨fits_of_agrees standard prints written, agrees_of_fits standard prints written⟩

end Written

/-! ## Two command lines -/

/-- Stand-ins for the tools; strings are printed as in JSON. -/
def sampleTools : Tools where
  crypto := sampleCrypto
  jqString value := (jsonStringText value).toList
  pkeyutlSign _ _ := String.ofList (List.replicate 128 'a')
  randHex := "abcdef0123456789abcdef01"

/-- A command line with all that is required and an encryption key id. -/
def sampleArguments (otaKeyId : String) : Arguments where
  input := "firmware.bin"
  output := "firmware.bin.enc"
  manifestOut := "firmware.manifest.json"
  url := "https://example.com/firmware.bin.enc"
  version := "0.2.0"
  buildNum := "42"
  seedHexFile := "dev_ed25519.seed.hex"
  otaKeyId := otaKeyId
  signingKeyId := ""
  masterKeyHex := ""
  noncePrefix := ""
  forceFlag := false
  inputContents := some sampleInputs.plaintext
  seedContents := some (String.ofList (List.replicate 64 '5'))
  masterKeyEnv := String.ofList (List.replicate 64 '7')

theorem printsStrings_sample : PrintsStrings sampleTools where
  spells value := by
    simp only [sampleTools]
    exact stringText_jsonStringText value
  plain value plain := by
    have kept (char : Char) (member : char ∈ value.toList) : escapeChar char = [char] := by
      have ascii := List.all_eq_true.mp plain char member
      rw [isPlainAscii, Bool.and_eq_true, Json.isPlain_iff] at ascii
      obtain ⟨⟨printable, not_quote, not_backslash⟩, -⟩ := ascii
      exact escapeChar_of_le printable not_quote not_backslash
    have body : escapeBody value.toList = value.toList := by
      rw [escapeBody, List.flatMap_congr kept, List.flatMap_singleton']
    simp only [sampleTools, jsonStringText, body, String.toList_ofList]

theorem isHexChars_replicate (len : ℕ) {digit : Char} (hex : isHexChar digit = true) :
    isHexChars (String.ofList (List.replicate len digit)) len = true := by
  simp [isHexChars, hex]

theorem deleteSpace_replicate (len : ℕ) {digit : Char}
    (kept : (isAsciiWhitespace digit || digit = '\x0b') = false) :
    deleteSpace (String.ofList (List.replicate len digit)) =
      String.ofList (List.replicate len digit) := by
  rw [deleteSpace, String.toList_ofList, List.filter_replicate, kept]
  rfl

/-- The keys, the seed and the nonce prefix of the command lines are accepted. -/
theorem checkKeys_sample (otaKeyId : String) :
    checkKeys sampleTools (sampleArguments otaKeyId)
      (deleteSpace (String.ofList (List.replicate 64 '5'))) = .ok () := by
  have signing : isDigits (resolvedSigningKeyId (sampleArguments otaKeyId)) = true := by
    change isDigits "1001" = true
    decide +kernel
  have given : (sampleArguments otaKeyId).masterKeyEnv.toList.isEmpty = false := by
    rw [sampleArguments, String.toList_ofList]
    rfl
  have master : isHexChars (resolvedMasterKey (sampleArguments otaKeyId)) 64 = true := by
    change isHexChars (deleteSpace (String.ofList (List.replicate 64 '7'))) 64 = true
    rw [deleteSpace_replicate 64 (by decide), isHexChars_replicate 64 (by decide)]
  have seed : isHexChars (String.ofList (List.replicate 64 '5')) 64 = true :=
    isHexChars_replicate 64 (by decide)
  have nonce :
      isHexChars (resolvedNoncePrefix sampleTools (sampleArguments otaKeyId)) 24 = true := by
    change isHexChars "abcdef0123456789abcdef01" 24 = true
    decide +kernel
  rw [deleteSpace_replicate 64 (by decide)]
  unfold checkKeys
  simp only [Except.guard_eq_ok_iff, Except.check_eq_ok_iff, signing, given, master, seed, nonce]
  simp

/-- The packer accepts the command lines. -/
theorem exists_pack_sample {otaKeyId : String} {keyNumber : ℕ}
    (given : missingArguments (sampleArguments otaKeyId) = false)
    (checked : checkArguments (sampleArguments otaKeyId) = .ok ())
    (reading : printfNumber otaKeyId = some keyNumber)
    (room : manifestSize sampleTools (sampleArguments otaKeyId) 9 ≤ maxManifestBytes) :
    ∃ packed, pack sampleTools (sampleArguments otaKeyId) = .ok packed :=
  exists_pack printsStrings_sample given rfl rfl checked (checkKeys_sample otaKeyId) (by decide)
    reading (fun _ _ => isHexChars_replicate 128 (by decide)) room

/-- The packer accepts a key id that has no room in the manifest's field. -/
theorem oversized_key_id_packed :
    ¬ ∀ (serde : SerdeJson) (tools : Tools) (args : Arguments) (packed : Packed),
      StandardJson serde → PrintsStrings tools → pack tools args = .ok packed →
        Agrees serde packed := by
  intro agreed
  obtain ⟨packed, written⟩ := exists_pack_sample
    (show missingArguments (sampleArguments "4294967296") = false by decide +kernel)
    (by decide +kernel) (show _ = some 4294967296 by decide +kernel) (by decide +kernel)
  have fits := fits_of_agrees standardJson_readingSerde printsStrings_sample written
    (agreed _ _ _ _ standardJson_readingSerde printsStrings_sample written)
  exact absurd fits.otaKeyId (by decide +kernel)

theorem packed_agrees_iff_sample :
    ∃ packed, pack sampleTools (sampleArguments "1001") = .ok packed ∧
      Agrees readingSerde packed := by
  obtain ⟨packed, written⟩ := exists_pack_sample
    (show missingArguments (sampleArguments "1001") = false by decide +kernel) (by decide +kernel)
    (show _ = some 1001 by decide +kernel) (by decide +kernel)
  refine ⟨packed, written, (packed_agrees_iff standardJson_readingSerde printsStrings_sample rfl
    written).mpr ?_⟩
  constructor <;> decide +kernel

end Packer
end Motonet
