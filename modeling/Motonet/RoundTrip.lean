import Motonet.Firmware.Installation
import Motonet.OtaCore.SignedBytes
import Motonet.Packer

/-!
# What the packer writes, the device installs

The chunk loop of the device accepts the container that the packer wrote for an image, in whatever
slices it arrives, and installs the image.
-/

namespace Motonet

open OtaCore Firmware Fallible

/-- The arguments with which the device processes what the packer wrote. -/
abbrev Packer.deviceArgs (crypto : CryptoPrimitives) (inputs : Packer.Inputs)
    (nonce : List.Vector UInt8 12) (slot : Slot) (imageSize : UInt32) : BodyArgs :=
  { Packer.deviceKeys crypto inputs nonce with slot := slot, imageSize := imageSize }

/-- A stream that starts with the packer's container delivers the packed image. -/
theorem delivers_of_container {crypto : CryptoPrimitives} {inputs : Packer.Inputs}
    {nonce : List.Vector UInt8 12} {slot : Slot} {imageSize : UInt32} {faults : FlashFaults}
    {stream rest : List UInt8} (key_fits : inputs.otaKeyId < 2 ^ 32)
    (size : inputs.plaintext.length = imageSize.toNat)
    (parsed : parseNoncePrefix inputs.noncePrefix = .ok nonce)
    (prefix_ok : PlausiblePrefix inputs.plaintext) (no_fault : ∀ index, faults.write index = none)
    (stream_eq : stream = Packer.container crypto inputs ++ rest) :
    Delivers crypto faults (Packer.deviceArgs crypto inputs nonce slot imageSize) stream
      (sealImage crypto (Packer.deviceKeys crypto inputs nonce) inputs.plaintext size) rest where
  stream_eq := by
    rw [stream_eq, Packer.container_eq key_fits size parsed]
  prefix_ok := by rwa [plaintext_sealImage]
  written := fun index _ => no_fault index

/-- Round trip: for every image with a plausible prefix, processing the packed container returns,
whatever the slices, writes exactly the image to the start of the slot, and yields its size, its
hash and the hash of its first 4096 bytes. -/
theorem packed_image_round_trip (crypto : CryptoPrimitives) (inputs : Packer.Inputs)
    (nonce : List.Vector UInt8 12) (imageSize : UInt32) (faults : FlashFaults) (slot : Slot)
    (device : Device) (slices : List (List UInt8)) (key_fits : inputs.otaKeyId < 2 ^ 32)
    (size : inputs.plaintext.length = imageSize.toNat)
    (parsed : parseNoncePrefix inputs.noncePrefix = .ok nonce)
    (prefix_ok : PlausiblePrefix inputs.plaintext) (no_fault : ∀ index, faults.write index = none)
    (nonempty : ∀ bytes ∈ slices, bytes ≠ [])
    (container_eq : slices.flatten = Packer.container crypto inputs) :
    ∃ after, exec (processEncryptedBody crypto faults
        (Packer.deviceArgs crypto inputs nonce slot imageSize)) (device, slices.map .slice) =
        (.ok {
          totalPlaintext := inputs.plaintext.length
          digest := crypto.sha256 inputs.plaintext
          readbackLen := min 4096 inputs.plaintext.length
          readbackDigest := crypto.sha256 (inputs.plaintext.take 4096) }, after) ∧
      Installed slot inputs.plaintext (numChunks inputs.plaintext.length) device after.1 := by
  have stream_eq : available (slices.map .slice) = Packer.container crypto inputs ++ [] := by
    rw [available_slices nonempty, container_eq, List.append_nil]
  obtain ⟨after, executed, installed⟩ := processEncryptedBody_of_delivers device
    (delivers_of_container key_fits size parsed prefix_ok no_fault stream_eq)
  rw [plaintext_sealImage] at executed installed
  rw [size]
  exact ⟨after, size ▸ executed, installed⟩

/-- Stand-ins for the primitives, simple enough to evaluate. -/
def sampleCrypto : CryptoPrimitives where
  sha256 message := List.Vector.replicate 32 (UInt8.ofNat message.length)
  aes256 _ counter := List.Vector.replicate 16 (UInt8.ofNat counter.toNat)

/-- A small image and the inputs with which it is packed. -/
def sampleInputs : Packer.Inputs where
  masterKey := List.Vector.replicate 32 7
  otaKeyId := 1001
  noncePrefix := "abcdef0123456789abcdef01"
  manifestDigest := List.Vector.replicate 32 9
  plaintext := [0xe9, 1, 0, 0x10, 1, 0, 0, 0, 0x42]

/-- The nonce prefix of the sample. -/
def sampleNonce : List.Vector UInt8 12 :=
  ⟨[0xab, 0xcd, 0xef, 0x01, 0x23, 0x45, 0x67, 0x89, 0xab, 0xcd, 0xef, 0x01], rfl⟩

theorem parseNoncePrefix_sample : parseNoncePrefix sampleInputs.noncePrefix = .ok sampleNonce := by
  decide +kernel

/-- A device that has booted a confirmed image. -/
def sampleDevice : Device where
  selected := .ota0
  imageState _ := .valid
  flash _ _ := 0xff
  journal := []

theorem packed_image_round_trip_sample :
    ∃ after, exec (processEncryptedBody sampleCrypto FlashFaults.none
        (Packer.deviceArgs sampleCrypto sampleInputs sampleNonce .ota1 9)) (sampleDevice,
          [(Packer.container sampleCrypto sampleInputs).take 5,
            (Packer.container sampleCrypto sampleInputs).drop 5].map .slice) =
        (.ok {
          totalPlaintext := 9
          digest := sampleCrypto.sha256 sampleInputs.plaintext
          readbackLen := 9
          readbackDigest := sampleCrypto.sha256 sampleInputs.plaintext }, after) ∧
      Installed .ota1 sampleInputs.plaintext 1 sampleDevice after.1 :=
  packed_image_round_trip sampleCrypto sampleInputs sampleNonce 9 FlashFaults.none .ota1
    sampleDevice _ (by decide) rfl parseNoncePrefix_sample (fun _ => by decide +kernel)
    (fun _ => rfl) (by decide +kernel) (by simp)

/-! ## Whole downloads -/

/-- What the packer is given for the manifest of an image. -/
abbrev packerInputs (crypto : CryptoPrimitives) (masterKey : Digest) (manifest : OtaManifest)
    (canonical : String) (image : List UInt8) : Packer.Inputs where
  masterKey := masterKey
  otaKeyId := manifest.enc.keyId.toNat
  noncePrefix := manifest.enc.noncePrefix
  manifestDigest := computeManifestDigest crypto canonical
  plaintext := image

/-- No operation up to the activation fails. -/
structure NoneBeforeActivation (faults : FlashFaults) : Prop where
  openMetadata : faults.openMetadata = none
  firstNextPartition : faults.firstNextPartition = none
  erase : faults.erase = none
  write : ∀ index, faults.write index = none
  secondNextPartition : faults.secondNextPartition = none
  readback : faults.readback = none

/-- An image that was packed for a manifest and is served at its URL passes every check up to the
activation. -/
theorem installable_of_packed {crypto : CryptoPrimitives} {serde : SerdeJson} {env : Environment}
    {masterKey : Digest} {manifest : OtaManifest} {slot : Slot} {canonical : String}
    {nonce : List.Vector UInt8 12} {image : List UInt8} {body : Reader} {rest : List UInt8}
    (written : canonicalUnsignedJson serde manifest = .ok canonical)
    (parsed : parseNoncePrefix manifest.enc.noncePrefix = .ok nonce)
    (size : image.length = manifest.imageSize.toNat)
    (sha : manifest.imageSha256 = sha256Hex (crypto.sha256 image))
    (prefix_ok : PlausiblePrefix image)
    (fits : manifest.imageSize.toNat ≤ (env.slotSize slot).toNat - flashSectorSize)
    (url_fits : manifest.url.utf8ByteSize ≤ maxRedirectUrlLen)
    (serves : Serves env manifest.downloadSize.toNat maxRedirects manifest.url body)
    (body_eq : available body = Packer.container crypto
      (packerInputs crypto masterKey manifest canonical image) ++ rest)
    (no_fault : NoneBeforeActivation env.faults) :
    Installable crypto serde env masterKey manifest slot := by
  have key_fits : (packerInputs crypto masterKey manifest canonical image).otaKeyId < 2 ^ 32 :=
    manifest.enc.keyId.toNat_lt
  have delivers : Delivers crypto env.faults
      (bodyArgs (Packer.deviceKeys crypto
        (packerInputs crypto masterKey manifest canonical image) nonce) slot manifest)
      (available body) _ rest :=
    delivers_of_container key_fits size parsed prefix_ok no_fault.write body_eq
  have keys_eq : downloadKeys crypto serde masterKey manifest =
      .ok (Packer.deviceKeys crypto (packerInputs crypto masterKey manifest canonical image)
        nonce) := by
    simp only [downloadKeys, parsed, written]
    rfl
  refine ⟨_, body, _, rest, keys_eq, no_fault.openMetadata, no_fault.firstNextPartition,
    ⟨fits, no_fault.erase⟩, if_pos url_fits, serves, delivers, ?_, no_fault.secondNextPartition,
    no_fault.readback⟩
  rw [plaintext_sealImage, sha]
  exact decide_eq_true rfl

/-! ## A small update -/

/-- A server that answers every request with one body, and a free TLS workspace. -/
def serving (downloadSize : ℕ) (body : List UInt8) (faults : FlashFaults) : Environment where
  faults := faults
  slotSize _ := 0x1c0000
  tlsFree _ _ := true
  server _ _ := .response
    { status := 200
      headers := []
      contentLength := some downloadSize
      chunked := false
      body := [.slice body] }

theorem serves_serving (downloadSize : ℕ) (body : List UInt8) (faults : FlashFaults)
    (url : String) :
    Serves (serving downloadSize body faults) downloadSize maxRedirects url [.slice body] := by
  have acquired : acquireForUrl url (fun _ => true) = .ok () := by
    unfold acquireForUrl
    split <;> rfl
  have requested : request (serving downloadSize body faults) 0 url =
      .ok ⟨200, [], some downloadSize, false, [.slice body]⟩ := rfl
  have valid : validateResponseMetadata ⟨200, [], some downloadSize, false, [.slice body]⟩
      downloadSize = .ok () := by
    simp only [validateResponseMetadata, ne_eq, not_true_eq_false, if_false, Bool.false_eq_true]
    rfl
  exact .body acquired requested rfl valid

/-- The manifest of the small image, forced or not, signed with the development key. -/
def smallManifest (force : Bool) : OtaManifest :=
  { sampleManifest with
    force := force
    downloadSize := 61
    imageSize := 9
    imageSha256 := "0909090909090909090909090909090909090909090909090909090909090909"
    signature :=
      if force then
        "73ff8b834167709202a584b0a5e91f9916e52890c0490b72c2324be98c393c93" ++
          "781d22c72955e9d360dc7f5146a5136a399087b0f9ce3d72d66464b84a101903"
      else
        "b27c010a64eafbe3bce749c05ac1d303aa5422a9c94dd2318dde9d2e67ac6b95" ++
          "66547a436bf1f53a262fe174f3224fd27ddf6af16fd919d2ca20e13e50b14a0d" }

/-- The fields of the small manifest up to its signature. -/
def smallFieldsText (force : Bool) : String :=
  "\x7b\"schema\":2,\"key_id\":1001,\"target\":\"motonet-of-things/esp32\"," ++
  "\"chip\":\"esp32-wroom\"," ++
  "\"version\":\"0.2.0\",\"build\":42,\"force\":" ++ (if force then "true" else "false") ++ "," ++
  "\"url\":\"http://192.168.1.10:8000/firmware.bin\"," ++
  "\"download_size\":61,\"image_size\":9,\"image_sha256\":" ++
  "\"0909090909090909090909090909090909090909090909090909090909090909\"," ++
  "\"enc\":\x7b\"alg\":\"AES-256-CTR-HMAC-SHA256\",\"key_id\":1001,\"chunk_size\":4096," ++
  "\"nonce_prefix\":\"abcdef0123456789abcdef01\"\x7d"

/-- The canonical text of the small manifest. -/
def smallCanonicalText (force : Bool) : String :=
  smallFieldsText force ++ "\x7d"

/-- The signed text of the small manifest. -/
def smallSignedText (force : Bool) : String :=
  smallFieldsText force ++ ",\"signature\":\"" ++ (smallManifest force).signature ++ "\"\x7d"

/-- `serde_json` as far as the small manifest needs it. -/
def smallSerde (force : Bool) : SerdeJson :=
  serdeJson (readerOf (asBytes (smallSignedText force)) (smallManifest force))

/-- A verifier that knows the signature of the small manifest. -/
def smallVerifier (force : Bool) : SignatureVerifier := fun keyId message signature =>
  keyId = 1001 && message = asBytes (smallCanonicalText force) &&
    signature = (smallManifest force).signature

theorem canonicalUnsignedJson_small (force : Bool) :
    canonicalUnsignedJson (smallSerde force) (smallManifest force) =
      .ok (smallCanonicalText force) := by
  cases force <;> decide +kernel

theorem parseAndVerify_small (force : Bool) :
    OtaManifest.parseAndVerify (smallSerde force) (smallVerifier force)
      (asBytes (smallSignedText force)) = .ok (smallManifest force) := by
  refine parseAndVerify_eq_ok_iff.mpr ⟨parse_eq_ok_iff.mpr ⟨?_, ?_, ?_⟩,
    smallCanonicalText force, canonicalUnsignedJson_small force, ?_⟩
  · rw [length_asBytes]
    cases force <;> decide +kernel
  · unfold smallSerde
    exact serdeJson_readerOf _ _
  · cases force <;> decide +kernel
  · simp only [smallVerifier, show (smallManifest force).keyId = 1001 from rfl, decide_true,
      Bool.and_true]

/-- The container of the small image. -/
def smallContainer : List UInt8 :=
  Packer.container sampleCrypto (packerInputs sampleCrypto sampleInputs.masterKey
    (smallManifest false) (smallCanonicalText false) sampleInputs.plaintext)

/-- The server of the small update, with the given operations failing. -/
def smallUpdate (faults : FlashFaults) : Environment :=
  serving 61 smallContainer faults

/-- The small update can be installed. -/
theorem installable_small {faults : FlashFaults} (no_fault : NoneBeforeActivation faults)
    (slot : Slot) :
    Installable sampleCrypto (smallSerde false) (smallUpdate faults) sampleInputs.masterKey
      (smallManifest false) slot := by
  have parsed : parseNoncePrefix (smallManifest false).enc.noncePrefix = .ok sampleNonce := by
    decide +kernel
  have nonempty : ∀ bytes ∈ [smallContainer], bytes ≠ [] := by decide +kernel
  have body_eq : available [.slice smallContainer] =
      Packer.container sampleCrypto (packerInputs sampleCrypto sampleInputs.masterKey
        (smallManifest false) (smallCanonicalText false) sampleInputs.plaintext) ++ [] :=
    (available_slices nonempty).trans (by simp [smallContainer])
  have fits : (smallManifest false).imageSize.toNat ≤
      (0x1c0000 : UInt32).toNat - flashSectorSize := by
    decide +kernel
  exact installable_of_packed (canonicalUnsignedJson_small false) parsed rfl (by decide +kernel)
    (fun _ => by decide +kernel) fits (by decide +kernel) (serves_serving _ _ _ _) body_eq no_fault

end Motonet
