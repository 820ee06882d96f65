import Motonet.RoundTrip
import Mathlib.Data.Set.Function

/-!
# Accepted chunks are the packer's

If a tag in the stream verifies only for an input that the packer authenticated, then a stream that
the device accepts for a manifest starts with the container that was packed for that manifest.  The
digest in each authenticated input names the manifest, and the manifest names the image, because the
hash has no collision among the packed manifests or among the packed images.
-/

namespace Motonet

open ByteString OtaCore Firmware Fallible

/-! ## Hexadecimal digests -/

private theorem digitChar_injective : ∀ left right : Fin 16,
    Nat.digitChar left.val = Nat.digitChar right.val → left = right := by
  decide

private theorem flatMap_digits_injective {left right : List UInt8}
    (same : (left.flatMap fun byte =>
        [Nat.digitChar (byte.toNat / 16), Nat.digitChar (byte.toNat % 16)]) =
      right.flatMap fun byte =>
        [Nat.digitChar (byte.toNat / 16), Nat.digitChar (byte.toNat % 16)]) : left = right := by
  induction left generalizing right with
  | nil =>
      cases right with
      | nil => rfl
      | cons byte right => simp at same
  | cons byte left ih =>
      cases right with
      | nil => simp at same
      | cons other right =>
          simp only [List.flatMap_cons, List.cons_append, List.nil_append, List.cons.injEq] at same
          obtain ⟨high, low, rest⟩ := same
          have byte_bound := byte.toNat_lt
          have other_bound := other.toNat_lt
          have highs := congrArg Fin.val (digitChar_injective ⟨byte.toNat / 16, by omega⟩
            ⟨other.toNat / 16, by omega⟩ high)
          have lows := congrArg Fin.val (digitChar_injective ⟨byte.toNat % 16, by omega⟩
            ⟨other.toNat % 16, by omega⟩ low)
          have values : byte.toNat = other.toNat := by
            simp only at highs lows
            omega
          rw [UInt8.toNat_inj.mp values, ih rest]

/-- The hexadecimal text of a digest determines it. -/
theorem sha256Hex_injective : Function.Injective sha256Hex := by
  intro left right same
  exact List.Vector.toList_injective (flatMap_digits_injective (String.ofList_inj.mp same))

/-! ## Runs of the packer -/

/-- One run of the packer: it writes size and hash of the image that it packs into the manifest. -/
structure PackerRun (crypto : CryptoPrimitives) (serde : SerdeJson) where
  manifest : OtaManifest
  canonical : String
  image : List UInt8
  written : canonicalUnsignedJson serde manifest = .ok canonical
  size : image.length = manifest.imageSize.toNat
  sha : manifest.imageSha256 = sha256Hex (crypto.sha256 image)

section Runs

variable {crypto : CryptoPrimitives} {serde : SerdeJson} {masterKey : Digest}

/-- What the container of a run is made from. -/
abbrev PackerRun.inputs (masterKey : Digest) (run : PackerRun crypto serde) : Packer.Inputs :=
  packerInputs crypto masterKey run.manifest run.canonical run.image

/-- The byte strings that runs of the packer compute chunk tags over. -/
def Authenticated (masterKey : Digest) (runs : Set (PackerRun crypto serde)) : Set (List UInt8) :=
  {message | ∃ run ∈ runs, ∃ index < Packer.packedChunks (run.inputs masterKey),
    message = Packer.hmacInput (run.inputs masterKey) index (index * Packer.chunkSize)
      (Packer.plainLen (run.inputs masterKey) index)
      (Packer.chunkCipher crypto (run.inputs masterKey) index)}

/-- No forgery lies in a stream: whatever part of it verifies as the tag of another part, for
whatever index, offset and length, verifies an authenticated input. -/
def Unforged (crypto : CryptoPrimitives) (keys : BodyKeys) (authenticated : Set (List UInt8))
    (stream : List UInt8) : Prop :=
  ∀ index offset len, index < 2 ^ 32 → offset < 2 ^ 32 → len < 2 ^ 32 →
    ∀ ciphertext tag, ciphertext <:+: stream → tag <:+: stream →
      verifyChunkHmac crypto keys.hmacKey keys.manifestDigest index offset len ciphertext tag =
          true →
        (chunkHmacInput keys.manifestDigest index offset len ciphertext).flatten ∈ authenticated

/-- Runs for manifests with one canonical text pack one image. -/
theorem PackerRun.image_eq (encoder : InjectiveStringEncoder serde)
    {runs : Set (PackerRun crypto serde)}
    (images : Set.InjOn crypto.sha256 (PackerRun.image '' runs))
    {left right : PackerRun crypto serde} (left_run : left ∈ runs) (right_run : right ∈ runs)
    (same : left.canonical = right.canonical) :
    left.image = right.image := by
  have manifests := canonicalUnsignedJson_inj encoder left.written (same ▸ right.written)
  have hashes : left.manifest.imageSha256 = right.manifest.imageSha256 :=
    (congrArg OtaManifest.imageSha256 manifests :)
  rw [left.sha, right.sha] at hashes
  exact images (Set.mem_image_of_mem _ left_run) (Set.mem_image_of_mem _ right_run)
    (sha256Hex_injective hashes)

/-- Ciphertext and tag of a chunk of an image lie in the image's container. -/
theorem infix_container {keys : BodyKeys} {imageSize : ℕ}
    (image : SealedImage crypto keys imageSize) {chunk : SealedChunk}
    (member : chunk ∈ image.chunks) (rest : List UInt8) :
    chunk.ciphertext <:+: image.container ++ rest ∧ chunk.tag <:+: image.container ++ rest := by
  obtain ⟨front, back, chunks_eq⟩ := List.append_of_mem member
  have container_eq : image.container ++ rest = (otaHeader ++ front.flatMap SealedChunk.wire ++
      toBigEndian 4 chunk.ciphertext.length) ++ chunk.ciphertext ++ (chunk.tag ++
        (back.flatMap SealedChunk.wire ++ rest)) := by
    rw [SealedImage.container, chunks_eq]
    simp [SealedChunk.wire]
  rw [container_eq]
  refine ⟨⟨_, _, rfl⟩, ?_⟩
  rw [← List.append_assoc]
  exact ⟨_, _, rfl⟩

/-- A device that derives keys for the manifest of a run derives those of the run. -/
theorem PackerRun.deviceKeys_eq (encoder : InjectiveStringEncoder serde)
    {manifest : OtaManifest} {keys : BodyKeys} {run : PackerRun crypto serde}
    (keys_eq : downloadKeys crypto serde masterKey manifest = .ok keys)
    (written : canonicalUnsignedJson serde manifest = .ok run.canonical) :
    ∃ nonce, parseNoncePrefix run.manifest.enc.noncePrefix = .ok nonce ∧
      keys = Packer.deviceKeys crypto (run.inputs masterKey) nonce := by
  have manifests := canonicalUnsignedJson_inj encoder run.written written
  have enc : run.manifest.enc = manifest.enc := (congrArg OtaManifest.enc manifests :)
  cases parsed : parseNoncePrefix manifest.enc.noncePrefix with
  | error error =>
      simp only [downloadKeys, parsed] at keys_eq
      cases keys_eq
  | ok nonce =>
      simp only [downloadKeys, parsed, written] at keys_eq
      cases keys_eq
      refine ⟨nonce, enc ▸ parsed, ?_⟩
      simp only [Packer.deviceKeys, enc]

/-- Runs for manifests with one canonical text are made from the same inputs. -/
theorem PackerRun.inputs_eq (encoder : InjectiveStringEncoder serde)
    {runs : Set (PackerRun crypto serde)}
    (images : Set.InjOn crypto.sha256 (PackerRun.image '' runs))
    {left right : PackerRun crypto serde}
    (left_run : left ∈ runs) (right_run : right ∈ runs) (same : left.canonical = right.canonical) :
    left.inputs masterKey = right.inputs masterKey := by
  have manifests := canonicalUnsignedJson_inj encoder left.written (same ▸ right.written)
  have enc : left.manifest.enc = right.manifest.enc := (congrArg OtaManifest.enc manifests :)
  have packed := PackerRun.image_eq encoder images left_run right_run same
  simp only [PackerRun.inputs, packerInputs, enc, same, packed]

theorem PackerRun.image_fits (run : PackerRun crypto serde) :
    (run.inputs masterKey).plaintext.length < 2 ^ 32 :=
  run.size ▸ run.manifest.imageSize.toNat_lt

/-- Every chunk of an unforged image is the chunk at the same place of a container packed under the
same digest. -/
theorem chunk_of_unforged {keys : BodyKeys} {imageSize : UInt32}
    {runs : Set (PackerRun crypto serde)} {rest : List UInt8}
    (image : SealedImage crypto keys imageSize.toNat)
    (unforged : Unforged crypto keys (Authenticated masterKey runs) (image.container ++ rest))
    {index : ℕ} (inside : index < image.chunks.length) :
    ∃ run ∈ runs, computeManifestDigest crypto run.canonical = keys.manifestDigest ∧
      index < Packer.packedChunks (run.inputs masterKey) ∧
      image.chunks[index].ciphertext = Packer.chunkCipher crypto (run.inputs masterKey) index := by
  have sealed := image.seals index inside
  obtain ⟨text_inside, tag_inside⟩ := infix_container image (List.getElem_mem inside) rest
  have start : index * encChunkSize < imageSize.toNat :=
    (Chunked.lt_count_iff encChunkSize_pos index).mp (lt_of_lt_of_eq inside image.count)
  have index_le := Nat.le_mul_of_pos_right index encChunkSize_pos
  have size_fits := imageSize.toNat_lt
  have len_fits : image.chunks[index].ciphertext.length < 2 ^ 32 := by
    rw [sealed.length]
    exact lt_of_le_of_lt (Chunked.chunkLength_le _ _ _) (by decide)
  obtain ⟨run, run_mem, place, place_inside, same⟩ := unforged index (index * encChunkSize)
    image.chunks[index].ciphertext.length (by omega) (by omega) len_fits _ _ text_inside tag_inside
    ((verifyChunkHmac_iff _ _ _ _ _ _ _ _).mpr sealed.tag)
  obtain ⟨place_fits, place_offset, place_len⟩ :=
    Packer.fits_of_lt_packedChunks run.image_fits place_inside
  have offset : place * Packer.chunkSize = place * encChunkSize := rfl
  rw [Packer.plainLen_eq place_inside, offset,
    Packer.hmacInput_eq place_fits place_offset place_len] at same
  obtain ⟨digests, rfl, -, -, texts⟩ := chunkHmacInput_inj (by omega) place_fits (by omega)
    place_offset len_fits place_len same
  exact ⟨run, run_mem, digests.symm, place_inside, texts⟩

/-- Chunks are verified under the digest of the manifest that is downloaded. -/
theorem manifestDigest_of_downloadKeys {manifest : OtaManifest} {canonical : String}
    {keys : BodyKeys}
    (written : canonicalUnsignedJson serde manifest = .ok canonical)
    (keys_eq : downloadKeys crypto serde masterKey manifest = .ok keys) :
    keys.manifestDigest = computeManifestDigest crypto canonical := by
  cases parsed : parseNoncePrefix manifest.enc.noncePrefix with
  | error error =>
      simp only [downloadKeys, parsed] at keys_eq
      cases keys_eq
  | ok nonce =>
      simp only [downloadKeys, parsed, written] at keys_eq
      cases keys_eq
      rfl

/-- An unforged image is what was packed for its manifest. -/
theorem container_of_unforged (encoder : InjectiveStringEncoder serde) {manifest : OtaManifest}
    {canonical : String} {keys : BodyKeys} {runs : Set (PackerRun crypto serde)}
    {rest : List UInt8} (written : canonicalUnsignedJson serde manifest = .ok canonical)
    (keys_eq : downloadKeys crypto serde masterKey manifest = .ok keys)
    (texts : Set.InjOn (computeManifestDigest crypto)
      (insert canonical (PackerRun.canonical '' runs)))
    (images : Set.InjOn crypto.sha256 (PackerRun.image '' runs))
    (image : SealedImage crypto keys manifest.imageSize.toNat)
    (unforged : Unforged crypto keys (Authenticated masterKey runs) (image.container ++ rest)) :
    manifest.imageSize = 0 ∧ image.container = otaHeader ∨
      ∃ run ∈ runs, run.canonical = canonical ∧ run.image.length = manifest.imageSize.toNat ∧
        image.container = Packer.container crypto (run.inputs masterKey) := by
  have digest := manifestDigest_of_downloadKeys written keys_eq
  have named : ∀ run ∈ runs, computeManifestDigest crypto run.canonical = keys.manifestDigest →
      run.canonical = canonical := by
    intro run run_mem same
    exact texts (Set.mem_insert_of_mem _ (Set.mem_image_of_mem _ run_mem)) (Set.mem_insert _ _)
      (same.trans digest)
  rcases Nat.eq_zero_or_pos image.chunks.length with none | some
  · left
    have chunks_eq := List.length_eq_zero_iff.mp none
    refine ⟨?_, by rw [SealedImage.container, chunks_eq, List.flatMap_nil, List.append_nil]⟩
    have covered : manifest.imageSize.toNat ≤ numChunks manifest.imageSize.toNat * encChunkSize :=
      Chunked.total_le_count_mul encChunkSize_pos
    rw [← image.count, none] at covered
    exact UInt32.toNat_inj.mp (by simpa using covered)
  right
  obtain ⟨run, run_mem, run_digest, -, -⟩ := chunk_of_unforged image unforged some
  have run_text := named run run_mem run_digest
  have manifests := canonicalUnsignedJson_inj encoder run.written (run_text ▸ written)
  have size_eq : run.manifest.imageSize = manifest.imageSize :=
    (congrArg OtaManifest.imageSize manifests :)
  have size : (run.inputs masterKey).plaintext.length = manifest.imageSize.toNat :=
    size_eq ▸ run.size
  obtain ⟨nonce, parsed, rfl⟩ := run.deviceKeys_eq encoder keys_eq (run_text ▸ written)
  have key_fits : (run.inputs masterKey).otaKeyId < 2 ^ 32 := run.manifest.enc.keyId.toNat_lt
  refine ⟨run, run_mem, run_text, size, ?_⟩
  rw [Packer.container_eq key_fits size parsed, SealedImage.container, SealedImage.container]
  congr 2
  apply List.ext_getElem
  · rw [image.count, (sealImage crypto _ _ size).count]
  intro index inside _
  obtain ⟨other, other_mem, other_digest, other_inside, ciphertext_eq⟩ :=
    chunk_of_unforged image unforged inside
  rw [PackerRun.inputs_eq encoder images other_mem run_mem
    ((named other other_mem other_digest).trans run_text.symm)] at other_inside ciphertext_eq
  rw [Packer.chunkCipher_eq key_fits run.image_fits parsed other_inside] at ciphertext_eq
  simp only [sealImage, List.getElem_map, List.getElem_range]
  exact (image.seals index inside).ext (seals_sealChunk crypto _ _ index) ciphertext_eq

/-- A stream in which no tag is forged and on which the chunk loop returns starts with the header
and the chunks that were packed for the manifest of the download, in their order: it starts with the
container of a run under the same digest.  An image of size zero has no chunk. -/
theorem accepted_stream_is_packed (encoder : InjectiveStringEncoder serde) {manifest : OtaManifest}
    {canonical : String} {keys : BodyKeys} {runs : Set (PackerRun crypto serde)}
    (written : canonicalUnsignedJson serde manifest = .ok canonical)
    (keys_eq : downloadKeys crypto serde masterKey manifest = .ok keys)
    (texts : Set.InjOn (computeManifestDigest crypto)
      (insert canonical (PackerRun.canonical '' runs)))
    (images : Set.InjOn crypto.sha256 (PackerRun.image '' runs))
    {faults : FlashFaults} {slot : Slot} {device : Device} {reader : Reader}
    (unforged : Unforged crypto keys (Authenticated masterKey runs) (available reader))
    {result : EncryptedResult} {after : Device × Reader}
    (executed : exec (processEncryptedBody crypto faults (bodyArgs keys slot manifest))
      (device, reader) = (.ok result, after)) :
    (manifest.imageSize = 0 ∧ available reader = otaHeader ++ available after.2) ∨
      ∃ run ∈ runs, computeManifestDigest crypto run.canonical = keys.manifestDigest ∧
        run.image.length = manifest.imageSize.toNat ∧
        available reader =
          Packer.container crypto (run.inputs masterKey) ++ available after.2 := by
  obtain ⟨image, delivers, -, -⟩ :=
    (processEncryptedBody_triple crypto faults (bodyArgs keys slot manifest) device
      (available reader)).of_ok ⟨rfl, rfl⟩ executed
  have stream_eq : available reader = image.container ++ available after.2 := delivers.stream_eq
  rw [stream_eq] at unforged ⊢
  rcases container_of_unforged encoder written keys_eq texts images image unforged with
    ⟨empty, container_eq⟩ | ⟨run, run_mem, run_text, size, container_eq⟩
  · exact .inl ⟨empty, congrArg (· ++ available after.2) container_eq⟩
  · refine .inr ⟨run, run_mem, ?_, size, congrArg (· ++ available after.2) container_eq⟩
    rw [run_text, manifestDigest_of_downloadKeys written keys_eq]

end Runs

/-! ## A hash that knows one chunk -/

/-- The digest of everything but the messages of the one tag. -/
def nines : Digest := List.Vector.replicate 32 9

/-- The input that the one chunk of the small image is authenticated by. -/
def smallMessage : List UInt8 :=
  asBytes "MOTONET-OTA-CHUNK-v2" ++ nines.toList ++ [0, 0, 0, 0] ++ [0, 0, 0, 0] ++ [0, 0, 0, 9] ++
    sampleInputs.plaintext

/-- Primitives under which only one input has a tag other than `nines`. -/
def oneTagCrypto : CryptoPrimitives where
  sha256 message :=
    if message = Hmac.padKey 64 0x36 nines.toList ++ smallMessage then List.Vector.replicate 32 1
    else if message = Hmac.padKey 64 0x5c nines.toList ++ List.replicate 32 1 then
      List.Vector.replicate 32 2
    else nines
  aes256 _ _ := List.Vector.replicate 16 0

/-- The run that packs the small image. -/
def smallRun : PackerRun oneTagCrypto (smallSerde false) where
  manifest := smallManifest false
  canonical := smallCanonicalText false
  image := sampleInputs.plaintext
  written := canonicalUnsignedJson_small false
  size := rfl
  sha := by decide +kernel

/-- The keys with which the device downloads the small image. -/
def smallKeys : BodyKeys where
  noncePrefix := sampleNonce
  hmacKey := nines
  aesKey := nines
  manifestDigest := nines

private theorem sha256_oneTag {message : List UInt8} (longer : 137 < message.length) :
    oneTagCrypto.sha256 message = nines := by
  have not_inner : message ≠ Hmac.padKey 64 0x36 nines.toList ++ smallMessage := by
    rintro rfl
    exact absurd longer (by decide +kernel)
  have not_outer : message ≠ Hmac.padKey 64 0x5c nines.toList ++ List.replicate 32 1 := by
    rintro rfl
    exact absurd longer (by decide +kernel)
  exact (if_neg not_inner).trans (if_neg not_outer)

private theorem computeManifestDigest_small :
    computeManifestDigest oneTagCrypto (smallCanonicalText false) = nines := by
  refine sha256_oneTag ?_
  rw [List.nil_append, List.flatten_singleton, length_asBytes]
  decide +kernel

theorem deviceKeys_small :
    Packer.deviceKeys oneTagCrypto (smallRun.inputs sampleInputs.masterKey) sampleNonce =
      smallKeys := by
  have subkeys : deriveSubkeys oneTagCrypto sampleInputs.masterKey 1001 = (nines, nines) := by
    decide +kernel
  have key_id : (smallManifest false).enc.keyId.toNat = 1001 := rfl
  simp only [Packer.deviceKeys, smallRun, key_id, subkeys, computeManifestDigest_small, smallKeys]

private theorem hmacInput_small :
    Packer.hmacInput (smallRun.inputs sampleInputs.masterKey) 0 0
        (Packer.plainLen (smallRun.inputs sampleInputs.masterKey) 0)
        (Packer.chunkCipher oneTagCrypto (smallRun.inputs sampleInputs.masterKey) 0) =
      smallMessage := by
  have cipher : Packer.chunkCipher oneTagCrypto (smallRun.inputs sampleInputs.masterKey) 0 =
      sampleInputs.plaintext := by
    decide +kernel
  have digest : (smallRun.inputs sampleInputs.masterKey).manifestDigest = nines :=
    computeManifestDigest_small
  rw [Packer.hmacInput, cipher, digest]
  decide +kernel

private theorem container_small :
    Packer.container oneTagCrypto (smallRun.inputs sampleInputs.masterKey) =
      otaHeader ++ [0, 0, 0, 9] ++ sampleInputs.plaintext ++ List.replicate 32 2 := by
  have chunks : Packer.packedChunks (smallRun.inputs sampleInputs.masterKey) = 1 := rfl
  have tag : Packer.opensslHmac oneTagCrypto
      (Packer.hmacKey oneTagCrypto (smallRun.inputs sampleInputs.masterKey)) smallMessage =
        List.Vector.replicate 32 2 := by
    decide +kernel
  rw [Packer.container, chunks, List.range_one, List.flatMap_singleton, Packer.packChunk,
    Packer.computeChunkHmac, Nat.zero_mul, hmacInput_small, tag]
  decide +kernel

private theorem unforged_small :
    Unforged oneTagCrypto smallKeys (Authenticated sampleInputs.masterKey {smallRun})
      (Packer.container oneTagCrypto (smallRun.inputs sampleInputs.masterKey)) := by
  intro index offset len _ _ _ ciphertext tag _ tag_inside verified
  by_cases known : (chunkHmacInput nines index offset len ciphertext).flatten = smallMessage
  · refine ⟨smallRun, rfl, 0, by decide, ?_⟩
    rw [Nat.zero_mul, hmacInput_small]
    exact known
  · exfalso
    have inner : oneTagCrypto.sha256 (Hmac.padKey 64 0x36 nines.toList ++
        (chunkHmacInput nines index offset len ciphertext).flatten) = nines := by
      refine (if_neg fun same => known (List.append_cancel_left same)).trans (if_neg ?_)
      intro same
      exact absurd (List.append_inj_left same rfl) (by decide +kernel)
    have outer :
        oneTagCrypto.sha256 (Hmac.padKey 64 0x5c nines.toList ++ nines.toList) = nines := by
      decide +kernel
    have tag_eq : tag = nines.toList := by
      refine ((verifyChunkHmac_iff _ _ _ _ _ _ _ _).mp verified).trans (congrArg _ ?_)
      rw [computeChunkHmac, hmacSha256Raw_eq_mac, Hmac.mac]
      exact (congrArg (fun digest : Digest => oneTagCrypto.sha256
        (Hmac.padKey 64 0x5c nines.toList ++ digest.toList)) inner).trans outer
    rw [tag_eq, container_small] at tag_inside
    exact absurd tag_inside (by decide +kernel)

/-- A reader that delivers the container of the run. -/
def smallReader : Reader :=
  [.slice (Packer.container oneTagCrypto (smallRun.inputs sampleInputs.masterKey))]

private theorem available_small :
    available smallReader =
      Packer.container oneTagCrypto (smallRun.inputs sampleInputs.masterKey) := by
  rw [smallReader, container_small]
  rfl

theorem accepted_stream_is_packed_small :
    ∃ result after,
      exec (processEncryptedBody oneTagCrypto FlashFaults.none
        (bodyArgs smallKeys .ota1 (smallManifest false))) (sampleDevice, smallReader) =
        (.ok result, after) ∧
      (((smallManifest false).imageSize = 0 ∧
          available smallReader = otaHeader ++ available after.2) ∨
        ∃ run ∈ ({smallRun} : Set (PackerRun oneTagCrypto (smallSerde false))),
          computeManifestDigest oneTagCrypto run.canonical = smallKeys.manifestDigest ∧
          run.image.length = (smallManifest false).imageSize.toNat ∧
          available smallReader =
            Packer.container oneTagCrypto (run.inputs sampleInputs.masterKey) ++
              available after.2) := by
  have parsed : parseNoncePrefix (smallManifest false).enc.noncePrefix = .ok sampleNonce := by
    decide +kernel
  have keys_eq : downloadKeys oneTagCrypto (smallSerde false) sampleInputs.masterKey
      (smallManifest false) = .ok smallKeys := by
    rw [← deviceKeys_small]
    simp only [downloadKeys, parsed, canonicalUnsignedJson_small]
    rfl
  have delivers : ∃ image rest, Delivers oneTagCrypto FlashFaults.none
      (bodyArgs smallKeys .ota1 (smallManifest false)) (available smallReader) image rest := by
    rw [← deviceKeys_small]
    exact ⟨_, _, delivers_of_container (by decide +kernel) smallRun.size parsed
      (fun _ => by decide +kernel) (fun _ => rfl) (available_small.trans (List.append_nil _).symm)⟩
  obtain ⟨image, rest, delivers⟩ := delivers
  obtain ⟨after, executed, -⟩ := processEncryptedBody_of_delivers sampleDevice delivers
  refine ⟨_, after, executed, ?_⟩
  have texts : Set.InjOn (computeManifestDigest oneTagCrypto)
      (insert (smallCanonicalText false) (PackerRun.canonical '' {smallRun})) := by
    simp [smallRun]
  have images : Set.InjOn oneTagCrypto.sha256 (PackerRun.image '' {smallRun}) := by
    simp
  exact accepted_stream_is_packed (injectiveStringEncoder_serdeJson _)
    (canonicalUnsignedJson_small false) keys_eq texts images (available_small ▸ unforged_small)
    executed

end Motonet
