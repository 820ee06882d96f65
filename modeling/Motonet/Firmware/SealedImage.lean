import Motonet.Foundation.Chunked
import Motonet.Firmware.FlashWrite

/-!
# Sealed images

What an encrypted download is for: a list of chunks, each authenticated for its place under the
digest of one manifest, that together decrypt to an image.  The chunk list carries the proof that
every chunk is sealed.
-/

namespace Motonet
namespace Firmware

open ByteString OtaCore Chunked

/-- A chunk as it travels: ciphertext and tag. -/
structure SealedChunk where
  ciphertext : List UInt8
  tag : List UInt8
  deriving DecidableEq, Repr

/-- The bytes of a chunk in the container. -/
def SealedChunk.wire (chunk : SealedChunk) : List UInt8 :=
  toBigEndian 4 chunk.ciphertext.length ++ chunk.ciphertext ++ chunk.tag

section Sealed

variable (crypto : CryptoPrimitives) (keys : BodyKeys) (imageSize : ℕ)

/-- A chunk is sealed for an index: it has the length that belongs there, and its tag
authenticates index, offset, length and ciphertext under the manifest digest. -/
structure Seals (index : ℕ) (chunk : SealedChunk) : Prop where
  length : chunk.ciphertext.length = chunkLength encChunkSize imageSize index
  tag : chunk.tag = (computeChunkHmac crypto keys.hmacKey keys.manifestDigest index
    (index * encChunkSize) chunk.ciphertext.length chunk.ciphertext).toList

/-- Every chunk of a list is sealed for its place. -/
def SealedChunks (chunks : List SealedChunk) : Prop :=
  ∀ index (inside : index < chunks.length), Seals crypto keys imageSize index chunks[index]

/-- The text that a list of chunks decrypts to. -/
def decrypt (chunks : List SealedChunk) : List UInt8 :=
  (chunks.mapIdx fun index chunk =>
    chunkCrypt crypto keys.aesKey keys.noncePrefix index chunk.ciphertext).flatten

/-- All chunks of an image of a given size. -/
structure SealedImage where
  chunks : List SealedChunk
  count : chunks.length = numChunks imageSize
  seals : SealedChunks crypto keys imageSize chunks

end Sealed

variable {crypto : CryptoPrimitives} {keys : BodyKeys} {imageSize : ℕ}

theorem encChunkSize_pos : 0 < encChunkSize := by decide

theorem numChunks_eq_count (size : ℕ) : numChunks size = count encChunkSize size := rfl

theorem Seals.length_tag {index : ℕ} {chunk : SealedChunk}
    (sealed : Seals crypto keys imageSize index chunk) : chunk.tag.length = hmacTagSize := by
  rw [sealed.tag]
  exact (computeChunkHmac _ _ _ _ _ _ _).2

/-- The tag of a sealed chunk is determined by its index and its ciphertext. -/
theorem Seals.ext {otherSize index : ℕ} {left right : SealedChunk}
    (left_sealed : Seals crypto keys imageSize index left)
    (right_sealed : Seals crypto keys otherSize index right)
    (same : left.ciphertext = right.ciphertext) : left = right := by
  have tags : left.tag = right.tag := by rw [left_sealed.tag, right_sealed.tag, same]
  cases left
  cases right
  exact congrArg₂ SealedChunk.mk same tags

/-- Two chunks sealed for one index are told apart in front of any continuation. -/
theorem Seals.append_inj {index : ℕ} {left right : SealedChunk} {leftRest rightRest : List UInt8}
    (left_sealed : Seals crypto keys imageSize index left)
    (right_sealed : Seals crypto keys imageSize index right)
    (same : left.wire ++ leftRest = right.wire ++ rightRest) :
    left = right ∧ leftRest = rightRest := by
  simp only [SealedChunk.wire, List.append_assoc] at same
  obtain ⟨-, same⟩ := List.append_inj same (by simp)
  obtain ⟨texts, same⟩ := List.append_inj same (left_sealed.length.trans right_sealed.length.symm)
  obtain ⟨-, rests⟩ :=
    List.append_inj same (left_sealed.length_tag.trans right_sealed.length_tag.symm)
  exact ⟨left_sealed.ext right_sealed texts, rests⟩

theorem SealedChunks.nil : SealedChunks crypto keys imageSize [] :=
  fun _ inside => absurd inside (Nat.not_lt_zero _)

/-- One more sealed chunk. -/
theorem SealedChunks.concat {chunks : List SealedChunk} {chunk : SealedChunk}
    (sealed : SealedChunks crypto keys imageSize chunks)
    (next : Seals crypto keys imageSize chunks.length chunk) :
    SealedChunks crypto keys imageSize (chunks ++ [chunk]) := by
  intro index inside
  rw [List.length_append, List.length_singleton] at inside
  rcases Nat.lt_succ_iff_lt_or_eq.mp inside with earlier | rfl
  · rw [List.getElem_append_left earlier]
    exact sealed index earlier
  · rw [List.getElem_append_right (le_refl _)]
    simpa using next

theorem SealedChunks.of_concat {chunks : List SealedChunk} {chunk : SealedChunk}
    (sealed : SealedChunks crypto keys imageSize (chunks ++ [chunk])) :
    SealedChunks crypto keys imageSize chunks ∧
      Seals crypto keys imageSize chunks.length chunk := by
  constructor
  · intro index inside
    have whole := sealed index (by rw [List.length_append]; omega)
    rwa [List.getElem_append_left inside] at whole
  · have last := sealed chunks.length (by simp)
    rw [List.getElem_append_right (le_refl _)] at last
    simpa using last

@[simp]
theorem decrypt_nil : decrypt crypto keys [] = [] := rfl

@[simp]
theorem decrypt_concat (chunks : List SealedChunk) (chunk : SealedChunk) :
    decrypt crypto keys (chunks ++ [chunk]) =
      decrypt crypto keys chunks ++
        chunkCrypt crypto keys.aesKey keys.noncePrefix chunks.length chunk.ciphertext := by
  simp [decrypt, List.mapIdx_append]

theorem decrypt_append (left right : List SealedChunk) :
    decrypt crypto keys (left ++ right) = decrypt crypto keys left ++
      (right.mapIdx fun index chunk => chunkCrypt crypto keys.aesKey keys.noncePrefix
        (index + left.length) chunk.ciphertext).flatten := by
  simp [decrypt, List.mapIdx_append]

/-- Sealed chunks in front of a stream are the first chunks of any longer sealed list in front of
it. -/
theorem SealedChunks.front_of_same {chunks all : List SealedChunk} {stream rest : List UInt8}
    (sealed : SealedChunks crypto keys imageSize chunks)
    (all_sealed : SealedChunks crypto keys imageSize all) (shorter : chunks.length ≤ all.length)
    (same : chunks.flatMap SealedChunk.wire ++ stream = all.flatMap SealedChunk.wire ++ rest) :
    ∃ remaining, all = chunks ++ remaining ∧
      stream = remaining.flatMap SealedChunk.wire ++ rest := by
  induction chunks using List.reverseRecOn generalizing stream with
  | nil => exact ⟨all, rfl, same⟩
  | append_singleton chunks chunk ih =>
      obtain ⟨front, last⟩ := sealed.of_concat
      rw [List.length_append, List.length_singleton] at shorter
      have regrouped : chunks.flatMap SealedChunk.wire ++ (chunk.wire ++ stream) =
          all.flatMap SealedChunk.wire ++ rest := by
        simpa using same
      obtain ⟨remaining, rfl, stream_eq⟩ := ih front (by omega) regrouped
      cases remaining with
      | nil => simp at shorter
      | cons other remaining =>
          have other_sealed := all_sealed chunks.length (by simp)
          rw [List.getElem_append_right (le_refl _)] at other_sealed
          simp only [Nat.sub_self, List.getElem_cons_zero] at other_sealed
          rw [List.flatMap_cons, List.append_assoc] at stream_eq
          obtain ⟨rfl, rest_eq⟩ := last.append_inj other_sealed stream_eq
          exact ⟨remaining, by simp, rest_eq⟩

/-- The text of sealed chunks ends where the last of them does. -/
theorem SealedChunks.length_decrypt {chunks : List SealedChunk}
    (sealed : SealedChunks crypto keys imageSize chunks)
    (bound : chunks.length ≤ numChunks imageSize) :
    (decrypt crypto keys chunks).length = min (chunks.length * encChunkSize) imageSize := by
  induction chunks using List.reverseRecOn with
  | nil => simp
  | append_singleton chunks chunk ih =>
      obtain ⟨front, last⟩ := sealed.of_concat
      simp only [List.length_append, List.length_singleton] at bound ⊢
      have inside : chunks.length < count encChunkSize imageSize := bound
      have start := (lt_count_iff encChunkSize_pos _).mp inside
      rw [decrypt_concat, List.length_append, ih front (by omega), length_chunkCrypt, last.length,
        min_eq_left start.le, min_mul_add_chunkLength encChunkSize_pos inside]

namespace SealedImage

/-- The container of an image: header and chunks. -/
def container (image : SealedImage crypto keys imageSize) : List UInt8 :=
  otaHeader ++ image.chunks.flatMap SealedChunk.wire

/-- The image that the chunks decrypt to. -/
def plaintext (image : SealedImage crypto keys imageSize) : List UInt8 :=
  decrypt crypto keys image.chunks

@[simp]
theorem length_plaintext (image : SealedImage crypto keys imageSize) :
    image.plaintext.length = imageSize := by
  rw [plaintext, image.seals.length_decrypt image.count.le, image.count]
  exact min_eq_right (total_le_count_mul encChunkSize_pos)

/-- The image in front of a stream is determined by the stream. -/
theorem eq_of_container_append {left right : SealedImage crypto keys imageSize}
    {leftRest rightRest : List UInt8}
    (same : left.container ++ leftRest = right.container ++ rightRest) : left = right := by
  simp only [container, List.append_assoc] at same
  obtain ⟨remaining, chunks_eq, -⟩ := left.seals.front_of_same right.seals
    (left.count.trans right.count.symm).le (List.append_cancel_left same)
  have none_left : remaining = [] := by
    have lengths := congrArg List.length chunks_eq
    rw [List.length_append, left.count, right.count] at lengths
    exact List.length_eq_zero_iff.mp (by omega)
  rw [none_left, List.append_nil] at chunks_eq
  cases left
  cases right
  simp only at chunks_eq
  subst chunks_eq
  rfl

end SealedImage

/-! ## Sealing -/

section Seal

variable (crypto) (keys)

/-- Encrypt and authenticate the chunk of a text at an index. -/
def sealChunk (text : List UInt8) (index : ℕ) : SealedChunk :=
  let ciphertext := chunkCrypt crypto keys.aesKey keys.noncePrefix index
    (slice encChunkSize text index)
  { ciphertext := ciphertext
    tag := (computeChunkHmac crypto keys.hmacKey keys.manifestDigest index (index * encChunkSize)
      ciphertext.length ciphertext).toList }

theorem seals_sealChunk (text : List UInt8) (index : ℕ) :
    Seals crypto keys text.length index (sealChunk crypto keys text index) where
  length := by simp [sealChunk]
  tag := rfl

/-- Seal an image. -/
def sealImage (text : List UInt8) (size : text.length = imageSize) :
    SealedImage crypto keys imageSize where
  chunks := (List.range (numChunks imageSize)).map (sealChunk crypto keys text)
  count := by simp
  seals := by
    intro index inside
    simp only [List.getElem_map, List.getElem_range]
    exact size ▸ seals_sealChunk crypto keys text index

/-- A sealed image decrypts to what was sealed. -/
@[simp]
theorem plaintext_sealImage (text : List UInt8) (size : text.length = imageSize) :
    (sealImage crypto keys text size).plaintext = text := by
  have each : (sealImage crypto keys text size).chunks.mapIdx (fun index chunk =>
      chunkCrypt crypto keys.aesKey keys.noncePrefix index chunk.ciphertext) =
        (List.range (numChunks imageSize)).map (slice encChunkSize text) := by
    apply List.ext_getElem
    · simp [sealImage]
    · intro index left right
      simp [sealImage, sealChunk]
  rw [SealedImage.plaintext, decrypt, each, ← List.flatMap_def, numChunks_eq_count, ← size,
    flatMap_slice encChunkSize_pos]

end Seal

end Firmware
end Motonet
