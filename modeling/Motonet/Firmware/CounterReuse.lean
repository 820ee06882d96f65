import Motonet.Firmware.SealedImage

/-!
# Counter blocks of a whole image

Every chunk starts its counter at the nonce prefix and the chunk index, and within a chunk the
counter advances by one for each block.  Index and block number thus share the last word of the
counter: block `j` of chunk `i` uses the counter of block `0` of chunk `i + j`, so an image keeps
its counters apart exactly if it has a single chunk.
-/

namespace Motonet
namespace Firmware

open ByteString OtaCore Chunked

def aesBlockSize : ℕ := 16

/-- The counter that encrypts a block of a chunk. -/
def counterBlock (noncePrefix : List.Vector UInt8 12) (chunk block : ℕ) : BitVec 128 :=
  CounterMode.counterAt (chunkNonce noncePrefix chunk) block

/-- A block of the plaintext of an image. -/
structure ImageBlock (imageSize : ℕ) where
  chunk : ℕ
  block : ℕ
  inside : block * aesBlockSize < chunkLength encChunkSize imageSize chunk

/-- A byte of a chunk is masked with the keystream of the block that it lies in. -/
theorem getElem?_chunkCrypt (crypto : CryptoPrimitives) (key : Digest)
    (noncePrefix : List.Vector UInt8 12) (chunk : ℕ) (text : List UInt8) (position : ℕ) :
    (chunkCrypt crypto key noncePrefix chunk text)[position]? =
      text[position]?.map (· ^^^ (crypto.aes256 key (counterBlock noncePrefix chunk
        (position / aesBlockSize))).toList.getD (position % aesBlockSize) 0) := by
  simp [chunkCrypt, CounterMode.crypt, CounterMode.keystreamByte, counterBlock, aesBlockSize]

/-- The chunk index is added to the counter that the nonce prefix starts. -/
theorem chunkNonce_eq (noncePrefix : List.Vector UInt8 12) {chunk : ℕ} (fits : chunk < 2 ^ 32) :
    chunkNonce noncePrefix chunk = CounterMode.counterAt (chunkNonce noncePrefix 0) chunk := by
  have start : ofBigEndian (toBigEndian 4 0) = 0 := rfl
  rw [chunkNonce, chunkNonce, CounterMode.counterAt, ofBigEndian_append, ofBigEndian_append,
    length_toBigEndian, length_toBigEndian, ofBigEndian_toBigEndian fits, start, Nat.add_zero,
    ← BitVec.ofNat_add]

/-- Chunk index and block number enter the counter as their sum. -/
theorem counterBlock_eq (noncePrefix : List.Vector UInt8 12) {chunk : ℕ} (fits : chunk < 2 ^ 32)
    (block : ℕ) :
    counterBlock noncePrefix chunk block = counterBlock noncePrefix 0 (chunk + block) := by
  rw [counterBlock, chunkNonce_eq noncePrefix fits, counterBlock, CounterMode.counterAt,
    CounterMode.counterAt, CounterMode.counterAt, BitVec.add_assoc, BitVec.ofNat_add]

/-- Two blocks share a counter exactly if index and number have the same sum. -/
theorem counterBlock_eq_iff (noncePrefix : List.Vector UInt8 12)
    {left right leftBlock rightBlock : ℕ}
    (left_fits : left < 2 ^ 32) (right_fits : right < 2 ^ 32) (left_block : leftBlock < 2 ^ 32)
    (right_block : rightBlock < 2 ^ 32) :
    counterBlock noncePrefix left leftBlock = counterBlock noncePrefix right rightBlock ↔
      left + leftBlock = right + rightBlock := by
  rw [counterBlock_eq _ left_fits, counterBlock_eq _ right_fits]
  constructor
  · exact CounterMode.counterAt_injective (by omega) (by omega)
  · exact congrArg _

namespace ImageBlock

variable {imageSize : UInt32} (position : ImageBlock imageSize.toNat)

theorem chunk_start : position.chunk * encChunkSize < imageSize.toNat := by
  have inside := position.inside
  rw [chunkLength] at inside
  omega

theorem chunk_fits : position.chunk < 2 ^ 32 := by
  have start := position.chunk_start
  have size := imageSize.toNat_lt
  simp only [encChunkSize] at start
  omega

theorem block_fits : position.block < 2 ^ 32 := by
  have inside := position.inside
  have full := chunkLength_le encChunkSize imageSize.toNat position.chunk
  simp only [aesBlockSize, encChunkSize] at inside full
  omega

end ImageBlock

/-- The counters of all blocks of an image are different. -/
def DistinctCounters (imageSize : ℕ) (noncePrefix : List.Vector UInt8 12) : Prop :=
  Function.Injective fun position : ImageBlock imageSize =>
    counterBlock noncePrefix position.chunk position.block

/-- With a second chunk, block 1 of chunk 0 and block 0 of chunk 1 are masked with the same
keystream. -/
theorem not_distinctCounters {imageSize : ℕ} (larger : encChunkSize < imageSize)
    (noncePrefix : List.Vector UInt8 12) : ¬ DistinctCounters imageSize noncePrefix := by
  intro distinct
  have second_block : 1 * aesBlockSize < chunkLength encChunkSize imageSize 0 := by
    simp only [chunkLength, aesBlockSize, encChunkSize] at larger ⊢
    omega
  have second_chunk : 0 * aesBlockSize < chunkLength encChunkSize imageSize 1 := by
    simp only [chunkLength, aesBlockSize, encChunkSize] at larger ⊢
    omega
  have shared : counterBlock noncePrefix 0 1 = counterBlock noncePrefix 1 0 :=
    (counterBlock_eq noncePrefix (by decide) 0).symm
  have same := @distinct ⟨0, 1, second_block⟩ ⟨1, 0, second_chunk⟩ shared
  cases same

/-- Within a single chunk no counter is used twice. -/
theorem distinctCounters {imageSize : UInt32} (single : imageSize.toNat ≤ encChunkSize)
    (noncePrefix : List.Vector UInt8 12) : DistinctCounters imageSize.toNat noncePrefix := by
  intro left right shared
  have only : ∀ position : ImageBlock imageSize.toNat, position.chunk = 0 := by
    intro position
    have start := position.chunk_start
    simp only [encChunkSize] at single start
    omega
  have sums := (counterBlock_eq_iff noncePrefix left.chunk_fits right.chunk_fits left.block_fits
    right.block_fits).mp shared
  have left_first := only left
  have right_first := only right
  cases left
  cases right
  simp_all

/-- The counters of an image are pairwise different exactly if the image fits one chunk. -/
theorem distinctCounters_iff (imageSize : UInt32) (noncePrefix : List.Vector UInt8 12) :
    DistinctCounters imageSize.toNat noncePrefix ↔ imageSize.toNat ≤ encChunkSize := by
  constructor
  · exact fun distinct => not_lt.mp fun larger => not_distinctCounters larger noncePrefix distinct
  · exact fun single => distinctCounters single noncePrefix

/-- The manifest of an image of 256 chunks is accepted, and its image repeats counters. -/
theorem accepted_image_repeats_counters :
    ¬ ∀ manifest : OtaManifest, manifest.validate = .ok () →
      ∀ noncePrefix : List.Vector UInt8 12, DistinctCounters manifest.imageSize.toNat noncePrefix :=
  fun distinct => not_distinctCounters (by decide) _
    (distinct sampleManifest validate_sampleManifest (List.Vector.replicate 12 0))

end Firmware
end Motonet
