import Motonet.Foundation.Hexadecimal
import Motonet.Firmware.SealedImage

/-!
# The OTA packer

The container that `scripts/ota-pack.sh` writes, with `printf`, `xxd`, `dd` and `openssl` as the
script uses them.  Numbers pass through hexadecimal text; keys and digests that the script carries
as hexadecimal text are their bytes.  The container is the one that sealing gives.
-/

namespace Motonet
namespace Packer

open ByteString OtaCore Firmware

def chunkSize : ℕ := 4096

/-- The output of `printf '%08x'`. -/
def printf08x (number : ℕ) : List UInt8 :=
  Hexadecimal.encode (max 8 (Nat.toDigits 16 number).length) number

/-- The output of `printf '%08x' | xxd -r -p`. -/
def word (number : ℕ) : List UInt8 :=
  Hexadecimal.decode (printf08x number)

/-- `openssl dgst -sha256 -mac HMAC` with a key in hexadecimal. -/
def opensslHmac (crypto : CryptoPrimitives) (key : Digest) (message : List UInt8) : Digest :=
  Hmac.mac crypto.sha256 64 key.toList message

/-- `openssl enc -aes-256-ctr` with an initial counter block in hexadecimal. -/
def opensslCtr (crypto : CryptoPrimitives) (key : Digest) (iv : List UInt8) (text : List UInt8) :
    List UInt8 :=
  CounterMode.crypt 16 (fun counter => (crypto.aes256 key counter).toList)
    (BitVec.ofNat 128 (ofBigEndian (Hexadecimal.decode iv))) text

/-- `dd bs=1 skip=… count=…`. -/
def dd (text : List UInt8) (skip count : ℕ) : List UInt8 :=
  (text.drop skip).take count

/-- The inputs of the packer that the container depends on. -/
structure Inputs where
  masterKey : Digest
  otaKeyId : ℕ
  /-- The nonce prefix as hexadecimal text. -/
  noncePrefix : String
  manifestDigest : Digest
  plaintext : List UInt8

section Pack

variable (crypto : CryptoPrimitives) (inputs : Inputs)

def imageSize : ℕ := inputs.plaintext.length

def packedChunks : ℕ := (imageSize inputs + chunkSize - 1) / chunkSize

def aesKey : Digest :=
  opensslHmac crypto inputs.masterKey
    (asBytes "motonet-ota aes-256-ctr key v1" ++ word inputs.otaKeyId)

def hmacKey : Digest :=
  opensslHmac crypto inputs.masterKey
    (asBytes "motonet-ota hmac-sha256 key v1" ++ word inputs.otaKeyId)

/-- The bytes that the tag of a chunk is computed over. -/
def hmacInput (chunkIdx plainOffset plainLen : ℕ) (cipher : List UInt8) : List UInt8 :=
  asBytes "MOTONET-OTA-CHUNK-v2" ++ inputs.manifestDigest.toList ++ word chunkIdx ++
    word plainOffset ++ word plainLen ++ cipher

/-- The tag of a chunk. -/
def computeChunkHmac (chunkIdx plainOffset plainLen : ℕ) (cipher : List UInt8) : Digest :=
  opensslHmac crypto (hmacKey crypto inputs) (hmacInput inputs chunkIdx plainOffset plainLen cipher)

/-- Plaintext length of a chunk. -/
def plainLen (chunkIdx : ℕ) : ℕ :=
  if chunkIdx = packedChunks inputs - 1 then imageSize inputs - chunkIdx * chunkSize else chunkSize

/-- Ciphertext of a chunk. -/
def chunkCipher (chunkIdx : ℕ) : List UInt8 :=
  let chunkPlain := dd inputs.plaintext (chunkIdx * chunkSize) (plainLen inputs chunkIdx)
  let iv := asBytes inputs.noncePrefix ++ printf08x chunkIdx
  opensslCtr crypto (aesKey crypto inputs) iv chunkPlain

/-- One iteration of the packing loop: what it appends to the output. -/
def packChunk (chunkIdx : ℕ) : List UInt8 :=
  let plainOffset := chunkIdx * chunkSize
  let plainLen := plainLen inputs chunkIdx
  let cipher := chunkCipher crypto inputs chunkIdx
  let tag := computeChunkHmac crypto inputs chunkIdx plainOffset plainLen cipher
  word plainLen ++ cipher ++ tag.toList

/-- The output file. -/
def container : List UInt8 :=
  Hexadecimal.decode (asBytes "4d4f544f544132000200000000000000") ++
    (List.range (packedChunks inputs)).flatMap (packChunk crypto inputs)

end Pack

/-! ## Agreement with the device -/

/-- A 32-bit number passes through the text as four big-endian bytes. -/
theorem word_eq_toBigEndian {number : ℕ} (fits : number < 2 ^ 32) :
    word number = toBigEndian 4 number := by
  have width : (Nat.toDigits 16 number).length ≤ 8 :=
    (Nat.length_toDigits_le_iff (by decide) (by decide)).mpr fits
  rw [word, printf08x, max_eq_left width]
  exact Hexadecimal.decode_encode 4 number

private theorem hexNibble_eq_ok {digit nibble : UInt8} (parsed : hexNibble digit = .ok nibble) :
    nibble.toNat = Hexadecimal.digitValue digit ∧ nibble.toNat < 16 := by
  unfold hexNibble at parsed
  simp only [Hexadecimal.digitValue, UInt8.le_iff_toNat_le]
  simp only [UInt8.le_iff_toNat_le] at parsed
  have fifty_seven : (57 : UInt8).toNat = 57 := rfl
  have seventy : (70 : UInt8).toNat = 70 := rfl
  split at parsed
  · rename_i decimal
    cases parsed
    rw [UInt8.toNat_sub_of_le _ _ decimal.1, if_pos decimal.2]
    exact ⟨rfl, by have := decimal.2; change digit.toNat - 48 < 16; omega⟩
  split at parsed
  · rename_i lower
    cases parsed
    have bounds : 97 ≤ digit.toNat ∧ digit.toNat ≤ 102 := lower
    rw [UInt8.toNat_add, UInt8.toNat_sub_of_le _ _ lower.1, if_neg (by omega), if_neg (by omega)]
    change (digit.toNat - 97 + 10) % 256 = _ ∧ (digit.toNat - 97 + 10) % 256 < 16
    omega
  split at parsed
  · rename_i upper
    cases parsed
    have bounds : 65 ≤ digit.toNat ∧ digit.toNat ≤ 70 := upper
    rw [UInt8.toNat_add, UInt8.toNat_sub_of_le _ _ upper.1, if_neg (by omega), if_pos (by omega)]
    change (digit.toNat - 65 + 10) % 256 = _ ∧ (digit.toNat - 65 + 10) % 256 < 16
    omega
  · cases parsed

/-- Digits that the device reads spell the same bytes for the tools. -/
theorem decode_of_hexPairs {digits bytes : List UInt8} (parsed : hexPairs digits = .ok bytes) :
    Hexadecimal.decode digits = bytes := by
  induction digits using hexPairs.induct generalizing bytes with
  | case1 =>
      cases parsed
      rfl
  | case2 => cases parsed
  | case3 high low rest ih =>
      obtain ⟨highNibble, high_eq, parsed⟩ := Except.of_bind_eq_ok parsed
      obtain ⟨lowNibble, low_eq, parsed⟩ := Except.of_bind_eq_ok parsed
      obtain ⟨tail, rest_eq, parsed⟩ := Except.of_bind_eq_ok parsed
      cases parsed
      obtain ⟨high_value, high_bound⟩ := hexNibble_eq_ok high_eq
      obtain ⟨low_value, low_bound⟩ := hexNibble_eq_ok low_eq
      rw [Hexadecimal.decode, ih rest_eq, ← high_value, ← low_value]
      congr 1
      apply UInt8.toNat_inj.mp
      have joined := Nat.shiftLeft_add_eq_or_of_lt (show lowNibble.toNat < 2 ^ 4 from low_bound)
        highNibble.toNat
      have shifted : highNibble.toNat <<< 4 % 2 ^ 8 = highNibble.toNat <<< 4 := by
        rw [Nat.shiftLeft_eq]
        omega
      rw [UInt8.toNat_ofNat', UInt8.toNat_or, UInt8.toNat_shiftLeft]
      change _ = highNibble.toNat <<< 4 % 2 ^ 8 ||| lowNibble.toNat
      rw [shifted, ← joined, Nat.shiftLeft_eq]
      omega

/-- The keys with which the device processes what the packer wrote. -/
def deviceKeys (crypto : CryptoPrimitives) (inputs : Inputs) (nonce : List.Vector UInt8 12) :
    BodyKeys where
  noncePrefix := nonce
  hmacKey := (deriveSubkeys crypto inputs.masterKey inputs.otaKeyId).2
  aesKey := (deriveSubkeys crypto inputs.masterKey inputs.otaKeyId).1
  manifestDigest := inputs.manifestDigest

section Agreement

variable {crypto : CryptoPrimitives} {inputs : Inputs} {nonce : List.Vector UInt8 12}

theorem hkdfExpand_eq_opensslHmac (master : Digest) (info : List UInt8) {keyId : ℕ}
    (fits : keyId < 2 ^ 32) :
    hkdfExpand crypto master info keyId = opensslHmac crypto master (info ++ word keyId) := by
  rw [hkdfExpand, hmacSha256Raw_eq_mac, word_eq_toBigEndian fits]
  simp [opensslHmac, hmacBlockSize]

/-- Both sides derive the same keys. -/
theorem deriveSubkeys_eq (fits : inputs.otaKeyId < 2 ^ 32) :
    deriveSubkeys crypto inputs.masterKey inputs.otaKeyId =
      (aesKey crypto inputs, hmacKey crypto inputs) := by
  rw [deriveSubkeys, hkdfExpand_eq_opensslHmac _ _ fits, hkdfExpand_eq_opensslHmac _ _ fits]
  rfl

/-- Both sides authenticate the same bytes. -/
theorem hmacInput_eq {index offset len : ℕ} (index_fits : index < 2 ^ 32)
    (offset_fits : offset < 2 ^ 32) (len_fits : len < 2 ^ 32) (cipher : List UInt8) :
    hmacInput inputs index offset len cipher =
      (chunkHmacInput inputs.manifestDigest index offset len cipher).flatten := by
  rw [hmacInput, word_eq_toBigEndian index_fits, word_eq_toBigEndian offset_fits,
    word_eq_toBigEndian len_fits]
  simp [chunkHmacInput, chunkHmacContext]

/-- Both sides compute the same tags. -/
theorem computeChunkHmac_eq (nonce : List.Vector UInt8 12) (key_fits : inputs.otaKeyId < 2 ^ 32)
    {index offset len : ℕ} (index_fits : index < 2 ^ 32) (offset_fits : offset < 2 ^ 32)
    (len_fits : len < 2 ^ 32) (cipher : List UInt8) :
    computeChunkHmac crypto inputs index offset len cipher =
      Firmware.computeChunkHmac crypto (deviceKeys crypto inputs nonce).hmacKey
        (deviceKeys crypto inputs nonce).manifestDigest index offset len cipher := by
  rw [Firmware.computeChunkHmac, hmacSha256Raw_eq_mac, computeChunkHmac, opensslHmac, deviceKeys,
    deriveSubkeys_eq key_fits, hmacInput_eq index_fits offset_fits len_fits, hmacBlockSize]

/-- Both sides start a chunk at the same counter block. -/
theorem opensslCtr_eq {index : ℕ} (fits : index < 2 ^ 32)
    (parsed : parseNoncePrefix inputs.noncePrefix = .ok nonce) (key : Digest) (text : List UInt8) :
    opensslCtr crypto key (asBytes inputs.noncePrefix ++ printf08x index) text =
      chunkCrypt crypto key nonce index text := by
  have even : (asBytes inputs.noncePrefix).length % 2 = 0 := by
    unfold parseNoncePrefix at parsed
    split at parsed
    · cases parsed
    · omega
  have front : Hexadecimal.decode (asBytes inputs.noncePrefix) = nonce.toList := by
    unfold parseNoncePrefix at parsed
    split at parsed
    · cases parsed
    · split at parsed
      · cases parsed
      · rename_i bytes pairs
        cases parsed
        exact decode_of_hexPairs pairs
  have counter : Hexadecimal.decode (printf08x index) = toBigEndian 4 index :=
    word_eq_toBigEndian fits
  rw [opensslCtr, Hexadecimal.decode_append even, front, counter]
  rfl

/-- The packer's lengths are those of the chunks. -/
theorem plainLen_eq {index : ℕ} (inside : index < packedChunks inputs) :
    plainLen inputs index =
      Chunked.chunkLength encChunkSize inputs.plaintext.length index := by
  unfold plainLen
  split
  · rename_i last
    refine (Chunked.chunkLength_last encChunkSize_pos ?_).symm
    change index + 1 = packedChunks inputs
    omega
  · rename_i not_last
    refine (Chunked.chunkLength_of_lt encChunkSize_pos ?_).symm
    change index + 1 < packedChunks inputs
    omega

/-- A packed chunk lies in the first 2³² bytes. -/
theorem fits_of_lt_packedChunks (image_fits : inputs.plaintext.length < 2 ^ 32) {index : ℕ}
    (inside : index < packedChunks inputs) :
    index < 2 ^ 32 ∧ index * encChunkSize < 2 ^ 32 ∧
      Chunked.chunkLength encChunkSize inputs.plaintext.length index < 2 ^ 32 := by
  have start : index * encChunkSize < inputs.plaintext.length :=
    (Chunked.lt_count_iff encChunkSize_pos index).mp inside
  have index_le := Nat.le_mul_of_pos_right index encChunkSize_pos
  exact ⟨by omega, by omega, lt_of_le_of_lt (Chunked.chunkLength_le _ _ _) (by decide)⟩

/-- Both sides encrypt the same piece of the image. -/
theorem chunkCipher_eq (key_fits : inputs.otaKeyId < 2 ^ 32)
    (image_fits : inputs.plaintext.length < 2 ^ 32)
    (parsed : parseNoncePrefix inputs.noncePrefix = .ok nonce) {index : ℕ}
    (inside : index < packedChunks inputs) :
    chunkCipher crypto inputs index =
      (sealChunk crypto (deviceKeys crypto inputs nonce) inputs.plaintext index).ciphertext := by
  have piece : dd inputs.plaintext (index * chunkSize)
      (Chunked.chunkLength encChunkSize inputs.plaintext.length index) =
        Chunked.slice encChunkSize inputs.plaintext index := by
    have offset : index * chunkSize = index * encChunkSize := rfl
    rw [dd, offset, Chunked.slice, List.take_eq_take_iff, List.length_drop, Chunked.chunkLength]
    omega
  have key : aesKey crypto inputs = (deviceKeys crypto inputs nonce).aesKey := by
    rw [deviceKeys, deriveSubkeys_eq key_fits]
  rw [chunkCipher, plainLen_eq inside, piece, key,
    opensslCtr_eq (fits_of_lt_packedChunks image_fits inside).1 parsed]
  rfl

/-- The packer writes sealed chunks. -/
theorem packChunk_eq (key_fits : inputs.otaKeyId < 2 ^ 32)
    (image_fits : inputs.plaintext.length < 2 ^ 32)
    (parsed : parseNoncePrefix inputs.noncePrefix = .ok nonce) {index : ℕ}
    (inside : index < packedChunks inputs) :
    packChunk crypto inputs index =
      (sealChunk crypto (deviceKeys crypto inputs nonce) inputs.plaintext index).wire := by
  obtain ⟨index_fits, offset_fits, len_fits⟩ := fits_of_lt_packedChunks image_fits inside
  have sealed := seals_sealChunk crypto (deviceKeys crypto inputs nonce) inputs.plaintext index
  have offset : index * chunkSize = index * encChunkSize := rfl
  rw [packChunk, plainLen_eq inside, chunkCipher_eq key_fits image_fits parsed inside, offset,
    computeChunkHmac_eq nonce key_fits index_fits offset_fits len_fits,
    word_eq_toBigEndian len_fits, SealedChunk.wire, sealed.tag, sealed.length]

/-- The packer writes the container of the sealed image. -/
theorem container_eq (key_fits : inputs.otaKeyId < 2 ^ 32) {imageSize : UInt32}
    (size : inputs.plaintext.length = imageSize.toNat)
    (parsed : parseNoncePrefix inputs.noncePrefix = .ok nonce) :
    container crypto inputs =
      (sealImage crypto (deviceKeys crypto inputs nonce) inputs.plaintext size).container := by
  have header : Hexadecimal.decode (asBytes "4d4f544f544132000200000000000000") = otaHeader := by
    decide +kernel
  have image_fits : inputs.plaintext.length < 2 ^ 32 := size ▸ imageSize.toNat_lt
  have chunks : packedChunks inputs = numChunks imageSize.toNat := size ▸ rfl
  rw [container, SealedImage.container, header, sealImage, List.flatMap_map, ← chunks]
  congr 1
  refine List.flatMap_congr fun index member => ?_
  exact packChunk_eq key_fits image_fits parsed (List.mem_range.mp member)

end Agreement

end Packer
end Motonet
