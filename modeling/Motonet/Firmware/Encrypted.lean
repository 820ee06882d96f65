import Motonet.Foundation.ByteString
import Motonet.Foundation.SymmetricCryptography
import Motonet.OtaCore.Manifest
import Mathlib.Data.List.GetD

/-!
# Decryption and authentication of OTA chunks

Key derivation, manifest digest, chunk authentication, AES-256-CTR and the header of the encrypted
download.  SHA-256 and the AES block function are parameters; hashing in parts is hashing the
concatenation.  `u32` values are natural numbers, written out in four big-endian bytes.
-/

namespace Motonet
namespace Firmware

open ByteString OtaCore

def hmacKeySize : ℕ := 32
def hmacBlockSize : ℕ := 64
def ipad : UInt8 := 0x36
def opad : UInt8 := 0x5c
def chunkHmacContext : List UInt8 := asBytes "MOTONET-OTA-CHUNK-v2"
def aesKeyInfo : List UInt8 := asBytes "motonet-ota aes-256-ctr key v1"
def hmacKeyInfo : List UInt8 := asBytes "motonet-ota hmac-sha256 key v1"
def otaHeaderMagic : List UInt8 := asBytes "MOTOTA2" ++ [0]
def otaV2HeaderVersion : UInt8 := 2
def otaV2HeaderSize : ℕ := 16
def hmacTagSize : ℕ := 32

/-- A SHA-256 digest, and also a key of AES-256 or HMAC. -/
abbrev Digest := List.Vector UInt8 32

/-- The primitives that the hardware and the crypto libraries provide. -/
structure CryptoPrimitives where
  sha256 : List UInt8 → Digest
  /-- AES-256 encryption of one block. -/
  aes256 : Digest → BitVec 128 → List.Vector UInt8 16

/-! ## HMAC and key derivation -/

section Hmac

variable (crypto : CryptoPrimitives)

/-- SHA-256 over a prefix and borrowed byte slices. -/
def hwSha256PrefixedParts (front : List UInt8) (parts : List (List UInt8)) : Digest :=
  crypto.sha256 (front ++ parts.flatten)

/-- SHA-256 over borrowed byte slices. -/
def hwSha256Parts (parts : List (List UInt8)) : Digest :=
  hwSha256PrefixedParts crypto [] parts

/-- A pad block with the key XORed into its first bytes. -/
def maskedPad (pad : UInt8) (key : Digest) : List UInt8 :=
  (List.range hmacBlockSize).map fun i =>
    if i < hmacKeySize then pad ^^^ key.toList.getD i 0 else pad

/-- HMAC-SHA256 with a 32-byte key over borrowed input parts. -/
def hmacSha256Raw (key : Digest) (parts : List (List UInt8)) : Digest :=
  let inner := hwSha256PrefixedParts crypto (maskedPad ipad key) parts
  hwSha256Parts crypto [maskedPad opad key, inner.toList]

/-- Key expansion: HMAC of the info string and the key id. -/
def hkdfExpand (prk : Digest) (info : List UInt8) (keyId : ℕ) : Digest :=
  hmacSha256Raw crypto prk [info, toBigEndian 4 keyId]

/-- The AES and HMAC subkeys of a master key and a key id. -/
def deriveSubkeys (master : Digest) (keyId : ℕ) : Digest × Digest :=
  (hkdfExpand crypto master aesKeyInfo keyId, hkdfExpand crypto master hmacKeyInfo keyId)

/-- SHA-256 of the canonical unsigned manifest. -/
def computeManifestDigest (canonicalJson : String) : Digest :=
  hwSha256Parts crypto [asBytes canonicalJson]

end Hmac

theorem maskedPad_eq_padKey (pad : UInt8) (key : Digest) :
    maskedPad pad key = Hmac.padKey hmacBlockSize pad key.toList := by
  have key_length : key.toList.length = 32 := key.2
  apply List.ext_getElem
  · simp [maskedPad, Hmac.padKey, key_length, hmacBlockSize]
  intro i _ right
  simp only [maskedPad, Hmac.padKey, List.getElem_map, List.getElem_range, hmacKeySize]
  split
  · rename_i inside
    rw [List.getElem_append_left (by omega), List.getD_eq_getElem _ _ (by omega)]
  · rw [List.getElem_append_right (by omega), List.getElem_replicate, UInt8.xor_zero]

/-- The device's HMAC is HMAC over SHA-256. -/
theorem hmacSha256Raw_eq_mac (crypto : CryptoPrimitives) (key : Digest)
    (parts : List (List UInt8)) :
    hmacSha256Raw crypto key parts =
      Hmac.mac crypto.sha256 hmacBlockSize key.toList parts.flatten := by
  simp [hmacSha256Raw, hwSha256Parts, hwSha256PrefixedParts, maskedPad_eq_padKey, Hmac.mac, ipad,
    opad]

/-! ## Chunk authentication -/

/-- The authenticated input of a chunk. -/
def chunkHmacInput (manifestDigest : Digest) (chunkIndex plaintextOffset plaintextLen : ℕ)
    (ciphertext : List UInt8) : List (List UInt8) :=
  [chunkHmacContext, manifestDigest.toList, toBigEndian 4 chunkIndex,
    toBigEndian 4 plaintextOffset, toBigEndian 4 plaintextLen, ciphertext]

/-- HMAC tag of an encrypted chunk. -/
def computeChunkHmac (crypto : CryptoPrimitives) (hmacKey manifestDigest : Digest)
    (chunkIndex plaintextOffset plaintextLen : ℕ) (ciphertext : List UInt8) : Digest :=
  hmacSha256Raw crypto hmacKey
    (chunkHmacInput manifestDigest chunkIndex plaintextOffset plaintextLen ciphertext)

/-- Byte comparison without an early exit. -/
def constantTimeEq (a b : List UInt8) : Bool :=
  if a.length ≠ b.length then false
  else (a.zip b).foldl (fun diff (x, y) => diff ||| (x ^^^ y)) 0 == 0

/-- Whether a tag is the HMAC of a chunk. -/
def verifyChunkHmac (crypto : CryptoPrimitives) (hmacKey manifestDigest : Digest)
    (chunkIndex plaintextOffset plaintextLen : ℕ) (ciphertext tag : List UInt8) : Bool :=
  constantTimeEq
    (computeChunkHmac crypto hmacKey manifestDigest chunkIndex plaintextOffset plaintextLen
      ciphertext).toList tag

private theorem foldl_difference_eq_zero (pairs : List (UInt8 × UInt8)) (diff : UInt8) :
    pairs.foldl (fun diff (x, y) => diff ||| (x ^^^ y)) diff = 0 ↔
      diff = 0 ∧ ∀ pair ∈ pairs, pair.1 = pair.2 := by
  induction pairs generalizing diff with
  | nil => simp
  | cons pair pairs ih =>
      rw [List.foldl_cons, ih, UInt8.or_eq_zero_iff, UInt8.xor_eq_zero_iff]
      simp [and_assoc]

/-- The comparison without an early exit decides equality. -/
theorem constantTimeEq_iff (a b : List UInt8) : constantTimeEq a b = true ↔ a = b := by
  unfold constantTimeEq
  split
  · rename_i lengths
    simp only [Bool.false_eq_true, false_iff]
    exact fun same => lengths (congrArg List.length same)
  rename_i lengths
  rw [beq_iff_eq, foldl_difference_eq_zero]
  simp only [true_and]
  constructor
  · intro equal
    apply List.ext_getElem (by omega)
    intro i left right
    have member : (a[i], b[i]) ∈ a.zip b := by
      rw [List.mem_iff_getElem]
      exact ⟨i, by simp; omega, by simp⟩
    exact equal _ member
  · rintro rfl pair member
    rw [List.zip_eq_zipWith, List.zipWith_self] at member
    obtain ⟨byte, -, rfl⟩ := List.mem_map.mp member
    rfl

/-- A chunk verifies exactly with its own tag. -/
theorem verifyChunkHmac_iff (crypto : CryptoPrimitives) (hmacKey manifestDigest : Digest)
    (chunkIndex plaintextOffset plaintextLen : ℕ) (ciphertext tag : List UInt8) :
    verifyChunkHmac crypto hmacKey manifestDigest chunkIndex plaintextOffset plaintextLen
        ciphertext tag = true ↔
      tag = (computeChunkHmac crypto hmacKey manifestDigest chunkIndex plaintextOffset
        plaintextLen ciphertext).toList :=
  (constantTimeEq_iff _ _).trans eq_comm

/-- The authenticated input of a chunk determines its parts. -/
theorem chunkHmacInput_inj {leftDigest rightDigest : Digest}
    {leftIndex rightIndex leftOffset rightOffset leftLen rightLen : ℕ}
    {leftText rightText : List UInt8} (left_index : leftIndex < 2 ^ 32)
    (right_index : rightIndex < 2 ^ 32) (left_offset : leftOffset < 2 ^ 32)
    (right_offset : rightOffset < 2 ^ 32) (left_len : leftLen < 2 ^ 32)
    (right_len : rightLen < 2 ^ 32)
    (same : (chunkHmacInput leftDigest leftIndex leftOffset leftLen leftText).flatten =
      (chunkHmacInput rightDigest rightIndex rightOffset rightLen rightText).flatten) :
    leftDigest = rightDigest ∧ leftIndex = rightIndex ∧ leftOffset = rightOffset ∧
      leftLen = rightLen ∧ leftText = rightText := by
  simp only [chunkHmacInput, List.flatten_cons, List.flatten_nil, List.append_nil] at same
  obtain ⟨-, same⟩ := List.append_inj same rfl
  obtain ⟨digests, same⟩ := List.append_inj same (by simp)
  obtain ⟨indices, same⟩ := List.append_inj same (by simp)
  obtain ⟨offsets, same⟩ := List.append_inj same (by simp)
  obtain ⟨lens, texts⟩ := List.append_inj same (by simp)
  exact ⟨List.Vector.toList_injective digests, toBigEndian_injective left_index right_index indices,
    toBigEndian_injective left_offset right_offset offsets,
    toBigEndian_injective left_len right_len lens, texts⟩

/-! ## AES-256-CTR -/

/-- Why an AES operation fails. -/
inductive AesError
  | operationFailed
  deriving DecidableEq, Repr

/-- The initial counter of a chunk: nonce prefix and chunk index, most significant byte first. -/
def chunkNonce (noncePrefix : List.Vector UInt8 12) (chunkIndex : ℕ) : BitVec 128 :=
  BitVec.ofNat 128 (ofBigEndian (noncePrefix.toList ++ toBigEndian 4 chunkIndex))

/-- Decrypt or encrypt a chunk with AES-256 in counter mode. -/
def aesCtrCryptInPlace (crypto : CryptoPrimitives) (key : Digest)
    (noncePrefix : List.Vector UInt8 12) (chunkIndex : ℕ) (data : List UInt8) :
    Except AesError (List UInt8) :=
  if data.isEmpty then pure data
  else
    pure (CounterMode.crypt 16 (fun counter => (crypto.aes256 key counter).toList)
      (chunkNonce noncePrefix chunkIndex) data)

/-- The text of a chunk under the counter mode of the device. -/
def chunkCrypt (crypto : CryptoPrimitives) (key : Digest) (noncePrefix : List.Vector UInt8 12)
    (chunkIndex : ℕ) (text : List UInt8) : List UInt8 :=
  CounterMode.crypt 16 (fun counter => (crypto.aes256 key counter).toList)
    (chunkNonce noncePrefix chunkIndex) text

/-- The operation never fails, and an empty text is the same in counter mode. -/
theorem aesCtrCryptInPlace_eq (crypto : CryptoPrimitives) (key : Digest)
    (noncePrefix : List.Vector UInt8 12) (chunkIndex : ℕ) (data : List UInt8) :
    aesCtrCryptInPlace crypto key noncePrefix chunkIndex data =
      .ok (chunkCrypt crypto key noncePrefix chunkIndex data) := by
  cases data with
  | nil => rfl
  | cons => rfl

@[simp]
theorem length_chunkCrypt (crypto : CryptoPrimitives) (key : Digest)
    (noncePrefix : List.Vector UInt8 12) (chunkIndex : ℕ) (text : List UInt8) :
    (chunkCrypt crypto key noncePrefix chunkIndex text).length = text.length :=
  CounterMode.length_crypt _ _ _ _

@[simp]
theorem chunkCrypt_chunkCrypt (crypto : CryptoPrimitives) (key : Digest)
    (noncePrefix : List.Vector UInt8 12) (chunkIndex : ℕ) (text : List UInt8) :
    chunkCrypt crypto key noncePrefix chunkIndex
      (chunkCrypt crypto key noncePrefix chunkIndex text) = text :=
  CounterMode.crypt_crypt _ _ _ _

/-! ## Nonce prefix -/

/-- Why a nonce prefix cannot be read. -/
inductive NoncePrefixError
  | invalidLength
  | invalidHex
  deriving DecidableEq, Repr

/-- Value of a hexadecimal digit in either case. -/
def hexNibble (b : UInt8) : Except NoncePrefixError UInt8 :=
  if 48 ≤ b ∧ b ≤ 57 then pure (b - 48)
  else if 97 ≤ b ∧ b ≤ 102 then pure (b - 97 + 10)
  else if 65 ≤ b ∧ b ≤ 70 then pure (b - 65 + 10)
  else throw .invalidHex

/-- Bytes spelled by pairs of hexadecimal digits. -/
def hexPairs : List UInt8 → Except NoncePrefixError (List UInt8)
  | [] => pure []
  | [_] => throw .invalidLength
  | high :: low :: rest => do
      let highNibble ← hexNibble high
      let lowNibble ← hexNibble low
      let bytes ← hexPairs rest
      return (highNibble <<< 4 ||| lowNibble) :: bytes

theorem length_of_hexPairs {digits bytes : List UInt8} (parsed : hexPairs digits = .ok bytes) :
    digits.length = 2 * bytes.length := by
  induction digits using hexPairs.induct generalizing bytes with
  | case1 =>
      cases parsed
      rfl
  | case2 => cases parsed
  | case3 high low rest ih =>
      obtain ⟨_, -, parsed⟩ := Except.of_bind_eq_ok parsed
      obtain ⟨_, -, parsed⟩ := Except.of_bind_eq_ok parsed
      obtain ⟨tail, rest_parsed, parsed⟩ := Except.of_bind_eq_ok parsed
      cases parsed
      simp only [List.length_cons, ih rest_parsed]
      omega

/-- Parse a hexadecimal nonce prefix of twelve bytes. -/
def parseNoncePrefix (hex : String) : Except NoncePrefixError (List.Vector UInt8 12) :=
  if length : (asBytes hex).length ≠ 24 then throw .invalidLength
  else
    match parsed : hexPairs (asBytes hex) with
    | .error error => throw error
    | .ok bytes => pure ⟨bytes, by have := length_of_hexPairs parsed; omega⟩

/-! ## Stream header -/

/-- Why the header of a download is refused. -/
inductive OtaHeaderError
  | tooShort
  | invalidMagic
  | invalidVersion
  | reservedNonZero
  deriving DecidableEq, Repr

/-- Validate the header: magic, version and seven reserved zero bytes. -/
def validateOtaHeader (header : List UInt8) : Except OtaHeaderError Unit :=
  if header.length < otaV2HeaderSize then throw .tooShort
  else if header.take 8 ≠ otaHeaderMagic then throw .invalidMagic
  else if header.getD 8 0 ≠ otaV2HeaderVersion then throw .invalidVersion
  else if ((header.drop 9).take 7).any (· ≠ 0) then throw .reservedNonZero
  else pure ()

/-- The only header that is accepted. -/
def otaHeader : List UInt8 :=
  otaHeaderMagic ++ otaV2HeaderVersion :: List.replicate 7 0

theorem length_otaHeader : otaHeader.length = otaV2HeaderSize := by
  decide +kernel

theorem validateOtaHeader_otaHeader : validateOtaHeader otaHeader = .ok () := by
  decide +kernel

/-- Sixteen accepted bytes are the header. -/
theorem eq_otaHeader_of_validate {header : List UInt8} (length : header.length = otaV2HeaderSize)
    (accepted : validateOtaHeader header = .ok ()) : header = otaHeader := by
  unfold validateOtaHeader at accepted
  split at accepted <;> [cases accepted; skip]
  split at accepted <;> [cases accepted; skip]
  split at accepted <;> [cases accepted; skip]
  split at accepted <;> [cases accepted; skip]
  rename_i magic version reserved
  simp only [ne_eq, not_not] at magic version
  have reserved_zero : header.drop 9 = List.replicate 7 0 := by
    rw [List.eq_replicate_iff]
    refine ⟨by simp [length, otaV2HeaderSize], fun byte member => ?_⟩
    have whole : (header.drop 9).take 7 = header.drop 9 :=
      List.take_of_length_le (by simp [length, otaV2HeaderSize])
    rw [whole] at reserved
    by_contra nonzero
    exact reserved (List.any_eq_true.mpr ⟨byte, member, by simpa using nonzero⟩)
  have eighth : header.drop 8 = header.getD 8 0 :: header.drop 9 := by
    rw [List.drop_eq_getElem_cons (by simp [length, otaV2HeaderSize]),
      List.getD_eq_getElem _ _ (by simp [length, otaV2HeaderSize])]
  rw [← List.take_append_drop 8 header, magic, eighth, version, reserved_zero, otaHeader]

end Firmware
end Motonet
