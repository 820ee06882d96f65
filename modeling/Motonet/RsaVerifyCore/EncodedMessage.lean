import Motonet.Foundation.Emsa
import Motonet.RsaVerifyCore.PublicKey

/-!
# Encoded messages

The two checks of an encoded message, which the RSA operation has recovered from a signature, and
the mask generation function that one of them uses.  Each accepts exactly the standard encodings of
the message.
-/

namespace Motonet
namespace RsaVerifyCore

def sha256Len : ℕ := 32
def pssTrailerField : UInt8 := 0xbc
def pssEmLen : ℕ := rsa2048Len
def pssMaskedDbLen : ℕ := pssEmLen - sha256Len - 1
def pssSaltLen : ℕ := sha256Len
def pssPsLen : ℕ := pssMaskedDbLen - pssSaltLen - 1

def sha256DigestInfoPrefix : List UInt8 :=
  [0x30, 0x31, 0x30, 0x0d, 0x06, 0x09, 0x60, 0x86, 0x48, 0x01, 0x65, 0x03, 0x04, 0x02, 0x01, 0x05,
    0x00, 0x04, 0x20]

variable (sha256 : List UInt8 → List.Vector UInt8 sha256Len)

/-- `mgf1_sha256`, for an output of a given length: the counter and the chunks written so far go
through the loop. -/
def mgf1Sha256 (seed : List UInt8) (outLen : ℕ) : List UInt8 :=
  ((List.range (Chunked.count sha256Len outLen)).foldl
    (fun (state : UInt32 × List UInt8) index =>
      let digest := sha256 (seed ++ ByteString.toBigEndian 4 state.1.toNat)
      (state.1 + 1, state.2 ++ digest.toList.take (Chunked.chunkLength sha256Len outLen index)))
    (0, [])).2

/-- `verify_pss_sha256_encoded_message`. -/
def verifyPssSha256EncodedMessage (message : List UInt8)
    (encodedMessage : List.Vector UInt8 rsa2048Len) : Except RsaVerifyError Unit :=
  let bytes := encodedMessage.toList
  if bytes[rsa2048Len - 1]? ≠ some pssTrailerField then .error .invalidSignature
  else if (bytes.headD 0) &&& 0x80 ≠ 0 then .error .invalidSignature
  else
    let maskedDb := bytes.take pssMaskedDbLen
    let h := (bytes.take (rsa2048Len - 1)).drop pssMaskedDbLen
    let dbMask := mgf1Sha256 sha256 h pssMaskedDbLen
    let db := (List.zipWith (· ^^^ ·) maskedDb dbMask).modifyHead (· &&& 0x7f)
    if ¬ (db.take pssPsLen).all (· = 0) ∨ db[pssPsLen]? ≠ some 0x01 then .error .invalidSignature
    else
      let salt := db.drop (pssPsLen + 1)
      let messageHash := sha256 message
      let expectedH := sha256 (List.replicate 8 0 ++ messageHash.toList ++ salt)
      if expectedH.toList = h then .ok () else .error .invalidSignature

/-- `verify_pkcs1v15_sha256_encoded_message`. -/
def verifyPkcs1v15Sha256EncodedMessage (message : List UInt8)
    (encodedMessage : List.Vector UInt8 rsa2048Len) : Except RsaVerifyError Unit :=
  let bytes := encodedMessage.toList
  if bytes[0]? ≠ some 0x00 ∨ bytes[1]? ≠ some 0x01 then .error .invalidSignature
  else
    let separatorIndex := rsa2048Len - sha256DigestInfoPrefix.length - sha256Len - 1
    if ¬ ((bytes.take separatorIndex).drop 2).all (· = 0xff) ∨
        bytes[separatorIndex]? ≠ some 0x00 then .error .invalidSignature
    else
      let prefixStart := separatorIndex + 1
      let digestStart := prefixStart + sha256DigestInfoPrefix.length
      if (bytes.take digestStart).drop prefixStart ≠ sha256DigestInfoPrefix then
        .error .invalidSignature
      else
        let expectedDigest := sha256 message
        if bytes.drop digestStart = expectedDigest.toList then .ok () else .error .invalidSignature

/-- A counter that has wrapped around is written as one that has not. -/
theorem toBigEndian_toNat_ofNat (counter : ℕ) :
    ByteString.toBigEndian 4 (UInt32.ofNat counter).toNat = ByteString.toBigEndian 4 counter := by
  have split : counter = counter % 2 ^ 32 + counter / 2 ^ 32 * 256 ^ 4 := by
    omega
  rw [UInt32.toNat_ofNat']
  conv_rhs => rw [split]
  rw [ByteString.toBigEndian_add_mul]

/-- The loop of `mgf1_sha256` computes `MGF1`. -/
theorem mgf1Sha256_eq (seed : List UInt8) (outLen : ℕ) :
    mgf1Sha256 sha256 seed outLen = Emsa.mgf1 sha256 seed outLen := by
  have loop (count : ℕ) : (List.range count).foldl
      (fun (state : UInt32 × List UInt8) index =>
        let digest := sha256 (seed ++ ByteString.toBigEndian 4 state.1.toNat)
        (state.1 + 1, state.2 ++ digest.toList.take (Chunked.chunkLength sha256Len outLen index)))
      (0, []) =
        (UInt32.ofNat count, (List.range count).flatMap fun index =>
          (sha256 (seed ++ ByteString.toBigEndian 4 index)).toList.take
            (Chunked.chunkLength sha256Len outLen index)) := by
    induction count with
    | zero => rfl
    | succ count ih =>
        rw [List.range_succ, List.foldl_append, ih, List.flatMap_append, UInt32.ofNat_add]
        simp only [List.foldl_cons, List.foldl_nil, List.flatMap_singleton,
          toBigEndian_toNat_ofNat]
        rfl
  rw [mgf1Sha256, loop, Emsa.mgf1,
    Chunked.flatMap_take_chunkLength fun _ => List.Vector.toList_length _]

theorem modifyHead_eq_clearLeftmost (bytes : List UInt8) :
    bytes.modifyHead (· &&& 0x7f) = Emsa.clearLeftmost 1 bytes := by
  cases bytes <;> rfl

/-- `EMSA-PSS` for 2047 bits and a salt of 32 bytes. -/
theorem encodePss_eq (message : List UInt8) (salt : List.Vector UInt8 sha256Len) :
    Emsa.encodePss sha256 2047 message salt.toList =
      let h := sha256 (List.replicate 8 0 ++ (sha256 message).toList ++ salt.toList)
      some (Emsa.clearLeftmost 1 (Emsa.xor (List.replicate pssPsLen 0 ++ [0x01] ++ salt.toList)
        (Emsa.mgf1 sha256 h.toList pssMaskedDbLen)) ++ h.toList ++ [pssTrailerField]) := by
  unfold Emsa.encodePss
  rw [List.Vector.toList_length]
  rfl

/-- A check was passed, and what follows it returned. -/
theorem check_eq_ok_iff {failed : Prop} [Decidable failed] {error : RsaVerifyError}
    {next : Except RsaVerifyError Unit} :
    (if failed then .error error else next) = .ok () ↔ ¬ failed ∧ next = .ok () := by
  by_cases holds : failed <;> simp [holds]

theorem last_check_eq_ok_iff {passed : Prop} [Decidable passed] {error : RsaVerifyError} :
    (if passed then .ok () else .error error : Except RsaVerifyError Unit) = .ok () ↔ passed := by
  by_cases holds : passed <;> simp [holds]

/-- What the check of `EMSA-PSS` asks of an encoded message. -/
theorem verifyPss_eq_ok_iff (message : List UInt8) (encodedMessage : List.Vector UInt8 rsa2048Len) :
    verifyPssSha256EncodedMessage sha256 message encodedMessage = .ok () ↔
      let bytes := encodedMessage.toList
      let h := (bytes.take (rsa2048Len - 1)).drop pssMaskedDbLen
      let db := Emsa.clearLeftmost 1
        (Emsa.xor (bytes.take pssMaskedDbLen) (Emsa.mgf1 sha256 h pssMaskedDbLen))
      bytes[rsa2048Len - 1]? = some pssTrailerField ∧ bytes.headD 0 &&& 0x80 = 0 ∧
        ((db.take pssPsLen).all (· = 0) = true ∧ db[pssPsLen]? = some 0x01) ∧
        (sha256 (List.replicate 8 0 ++ (sha256 message).toList ++
          db.drop (pssPsLen + 1))).toList = h := by
  simp only [verifyPssSha256EncodedMessage, mgf1Sha256_eq, modifyHead_eq_clearLeftmost,
    check_eq_ok_iff, last_check_eq_ok_iff, ne_eq, not_not, not_or, Emsa.xor]

/-- A byte whose leftmost bit is zero is not changed by setting it to zero. -/
theorem clearLeftmost_eq_self_iff {bytes : List UInt8} :
    Emsa.clearLeftmost 1 bytes = bytes ↔ bytes.headD 0 &&& 0x80 = 0 := by
  have clear : ∀ byte : BitVec 8, byte &&& 0x7f = byte ↔ byte &&& 0x80 = 0 := by decide
  cases bytes with
  | nil => simp [Emsa.clearLeftmost]
  | cons first rest =>
      rw [Emsa.clearLeftmost, List.headD_cons, List.cons.injEq, and_iff_left rfl,
        ← UInt8.toBitVec_inj, ← UInt8.toBitVec_inj]
      exact clear first.toBitVec

/-- A data block has the form that `EMSA-PSS` asks for exactly if it is zeros, a separator and the
rest. -/
theorem dataBlock_iff {db salt : List UInt8} (length : db.length = pssMaskedDbLen) :
    db = List.replicate pssPsLen 0 ++ [0x01] ++ salt ↔
      ((db.take pssPsLen).all (· = 0) = true ∧ db[pssPsLen]? = some 0x01) ∧
        db.drop (pssPsLen + 1) = salt := by
  have long : pssPsLen ≤ db.length := by
    rw [length]
    decide
  rw [List.append_assoc, Emsa.eq_replicate_append_iff long, List.singleton_append, Emsa.eq_cons_iff,
    List.getElem?_drop, List.drop_drop, Nat.add_zero, and_assoc]

/-- An encoded message is a masked data block, a hash and the trailer. -/
theorem encodedMessage_iff {bytes maskedDb h : List UInt8}
    (maskedDb_length : maskedDb.length = pssMaskedDbLen) (h_length : h.length = sha256Len)
    (length : bytes.length = rsa2048Len) :
    bytes = maskedDb ++ h ++ [pssTrailerField] ↔
      bytes[rsa2048Len - 1]? = some pssTrailerField ∧ bytes.take pssMaskedDbLen = maskedDb ∧
        (bytes.take (rsa2048Len - 1)).drop pssMaskedDbLen = h := by
  have front : (maskedDb ++ h).length = rsa2048Len - 1 := by
    rw [List.length_append, maskedDb_length, h_length]
    rfl
  have behind : (bytes.drop (rsa2048Len - 1)).drop 1 = [] := by
    rw [List.drop_drop]
    exact List.drop_eq_nil_of_le (by rw [length]; decide)
  have inside : min pssMaskedDbLen (rsa2048Len - 1) = pssMaskedDbLen := by decide
  rw [Emsa.eq_append_iff, front, Emsa.eq_append_iff, maskedDb_length, Emsa.eq_cons_iff,
    List.getElem?_drop, Nat.add_zero, List.take_take, inside, and_iff_left behind]
  exact and_comm

/-- The data block that a mask hides: a masked block gives it back if it begins with a zero bit, and
it is masked again. -/
theorem unmask_iff {maskedDb db mask : List UInt8} (masked_fits : maskedDb.length = mask.length)
    (db_fits : db.length = mask.length) (clear : Emsa.clearLeftmost 1 db = db) :
    maskedDb = Emsa.clearLeftmost 1 (Emsa.xor db mask) ↔
      Emsa.clearLeftmost 1 maskedDb = maskedDb ∧
        Emsa.clearLeftmost 1 (Emsa.xor maskedDb mask) = db := by
  constructor
  · rintro rfl
    refine ⟨Emsa.clearLeftmost_idem _ _, ?_⟩
    rw [Emsa.clearLeftmost_xor 1 db_fits.le, clear]
  · rintro ⟨masked_clear, rfl⟩
    rw [Emsa.clearLeftmost_xor 1 masked_fits.le, masked_clear]

/-- A data block before it is masked. -/
def dataBlock (salt : List UInt8) : List UInt8 := List.replicate pssPsLen 0 ++ [0x01] ++ salt

theorem length_dataBlock (salt : List.Vector UInt8 sha256Len) :
    (dataBlock salt.toList).length = pssMaskedDbLen := by
  rw [dataBlock, List.length_append, salt.toList_length, List.length_append, List.length_replicate]
  rfl

theorem clearLeftmost_dataBlock (salt : List UInt8) :
    Emsa.clearLeftmost 1 (dataBlock salt) = dataBlock salt := by
  have first : pssPsLen = (pssPsLen - 1) + 1 := by decide
  rw [clearLeftmost_eq_self_iff, dataBlock, first, List.replicate_succ]
  exact UInt8.zero_and

/-- When an encoded message is the encoding with a given salt. -/
theorem encodePss_eq_some_iff (message : List UInt8) (salt : List.Vector UInt8 sha256Len)
    {bytes : List UInt8} (length : bytes.length = rsa2048Len) :
    Emsa.encodePss sha256 2047 message salt.toList = some bytes ↔
      let h := (bytes.take (rsa2048Len - 1)).drop pssMaskedDbLen
      bytes[rsa2048Len - 1]? = some pssTrailerField ∧
        Emsa.clearLeftmost 1 (bytes.take pssMaskedDbLen) = bytes.take pssMaskedDbLen ∧
        Emsa.clearLeftmost 1 (Emsa.xor (bytes.take pssMaskedDbLen)
          (Emsa.mgf1 sha256 h pssMaskedDbLen)) = dataBlock salt.toList ∧
        (sha256 (List.replicate 8 0 ++ (sha256 message).toList ++ salt.toList)).toList = h := by
  have taken : (bytes.take pssMaskedDbLen).length = pssMaskedDbLen := by
    rw [List.length_take, length]
    rfl
  have mask_length (h : List UInt8) :
      (Emsa.mgf1 sha256 h pssMaskedDbLen).length = pssMaskedDbLen :=
    Emsa.length_mgf1 sha256 (by decide) h _
  have block_length (h : List UInt8) : (dataBlock salt.toList).length =
      (Emsa.mgf1 sha256 h pssMaskedDbLen).length := by
    rw [length_dataBlock, mask_length]
  have masked_length (h : List UInt8) : (Emsa.clearLeftmost 1 (Emsa.xor (dataBlock salt.toList)
      (Emsa.mgf1 sha256 h pssMaskedDbLen))).length = pssMaskedDbLen := by
    rw [Emsa.length_clearLeftmost, Emsa.length_xor, block_length h, mask_length, Nat.min_self]
  have unmask (h : List UInt8) := unmask_iff (taken.trans (mask_length h).symm) (block_length h)
    (clearLeftmost_dataBlock salt.toList)
  rw [encodePss_eq, Option.some.injEq, eq_comm, ← dataBlock,
    encodedMessage_iff (masked_length _) (List.Vector.toList_length _) length]
  constructor
  · rintro ⟨trailer, masked, hash⟩
    rw [← hash] at masked
    obtain ⟨clear, block⟩ := (unmask _).mp masked
    exact ⟨trailer, clear, block, hash.symm⟩
  · rintro ⟨trailer, clear, block, hash⟩
    refine ⟨trailer, ?_, hash.symm⟩
    rw [hash]
    exact (unmask _).mpr ⟨clear, block⟩

/-- The check of `EMSA-PSS` accepts exactly the encodings of a message, for 2047 bits and a salt of
32 bytes. -/
theorem verifyPss_iff_encoding (message : List UInt8)
    (encodedMessage : List.Vector UInt8 rsa2048Len) :
    verifyPssSha256EncodedMessage sha256 message encodedMessage = .ok () ↔
      ∃ salt : List.Vector UInt8 sha256Len,
        Emsa.encodePss sha256 2047 message salt.toList = some encodedMessage.toList := by
  have length := encodedMessage.toList_length
  rw [verifyPss_eq_ok_iff]
  simp only [encodePss_eq_some_iff sha256 message _ length]
  generalize encodedMessage.toList = bytes at length ⊢
  have head : (bytes.take pssMaskedDbLen).headD 0 = bytes.headD 0 := by
    cases bytes <;> rfl
  have block_length : (Emsa.clearLeftmost 1 (Emsa.xor (bytes.take pssMaskedDbLen)
      (Emsa.mgf1 sha256 ((bytes.take (rsa2048Len - 1)).drop pssMaskedDbLen)
        pssMaskedDbLen))).length = pssMaskedDbLen := by
    rw [Emsa.length_clearLeftmost, Emsa.length_xor, List.length_take, length,
      Emsa.length_mgf1 sha256 (by decide)]
    rfl
  rw [← head, ← clearLeftmost_eq_self_iff]
  constructor
  · rintro ⟨trailer, clear, block, hash⟩
    refine ⟨⟨List.drop (pssPsLen + 1) _, ?_⟩, trailer, clear,
      (dataBlock_iff block_length).mpr ⟨block, rfl⟩, hash⟩
    rw [List.length_drop, block_length]
    rfl
  · rintro ⟨salt, trailer, clear, block, hash⟩
    obtain ⟨checked, salt_eq⟩ := (dataBlock_iff block_length).mp block
    refine ⟨trailer, clear, checked, ?_⟩
    rw [salt_eq]
    exact hash

/-- The object identifier of SHA-256, 2.16.840.1.101.3.4.2.1. -/
def sha256Oid : List UInt8 := [0x60, 0x86, 0x48, 0x01, 0x65, 0x03, 0x04, 0x02, 0x01]

theorem digestInfo_eq (digest : List.Vector UInt8 sha256Len) :
    Emsa.digestInfo sha256Oid digest.toList = sha256DigestInfoPrefix ++ digest.toList := by
  simp only [Emsa.digestInfo, Emsa.tlv, List.length_append, List.length_cons,
    digest.toList_length]
  rfl

/-- `EMSA-PKCS1-v1_5` for SHA-256 and 256 bytes. -/
theorem encodePkcs1v15_eq (message : List UInt8) :
    Emsa.encodePkcs1v15 sha256 sha256Oid rsa2048Len message =
      some (0x00 :: 0x01 :: (List.replicate 202 0xff ++
        (0x00 :: (sha256DigestInfoPrefix ++ (sha256 message).toList)))) := by
  have length : (sha256DigestInfoPrefix ++ (sha256 message).toList).length = 51 := by
    rw [List.length_append, List.Vector.toList_length]
    rfl
  unfold Emsa.encodePkcs1v15
  dsimp only
  rw [digestInfo_eq, length, if_neg (by decide)]
  simp only [List.cons_append, List.nil_append, List.append_assoc]
  rfl

/-- What the check of `EMSA-PKCS1-v1_5` asks of an encoded message. -/
theorem verifyPkcs1v15_eq_ok_iff (message : List UInt8)
    (encodedMessage : List.Vector UInt8 rsa2048Len) :
    verifyPkcs1v15Sha256EncodedMessage sha256 message encodedMessage = .ok () ↔
      let bytes := encodedMessage.toList
      (bytes[0]? = some 0x00 ∧ bytes[1]? = some 0x01) ∧
        (((bytes.take 204).drop 2).all (· = 0xff) = true ∧ bytes[204]? = some 0x00) ∧
        (bytes.take 224).drop 205 = sha256DigestInfoPrefix ∧
        bytes.drop 224 = (sha256 message).toList := by
  simp only [verifyPkcs1v15Sha256EncodedMessage, check_eq_ok_iff, last_check_eq_ok_iff, ne_eq,
    not_not, not_or]
  rfl

/-- The check of `EMSA-PKCS1-v1_5` accepts exactly the encoding of a message. -/
theorem verifyPkcs1v15_iff_encoding (message : List UInt8)
    (encodedMessage : List.Vector UInt8 rsa2048Len) :
    verifyPkcs1v15Sha256EncodedMessage sha256 message encodedMessage = .ok () ↔
      Emsa.encodePkcs1v15 sha256 sha256Oid rsa2048Len message = some encodedMessage.toList := by
  have length := encodedMessage.toList_length
  rw [verifyPkcs1v15_eq_ok_iff, encodePkcs1v15_eq, Option.some.injEq]
  generalize encodedMessage.toList = bytes at length ⊢
  have long : 202 ≤ ((bytes.drop 1).drop 1).length := by
    rw [List.drop_drop, List.length_drop, length]
    decide
  have info_length : sha256DigestInfoPrefix.length = 19 := rfl
  rw [eq_comm (b := bytes), Emsa.eq_cons_iff, Emsa.eq_cons_iff, Emsa.eq_replicate_append_iff long,
    Emsa.eq_cons_iff, Emsa.eq_append_iff]
  simp only [info_length, List.getElem?_drop, List.drop_drop, List.drop_take, and_assoc]

/-- Both checks accept exactly the standard encodings of a message, whatever the hash function. -/
theorem verify_iff_encoding (message : List UInt8)
    (encodedMessage : List.Vector UInt8 rsa2048Len) :
    (verifyPssSha256EncodedMessage sha256 message encodedMessage = .ok () ↔
      ∃ salt : List.Vector UInt8 sha256Len,
        Emsa.encodePss sha256 2047 message salt.toList = some encodedMessage.toList) ∧
    (verifyPkcs1v15Sha256EncodedMessage sha256 message encodedMessage = .ok () ↔
      Emsa.encodePkcs1v15 sha256 sha256Oid rsa2048Len message = some encodedMessage.toList) :=
  ⟨verifyPss_iff_encoding sha256 message encodedMessage,
    verifyPkcs1v15_iff_encoding sha256 message encodedMessage⟩

end RsaVerifyCore
end Motonet
