import Mathlib.Data.Vector.Basic
import Motonet.Foundation.ByteString
import Motonet.Foundation.Chunked

/-!
# Encodings of signed messages

The mask generation function `MGF1`, and the two ways in which RSA signature schemes encode a
message: `EMSA-PSS`, with a salt, and `EMSA-PKCS1-v1_5`, without one.  The hash function is any
function to strings of a fixed length.
-/

namespace Emsa

variable {hLen : ℕ} (hash : List UInt8 → List.Vector UInt8 hLen)

/-- `MGF1`: the hashes of a seed followed by a counter, one after the other, cut off at a length. -/
def mgf1 (seed : List UInt8) (maskLen : ℕ) : List UInt8 :=
  ((List.range (Chunked.count hLen maskLen)).flatMap fun counter =>
    (hash (seed ++ ByteString.toBigEndian 4 counter)).toList).take maskLen

/-- The exclusive or of two byte strings. -/
def xor (left right : List UInt8) : List UInt8 :=
  List.zipWith (· ^^^ ·) left right

/-- Set a number of the leftmost bits of the first byte to zero. -/
def clearLeftmost (bits : ℕ) : List UInt8 → List UInt8
  | [] => []
  | first :: rest => (first &&& (0xff >>> UInt8.ofNat bits)) :: rest

/-- `EMSA-PSS-ENCODE`, for a given salt. -/
def encodePss (emBits : ℕ) (message salt : List UInt8) : Option (List UInt8) :=
  let mHash := hash message
  let emLen := (emBits + 7) / 8
  if emLen < hLen + salt.length + 2 then none
  else
    let h := hash (List.replicate 8 0x00 ++ mHash.toList ++ salt)
    let db : List UInt8 :=
      List.replicate (emLen - salt.length - hLen - 2) 0x00 ++ [0x01] ++ salt
    let dbMask := mgf1 hash h.toList (emLen - hLen - 1)
    let maskedDb := clearLeftmost (8 * emLen - emBits) (xor db dbMask)
    some (maskedDb ++ h.toList ++ [0xbc])

/-- A value in DER, with a length in the short form. -/
def tlv (tag : UInt8) (content : List UInt8) : List UInt8 :=
  tag :: UInt8.ofNat content.length :: content

/-- `DigestInfo` in DER: the object identifier of a hash function, which has no parameters, and a
digest. -/
def digestInfo (hashOid digest : List UInt8) : List UInt8 :=
  tlv 0x30 (tlv 0x30 (tlv 0x06 hashOid ++ tlv 0x05 []) ++ tlv 0x04 digest)

/-- `EMSA-PKCS1-v1_5-ENCODE`. -/
def encodePkcs1v15 (hashOid : List UInt8) (emLen : ℕ) (message : List UInt8) :
    Option (List UInt8) :=
  let t := digestInfo hashOid (hash message).toList
  if emLen < t.length + 11 then none
  else some ([0x00, 0x01] ++ List.replicate (emLen - t.length - 3) 0xff ++ [0x00] ++ t)

/-! ## Layouts -/

theorem eq_cons_iff {byte : UInt8} {bytes rest : List UInt8} :
    bytes = byte :: rest ↔ bytes[0]? = some byte ∧ bytes.drop 1 = rest := by
  cases bytes <;> simp

theorem eq_append_iff {bytes front back : List UInt8} :
    bytes = front ++ back ↔ bytes.take front.length = front ∧ bytes.drop front.length = back := by
  constructor
  · rintro rfl
    simp
  · rintro ⟨first, last⟩
    rw [← List.take_append_drop front.length bytes, first, last]

theorem eq_replicate_append_iff {count : ℕ} {byte : UInt8} {bytes rest : List UInt8}
    (long : count ≤ bytes.length) :
    bytes = List.replicate count byte ++ rest ↔
      (bytes.take count).all (· = byte) = true ∧ bytes.drop count = rest := by
  rw [eq_append_iff, List.length_replicate, List.eq_replicate_iff, List.length_take,
    List.all_eq_true]
  simp only [Nat.min_eq_left long, true_and, decide_eq_true_eq]

/-! ## Lengths and masks -/

theorem length_flatMap_range {f : ℕ → List UInt8} {size : ℕ}
    (fixed : ∀ index, (f index).length = size) (count : ℕ) :
    ((List.range count).flatMap f).length = count * size := by
  induction count with
  | zero => simp
  | succ count ih =>
      rw [List.range_succ, List.flatMap_append, List.length_append, ih, Nat.succ_mul]
      simp [fixed]

@[simp]
theorem length_mgf1 (hash_pos : 0 < hLen) (seed : List UInt8) (maskLen : ℕ) :
    (mgf1 hash seed maskLen).length = maskLen := by
  rw [mgf1, List.length_take, length_flatMap_range fun _ => List.Vector.toList_length _]
  exact Nat.min_eq_left (Chunked.total_le_count_mul hash_pos)

@[simp]
theorem length_clearLeftmost (bits : ℕ) (bytes : List UInt8) :
    (clearLeftmost bits bytes).length = bytes.length := by
  cases bytes <;> rfl

theorem clearLeftmost_idem (bits : ℕ) (bytes : List UInt8) :
    clearLeftmost bits (clearLeftmost bits bytes) = clearLeftmost bits bytes := by
  cases bytes with
  | nil => rfl
  | cons first rest => rw [clearLeftmost, clearLeftmost, UInt8.and_assoc, UInt8.and_self]

theorem length_xor (left right : List UInt8) :
    (xor left right).length = min left.length right.length :=
  List.length_zipWith

/-- Bits that are set to zero may as well be set to zero before. -/
theorem clear_xor_clear (mask left right : UInt8) :
    (((left ^^^ right) &&& mask) ^^^ right) &&& mask = left &&& mask := by
  apply UInt8.toNat_inj.mp
  simp only [UInt8.toNat_and, UInt8.toNat_xor]
  rw [Nat.and_xor_distrib_right, Nat.and_assoc, Nat.and_self, Nat.and_xor_distrib_right,
    Nat.xor_assoc, Nat.xor_self, Nat.xor_zero]

/-- A mask undoes itself. -/
theorem xor_xor_cancel {bytes mask : List UInt8} (fits : bytes.length ≤ mask.length) :
    xor (xor bytes mask) mask = bytes := by
  induction bytes generalizing mask with
  | nil => simp [xor]
  | cons byte bytes ih =>
      cases mask with
      | nil => simp at fits
      | cons first mask =>
          rw [List.length_cons, List.length_cons, Nat.add_le_add_iff_right] at fits
          have rest := ih fits
          simp only [xor, List.zipWith_cons_cons] at rest ⊢
          rw [rest, UInt8.xor_assoc, UInt8.xor_self, UInt8.xor_zero]

/-- Taking a mask off a masked string whose leftmost bits were set to zero gives the string, but
for these bits. -/
theorem clearLeftmost_xor (bits : ℕ) {bytes mask : List UInt8}
    (fits : bytes.length ≤ mask.length) :
    clearLeftmost bits (xor (clearLeftmost bits (xor bytes mask)) mask) =
      clearLeftmost bits bytes := by
  cases bytes with
  | nil => simp [xor, clearLeftmost]
  | cons byte bytes =>
      cases mask with
      | nil => simp at fits
      | cons first mask =>
          rw [List.length_cons, List.length_cons, Nat.add_le_add_iff_right] at fits
          have rest := xor_xor_cancel fits
          simp only [xor, List.zipWith_cons_cons, clearLeftmost] at rest ⊢
          rw [rest, clear_xor_clear]

end Emsa
