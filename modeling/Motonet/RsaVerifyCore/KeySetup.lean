import Motonet.RsaVerifyCore.Montgomery

/-!
# Keys and the hardware

The parameters of the hardware are right for an odd modulus of 2048 bits.  The parser asks for 256
bytes and looks at none of them: of the keys that it lets through, those can be used whose modulus
begins with a set bit and ends with one.
-/

namespace Motonet
namespace RsaVerifyCore

/-- The hardware can use a key: its modulus is odd and has 2048 bits, and the parameters are what
Montgomery multiplication needs. -/
structure Usable (key : Rsa2048PublicKey) : Prop where
  odd : ByteString.ofBigEndian key.modulusBe.toList % 2 = 1
  bits : 2 ^ 2047 ≤ ByteString.ofBigEndian key.modulusBe.toList ∧
    ByteString.ofBigEndian key.modulusBe.toList < 2 ^ 2048
  mPrime : computeMPrime (rsa2048BeBytesToLeWords key.modulusBe) *
    (rsa2048BeBytesToLeWords key.modulusBe).headD 0 = -1
  rSquared : Limbs.value (computeRSquaredModN (rsa2048BeBytesToLeWords key.modulusBe)) =
      2 ^ 4096 % ByteString.ofBigEndian key.modulusBe.toList ∧
    Limbs.value (computeRSquaredModN (rsa2048BeBytesToLeWords key.modulusBe)) <
      ByteString.ofBigEndian key.modulusBe.toList

/-- The content octets of the first integer in a public key. -/
def modulusOctets (der : List UInt8) : Except RsaVerifyError (List UInt8) := do
  let sequence ← readSequence der
  let integers ← readIntegers sequence
  .ok integers.1

/-- The last 256 octets of an integer begin with a set bit and end with one. -/
def ProperModulus (octets : List UInt8) : Prop :=
  let modulus := octets.drop (octets.length - rsa2048Len)
  128 ≤ (modulus.headD 0).toNat ∧ (modulus.getLastD 0).toNat % 2 = 1

theorem parseRsa2048Modulus_eq_ok {octets : List UInt8} {modulus : List.Vector UInt8 rsa2048Len}
    (parsed : parseRsa2048Modulus octets = .ok modulus) :
    modulus.toList = octets.drop (octets.length - rsa2048Len) := by
  unfold parseRsa2048Modulus at parsed
  split_ifs at parsed with padded whole
  · obtain rfl := Except.ok.inj parsed
    obtain ⟨-, rest⟩ := padded
    have length : octets.length - rsa2048Len = 1 := by
      rw [List.length_tail] at rest
      simp only [rsa2048Len] at rest ⊢
      omega
    rw [length, List.drop_one]
    rfl
  · obtain rfl := Except.ok.inj parsed
    rw [whole, Nat.sub_self, List.drop_zero]
    rfl

/-- The modulus of a parsed key is in the content octets of the first integer. -/
theorem modulusOctets_of_parsed {der : List UInt8} {key : Rsa2048PublicKey}
    (parsed : parsePkcs1Rsa2048PublicKeyDer der = .ok key) :
    ∃ octets, modulusOctets der = .ok octets ∧
      key.modulusBe.toList = octets.drop (octets.length - rsa2048Len) := by
  obtain ⟨sequence, sequence_read, parsed⟩ := Except.of_bind_eq_ok parsed
  obtain ⟨integers, integers_read, parsed⟩ := Except.of_bind_eq_ok parsed
  obtain ⟨modulus, modulus_parsed, parsed⟩ := Except.of_bind_eq_ok parsed
  obtain ⟨exponent, -, parsed⟩ := Except.of_bind_eq_ok parsed
  obtain rfl := Except.ok.inj parsed
  refine ⟨integers.1, ?_, parseRsa2048Modulus_eq_ok modulus_parsed⟩
  rw [modulusOctets, sequence_read]
  change (readIntegers sequence >>= fun integers => .ok integers.1) = .ok integers.1
  rw [integers_read]
  rfl

theorem ofBigEndian_mod_two (bytes : List UInt8) :
    ByteString.ofBigEndian bytes % 2 = (bytes.getLastD 0).toNat % 2 := by
  obtain rfl | ⟨front, last, rfl⟩ := bytes.eq_nil_or_concat'
  · rfl
  · have one : ByteString.ofBigEndian [last] = last.toNat := by
      simp [ByteString.ofBigEndian]
    rw [ByteString.ofBigEndian_append, one, List.length_singleton, pow_one,
      List.getLastD_concat]
    omega

/-- A byte string spells a number of full length exactly if its first bit is set. -/
theorem le_ofBigEndian_iff (first : UInt8) (rest : List UInt8) :
    128 * 256 ^ rest.length ≤ ByteString.ofBigEndian (first :: rest) ↔ 128 ≤ first.toNat := by
  have low := ByteString.ofBigEndian_lt rest
  rw [ByteString.ofBigEndian]
  constructor
  · intro long
    by_contra short
    have step := Nat.mul_le_mul_right (256 ^ rest.length) (Nat.not_le.mp short)
    rw [Nat.succ_mul] at step
    omega
  · intro set
    exact Nat.le_add_right_of_le (Nat.mul_le_mul_right _ set)

theorem ofBigEndian_lt_of_length {bytes : List UInt8} (length : bytes.length = rsa2048Len) :
    ByteString.ofBigEndian bytes < 2 ^ 2048 := by
  have bound := ByteString.ofBigEndian_lt bytes
  have exponent : 8 * rsa2048Len = 2048 := rfl
  rwa [length, show (256 : ℕ) = 2 ^ 8 from rfl, ← pow_mul, exponent] at bound

theorem le_ofBigEndian_iff_of_length {bytes : List UInt8} (length : bytes.length = rsa2048Len) :
    2 ^ 2047 ≤ ByteString.ofBigEndian bytes ↔ 128 ≤ (bytes.headD 0).toNat := by
  obtain ⟨first, rest, rfl⟩ := List.exists_cons_of_length_eq_add_one length
  have rest_length : rest.length = 255 := Nat.succ.inj length
  have set := le_ofBigEndian_iff first rest
  have exponent : 7 + 8 * 255 = 2047 := rfl
  rwa [rest_length, show (256 : ℕ) = 2 ^ 8 from rfl, ← pow_mul, show (128 : ℕ) = 2 ^ 7 from rfl,
    ← pow_add, exponent] at set

/-- An odd modulus of 2048 bits is all that the hardware needs. -/
theorem usable_iff (key : Rsa2048PublicKey) :
    Usable key ↔ 128 ≤ (key.modulusBe.toList.headD 0).toNat ∧
      (key.modulusBe.toList.getLastD 0).toNat % 2 = 1 := by
  have length := key.modulusBe.toList_length
  have words := value_rsa2048BeBytesToLeWords key.modulusBe
  constructor
  · intro usable
    rw [← le_ofBigEndian_iff_of_length length, ← ofBigEndian_mod_two]
    exact ⟨usable.bits.1, usable.odd⟩
  · rintro ⟨top, odd⟩
    rw [← le_ofBigEndian_iff_of_length length] at top
    rw [← ofBigEndian_mod_two] at odd
    have proper : 1 < Limbs.value (rsa2048BeBytesToLeWords key.modulusBe) := by
      rw [words]
      exact Nat.lt_of_lt_of_le (Nat.one_lt_two_pow (by decide)) top
    have low : ((rsa2048BeBytesToLeWords key.modulusBe).headD 0).toNat % 2 = 1 := by
      rw [Limbs.headD_mod_two, words, odd]
    obtain ⟨-, residue⟩ := computeRSquaredModN_spec (length_rsa2048BeBytesToLeWords _) proper
    rw [words] at residue proper
    refine ⟨odd, ⟨top, ofBigEndian_lt_of_length length⟩, computeMPrime_mul low, residue, ?_⟩
    rw [residue]
    exact Nat.mod_lt _ (Nat.zero_lt_of_lt proper)

/-- Of the keys that are parsed, the hardware can use exactly those whose modulus begins with a set
bit and ends with one. -/
theorem parsed_usable_iff {der : List UInt8} {key : Rsa2048PublicKey}
    (parsed : parsePkcs1Rsa2048PublicKeyDer der = .ok key) :
    Usable key ↔ ∃ octets, modulusOctets der = .ok octets ∧ ProperModulus octets := by
  obtain ⟨octets, read, modulus⟩ := modulusOctets_of_parsed parsed
  rw [usable_iff, modulus]
  constructor
  · exact fun proper => ⟨octets, read, proper⟩
  · rintro ⟨same, reread, proper⟩
    rw [read] at reread
    rwa [← Except.ok.inj reread] at proper

/-- A public key in DER whose modulus has given first and last octets and zeros between them, and
whose exponent is 3. -/
def sampleDer (first last : UInt8) : List UInt8 :=
  [0x30, 0x82, 0x01, 0x07, 0x02, 0x82, 0x01, 0x00, first] ++ List.replicate 254 0 ++
    [last, 0x02, 0x01, 0x03]

/-- The key of such a string. -/
def sampleKey (first last : UInt8) : Rsa2048PublicKey where
  modulusBe := ⟨first :: List.replicate 254 0 ++ [last], by
    rw [List.length_append, List.length_cons, List.length_replicate]
    rfl⟩
  exponentBe := ⟨[0, 0, 0, 3], rfl⟩

theorem parsed_usable_iff_sample : Usable (sampleKey 0x80 0x01) ↔
    ∃ octets, modulusOctets (sampleDer 0x80 0x01) = .ok octets ∧ ProperModulus octets :=
  parsed_usable_iff (by decide +kernel)

/-- An even modulus is parsed, and the number that should be the negated inverse of its lowest word
is not. -/
theorem even_modulus_parsed :
    parsePkcs1Rsa2048PublicKeyDer (sampleDer 0x80 0x00) = .ok (sampleKey 0x80 0x00) ∧
      ByteString.ofBigEndian (sampleKey 0x80 0x00).modulusBe.toList % 2 = 0 ∧
      computeMPrime (rsa2048BeBytesToLeWords (sampleKey 0x80 0x00).modulusBe) *
        (rsa2048BeBytesToLeWords (sampleKey 0x80 0x00).modulusBe).headD 0 ≠ -1 := by
  decide +kernel

end RsaVerifyCore
end Motonet
