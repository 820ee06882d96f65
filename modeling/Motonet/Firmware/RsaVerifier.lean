import Motonet.Foundation.Rsassa
import Motonet.RsaVerifyCore.EncodedMessage
import Motonet.RsaVerifyCore.Parameters

/-!
# Signatures and the hardware

The verifier of TLS signatures hands the key and the signature to the RSA accelerator and checks the
encoded message that comes back.  The accelerator reduces what it is given, and nothing compares the
signature with the modulus before.
-/

namespace Motonet
namespace Firmware

open RsaVerifyCore

/-- `TlsError`, as far as the verifier returns it. -/
inductive TlsError
  | decodeError
  | invalidCertificate
  | invalidSignature
  | invalidSignatureScheme
  deriving DecidableEq, Repr

/-- `map_rsa_error`. -/
def mapRsaError : RsaVerifyError → TlsError
  | .malformedDer | .unsupportedKey => .invalidCertificate
  | .invalidSignature => .invalidSignature

/-- `rsa2048_exponent_be_to_le_words`. -/
def rsa2048ExponentBeToLeWords (bytes : List.Vector UInt8 4) : List UInt32 :=
  UInt32.ofNat (ByteString.ofBigEndian bytes.toList) :: List.replicate 63 0

/-- The words of an exponentiation. -/
structure Operands where
  exponent : List UInt32
  modulus : List UInt32
  mPrime : UInt32
  base : List UInt32
  rSquared : List UInt32

/-- `RsaModularExponentiation`, from its operands to the words that are read back. -/
abbrev Accelerator := Operands → List.Vector UInt32 64

/-- The words are a power of the base modulo the modulus, if that is odd and the parameters suit
it. -/
def Accelerator.Exponentiates (accelerator : Accelerator) : Prop :=
  ∀ operands : Operands, operands.exponent.length = 64 → operands.modulus.length = 64 →
    operands.base.length = 64 → operands.rSquared.length = 64 →
    Limbs.value operands.modulus % 2 = 1 → operands.mPrime * operands.modulus.headD 0 = -1 →
    Limbs.value operands.rSquared ≡ 2 ^ 4096 [MOD Limbs.value operands.modulus] →
      Limbs.value (accelerator operands).toList =
        Limbs.value operands.base ^ Limbs.value operands.exponent % Limbs.value operands.modulus

variable (accelerator : Accelerator)

/-- `rsa_public_operation_2048`. -/
def rsaPublicOperation2048 (publicKeyDer signature : List UInt8) :
    Except TlsError (List.Vector UInt8 rsa2048Len) := do
  let publicKey ← (parsePkcs1Rsa2048PublicKeyDer publicKeyDer).mapError mapRsaError
  if fits : signature.length = rsa2048Len then
    let modulus := rsa2048BeBytesToLeWords publicKey.modulusBe
    let exponent := rsa2048ExponentBeToLeWords publicKey.exponentBe
    let base := rsa2048BeBytesToLeWords ⟨signature, fits⟩
    let mPrime := computeMPrime modulus
    let rSquared := computeRSquaredModN modulus
    let result := accelerator ⟨exponent, modulus, mPrime, base, rSquared⟩
    .ok ⟨rsa2048LeWordsToBeBytes result.toList,
      (ofBigEndian_rsa2048LeWordsToBeBytes result.toList_length).1⟩
  else .error .decodeError

/-- `Esp32RsaVerifier::verify_sha256_signature`. -/
def verifySha256Signature (publicKeyDer message signature : List UInt8)
    (verifyEncodedMessage :
      List UInt8 → List.Vector UInt8 rsa2048Len → Except RsaVerifyError Unit) :
    Except TlsError Unit := do
  let encodedMessage ← rsaPublicOperation2048 accelerator publicKeyDer signature
  (verifyEncodedMessage message encodedMessage).mapError mapRsaError

variable (sha256 : List UInt8 → List.Vector UInt8 sha256Len)

/-- `verify_pkcs1v15_sha256`. -/
def verifyPkcs1v15Sha256 (publicKeyDer message signature : List UInt8) : Except TlsError Unit :=
  verifySha256Signature accelerator publicKeyDer message signature
    (verifyPkcs1v15Sha256EncodedMessage sha256)

/-- `verify_pss_sha256`. -/
def verifyPssSha256 (publicKeyDer message signature : List UInt8) : Except TlsError Unit :=
  verifySha256Signature accelerator publicKeyDer message signature
    (verifyPssSha256EncodedMessage sha256)

/-! ## The operation -/

theorem value_rsa2048ExponentBeToLeWords (bytes : List.Vector UInt8 4) :
    (rsa2048ExponentBeToLeWords bytes).length = 64 ∧
      Limbs.value (rsa2048ExponentBeToLeWords bytes) = ByteString.ofBigEndian bytes.toList := by
  have bound := ByteString.ofBigEndian_lt bytes.toList
  rw [bytes.toList_length] at bound
  have zeros : Limbs.value (List.replicate 63 0) = 0 := by decide
  refine ⟨rfl, ?_⟩
  rw [rsa2048ExponentBeToLeWords, Limbs.value, zeros, UInt32.toNat_ofNat_of_lt' bound]
  rfl

/-- The last residue on the way to the squared radix suits the hardware even for the modulus one. -/
theorem computeRSquaredModN_modEq {modulus : List UInt32} (length : modulus.length = 64)
    (odd : Limbs.value modulus % 2 = 1) :
    (computeRSquaredModN modulus).length = 64 ∧
      Limbs.value (computeRSquaredModN modulus) ≡ 2 ^ 4096 [MOD Limbs.value modulus] := by
  by_cases proper : 1 < Limbs.value modulus
  · obtain ⟨same, residue⟩ := computeRSquaredModN_spec length proper
    refine ⟨same, ?_⟩
    rw [residue]
    exact Nat.mod_modEq _ _
  · have one : Limbs.value modulus = 1 := by omega
    refine ⟨length_powerResidue length 4096, ?_⟩
    rw [one]
    exact Nat.modEq_one

theorem Accelerator.Exponentiates.bytes {accelerator : Accelerator}
    (exponentiates : accelerator.Exponentiates) (operands : Operands)
    (exponent : operands.exponent.length = 64) (modulus : operands.modulus.length = 64)
    (base : operands.base.length = 64) (rSquared : operands.rSquared.length = 64)
    (odd : Limbs.value operands.modulus % 2 = 1)
    (inverse : operands.mPrime * operands.modulus.headD 0 = -1)
    (residue : Limbs.value operands.rSquared ≡ 2 ^ 4096 [MOD Limbs.value operands.modulus]) :
    rsa2048LeWordsToBeBytes (accelerator operands).toList = ByteString.toBigEndian rsa2048Len
      (Limbs.value operands.base ^ Limbs.value operands.exponent %
        Limbs.value operands.modulus) := by
  have power := exponentiates operands exponent modulus base rSquared odd inverse residue
  obtain ⟨length, spelled⟩ :=
    ofBigEndian_rsa2048LeWordsToBeBytes (accelerator operands).toList_length
  rw [← power, ← spelled, ← length, ByteString.toBigEndian_ofBigEndian]

theorem rsaPublicOperation2048_of_parsed {publicKeyDer signature : List UInt8}
    {key : Rsa2048PublicKey} (parsed : parsePkcs1Rsa2048PublicKeyDer publicKeyDer = .ok key)
    (length : signature.length = rsa2048Len) :
    rsaPublicOperation2048 accelerator publicKeyDer signature =
      .ok ⟨rsa2048LeWordsToBeBytes (accelerator
        ⟨rsa2048ExponentBeToLeWords key.exponentBe, rsa2048BeBytesToLeWords key.modulusBe,
          computeMPrime (rsa2048BeBytesToLeWords key.modulusBe),
          rsa2048BeBytesToLeWords ⟨signature, length⟩,
          computeRSquaredModN (rsa2048BeBytesToLeWords key.modulusBe)⟩).toList,
        (ofBigEndian_rsa2048LeWordsToBeBytes (List.Vector.toList_length _)).1⟩ := by
  rw [rsaPublicOperation2048, parsed]
  exact dif_pos length

/-- Whatever the signature spells, its power modulo the modulus comes back. -/
theorem rsaPublicOperation2048_eq_ok {accelerator : Accelerator}
    (exponentiates : accelerator.Exponentiates) {publicKeyDer signature : List UInt8}
    {key : Rsa2048PublicKey} (parsed : parsePkcs1Rsa2048PublicKeyDer publicKeyDer = .ok key)
    (odd : ByteString.ofBigEndian key.modulusBe.toList % 2 = 1)
    (length : signature.length = rsa2048Len) :
    ∃ encodedMessage, rsaPublicOperation2048 accelerator publicKeyDer signature =
        .ok encodedMessage ∧
      encodedMessage.toList = ByteString.toBigEndian rsa2048Len
        (ByteString.ofBigEndian signature ^ ByteString.ofBigEndian key.exponentBe.toList %
          ByteString.ofBigEndian key.modulusBe.toList) := by
  have exponent := value_rsa2048ExponentBeToLeWords key.exponentBe
  have modulus := value_rsa2048BeBytesToLeWords key.modulusBe
  have modulus_length := length_rsa2048BeBytesToLeWords key.modulusBe
  have base := value_rsa2048BeBytesToLeWords ⟨signature, length⟩
  have base_length := length_rsa2048BeBytesToLeWords ⟨signature, length⟩
  rw [← modulus] at odd
  have low : ((rsa2048BeBytesToLeWords key.modulusBe).headD 0).toNat % 2 = 1 := by
    rw [Limbs.headD_mod_two, odd]
  have mPrime := computeMPrime_mul low
  obtain ⟨rSquared_length, rSquared⟩ := computeRSquaredModN_modEq modulus_length odd
  have operation := rsaPublicOperation2048_of_parsed accelerator parsed length
  generalize computeRSquaredModN (rsa2048BeBytesToLeWords key.modulusBe) = residue at *
  have bytes := exponentiates.bytes
    { exponent := rsa2048ExponentBeToLeWords key.exponentBe
      modulus := rsa2048BeBytesToLeWords key.modulusBe
      mPrime := computeMPrime (rsa2048BeBytesToLeWords key.modulusBe)
      base := rsa2048BeBytesToLeWords ⟨signature, length⟩
      rSquared := residue } exponent.1 modulus_length base_length rSquared_length odd mPrime
    rSquared
  simp only [exponent.2, modulus, base] at bytes
  exact ⟨_, operation, bytes⟩

/-! ## Signatures that are not residues -/

section Verified

variable {accelerator} {publicKeyDer signature : List UInt8} {key : Rsa2048PublicKey}

theorem mapError_eq_ok_iff {checked : Except RsaVerifyError Unit} :
    checked.mapError mapRsaError = .ok () ↔ checked = .ok () := by
  cases checked with
  | error error => exact ⟨nofun, nofun⟩
  | ok => exact ⟨fun _ => rfl, fun _ => rfl⟩

theorem verifySha256Signature_eq_ok_iff (exponentiates : accelerator.Exponentiates)
    (parsed : parsePkcs1Rsa2048PublicKeyDer publicKeyDer = .ok key)
    (odd : ByteString.ofBigEndian key.modulusBe.toList % 2 = 1)
    (length : signature.length = rsa2048Len) (message : List UInt8)
    {verifyEncodedMessage :
      List UInt8 → List.Vector UInt8 rsa2048Len → Except RsaVerifyError Unit}
    (encodes : List UInt8 → Prop) (checks : ∀ encodedMessage : List.Vector UInt8 rsa2048Len,
      verifyEncodedMessage message encodedMessage = .ok () ↔ encodes encodedMessage.toList) :
    verifySha256Signature accelerator publicKeyDer message signature verifyEncodedMessage =
        .ok () ↔
      encodes (ByteString.toBigEndian rsa2048Len
        (ByteString.ofBigEndian signature ^ ByteString.ofBigEndian key.exponentBe.toList %
          ByteString.ofBigEndian key.modulusBe.toList)) := by
  obtain ⟨encodedMessage, operation, bytes⟩ :=
    rsaPublicOperation2048_eq_ok exponentiates parsed odd length
  rw [← bytes, ← checks, ← mapError_eq_ok_iff, verifySha256Signature, operation]
  rfl

/-- `verify_pss_sha256` accepts the numbers whose residues sign the message. -/
theorem verifyPssSha256_iff (exponentiates : accelerator.Exponentiates)
    (parsed : parsePkcs1Rsa2048PublicKeyDer publicKeyDer = .ok key)
    (odd : ByteString.ofBigEndian key.modulusBe.toList % 2 = 1)
    (length : signature.length = rsa2048Len) (message : List UInt8) :
    verifyPssSha256 accelerator sha256 publicKeyDer message signature = .ok () ↔
      Rsassa.SignsPss sha256 rsa2048Len 2047 (ByteString.ofBigEndian key.modulusBe.toList)
        (ByteString.ofBigEndian key.exponentBe.toList) message
        (ByteString.ofBigEndian signature % ByteString.ofBigEndian key.modulusBe.toList) := by
  rw [Rsassa.signsPss_mod_iff sha256 (by omega), verifyPssSha256,
    verifySha256Signature_eq_ok_iff exponentiates parsed odd length message
      (fun bytes => ∃ salt : List.Vector UInt8 sha256Len,
        Emsa.encodePss sha256 2047 message salt.toList = some bytes)
      (verifyPss_iff_encoding sha256 message)]

/-- `verify_pkcs1v15_sha256` accepts the numbers whose residues sign the message. -/
theorem verifyPkcs1v15Sha256_iff (exponentiates : accelerator.Exponentiates)
    (parsed : parsePkcs1Rsa2048PublicKeyDer publicKeyDer = .ok key)
    (odd : ByteString.ofBigEndian key.modulusBe.toList % 2 = 1)
    (length : signature.length = rsa2048Len) (message : List UInt8) :
    verifyPkcs1v15Sha256 accelerator sha256 publicKeyDer message signature = .ok () ↔
      Rsassa.SignsPkcs1v15 sha256 sha256Oid rsa2048Len
        (ByteString.ofBigEndian key.modulusBe.toList)
        (ByteString.ofBigEndian key.exponentBe.toList) message
        (ByteString.ofBigEndian signature % ByteString.ofBigEndian key.modulusBe.toList) := by
  rw [Rsassa.signsPkcs1v15_mod_iff sha256 (by omega), verifyPkcs1v15Sha256,
    verifySha256Signature_eq_ok_iff exponentiates parsed odd length message
      (fun bytes => Emsa.encodePkcs1v15 sha256 sha256Oid rsa2048Len message = some bytes)
      (verifyPkcs1v15_iff_encoding sha256 message)]

/-- Where acceptance depends on the residue only, a number out of range is refused, and two numbers
of one residue are not both accepted, exactly if the residue is not accepted. -/
theorem refused_iff_of_residue {accepted : List UInt8 → Prop} {signs : ℕ → Prop} {modulus : ℕ}
    (residue : ∀ signature : List UInt8, signature.length = rsa2048Len →
      (accepted signature ↔ signs (ByteString.ofBigEndian signature % modulus)))
    (length : signature.length = rsa2048Len) :
    ((modulus ≤ ByteString.ofBigEndian signature → ¬ accepted signature) ↔
      ByteString.ofBigEndian signature < modulus ∨
        ¬ signs (ByteString.ofBigEndian signature % modulus)) ∧
    ∀ other : List UInt8, other.length = rsa2048Len →
      ByteString.ofBigEndian other ≡ ByteString.ofBigEndian signature [MOD modulus] →
        (¬ (accepted signature ∧ accepted other) ↔
          ¬ signs (ByteString.ofBigEndian signature % modulus)) := by
  constructor
  · rw [residue signature length, ← Nat.not_le]
    exact Decidable.imp_iff_not_or
  · intro other other_length congruent
    rw [residue signature length, residue other other_length, congruent, and_self]

/-- A signature that is not below the modulus is refused, and two signatures of one residue are not
both accepted, exactly if their residue does not sign the message. -/
theorem out_of_range_refused_iff (exponentiates : accelerator.Exponentiates)
    (parsed : parsePkcs1Rsa2048PublicKeyDer publicKeyDer = .ok key)
    (odd : ByteString.ofBigEndian key.modulusBe.toList % 2 = 1)
    (length : signature.length = rsa2048Len) (message : List UInt8) :
    let modulus := ByteString.ofBigEndian key.modulusBe.toList
    let exponent := ByteString.ofBigEndian key.exponentBe.toList
    let number := ByteString.ofBigEndian signature
    let acceptedPss := fun signature =>
      verifyPssSha256 accelerator sha256 publicKeyDer message signature = .ok ()
    let acceptedPkcs1v15 := fun signature =>
      verifyPkcs1v15Sha256 accelerator sha256 publicKeyDer message signature = .ok ()
    (((modulus ≤ number → ¬ acceptedPss signature) ↔ number < modulus ∨
        ¬ Rsassa.SignsPss sha256 rsa2048Len 2047 modulus exponent message (number % modulus)) ∧
      ∀ other, other.length = rsa2048Len →
        ByteString.ofBigEndian other ≡ number [MOD modulus] →
          (¬ (acceptedPss signature ∧ acceptedPss other) ↔
            ¬ Rsassa.SignsPss sha256 rsa2048Len 2047 modulus exponent message
              (number % modulus))) ∧
    ((modulus ≤ number → ¬ acceptedPkcs1v15 signature) ↔ number < modulus ∨
        ¬ Rsassa.SignsPkcs1v15 sha256 sha256Oid rsa2048Len modulus exponent message
          (number % modulus)) ∧
      ∀ other, other.length = rsa2048Len →
        ByteString.ofBigEndian other ≡ number [MOD modulus] →
          (¬ (acceptedPkcs1v15 signature ∧ acceptedPkcs1v15 other) ↔
            ¬ Rsassa.SignsPkcs1v15 sha256 sha256Oid rsa2048Len modulus exponent message
              (number % modulus)) :=
  ⟨refused_iff_of_residue (fun _ same =>
      verifyPssSha256_iff sha256 exponentiates parsed odd same message) length,
    refused_iff_of_residue (fun _ same =>
      verifyPkcs1v15Sha256_iff sha256 exponentiates parsed odd same message) length⟩

end Verified

/-- An accelerator that computes the power. -/
def exactAccelerator : Accelerator := fun operands =>
  ⟨Limbs.ofNat 64 (Limbs.value operands.base ^ Limbs.value operands.exponent %
    Limbs.value operands.modulus), Limbs.length_ofNat _ _⟩

theorem exactAccelerator_exponentiates : exactAccelerator.Exponentiates := by
  intro operands _ length _ _ odd _ _
  have bound := Limbs.value_lt operands.modulus
  rw [length] at bound
  refine Limbs.value_ofNat (Nat.lt_trans (Nat.mod_lt _ ?_) bound)
  omega

/-- The digest of `abc`. -/
def sampleDigest : List.Vector UInt8 sha256Len :=
  ⟨[0xba, 0x78, 0x16, 0xbf, 0x8f, 0x01, 0xcf, 0xea, 0x41, 0x41, 0x40, 0xde, 0x5d, 0xae, 0x22, 0x23,
    0xb0, 0x03, 0x61, 0xa3, 0x96, 0x17, 0x7a, 0x9c, 0xb4, 0x10, 0xff, 0x61, 0xf2, 0x00, 0x15, 0xad],
    rfl⟩

def sampleMessage : List UInt8 := [0x61, 0x62, 0x63]

/-- A hash function with this digest. -/
def sampleHash (message : List UInt8) : List.Vector UInt8 sha256Len :=
  if message = sampleMessage then sampleDigest else .replicate sha256Len 0

/-- A signature of `abc` for the exponent 3 and the modulus below. -/
def sampleSignature : ℕ := 3 * 2 ^ 681

/-- What the cube of the signature exceeds the encoded message by. -/
def sampleModulus : ℕ :=
  sampleSignature ^ 3 - ByteString.ofBigEndian ([0x00, 0x01] ++ List.replicate 202 0xff ++
    [0x00] ++ sha256DigestInfoPrefix ++ sampleDigest.toList)

def sampleKeyDer : List UInt8 :=
  [0x30, 0x82, 0x01, 0x08, 0x02, 0x82, 0x01, 0x01, 0x00] ++
    ByteString.toBigEndian rsa2048Len sampleModulus ++ [0x02, 0x01, 0x03]

def samplePublicKey : Rsa2048PublicKey where
  modulusBe := ⟨ByteString.toBigEndian rsa2048Len sampleModulus,
    ByteString.length_toBigEndian _ _⟩
  exponentBe := .cons 0 (.cons 0 (.cons 0 (.cons 3 .nil)))

theorem sampleKeyDer_parsed :
    parsePkcs1Rsa2048PublicKeyDer sampleKeyDer = .ok samplePublicKey := by
  decide +kernel

theorem out_of_range_refused_iff_sample :
    let signature := ByteString.toBigEndian rsa2048Len sampleSignature
    let number := ByteString.ofBigEndian signature
    let modulus := ByteString.ofBigEndian samplePublicKey.modulusBe.toList
    (modulus ≤ number → ¬ verifyPkcs1v15Sha256 exactAccelerator sampleHash sampleKeyDer
      sampleMessage signature = .ok ()) ↔ number < modulus ∨
        ¬ Rsassa.SignsPkcs1v15 sampleHash sha256Oid rsa2048Len modulus
          (ByteString.ofBigEndian samplePublicKey.exponentBe.toList) sampleMessage
          (number % modulus) :=
  (out_of_range_refused_iff sampleHash exactAccelerator_exponentiates sampleKeyDer_parsed
    (by decide +kernel) (ByteString.length_toBigEndian _ _) sampleMessage).2.1

/-- The signature and its sum with the modulus, which is out of range, are both accepted. -/
theorem out_of_range_accepted :
    let signature := ByteString.toBigEndian rsa2048Len sampleSignature
    let malleated := ByteString.toBigEndian rsa2048Len (sampleSignature + sampleModulus)
    parsePkcs1Rsa2048PublicKeyDer sampleKeyDer = .ok samplePublicKey ∧
      ByteString.ofBigEndian samplePublicKey.modulusBe.toList % 2 = 1 ∧
      exactAccelerator.Exponentiates ∧
      ByteString.ofBigEndian samplePublicKey.modulusBe.toList ≤
        ByteString.ofBigEndian malleated ∧ malleated ≠ signature ∧
      verifyPkcs1v15Sha256 exactAccelerator sampleHash sampleKeyDer sampleMessage signature =
        .ok () ∧
      verifyPkcs1v15Sha256 exactAccelerator sampleHash sampleKeyDer sampleMessage malleated =
        .ok () := by
  refine ⟨sampleKeyDer_parsed, by decide +kernel, exactAccelerator_exponentiates,
    by decide +kernel, by decide +kernel, by decide +kernel, by decide +kernel⟩

end Firmware
end Motonet
