import Mathlib.Data.Vector.Basic
import Motonet.Foundation.Fallible

/-!
# Public keys

The parser of RSA public keys: a sequence of two integers in DER, of which the first one has 256
bytes, perhaps behind a zero, and the second one at most four.
-/

namespace Motonet
namespace RsaVerifyCore

open Fallible

/-- `RsaVerifyError`. -/
inductive RsaVerifyError
  | malformedDer
  | unsupportedKey
  | invalidSignature
  deriving DecidableEq, Repr

def rsa2048Len : ℕ := 256

/-- `Rsa2048PublicKey`. -/
structure Rsa2048PublicKey where
  modulusBe : List.Vector UInt8 rsa2048Len
  exponentBe : List.Vector UInt8 4
  deriving DecidableEq

/-- `DerReader`. -/
structure DerReader where
  bytes : List UInt8
  offset : ℕ
  deriving DecidableEq

/-- `core::mem::size_of::<usize>()` on the microcontroller. -/
def sizeOfUsize : ℕ := 4

namespace DerReader

/-- `DerReader::new`. -/
def new (bytes : List UInt8) : DerReader := ⟨bytes, 0⟩

/-- `DerReader::is_empty`. -/
def isEmpty (reader : DerReader) : Bool := reader.offset = reader.bytes.length

/-- `DerReader::read_byte`. -/
def readByte : Fallible RsaVerifyError DerReader UInt8 :=
  ExceptT.mk fun reader =>
    match reader.bytes[reader.offset]? with
    | some byte => (.ok byte, { reader with offset := reader.offset + 1 })
    | none => (.error .malformedDer, reader)

/-- `DerReader::read_len`. -/
def readLen : Fallible RsaVerifyError DerReader ℕ := do
  let first ← readByte
  if first &&& 0x80 = 0 then pure first.toNat
  else
    let lenLen := (first &&& 0x7f).toNat
    ensure (¬ (lenLen = 0 ∨ sizeOfUsize < lenLen)) .malformedDer
    (List.range lenLen).foldlM
      (fun len _ => do
        let byte ← readByte
        pure (((len <<< 8) % 256 ^ sizeOfUsize) ||| byte.toNat)) 0

/-- `DerReader::read_tlv`. -/
def readTlv (tag : UInt8) : Fallible RsaVerifyError DerReader (List UInt8) := do
  let found ← readByte
  ensure (found = tag) .malformedDer
  let len ← readLen
  let reader ← update fun reader => (reader, reader)
  let finish := reader.offset + len
  -- `checked_add`
  ensure (finish < 256 ^ sizeOfUsize) .malformedDer
  ensure (finish ≤ reader.bytes.length) .malformedDer
  update fun reader =>
    ((reader.bytes.take finish).drop reader.offset, { reader with offset := finish })

end DerReader

/-- `parse_rsa2048_modulus`. -/
def parseRsa2048Modulus (integer : List UInt8) :
    Except RsaVerifyError (List.Vector UInt8 rsa2048Len) :=
  if padded : integer.head? = some 0 ∧ integer.tail.length = rsa2048Len then
    .ok ⟨integer.tail, padded.2⟩
  else if whole : integer.length = rsa2048Len then .ok ⟨integer, whole⟩
  else .error .unsupportedKey

/-- `parse_rsa_exponent`. -/
def parseRsaExponent (integer : List UInt8) : Except RsaVerifyError (List.Vector UInt8 4) :=
  if fits : ¬ (integer.isEmpty ∨ 4 < integer.length) then
    let exponent : List.Vector UInt8 4 :=
      ⟨List.replicate (4 - integer.length) 0 ++ integer, by
        rw [List.length_append, List.length_replicate]
        omega⟩
    if exponent.toList = List.replicate 4 0 ∨ exponent.get 3 &&& 1 = 0 then
      .error .unsupportedKey
    else .ok exponent
  else .error .unsupportedKey

/-- The content of the sequence in a public key, if nothing follows the sequence. -/
def readSequence (der : List UInt8) : Except RsaVerifyError (List UInt8) :=
  (exec (do
    let sequence ← DerReader.readTlv 0x30
    let reader ← update fun reader => (reader, reader)
    ensure reader.isEmpty .malformedDer
    pure sequence) (DerReader.new der)).1

/-- The contents of the two integers in the sequence, if nothing follows them. -/
def readIntegers (sequence : List UInt8) : Except RsaVerifyError (List UInt8 × List UInt8) :=
  (exec (do
    let modulusInteger ← DerReader.readTlv 0x02
    let exponentInteger ← DerReader.readTlv 0x02
    let reader ← update fun reader => (reader, reader)
    ensure reader.isEmpty .malformedDer
    pure (modulusInteger, exponentInteger)) (DerReader.new sequence)).1

/-- `parse_pkcs1_rsa2048_public_key_der`. -/
def parsePkcs1Rsa2048PublicKeyDer (der : List UInt8) : Except RsaVerifyError Rsa2048PublicKey := do
  let sequence ← readSequence der
  let integers ← readIntegers sequence
  let modulus ← parseRsa2048Modulus integers.1
  let exponent ← parseRsaExponent integers.2
  .ok { modulusBe := modulus, exponentBe := exponent }

end RsaVerifyCore
end Motonet
