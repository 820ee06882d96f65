import Mathlib.Data.BitVec
import Mathlib.Data.List.Basic
import Mathlib.Data.UInt
import Mathlib.Data.Vector.Basic
import Mathlib.Tactic.Common

/-!
# Counter mode and HMAC

Counter mode turns a block cipher into a stream cipher: the text is XORed with the encryptions of
successive counter values, and the counter is a machine word, so it wraps.  HMAC turns a hash
function into a message authentication code.
-/

namespace CounterMode

variable {width : ℕ}

/-- The counter value that encrypts block `block` of a text started at `initial`. -/
def counterAt (initial : BitVec width) (block : ℕ) : BitVec width :=
  initial + BitVec.ofNat width block

/-- Keystream byte at a position of the text. -/
def keystreamByte (blockSize : ℕ) (encrypt : BitVec width → List UInt8) (initial : BitVec width)
    (position : ℕ) : UInt8 :=
  (encrypt (counterAt initial (position / blockSize))).getD (position % blockSize) 0

/-- Encrypt or decrypt a text. -/
def crypt (blockSize : ℕ) (encrypt : BitVec width → List UInt8) (initial : BitVec width)
    (text : List UInt8) : List UInt8 :=
  text.mapIdx fun position byte => byte ^^^ keystreamByte blockSize encrypt initial position

@[simp]
theorem length_crypt (blockSize : ℕ) (encrypt : BitVec width → List UInt8)
    (initial : BitVec width) (text : List UInt8) :
    (crypt blockSize encrypt initial text).length = text.length := by
  simp [crypt]

/-- Applying the keystream twice restores the text. -/
@[simp]
theorem crypt_crypt (blockSize : ℕ) (encrypt : BitVec width → List UInt8)
    (initial : BitVec width) (text : List UInt8) :
    crypt blockSize encrypt initial (crypt blockSize encrypt initial text) = text := by
  apply List.ext_getElem
  · simp
  · intro position _ _
    simp only [crypt, List.getElem_mapIdx]
    rw [UInt8.xor_assoc, UInt8.xor_self, UInt8.xor_zero]

/-- Block numbers below the counter's range have different counter values. -/
theorem counterAt_injective {initial : BitVec width} {i j : ℕ} (i_bound : i < 2 ^ width)
    (j_bound : j < 2 ^ width) (same : counterAt initial i = counterAt initial j) : i = j := by
  have words : BitVec.ofNat width i = BitVec.ofNat width j := by
    simpa [counterAt] using same
  have values := congrArg BitVec.toNat words
  rwa [BitVec.toNat_ofNat, BitVec.toNat_ofNat, Nat.mod_eq_of_lt i_bound,
    Nat.mod_eq_of_lt j_bound] at values

end CounterMode

namespace Hmac

/-- The key, filled up with zeros to the hash function's block size and XORed with a pad byte. -/
def padKey (blockSize : ℕ) (pad : UInt8) (key : List UInt8) : List UInt8 :=
  (key ++ List.replicate (blockSize - key.length) 0).map (pad ^^^ ·)

/-- HMAC for keys that are not longer than the block size. -/
def mac {size : ℕ} (hash : List UInt8 → List.Vector UInt8 size) (blockSize : ℕ)
    (key message : List UInt8) : List.Vector UInt8 size :=
  hash (padKey blockSize 0x5c key ++ (hash (padKey blockSize 0x36 key ++ message)).toList)

end Hmac
