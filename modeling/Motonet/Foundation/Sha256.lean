import Motonet.Foundation.ByteString

/-!
# SHA-256

The hash function with words as natural numbers.  A text is filled up to whole blocks, and each
block is mixed into the eight words of the state in 64 rounds.
-/

namespace Sha256

open ByteString

/-- The fractional parts of the cube roots of the first 64 primes. -/
def roundWords : List ℕ :=
  [0x428a2f98, 0x71374491, 0xb5c0fbcf, 0xe9b5dba5, 0x3956c25b, 0x59f111f1, 0x923f82a4, 0xab1c5ed5,
    0xd807aa98, 0x12835b01, 0x243185be, 0x550c7dc3, 0x72be5d74, 0x80deb1fe, 0x9bdc06a7, 0xc19bf174,
    0xe49b69c1, 0xefbe4786, 0x0fc19dc6, 0x240ca1cc, 0x2de92c6f, 0x4a7484aa, 0x5cb0a9dc, 0x76f988da,
    0x983e5152, 0xa831c66d, 0xb00327c8, 0xbf597fc7, 0xc6e00bf3, 0xd5a79147, 0x06ca6351, 0x14292967,
    0x27b70a85, 0x2e1b2138, 0x4d2c6dfc, 0x53380d13, 0x650a7354, 0x766a0abb, 0x81c2c92e, 0x92722c85,
    0xa2bfe8a1, 0xa81a664b, 0xc24b8b70, 0xc76c51a3, 0xd192e819, 0xd6990624, 0xf40e3585, 0x106aa070,
    0x19a4c116, 0x1e376c08, 0x2748774c, 0x34b0bcb5, 0x391c0cb3, 0x4ed8aa4a, 0x5b9cca4f, 0x682e6ff3,
    0x748f82ee, 0x78a5636f, 0x84c87814, 0x8cc70208, 0x90befffa, 0xa4506ceb, 0xbef9a3f7, 0xc67178f2]

/-- The fractional parts of the square roots of the first eight primes. -/
def initialWords : List ℕ :=
  [0x6a09e667, 0xbb67ae85, 0x3c6ef372, 0xa54ff53a, 0x510e527f, 0x9b05688c, 0x1f83d9ab, 0x5be0cd19]

/-- A number is evaluated before it is used, so that no unevaluated sums pile up in a long run. -/
def force {α : Type} (value : ℕ) (next : ℕ → α) : α :=
  match value with
  | 0 => next 0
  | value + 1 => next (value + 1)

def rotateRight (count word : ℕ) : ℕ := word >>> count ||| word <<< (32 - count) % 2 ^ 32

/-- The words of a block are continued; the last one is in front. -/
def schedule : ℕ → List ℕ → List ℕ
  | 0, words => words.reverse
  | count + 1, words =>
      let early := words.getD 14 0
      let late := words.getD 1 0
      let word := words.getD 15 0 + words.getD 6 0 +
        (rotateRight 7 early ^^^ rotateRight 18 early ^^^ early >>> 3) +
        (rotateRight 17 late ^^^ rotateRight 19 late ^^^ late >>> 10)
      force (word % 2 ^ 32) fun word => schedule count (word :: words)

/-- A round for each pair of words, from state to state. -/
def rounds : List (ℕ × ℕ) → List ℕ → List ℕ
  | (constant, word) :: pairs, [a, b, c, d, e, f, g, h] =>
      let first := h + (rotateRight 6 e ^^^ rotateRight 11 e ^^^ rotateRight 25 e) +
        (e &&& f ^^^ (2 ^ 32 - 1 - e) &&& g) + constant + word
      let second := (rotateRight 2 a ^^^ rotateRight 13 a ^^^ rotateRight 22 a) +
        (a &&& b ^^^ a &&& c ^^^ b &&& c)
      force first fun first => force ((first + second) % 2 ^ 32) fun front =>
        force ((d + first) % 2 ^ 32) fun middle => rounds pairs [front, a, b, c, middle, e, f, g]
  | _, state => state

/-- A block is mixed into the state. -/
def compress (state block : List ℕ) : List ℕ :=
  List.zipWith (fun left right => (left + right) % 2 ^ 32) state
    (rounds (roundWords.zip (schedule 48 block.reverse)) state)

/-- A text is followed by a one, by zeros, and by its length in bits. -/
def pad (text : List UInt8) : List UInt8 :=
  text ++ 0x80 :: List.replicate ((119 - text.length % 64) % 64) 0 ++
    toBigEndian 8 (8 * text.length)

/-- The words of a text; the last bytes are left out if they are not a word. -/
def toWords : List UInt8 → List ℕ
  | first :: second :: third :: fourth :: text =>
      ofBigEndian [first, second, third, fourth] :: toWords text
  | _ => []

/-- The blocks of a text are mixed into the state. -/
def absorb : ℕ → List ℕ → List ℕ → List ℕ
  | 0, _, state => state
  | blocks + 1, words, state => absorb blocks (words.drop 16) (compress state (words.take 16))

/-- The digest of a text. -/
def hash (text : List UInt8) : List UInt8 :=
  let words := toWords (pad text)
  (absorb (words.length / 16) words initialWords).flatMap (toBigEndian 4)

@[simp]
theorem force_eq {α : Type} (value : ℕ) (next : ℕ → α) : force value next = next value := by
  cases value <;> rfl

theorem length_rounds (pairs : List (ℕ × ℕ)) {state : List ℕ} (length : state.length = 8) :
    (rounds pairs state).length = 8 := by
  induction pairs generalizing state with
  | nil => exact length
  | cons pair pairs ih =>
      match state, length with
      | [a, b, c, d, e, f, g, h], _ =>
          simp only [rounds, force_eq]
          exact ih rfl

theorem length_compress {state block : List ℕ} (length : state.length = 8) :
    (compress state block).length = 8 := by
  rw [compress, List.length_zipWith, length_rounds _ length, length, Nat.min_self]

theorem length_absorb (blocks : ℕ) (words : List ℕ) {state : List ℕ} (length : state.length = 8) :
    (absorb blocks words state).length = 8 := by
  induction blocks generalizing words state with
  | zero => exact length
  | succ blocks ih => exact ih _ (length_compress length)

@[simp]
theorem length_hash (text : List UInt8) : (hash text).length = 32 := by
  have each : ∀ words : List ℕ, (words.flatMap (toBigEndian 4)).length = 4 * words.length := by
    intro words
    induction words with
    | nil => rfl
    | cons word words ih =>
        rw [List.flatMap_cons, List.length_append, length_toBigEndian, ih, List.length_cons]
        omega
  rw [hash, each, length_absorb _ _ rfl]

/-- The digest of `abc`. -/
example : hash [0x61, 0x62, 0x63] =
    toBigEndian 32 0xba7816bf8f01cfea414140de5dae2223b00361a396177a9cb410ff61f20015ad := by
  decide +kernel

end Sha256
