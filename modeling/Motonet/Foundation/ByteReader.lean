import Motonet.Foundation.Fallible

/-!
# Buffered readers of bytes

A reader hands out a stream of bytes in pieces of its own choosing.  What is behind a reader is its
contents: the bytes that are still to come, and whether they end with the stream or with an error.
`Reads` and `Fills` relate the operations to the contents, and a program that reads through them
sees the contents and not the pieces.
-/

namespace ByteReader

open Fallible

/-- Readers that copy bytes out. -/
class Read (ε : outParam Type) (σ : Type) where
  /-- Read at most a number of bytes; no bytes mean the end of the stream. -/
  read : ℕ → Fallible ε σ (List UInt8)

/-- Readers that show their buffer. -/
class BufRead (ε : outParam Type) (σ : Type) where
  /-- The buffered bytes, after more have been waited for if there were none. -/
  fillBuf : Fallible ε σ (List UInt8)
  /-- Drop bytes that `fillBuf` has shown. -/
  consume : ℕ → σ → σ

variable {ε δ σ : Type}

/-- The bytes that are still to come, and what comes after them. -/
structure Contents (ε : Type) where
  bytes : List UInt8
  ending : Except ε Unit
  deriving DecidableEq

namespace Contents

def drop (count : ℕ) (contents : Contents ε) : Contents ε :=
  { contents with bytes := contents.bytes.drop count }

/-- Bytes in front of contents. -/
def prepend (bytes : List UInt8) (contents : Contents ε) : Contents ε :=
  { contents with bytes := bytes ++ contents.bytes }

@[simp]
theorem prepend_nil (contents : Contents ε) : contents.prepend [] = contents := rfl

theorem prepend_append (front back : List UInt8) (contents : Contents ε) :
    contents.prepend (front ++ back) = (contents.prepend back).prepend front := by
  rw [prepend, prepend, prepend, List.append_assoc]

theorem drop_prepend {bytes : List UInt8} {count : ℕ} (length : bytes.length = count)
    (contents : Contents ε) : (contents.prepend bytes).drop count = contents := by
  rw [drop, prepend, ← length, List.drop_left]

theorem prepend_take_drop (count : ℕ) (contents : Contents ε) :
    (contents.drop count).prepend (contents.bytes.take count) = contents := by
  rw [drop, prepend, List.take_append_drop]

end Contents

/-- What is read are the next bytes; nothing is read only at the end. -/
structure Reads [Read ε σ] (contents : σ → Contents ε) : Prop where
  returned : ∀ {count : ℕ} {state after : σ} {bytes : List UInt8},
    exec (Read.read count) state = (.ok bytes, after) →
      bytes.length ≤ count ∧ contents state = (contents after).prepend bytes ∧
        (0 < count → bytes = [] → contents state = ⟨[], .ok ()⟩)
  failed : ∀ {count : ℕ} {state after : σ} {error : ε}, 0 < count →
    exec (Read.read count) state = (.error error, after) → contents state = ⟨[], .error error⟩

/-- What is shown are the next bytes, and nothing is shown only at the end; what is consumed of
them is gone. -/
structure Fills [BufRead ε σ] (contents : σ → Contents ε) : Prop where
  returned : ∀ {state after : σ} {bytes : List UInt8},
    exec BufRead.fillBuf state = (.ok bytes, after) →
      contents after = contents state ∧ bytes <+: (contents state).bytes ∧
        (bytes = [] → contents state = ⟨[], .ok ()⟩)
  failed : ∀ {state after : σ} {error : ε},
    exec BufRead.fillBuf state = (.error error, after) → contents state = ⟨[], .error error⟩
  consumed : ∀ {state after : σ} {bytes : List UInt8} {count : ℕ},
    exec BufRead.fillBuf state = (.ok bytes, after) → count ≤ bytes.length →
      contents (BufRead.consume count after) = (contents state).drop count

/-! ## Reading an exact number of bytes -/

/-- Read a number of bytes through the buffer, with one error for all that can go wrong; as many
turns suffice as bytes are missing. -/
def readExactTurns [BufRead ε σ] (error : δ) : ℕ → ℕ → Fallible δ σ (List UInt8)
  | _, 0 => pure []
  | 0, _ + 1 => throw error
  | turns + 1, missing + 1 => do
      let available ← mapError (fun _ => error) BufRead.fillBuf
      ensure (available ≠ []) error
      let copy := min available.length (missing + 1)
      update fun state => ((), BufRead.consume copy state)
      let rest ← readExactTurns error turns (missing + 1 - copy)
      return available.take copy ++ rest

/-- Read an exact number of bytes through the buffer. -/
def readExact [BufRead ε σ] (error : δ) (count : ℕ) : Fallible δ σ (List UInt8) :=
  readExactTurns error count count

/-- A number of bytes from the contents, if there are as many. -/
def Contents.takeExactly (error : δ) (count : ℕ) (contents : Contents ε) :
    Except δ (List UInt8) :=
  if count ≤ contents.bytes.length then .ok (contents.bytes.take count) else .error error

theorem Contents.takeExactly_prepend {error : δ} {front : List UInt8} {count : ℕ}
    (longer : front.length ≤ count) (contents : Contents ε) :
    (contents.prepend front).takeExactly error count =
      (contents.takeExactly error (count - front.length)).map (front ++ ·) := by
  simp only [takeExactly, prepend, List.length_append]
  by_cases enough : count ≤ front.length + contents.bytes.length
  · rw [if_pos enough, if_pos (by omega), List.take_append, List.take_of_length_le longer]
    rfl
  · rw [if_neg enough, if_neg (by omega)]
    rfl

/-- Reading through the buffer returns the next bytes if there are enough of them, whatever the
pieces are in which the buffer shows them. -/
theorem Fills.readExactTurns_spec [BufRead ε σ] {contents : σ → Contents ε}
    (fills : Fills contents) (error : δ) {turns missing : ℕ} (enough : missing ≤ turns)
    (state : σ) :
    (exec (readExactTurns error turns missing) state).1 =
        (contents state).takeExactly error missing ∧
      ((exec (readExactTurns error turns missing) state).1.isOk →
        contents (exec (readExactTurns error turns missing) state).2 =
          (contents state).drop missing) := by
  induction turns generalizing missing state with
  | zero =>
      obtain rfl : missing = 0 := Nat.le_zero.mp enough
      exact ⟨rfl, fun _ => rfl⟩
  | succ turns ih =>
      cases missing with
      | zero => exact ⟨rfl, fun _ => rfl⟩
      | succ missing =>
          rw [readExactTurns, exec_bind, exec_mapError]
          rcases filled : exec BufRead.fillBuf state with ⟨outcome | available, middle⟩
          · rw [fills.failed filled]
            exact ⟨rfl, fun impossible => Bool.noConfusion impossible⟩
          · obtain ⟨-, ⟨rest, shown⟩, end_of⟩ := fills.returned filled
            simp only [Except.mapError]
            by_cases empty : available = []
            · rw [end_of empty, exec_bind, ensure, if_neg (not_not.mpr empty)]
              exact ⟨rfl, fun impossible => Bool.noConfusion impossible⟩
            · let copy := min available.length (missing + 1)
              have positive : 0 < available.length := List.length_pos_of_ne_nil empty
              have front : (available.take copy).length = copy := by
                rw [List.length_take]
                omega
              have split : contents state =
                  ((contents state).drop copy).prepend (available.take copy) := by
                have first : (contents state).bytes.take copy = available.take copy := by
                  rw [← shown, List.take_append_of_le_length (Nat.min_le_left _ _)]
                rw [← first, Contents.prepend_take_drop]
              have consumed : contents (BufRead.consume copy middle) = (contents state).drop copy :=
                fills.consumed filled (Nat.min_le_left _ _)
              obtain ⟨result, kept⟩ :=
                ih (show missing + 1 - copy ≤ turns by omega) (BufRead.consume copy middle)
              rw [consumed] at result kept
              rw [exec_bind, ensure, if_pos empty, exec_pure]
              dsimp only
              rw [exec_bind, exec_update]
              dsimp only
              rw [exec_bind]
              have taken : (contents state).takeExactly error (missing + 1) =
                  (((contents state).drop copy).takeExactly error (missing + 1 - copy)).map
                    (available.take copy ++ ·) := by
                conv_lhs => rw [split]
                rw [Contents.takeExactly_prepend (by omega), front]
              rcases outcome : exec (readExactTurns error turns (missing + 1 - copy))
                (BufRead.consume copy middle) with ⟨wrong | rest, after⟩
              · rw [outcome] at result
                rw [taken, ← result]
                exact ⟨rfl, fun impossible => Bool.noConfusion impossible⟩
              · rw [outcome] at result kept
                rw [taken, ← result]
                refine ⟨rfl, fun _ => ?_⟩
                have dropped : contents after =
                  ((contents state).drop copy).drop (missing + 1 - copy) := kept rfl
                simp only [exec_pure, dropped, Contents.drop, List.drop_drop]
                congr 2
                omega

/-- Programs that read through the buffer see the contents. -/
theorem Fills.readExact_spec [BufRead ε σ] {contents : σ → Contents ε} (fills : Fills contents)
    (error : δ) (count : ℕ) (state : σ) :
    (exec (readExact error count) state).1 = (contents state).takeExactly error count ∧
      ((exec (readExact error count) state).1.isOk →
        contents (exec (readExact error count) state).2 = (contents state).drop count) :=
  fills.readExactTurns_spec error (Nat.le_refl count) state

/-- How copying an exact number of bytes fails. -/
inductive ReadExactError (ε : Type)
  | unexpectedEof
  | other (error : ε)
  deriving DecidableEq

/-- The error at the end of contents that are too short. -/
def ReadExactError.ofEnding : Except ε Unit → ReadExactError ε
  | .ok _ => .unexpectedEof
  | .error error => .other error

/-- Copy a number of bytes; as many turns suffice as bytes are missing. -/
def copyExactTurns [Read ε σ] : ℕ → ℕ → Fallible (ReadExactError ε) σ (List UInt8)
  | _, 0 => pure []
  | 0, _ + 1 => throw .unexpectedEof
  | turns + 1, missing + 1 => do
      let bytes ← mapError .other (Read.read (missing + 1))
      ensure (bytes ≠ []) .unexpectedEof
      let rest ← copyExactTurns turns (missing + 1 - bytes.length)
      return bytes ++ rest

/-- `read_exact` of the readers that copy bytes out. -/
def copyExact [Read ε σ] (count : ℕ) : Fallible (ReadExactError ε) σ (List UInt8) :=
  copyExactTurns count count

theorem Reads.copyExactTurns_spec [Read ε σ] {contents : σ → Contents ε} (reads : Reads contents)
    {turns missing : ℕ} (enough : missing ≤ turns) (state : σ) :
    (exec (copyExactTurns turns missing) state).1 =
        (contents state).takeExactly (.ofEnding (contents state).ending) missing ∧
      ((exec (copyExactTurns turns missing) state).1.isOk →
        contents (exec (copyExactTurns turns missing) state).2 =
          (contents state).drop missing) := by
  induction turns generalizing missing state with
  | zero =>
      obtain rfl : missing = 0 := Nat.le_zero.mp enough
      exact ⟨rfl, fun _ => rfl⟩
  | succ turns ih =>
      cases missing with
      | zero => exact ⟨rfl, fun _ => rfl⟩
      | succ missing =>
          rw [copyExactTurns, exec_bind, exec_mapError]
          rcases executed : exec (Read.read (missing + 1)) state with ⟨error | bytes, middle⟩
          · rw [reads.failed (Nat.succ_pos _) executed]
            exact ⟨rfl, fun impossible => Bool.noConfusion impossible⟩
          · obtain ⟨bounded, next, ends⟩ := reads.returned executed
            simp only [Except.mapError]
            rw [exec_bind]
            by_cases empty : bytes = []
            · rw [ends (Nat.succ_pos _) empty, ensure, if_neg (not_not.mpr empty)]
              exact ⟨rfl, fun impossible => Bool.noConfusion impossible⟩
            · have positive : 0 < bytes.length := List.length_pos_of_ne_nil empty
              obtain ⟨result, kept⟩ :=
                ih (show missing + 1 - bytes.length ≤ turns by omega) middle
              rw [ensure, if_pos empty, exec_pure]
              dsimp only
              rw [exec_bind, next, Contents.takeExactly_prepend bounded]
              change _ = ((contents middle).takeExactly
                (ReadExactError.ofEnding (contents middle).ending) _).map _ ∧ _
              rcases outcome : exec (copyExactTurns turns (missing + 1 - bytes.length)) middle with
                ⟨wrong | rest, after⟩
              · rw [outcome] at result
                rw [← result]
                exact ⟨rfl, fun impossible => Bool.noConfusion impossible⟩
              · rw [outcome] at result kept
                rw [← result]
                refine ⟨rfl, fun _ => ?_⟩
                have dropped : contents after =
                  (contents middle).drop (missing + 1 - bytes.length) := kept rfl
                simp only [exec_pure, dropped, Contents.drop, Contents.prepend]
                rw [List.drop_append, List.drop_eq_nil_of_le bounded, List.nil_append]

/-- An exact number of bytes is copied if there are enough of them, whatever the pieces are. -/
theorem Reads.copyExact_spec [Read ε σ] {contents : σ → Contents ε} (reads : Reads contents)
    (count : ℕ) (state : σ) :
    (exec (copyExact count) state).1 =
        (contents state).takeExactly (.ofEnding (contents state).ending) count ∧
      ((exec (copyExact count) state).1.isOk →
        contents (exec (copyExact count) state).2 = (contents state).drop count) :=
  reads.copyExactTurns_spec (Nat.le_refl count) state

/-- The outcomes of copying an exact number of bytes. -/
theorem Reads.copyExact_cases [Read ε σ] {contents : σ → Contents ε} (reads : Reads contents)
    (count : ℕ) (state : σ) :
    (∃ bytes after, exec (copyExact count) state = (.ok bytes, after) ∧
      (contents state).takeExactly (ReadExactError.ofEnding (contents state).ending) count =
        .ok bytes ∧ contents after = (contents state).drop count) ∨
    ∃ error after, exec (copyExact count) state = (.error error, after) ∧
      (contents state).takeExactly (ReadExactError.ofEnding (contents state).ending) count =
        .error error := by
  obtain ⟨result, kept⟩ := reads.copyExact_spec count state
  rcases executed : exec (copyExact count) state with ⟨error | bytes, after⟩
  · rw [executed] at result
    exact .inr ⟨error, after, rfl, result.symm⟩
  · rw [executed] at result kept
    exact .inl ⟨bytes, after, rfl, result.symm, kept rfl⟩

theorem Contents.takeExactly_eq_ok_iff {error : δ} {count : ℕ} {contents : Contents ε}
    {bytes : List UInt8} : contents.takeExactly error count = .ok bytes ↔
      bytes.length = count ∧ contents = (contents.drop count).prepend bytes := by
  unfold takeExactly
  constructor
  · intro taken
    split at taken
    · rename_i enough
      cases taken
      exact ⟨List.length_take_of_le enough, (prepend_take_drop count contents).symm⟩
    · cases taken
  · rintro ⟨length, split⟩
    have front : contents.bytes = bytes ++ contents.bytes.drop count :=
      congrArg Contents.bytes split
    rw [if_pos (by rw [front, List.length_append]; omega), front, ← length, List.take_left]

/-! ## Reading to the end -/

/-- A reader is shown and consumed again and again: the bytes that have been consumed, and the
reader after them. -/
inductive Consumed [BufRead ε σ] : σ → List UInt8 → σ → Prop
  | start (state : σ) : Consumed state [] state
  | more {state middle after : σ} {shown rest : List UInt8} {count : ℕ} :
      exec BufRead.fillBuf state = (.ok shown, middle) → count ≤ shown.length →
      Consumed (BufRead.consume count middle) rest after →
      Consumed state (shown.take count ++ rest) after

/-- What has been consumed is the front of the contents. -/
theorem Fills.contents_eq_of_consumed [BufRead ε σ] {contents : σ → Contents ε}
    (fills : Fills contents) {state after : σ} {bytes : List UInt8}
    (consumed : Consumed state bytes after) :
    contents state = (contents after).prepend bytes := by
  induction consumed with
  | start => rfl
  | @more state middle after shown rest count filled fewer _ ih =>
      obtain ⟨-, ⟨later, split⟩, -⟩ := fills.returned filled
      have front : (contents state).bytes.take count = shown.take count := by
        rw [← split, List.take_append_of_le_length fewer]
      rw [Contents.prepend_append, ← ih, fills.consumed filled fewer, ← front,
        Contents.prepend_take_drop]

/-- A reader shows nothing exactly if its contents have ended. -/
theorem Fills.fillBuf_eq_nil_iff [BufRead ε σ] {contents : σ → Contents ε} (fills : Fills contents)
    (state : σ) :
    (exec BufRead.fillBuf state).1 = .ok [] ↔ contents state = ⟨[], .ok ()⟩ := by
  rcases filled : exec BufRead.fillBuf state with ⟨error | shown, after⟩
  · rw [fills.failed filled]
    constructor <;> intro impossible <;> cases impossible
  · obtain ⟨-, prefix_of, ends⟩ := fills.returned filled
    constructor
    · intro nothing
      cases nothing
      exact ends rfl
    · intro ended
      rw [ended, List.prefix_nil] at prefix_of
      rw [prefix_of]

/-- Whoever reads a reader to its end has consumed its contents, in whatever steps. -/
theorem Fills.ended_iff [BufRead ε σ] {contents : σ → Contents ε} (fills : Fills contents)
    {state after : σ} {bytes : List UInt8} (consumed : Consumed state bytes after) :
    (exec BufRead.fillBuf after).1 = .ok [] ↔ contents state = ⟨bytes, .ok ()⟩ := by
  rw [fills.fillBuf_eq_nil_iff, fills.contents_eq_of_consumed consumed]
  constructor
  · intro ended
    rw [ended, Contents.prepend, List.append_nil]
  · intro whole
    have rest : bytes ++ (contents after).bytes = bytes := congrArg Contents.bytes whole
    have ending : (contents after).ending = .ok () := congrArg Contents.ending whole
    rw [← List.append_cancel_left (rest.trans (List.append_nil bytes).symm), ← ending]

end ByteReader
