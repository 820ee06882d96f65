import Motonet.Foundation.Hexadecimal
import Motonet.Http.Connection

/-!
# The chunked body reader

A chunked body is a sequence of chunks, each with a line that says how long it is, up to a chunk of
length zero.  `decode` is what the bytes of a connection mean, byte by byte; the reader shows just
that, in pieces that depend on the connection.
-/

namespace Motonet
namespace Http

open ByteReader ByteString Fallible

/-- Where the reader is in the chunks. -/
inductive ChunkState
  | noChunk
  | notEmpty (remaining : ℕ)
  | empty
  deriving DecidableEq, Repr

namespace ChunkState

/-- Consume bytes of the current chunk, and say how many. -/
def consume (amt : ℕ) : ChunkState → ℕ × ChunkState
  | notEmpty remaining => (min amt remaining, notEmpty (remaining - min amt remaining))
  | state => (0, state)

def len : ChunkState → ℕ
  | notEmpty remaining => remaining
  | _ => 0

end ChunkState

structure ChunkedBodyReader (β : Type) where
  rawBody : β
  chunkRemaining : ChunkState
  deriving DecidableEq

/-- The line feed, and the carriage return before it. -/
def newline : List UInt8 := [13, 10]

/-- The digits that `hex::decode_to_slice` accepts. -/
def isHexDigit (byte : UInt8) : Bool :=
  (48 ≤ byte && byte ≤ 57) || (65 ≤ byte && byte ≤ 70) || (97 ≤ byte && byte ≤ 102)

/-- Room for the digits of a 32-bit length and a carriage return, and one byte that makes the line
too long. -/
def headerBufLen : ℕ := 8 + 2

/-- The length that a line says, without its line feed. -/
def parseChunkLength (header : List UInt8) : Option ℕ :=
  let digits := header.dropLast
  let hex := List.replicate (8 - digits.length) 48 ++ digits
  if hex.all isHexDigit then some (ofBigEndian (Hexadecimal.decode hex)) else none

/-- The error of the connection, as `read_exact` reports it. -/
def readExactError : ReadExactError ErrorKind → HttpError
  | .unexpectedEof => .connectionAborted
  | .other kind => .network kind

/-- In the line of a chunk the error is wrapped once more. -/
def headerError : ReadExactError ErrorKind → HttpError
  | .unexpectedEof => .network .connectionAborted
  | .other kind => .network kind

namespace ChunkedBodyReader

/-- `ChunkedBodyReader::new`. -/
def new {β : Type} (rawBody : β) : ChunkedBodyReader β := ⟨rawBody, .noChunk⟩

variable {β : Type} [Read ErrorKind β] [BufRead ErrorKind β]

/-- A program on the raw body. -/
def onRaw {α : Type} (program : Fallible HttpError β α) :
    Fallible HttpError (ChunkedBodyReader β) α :=
  zoom rawBody (fun reader rawBody => { reader with rawBody := rawBody }) program

def setChunk (state : ChunkState) : Fallible HttpError (ChunkedBodyReader β) Unit :=
  update fun reader => ((), { reader with chunkRemaining := state })

/-- Read the line of a chunk up to its line feed, with room for a number of bytes. -/
def readSizeLine : ℕ → List UInt8 → Fallible HttpError β (List UInt8)
  | 0, _ => throw .codec
  | room + 1, header => do
      let byte ← mapError headerError (copyExact 1)
      if byte ≠ [10] then readSizeLine room (header ++ byte)
      else do
        ensure (header.getLast? = some 13) .codec
        return header

def readNextChunkLength : Fallible HttpError (ChunkedBodyReader β) Unit := do
  let header ← onRaw (readSizeLine headerBufLen [])
  match parseChunkLength header with
  | none => throw .codec
  | some 0 => setChunk .empty
  | some (length + 1) => setChunk (.notEmpty (length + 1))

/-- All chunks end with a new line. -/
def readChunkEnd : Fallible HttpError (ChunkedBodyReader β) Unit := do
  let newlineBuf ← onRaw (mapError readExactError (copyExact 2))
  ensure (newlineBuf = newline) .codec

/-- The last chunk is followed by a new line of its own. -/
def readFinalEnd : Fallible HttpError (ChunkedBodyReader β) ℕ := do
  let reader ← update fun reader => (reader, reader)
  if reader.chunkRemaining = .empty then readChunkEnd
  return reader.chunkRemaining.len

/-- The number of bytes in the current or in the next chunk. -/
def handleChunkBoundary : Fallible HttpError (ChunkedBodyReader β) ℕ := do
  let reader ← update fun reader => (reader, reader)
  match reader.chunkRemaining with
  | .empty => pure 0
  | .notEmpty (remaining + 1) => pure (remaining + 1)
  | .noChunk => do
      readNextChunkLength
      readFinalEnd
  | .notEmpty 0 => do
      readChunkEnd
      readNextChunkLength
      readFinalEnd

def fillBuf : Fallible HttpError (ChunkedBodyReader β) (List UInt8) := do
  let remaining ← handleChunkBoundary
  if remaining = 0 then return []
  else
    let buf ← onRaw (mapError .network BufRead.fillBuf)
    return buf.take remaining

def consume (amt : ℕ) (reader : ChunkedBodyReader β) : ChunkedBodyReader β where
  rawBody := BufRead.consume (reader.chunkRemaining.consume amt).1 reader.rawBody
  chunkRemaining := (reader.chunkRemaining.consume amt).2

instance : BufRead HttpError (ChunkedBodyReader β) where
  fillBuf := fillBuf
  consume := consume

end ChunkedBodyReader

/-! ## What the bytes mean -/

/-- Where a text of chunks is read. -/
inductive Phase
  /-- In the line of a chunk, after some bytes of it. -/
  | line (header : List UInt8)
  /-- In a chunk, with a number of bytes to come. -/
  | data (remaining : ℕ)
  /-- Behind the line of the last chunk. -/
  | last
  | done
  deriving DecidableEq, Repr

/-- What follows the line of a chunk. -/
def Phase.ofLine (header : List UInt8) : Except HttpError Phase :=
  if header.getLast? = some 13 then
    match parseChunkLength header with
    | none => .error .codec
    | some 0 => .ok .last
    | some (length + 1) => .ok (.data (length + 1))
  else .error .codec

/-- No more is decoded. -/
def stop (error : HttpError) : Contents HttpError := ⟨[], .error error⟩

/-- Go on with the result of a computation that may stop. -/
def orStop {α : Type} (outcome : Except HttpError α) (next : α → Contents HttpError) :
    Contents HttpError :=
  match outcome with
  | .ok value => next value
  | .error error => stop error

/-- The body in a text of chunks; a text may end in the middle of a chunk without an error. -/
def decode : Phase → List UInt8 → Except ErrorKind Unit → Contents HttpError
  | .done, _, _ => ⟨[], .ok ()⟩
  | .line header, [], ending =>
      if header.length = headerBufLen then stop .codec
      else stop (headerError (.ofEnding ending))
  | .line header, byte :: bytes, ending =>
      if header.length = headerBufLen then stop .codec
      else if byte ≠ 10 then decode (.line (header ++ [byte])) bytes ending
      else orStop (Phase.ofLine header) fun phase => decode phase bytes ending
  | .data (_ + 1), [], ending => ⟨[], ending.mapError .network⟩
  | .data (remaining + 1), byte :: bytes, ending =>
      (decode (.data remaining) bytes ending).prepend [byte]
  | .data 0, first :: second :: bytes, ending =>
      if [first, second] = newline then decode (.line []) bytes ending else stop .codec
  | .data 0, _, ending => stop (readExactError (.ofEnding ending))
  | .last, first :: second :: _, _ =>
      if [first, second] = newline then ⟨[], .ok ()⟩ else stop .codec
  | .last, _, ending => stop (readExactError (.ofEnding ending))

/-- What the bytes of a connection mean. -/
def decodeContents (phase : Phase) (raw : Contents ErrorKind) : Contents HttpError :=
  decode phase raw.bytes raw.ending

/-- Where the reader is, at the start of a call. -/
def ChunkState.phase : ChunkState → Phase
  | noChunk => .line []
  | notEmpty remaining => .data remaining
  | empty => .done

/-- Where the reader is behind the line of a chunk. -/
def ChunkState.linePhase : ChunkState → Phase
  | empty => .last
  | state => state.phase

theorem decodeContents_line {header : List UInt8} (fits : header.length ≠ headerBufLen)
    (raw : Contents ErrorKind) :
    decodeContents (.line header) raw =
      orStop ((raw.takeExactly (.ofEnding raw.ending) 1).mapError headerError) fun byte =>
        if byte ≠ [10] then decodeContents (.line (header ++ byte)) (raw.drop 1)
        else orStop (Phase.ofLine header) fun phase => decodeContents phase (raw.drop 1) := by
  obtain ⟨bytes, ending⟩ := raw
  cases bytes with
  | nil => exact if_neg fits
  | cons byte bytes =>
      have taken : (⟨byte :: bytes, ending⟩ : Contents ErrorKind).takeExactly
          (ReadExactError.ofEnding ending) 1 = .ok [byte] :=
        if_pos (Nat.succ_le_succ (Nat.zero_le _))
      rw [taken, decodeContents, decode, if_neg fits]
      by_cases feed : byte = 10
      · subst feed
        rfl
      · rw [if_pos feed]
        exact (if_pos fun same => feed (List.cons.inj same).1).symm

/-- A line that fills its buffer is too long. -/
theorem decodeContents_line_full {header : List UInt8} (full : header.length = headerBufLen)
    (raw : Contents ErrorKind) : decodeContents (.line header) raw = stop .codec := by
  obtain ⟨bytes, ending⟩ := raw
  cases bytes <;> exact if_pos full

/-- A chunk ends with a new line. -/
theorem decodeContents_data_zero (raw : Contents ErrorKind) :
    decodeContents (.data 0) raw =
      orStop ((raw.takeExactly (.ofEnding raw.ending) 2).mapError readExactError) fun bytes =>
        if bytes = newline then decodeContents (.line []) (raw.drop 2) else stop .codec := by
  obtain ⟨bytes, ending⟩ := raw
  match bytes with
  | [] => rfl
  | [_] => rfl
  | first :: second :: bytes =>
      have taken : (⟨first :: second :: bytes, ending⟩ : Contents ErrorKind).takeExactly
          (ReadExactError.ofEnding ending) 2 = .ok [first, second] :=
        if_pos (Nat.succ_le_succ (Nat.succ_le_succ (Nat.zero_le _)))
      rw [taken, decodeContents, decode]
      rfl

theorem decodeContents_last (raw : Contents ErrorKind) :
    decodeContents .last raw =
      orStop ((raw.takeExactly (.ofEnding raw.ending) 2).mapError readExactError) fun bytes =>
        if bytes = newline then ⟨[], .ok ()⟩ else stop .codec := by
  obtain ⟨bytes, ending⟩ := raw
  match bytes with
  | [] => rfl
  | [_] => rfl
  | first :: second :: bytes =>
      have taken : (⟨first :: second :: bytes, ending⟩ : Contents ErrorKind).takeExactly
          (ReadExactError.ofEnding ending) 2 = .ok [first, second] :=
        if_pos (Nat.succ_le_succ (Nat.succ_le_succ (Nat.zero_le _)))
      rw [taken, decodeContents, decode]
      rfl

/-- The bytes of a chunk are those of the body. -/
theorem decode_data_append (front : List UInt8) (remaining : ℕ) (bytes : List UInt8)
    (ending : Except ErrorKind Unit) :
    decode (.data (front.length + remaining)) (front ++ bytes) ending =
      (decode (.data remaining) bytes ending).prepend front := by
  induction front with
  | nil => rw [List.length_nil, Nat.zero_add, List.nil_append, Contents.prepend_nil]
  | cons byte front ih =>
      rw [List.length_cons, Nat.add_right_comm, List.cons_append, decode, ih,
        ← Contents.prepend_append]
      rfl

/-- Bytes that are in the chunk are taken from it. -/
theorem decode_data_take {count length : ℕ} (fewer : count ≤ length) {bytes : List UInt8}
    (arrived : count ≤ bytes.length) (ending : Except ErrorKind Unit) :
    decode (.data length) bytes ending =
      (decode (.data (length - count)) (bytes.drop count) ending).prepend (bytes.take count) := by
  have front : (bytes.take count).length = count := List.length_take_of_le arrived
  have split := decode_data_append (bytes.take count) (length - count) (bytes.drop count) ending
  rwa [front, Nat.add_sub_cancel' fewer, List.take_append_drop] at split

theorem decodeContents_data {count length : ℕ} (fewer : count ≤ length)
    {raw : Contents ErrorKind} (arrived : count ≤ raw.bytes.length) :
    decodeContents (.data length) raw =
      (decodeContents (.data (length - count)) (raw.drop count)).prepend
        (raw.bytes.take count) :=
  decode_data_take fewer arrived raw.ending

/-! ## What the reader shows -/

namespace ChunkedBodyReader

variable {β : Type} [Read ErrorKind β] {rawContents : β → Contents ErrorKind}

/-- What is behind a reader. -/
def contents (rawContents : β → Contents ErrorKind) (reader : ChunkedBodyReader β) :
    Contents HttpError :=
  decodeContents reader.chunkRemaining.phase (rawContents reader.rawBody)

theorem readSizeLine_spec (reads : Reads rawContents) {room : ℕ} {header : List UInt8}
    (fits : header.length + room = headerBufLen) (raw : β) :
    match exec (readSizeLine room header) raw with
    | (.ok line, after) => line.getLast? = some 13 ∧
        decodeContents (.line header) (rawContents raw) =
          orStop (Phase.ofLine line) fun phase => decodeContents phase (rawContents after)
    | (.error error, _) => decodeContents (.line header) (rawContents raw) = stop error := by
  induction room generalizing header raw with
  | zero => exact decodeContents_line_full fits _
  | succ room ih =>
      have space : header.length ≠ headerBufLen := by omega
      rw [decodeContents_line space, readSizeLine, exec_bind, exec_mapError]
      obtain ⟨byte, after, executed, taken, dropped⟩ | ⟨error, after, executed, taken⟩ :=
        reads.copyExact_cases 1 raw
      · rw [executed, taken, ← dropped]
        simp only [Except.mapError, orStop]
        by_cases feed : byte = [10]
        · subst feed
          simp only [ne_eq, not_true_eq_false, if_false, exec_bind]
          by_cases returned : header.getLast? = some 13
          · rw [ensure, if_pos returned]
            exact ⟨returned, rfl⟩
          · rw [ensure, if_neg returned, Phase.ofLine, if_neg returned]
            rfl
        · rw [if_pos feed, if_pos feed]
          have one : byte.length = 1 := (Contents.takeExactly_eq_ok_iff.mp taken).1
          exact ih (by rw [List.length_append]; omega) after
      · rw [executed, taken]
        rfl

theorem readChunkEnd_spec (reads : Reads rawContents) (reader : ChunkedBodyReader β) :
    match exec readChunkEnd reader with
    | (.ok _, after) => after.chunkRemaining = reader.chunkRemaining ∧
        decodeContents .last (rawContents reader.rawBody) = ⟨[], .ok ()⟩ ∧
        decodeContents (.data 0) (rawContents reader.rawBody) =
          decodeContents (.line []) (rawContents after.rawBody)
    | (.error error, _) => decodeContents .last (rawContents reader.rawBody) = stop error ∧
        decodeContents (.data 0) (rawContents reader.rawBody) = stop error := by
  rw [decodeContents_last, decodeContents_data_zero, readChunkEnd, exec_bind, onRaw, exec_zoom,
    exec_mapError]
  obtain ⟨bytes, after, executed, taken, dropped⟩ | ⟨error, after, executed, taken⟩ :=
    reads.copyExact_cases 2 reader.rawBody
  · rw [executed, taken, ← dropped]
    simp only [Except.mapError, orStop]
    by_cases ends : bytes = newline
    · rw [if_pos ends, if_pos ends, ensure, if_pos ends]
      exact ⟨rfl, rfl, rfl⟩
    · rw [if_neg ends, if_neg ends, ensure, if_neg ends]
      exact ⟨rfl, rfl⟩
  · rw [executed, taken]
    exact ⟨rfl, rfl⟩

/-- The reader is in a chunk or has come to the last one. -/
def InChunk (state : ChunkState) : Prop :=
  state = .empty ∨ ∃ remaining, state = .notEmpty (remaining + 1)

theorem readNextChunkLength_spec (reads : Reads rawContents) (reader : ChunkedBodyReader β) :
    match exec readNextChunkLength reader with
    | (.ok _, after) => InChunk after.chunkRemaining ∧
        decodeContents (.line []) (rawContents reader.rawBody) =
          decodeContents after.chunkRemaining.linePhase (rawContents after.rawBody)
    | (.error error, _) =>
        decodeContents (.line []) (rawContents reader.rawBody) = stop error := by
  have fits : ([] : List UInt8).length + headerBufLen = headerBufLen := rfl
  have spec := readSizeLine_spec reads fits reader.rawBody
  rw [readNextChunkLength, exec_bind, onRaw, exec_zoom]
  rcases executed : exec (readSizeLine headerBufLen []) reader.rawBody with ⟨error | line, after⟩
  · rw [executed] at spec
    exact spec
  · rw [executed] at spec
    obtain ⟨returned, meaning⟩ := spec
    rw [Phase.ofLine, if_pos returned] at meaning
    dsimp only
    cases parsed : parseChunkLength line with
    | none =>
        rw [parsed] at meaning
        exact meaning
    | some length =>
        rw [parsed] at meaning
        cases length with
        | zero => exact ⟨.inl rfl, meaning⟩
        | succ length => exact ⟨.inr ⟨length, rfl⟩, meaning⟩

theorem readFinalEnd_spec (reads : Reads rawContents) {reader : ChunkedBodyReader β}
    (inside : InChunk reader.chunkRemaining) :
    match exec readFinalEnd reader with
    | (.ok remaining, after) => remaining = after.chunkRemaining.len ∧
        InChunk after.chunkRemaining ∧
        decodeContents reader.chunkRemaining.linePhase (rawContents reader.rawBody) =
          after.contents rawContents
    | (.error error, _) =>
        decodeContents reader.chunkRemaining.linePhase (rawContents reader.rawBody) =
          stop error := by
  rw [readFinalEnd, exec_bind, exec_update]
  dsimp only
  obtain empty | ⟨length, filled⟩ := inside
  · have spec := readChunkEnd_spec reads reader
    rw [if_pos empty, empty, exec_bind]
    rcases executed : exec readChunkEnd reader with ⟨error | _, after⟩
    · rw [executed] at spec
      exact spec.1
    · rw [executed] at spec
      obtain ⟨same, meaning, -⟩ := spec
      rw [empty] at same
      refine ⟨by rw [same], .inl same, ?_⟩
      have nothing : decodeContents .done (rawContents after.rawBody) = ⟨[], .ok ()⟩ := by
        rw [decodeContents, decode]
      rw [contents, same]
      exact meaning.trans nothing.symm
  · have inside : reader.chunkRemaining ≠ .empty := by
      rw [filled]
      exact ChunkState.noConfusion
    rw [if_neg inside, exec_pure]
    refine ⟨rfl, .inr ⟨length, filled⟩, ?_⟩
    rw [contents, filled]
    rfl

theorem handleChunkBoundary_spec (reads : Reads rawContents) (reader : ChunkedBodyReader β) :
    match exec handleChunkBoundary reader with
    | (.ok remaining, after) => remaining = after.chunkRemaining.len ∧
        InChunk after.chunkRemaining ∧ reader.contents rawContents = after.contents rawContents
    | (.error error, _) => reader.contents rawContents = stop error := by
  have line : ∀ before : ChunkedBodyReader β,
      match exec (do readNextChunkLength; readFinalEnd) before with
      | (.ok remaining, after) => remaining = after.chunkRemaining.len ∧
          InChunk after.chunkRemaining ∧
          decodeContents (.line []) (rawContents before.rawBody) = after.contents rawContents
      | (.error error, _) =>
          decodeContents (.line []) (rawContents before.rawBody) = stop error := by
    intro before
    have spec := readNextChunkLength_spec reads before
    rw [exec_bind]
    rcases executed : exec readNextChunkLength before with ⟨error | _, middle⟩
    · rw [executed] at spec
      exact spec
    · rw [executed] at spec
      rw [spec.2]
      exact readFinalEnd_spec reads spec.1
  rw [handleChunkBoundary, exec_bind, exec_update]
  dsimp only
  cases state : reader.chunkRemaining with
  | empty => exact ⟨by rw [state]; rfl, .inl state, rfl⟩
  | noChunk =>
      rw [contents, state]
      exact line reader
  | notEmpty remaining =>
      cases remaining with
      | succ remaining => exact ⟨by rw [state]; rfl, .inr ⟨remaining, state⟩, rfl⟩
      | zero =>
          have spec := readChunkEnd_spec reads reader
          rw [contents, state]
          simp only [exec_bind, ChunkState.phase]
          rcases executed : exec readChunkEnd reader with ⟨error | _, middle⟩
          · rw [executed] at spec
            exact spec.2
          · rw [executed] at spec
            rw [spec.2.2]
            have next := line middle
            rw [exec_bind] at next
            exact next

variable [BufRead ErrorKind β]

/-- What `fillBuf` can do. -/
inductive Filled (rawContents : β → Contents ErrorKind) (before : ChunkedBodyReader β) :
    Except HttpError (List UInt8) × ChunkedBodyReader β → Prop
  | failed (error : HttpError) (after : ChunkedBodyReader β) :
      before.contents rawContents = stop error → Filled rawContents before (.error error, after)
  | done (after : ChunkedBodyReader β) :
      after.chunkRemaining = .empty → before.contents rawContents = ⟨[], .ok ()⟩ →
      Filled rawContents before (.ok [], after)
  | shown (remaining : ℕ) (middle raw : β) (buf : List UInt8) :
      before.contents rawContents = decodeContents (.data (remaining + 1)) (rawContents middle) →
      exec BufRead.fillBuf middle = (.ok buf, raw) →
      Filled rawContents before (.ok (buf.take (remaining + 1)), ⟨raw, .notEmpty (remaining + 1)⟩)

theorem filled (reads : Reads rawContents) (raw_fills : Fills rawContents)
    (before : ChunkedBodyReader β) : Filled rawContents before (exec fillBuf before) := by
  have spec := handleChunkBoundary_spec reads before
  rw [fillBuf, exec_bind]
  rcases executed : exec handleChunkBoundary before with ⟨error | remaining, middle⟩
  · rw [executed] at spec
    exact .failed error middle spec
  · rw [executed] at spec
    obtain ⟨rfl, empty | ⟨remaining, filled⟩, meaning⟩ := spec
    · dsimp only
      rw [empty]
      refine .done middle empty (meaning.trans ?_)
      rw [contents, empty, ChunkState.phase, decodeContents, decode]
    · obtain ⟨raw, chunkRemaining⟩ := middle
      obtain rfl : chunkRemaining = .notEmpty (remaining + 1) := filled
      simp only [ChunkState.len, Nat.succ_ne_zero, if_false, exec_bind, onRaw, exec_zoom,
        exec_mapError]
      rcases received : exec BufRead.fillBuf raw with ⟨kind | buf, after⟩
      · refine .failed (.network kind) _ (meaning.trans ?_)
        rw [contents, raw_fills.failed received, ChunkState.phase, decodeContents, decode]
        rfl
      · exact .shown remaining raw after buf meaning received

/-- A chunked reader shows the body in the chunks, whatever the pieces of the connection are. -/
theorem fills (reads : Reads rawContents) (raw_fills : Fills rawContents) :
    Fills (contents rawContents : ChunkedBodyReader β → Contents HttpError) where
  returned := by
    intro before after bytes executed
    have outcome := filled reads raw_fills before
    rw [show exec fillBuf before = (.ok bytes, after) from executed] at outcome
    generalize result : (Except.ok bytes, after) = pair at outcome
    cases outcome with
    | failed => cases result
    | done _ empty meaning =>
        cases result
        refine ⟨?_, List.nil_prefix, fun _ => meaning⟩
        rw [meaning, contents, empty, ChunkState.phase, decodeContents, decode]
    | shown remaining middle raw buf meaning received =>
        cases result
        obtain ⟨same, prefix_of, ends⟩ := raw_fills.returned received
        have front : buf.take (remaining + 1) =
            (rawContents middle).bytes.take (min (remaining + 1) buf.length) := by
          obtain ⟨rest, shown⟩ := prefix_of
          rw [← shown, List.take_append_of_le_length (Nat.min_le_right _ _), ← List.take_take,
            List.take_length]
        refine ⟨?_, ?_, fun empty => ?_⟩
        · rw [meaning, contents, same]
          rfl
        · rw [meaning, front, decodeContents_data (Nat.min_le_left _ buf.length)
            (Nat.le_trans (Nat.min_le_right _ _) prefix_of.length_le)]
          exact List.prefix_append _ _
        · obtain long | nothing := List.take_eq_nil_iff.mp empty
          · cases long
          · rw [meaning, ends nothing, decodeContents, decode]
            rfl
  failed := by
    intro before after error executed
    have outcome := filled reads raw_fills before
    rw [show exec fillBuf before = (.error error, after) from executed] at outcome
    generalize result : (Except.error error, after) = pair at outcome
    cases outcome with
    | failed _ _ meaning =>
        cases result
        exact meaning
    | done => cases result
    | shown => cases result
  consumed := by
    intro before after bytes count executed fewer
    have outcome := filled reads raw_fills before
    rw [show exec fillBuf before = (.ok bytes, after) from executed] at outcome
    generalize result : (Except.ok bytes, after) = pair at outcome
    cases outcome with
    | failed => cases result
    | done _ empty meaning =>
        cases result
        rw [show BufRead.consume count after = consume count after from rfl, contents, consume,
          empty]
        change decodeContents .done _ = _
        rw [decodeContents, decode, meaning, Contents.drop, List.drop_nil]
    | shown remaining middle raw buf meaning received =>
        cases result
        have within : count ≤ remaining + 1 ∧ count ≤ buf.length := by
          rw [List.length_take] at fewer
          omega
        have arrived : count ≤ (rawContents middle).bytes.length :=
          Nat.le_trans within.2 (raw_fills.returned received).2.1.length_le
        have taken : ((rawContents middle).bytes.take count).length = count :=
          List.length_take_of_le arrived
        rw [show BufRead.consume count _ = consume count _ from rfl, contents, consume,
          ChunkState.consume, Nat.min_eq_left within.1, ChunkState.phase,
          raw_fills.consumed received within.2, meaning, decodeContents_data within.1 arrived,
          Contents.drop_prepend taken]

end ChunkedBodyReader

end Http
end Motonet
