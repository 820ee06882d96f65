import Motonet.Firmware.FlashWrite
import Motonet.Http.Body

/-!
# Responses

`Response::read` waits for a whole head in its buffer, with a parser that is asked after every piece
of the connection.  What is read does not depend on the pieces, except for bytes behind the body.
-/

namespace Motonet
namespace Http

open ByteReader Fallible OtaCore
open Firmware (eqIgnoreAsciiCase)

/-- A head as `httparse` reports it. -/
structure ParsedHead where
  code : UInt16
  headers : List (String × List UInt8)
  deriving DecidableEq, Repr

/-- `httparse::Status`. -/
inductive ParseStatus
  | complete (length : ℕ) (head : ParsedHead)
  | incomplete
  deriving DecidableEq, Repr

/-- `httparse::Response::parse`, on the bytes that have been received. -/
abbrev HeadParser := List UInt8 → Except Unit ParseStatus

/-- A parser of heads reads a text from its start, and more text does not change what it has
found. -/
structure HeadParser.Incremental (parse : HeadParser) : Prop where
  length_pos : ∀ {bytes length head}, parse bytes = .ok (.complete length head) → 0 < length
  length_le : ∀ {bytes length head}, parse bytes = .ok (.complete length head) →
    length ≤ bytes.length
  complete_append : ∀ {bytes length head} (more : List UInt8),
    parse bytes = .ok (.complete length head) → parse (bytes ++ more) = .ok (.complete length head)
  error_append : ∀ {bytes} (more : List UInt8),
    parse bytes = .error () → parse (bytes ++ more) = .error ()

inductive Method
  | get | put | post | delete | head | patch | options | connect | trace
  deriving DecidableEq, Repr

inductive TransferEncoding
  | chunked | compress | deflate | gzip
  deriving DecidableEq, Repr

/-- `TransferEncoding::try_from`. -/
def TransferEncoding.tryFrom (value : List UInt8) : Except HttpError TransferEncoding :=
  if value = asBytes "chunked" then .ok chunked
  else if value = asBytes "compress" then .ok compress
  else if value = asBytes "deflate" then .ok deflate
  else if value = asBytes "gzip" then .ok gzip
  else .error .codec

/-- Add a decimal digit to a `usize`. -/
def addDigit (value : ℕ) (digit : UInt8) : Except HttpError ℕ :=
  if 48 ≤ digit ∧ digit ≤ 57 ∧ value * 10 + (digit.toNat - 48) < 2 ^ 32 then
    .ok (value * 10 + (digit.toNat - 48))
  else .error .codec

/-- `str::parse::<usize>`, which allows for a plus sign. -/
def parseUsize (text : List UInt8) : Except HttpError ℕ :=
  let digits := if text.head? = some 43 then text.tail else text
  if digits = [] then .error .codec else digits.foldlM addDigit 0

/-- The headers that the client knows. -/
structure KnownHeaders where
  contentLength : Option ℕ
  transferEncoding : List TransferEncoding
  deriving DecidableEq, Repr

def KnownHeaders.none : KnownHeaders := ⟨.none, []⟩

/-- Take note of a header. -/
def KnownHeaders.note (known : KnownHeaders) (header : String × List UInt8) :
    Except HttpError KnownHeaders :=
  if eqIgnoreAsciiCase header.1 "content-length" then do
    let contentLength ← parseUsize header.2
    return { known with contentLength := some contentLength }
  else if eqIgnoreAsciiCase header.1 "transfer-encoding" then do
    let encoding ← TransferEncoding.tryFrom header.2
    if known.transferEncoding.length < 4 then
      return { known with transferEncoding := known.transferEncoding ++ [encoding] }
    else throw .codec
  else if eqIgnoreAsciiCase header.1 "keep-alive" then
    -- The parameters may be anything that is text.
    if (String.fromUTF8? ⟨header.2.toArray⟩).isSome then return known else throw .codec
  else return known

/-- A response whose head has been read; bytes of the body may have come with it, and its buffer is
the one that the body is read through. -/
structure Response where
  method : Method
  status : UInt16
  contentLength : Option ℕ
  transferEncoding : List TransferEncoding
  headers : List (String × List UInt8)
  rawBodyRead : List UInt8
  capacity : ℕ
  room : 0 < capacity

/-- There is no body with an informational status or with `204 No Content`. -/
def bodyLength (status : UInt16) (known : KnownHeaders) : Except HttpError (Option ℕ) :=
  if (100 ≤ status ∧ status ≤ 199) ∨ status = 204 then
    if known.contentLength.getD 0 ≠ 0 then throw .codec else return some 0
  else return known.contentLength

/-- More bytes than the body has must not come with the head. -/
def ensureWithin (contentLength : Option ℕ) (count : ℕ) : Except HttpError Unit :=
  match contentLength with
  | some contentLength => if contentLength < count then throw .codec else return ()
  | none => return ()

namespace Response

variable (parse : HeadParser)

/-- Read until the head is complete, with room for a number of bytes; as many turns suffice as there
is room. -/
def readHead : ℕ → ℕ → List UInt8 →
    Fallible HttpError HttpConnection (List UInt8 × ℕ × ParsedHead)
  | _, 0, _ => throw .bufferTooSmall
  | 0, _ + 1, _ => throw .bufferTooSmall
  | turns + 1, room + 1, received => do
      let bytes ← mapError .network (Read.read (room + 1))
      ensure (bytes ≠ []) .connectionAborted
      match parse (received ++ bytes) with
      | .error _ => throw .codec
      | .ok (.complete length head) => return (received ++ bytes, length, head)
      | .ok .incomplete => readHead turns (room + 1 - bytes.length) (received ++ bytes)

/-- The response with a head, and with bytes of the body that have come with it. -/
def ofHead (method : Method) (capacity : ℕ) (room : 0 < capacity) (head : ParsedHead)
    (rawBodyRead : List UInt8) : Except HttpError Response := do
  let known ← head.headers.foldlM KnownHeaders.note .none
  let contentLength ← bodyLength head.code known
  ensureWithin contentLength rawBodyRead.length
  return {
    method := method
    status := head.code
    contentLength := contentLength
    transferEncoding := known.transferEncoding
    headers := head.headers
    rawBodyRead := rawBodyRead
    capacity := capacity
    room := room }

/-- `Response::read`. -/
def read (method : Method) (capacity : ℕ) (room : 0 < capacity) :
    Fallible HttpError HttpConnection Response := do
  let (received, headerLen, head) ← readHead parse capacity capacity []
  -- The source parses the head once more, to the same result.
  ensure (headerLen ≠ 0) .bufferTooSmall
  lift (ofHead method capacity room head (received.drop headerLen))

end Response

/-- How the body ends. -/
inductive ReaderHint
  | empty
  | fixedLength (contentLength : ℕ)
  | chunked
  | toEnd
  deriving DecidableEq, Repr

/-- The reader of a body. -/
def ReaderHint.reader {β : Type} (rawBody : β) : ReaderHint → BodyReader β
  | empty => .empty
  | fixedLength contentLength => .fixedLength ⟨rawBody, contentLength⟩
  | chunked => .chunked (.new rawBody)
  | toEnd => .toEnd rawBody

/-- The body in the bytes of a connection. -/
def ReaderHint.contents (raw : Contents ErrorKind) : ReaderHint → Contents HttpError
  | empty => ⟨[], .ok ()⟩
  | fixedLength contentLength => Http.fixedLength contentLength raw
  | chunked => decodeContents (.line []) raw
  | toEnd => Http.toEnd raw

namespace Response

def readerHint (response : Response) : ReaderHint :=
  if response.method = .head then .empty
  else
    match response.contentLength with
    | some contentLength => .fixedLength contentLength
    | none => if .chunked ∈ response.transferEncoding then .chunked else .toEnd

/-- `Response::body` and `ResponseBody::reader`. -/
def reader (response : Response) (connection : HttpConnection) : BodyReader BufferingReader :=
  response.readerHint.reader
    ⟨response.capacity, response.room, response.rawBodyRead, connection⟩

theorem contents_reader (response : Response) (connection : HttpConnection) :
    (response.reader connection).contents BufferingReader.contents =
      response.readerHint.contents (connection.contents.prepend response.rawBodyRead) := by
  unfold reader
  cases response.readerHint <;> rfl

end Response

/-! ## What the bytes mean -/

/-- The head that ends in a number of bytes, and its length. -/
def headIn (parse : HeadParser) (capacity : ℕ) (bytes : List UInt8) : Option (ℕ × ParsedHead) :=
  match parse (bytes.take capacity) with
  | .ok (.complete length head) => some (length, head)
  | _ => none

namespace HeadParser.Incremental

variable {parse : HeadParser} (incremental : parse.Incremental)
include incremental

/-- Nothing is no head. -/
theorem pending_nil (length : ℕ) (head : ParsedHead) :
    parse [] ≠ .ok (.complete length head) := by
  intro complete
  have positive := incremental.length_pos complete
  have empty := incremental.length_le complete
  rw [List.length_nil] at empty
  omega

theorem headIn_of_complete {received : List UInt8} {length : ℕ} {head : ParsedHead}
    (complete : parse received = .ok (.complete length head)) (room : ℕ) (rest : List UInt8) :
    headIn parse (received.length + room) (received ++ rest) = some (length, head) := by
  rw [headIn, List.take_length_add_append, incremental.complete_append _ complete]

theorem headIn_of_error {received : List UInt8} (wrong : parse received = .error ()) (room : ℕ)
    (rest : List UInt8) : headIn parse (received.length + room) (received ++ rest) = none := by
  rw [headIn, List.take_length_add_append, incremental.error_append _ wrong]

end HeadParser.Incremental

/-- No head is found in a text that is not complete. -/
theorem headIn_of_pending {parse : HeadParser} {received : List UInt8}
    (pending : ∀ length head, parse received ≠ .ok (.complete length head)) {capacity : ℕ}
    {bytes : List UInt8} (all : bytes.take capacity = received) :
    headIn parse capacity bytes = none := by
  unfold headIn
  rw [all]
  split
  · rename_i length head complete
    exact absurd complete (pending length head)
  · rfl

namespace Response

variable {parse : HeadParser}

/-- A head is found if it ends in the buffer, whatever the pieces of the connection are. -/
theorem readHead_spec (incremental : parse.Incremental) {turns room : ℕ} (enough : room ≤ turns)
    {received : List UInt8}
    (pending : ∀ length head, parse received ≠ .ok (.complete length head))
    (connection : HttpConnection) :
    match headIn parse (received.length + room) (received ++ connection.contents.bytes) with
    | some (length, head) => ∃ more after,
        exec (readHead parse turns room received) connection =
          (.ok (received ++ more, length, head), after) ∧
        connection.contents = after.contents.prepend more ∧ length ≤ (received ++ more).length
    | none => ∃ error after,
        exec (readHead parse turns room received) connection = (.error error, after) := by
  induction turns generalizing room received connection with
  | zero =>
      obtain rfl : room = 0 := Nat.le_zero.mp enough
      rw [headIn_of_pending pending (by rw [Nat.add_zero, List.take_left])]
      exact ⟨_, _, rfl⟩
  | succ turns ih =>
      cases room with
      | zero =>
          rw [headIn_of_pending pending (by rw [Nat.add_zero, List.take_left])]
          exact ⟨_, _, rfl⟩
      | succ room =>
          rw [readHead, exec_bind, exec_mapError]
          rcases executed : exec (Read.read (room + 1)) connection with ⟨kind | bytes, middle⟩
          · have broken := HttpConnection.reads.failed (Nat.succ_pos room) executed
            rw [broken, List.append_nil, headIn_of_pending pending
              (List.take_of_length_le (Nat.le_add_right _ _))]
            exact ⟨_, _, rfl⟩
          · obtain ⟨bounded, next, ends⟩ := HttpConnection.reads.returned executed
            simp only [Except.mapError, exec_bind]
            by_cases empty : bytes = []
            · rw [ends (Nat.succ_pos _) empty, List.append_nil, headIn_of_pending pending
                (List.take_of_length_le (Nat.le_add_right _ _)), ensure,
                if_neg (not_not.mpr empty)]
              exact ⟨_, _, rfl⟩
            · have positive : 0 < bytes.length := List.length_pos_of_ne_nil empty
              have window : received.length + (room + 1) =
                  (received ++ bytes).length + (room + 1 - bytes.length) := by
                rw [List.length_append]
                omega
              have whole : received ++ connection.contents.bytes =
                  (received ++ bytes) ++ middle.contents.bytes := by
                rw [next, List.append_assoc]
                rfl
              rw [window, whole, ensure, if_pos empty, exec_pure]
              dsimp only
              rcases parsed : parse (received ++ bytes) with ⟨⟩ | ⟨length, head⟩ | ⟨⟩
              · rw [incremental.headIn_of_error parsed]
                exact ⟨_, _, rfl⟩
              · rw [incremental.headIn_of_complete parsed]
                exact ⟨bytes, middle, rfl, next, incremental.length_le parsed⟩
              · have pending : ∀ length head,
                    parse (received ++ bytes) ≠ .ok (.complete length head) := by
                  intro length head complete
                  rw [parsed] at complete
                  cases complete
                have fewer : room + 1 - bytes.length ≤ turns := by omega
                have rest := ih fewer pending middle
                split at rest
                · obtain ⟨more, after, returned, later, within⟩ := rest
                  rw [List.append_assoc] at returned within
                  refine ⟨bytes ++ more, after, returned, ?_, within⟩
                  rw [next, later, Contents.prepend_append]
                · exact rest

/-- The bytes of a connection decide on the response, except for those that come with the head. -/
theorem read_spec (incremental : parse.Incremental) (method : Method) {capacity : ℕ}
    (room : 0 < capacity) (connection : HttpConnection) :
    match headIn parse capacity connection.contents.bytes with
    | some (length, head) => ∃ arrived after,
        exec (read parse method capacity room) connection =
          (ofHead method capacity room head arrived, after) ∧
        connection.contents.drop length = after.contents.prepend arrived
    | none => ∃ error after,
        exec (read parse method capacity room) connection = (.error error, after) := by
  have spec := readHead_spec incremental (Nat.le_refl capacity) incremental.pending_nil connection
  simp only [List.length_nil, Nat.zero_add, List.nil_append] at spec
  cases found : headIn parse capacity connection.contents.bytes with
  | none =>
      rw [found] at spec
      obtain ⟨error, after, executed⟩ := spec
      refine ⟨error, after, ?_⟩
      rw [read, exec_bind, executed]
  | some pair =>
      obtain ⟨length, head⟩ := pair
      rw [found] at spec
      obtain ⟨received, after, executed, next, within⟩ := spec
      have positive : length ≠ 0 := by
        unfold headIn at found
        split at found
        · rename_i complete
          cases found
          exact Nat.pos_iff_ne_zero.mp (incremental.length_pos complete)
        · cases found
      refine ⟨received.drop length, after, ?_, ?_⟩
      · rw [read, exec_bind, executed]
        dsimp only
        rw [exec_bind, ensure, if_pos positive, exec_pure]
        dsimp only
        cases ofHead method capacity room head (received.drop length) <;> rfl
      · rw [next, Contents.drop, Contents.prepend]
        dsimp only
        rw [List.drop_append_of_le_length within]
        rfl

/-- Bytes of the body that come with the head change nothing, unless there are too many of them. -/
theorem ofHead_eq (method : Method) {capacity : ℕ} (room : 0 < capacity) (head : ParsedHead)
    (arrived : List UInt8) :
    ofHead method capacity room head arrived = do
      let response ← ofHead method capacity room head []
      ensureWithin response.contentLength arrived.length
      return { response with rawBodyRead := arrived } := by
  unfold ofHead
  cases head.headers.foldlM KnownHeaders.note .none with
  | error => rfl
  | ok known =>
      cases declared : bodyLength head.code known with
      | error =>
          simp only [bind, Except.bind, declared]
      | ok contentLength =>
          simp only [bind, Except.bind, declared]
          cases contentLength <;> rfl

theorem method_of_ofHead {method : Method} {capacity : ℕ} {room : 0 < capacity}
    {head : ParsedHead} {arrived : List UInt8} {response : Response}
    (known : ofHead method capacity room head arrived = .ok response) :
    response.method = method := by
  obtain ⟨_, -, known⟩ := Except.of_bind_eq_ok known
  obtain ⟨_, -, known⟩ := Except.of_bind_eq_ok known
  obtain ⟨_, -, same⟩ := Except.of_bind_eq_ok known
  cases same
  rfl

theorem rawBodyRead_of_ofHead {method : Method} {capacity : ℕ} {room : 0 < capacity}
    {head : ParsedHead} {arrived : List UInt8} {response : Response}
    (known : ofHead method capacity room head arrived = .ok response) :
    response.rawBodyRead = arrived := by
  obtain ⟨_, -, known⟩ := Except.of_bind_eq_ok known
  obtain ⟨_, -, known⟩ := Except.of_bind_eq_ok known
  obtain ⟨_, -, same⟩ := Except.of_bind_eq_ok known
  cases same
  rfl

/-- The response in the bytes of a connection, and its body. -/
def ofContents (parse : HeadParser) (method : Method) {capacity : ℕ} (room : 0 < capacity)
    (contents : Contents ErrorKind) : Option (Response × Contents HttpError) :=
  match headIn parse capacity contents.bytes with
  | none => none
  | some (length, head) =>
      match ofHead method capacity room head [] with
      | .error _ => none
      | .ok response => some (response, response.readerHint.contents (contents.drop length))

/-- A peer sends no more than it has announced. -/
def Framed (parse : HeadParser) (method : Method) {capacity : ℕ} (room : 0 < capacity)
    (contents : Contents ErrorKind) : Prop :=
  ∀ length head response contentLength, headIn parse capacity contents.bytes = some (length, head) →
    ofHead method capacity room head [] = .ok response →
    response.contentLength = some contentLength →
    (contents.drop length).bytes.length ≤ contentLength

/-- The pieces in which a peer sends a response do not matter. -/
theorem read_eq (incremental : parse.Incremental) (method : Method) {capacity : ℕ}
    (room : 0 < capacity) (connection : HttpConnection)
    (framed : Framed parse method room connection.contents) :
    match exec (read parse method capacity room) connection with
    | (.error _, _) => ofContents parse method room connection.contents = none
    | (.ok response, after) => ofContents parse method room connection.contents =
        some ({ response with rawBodyRead := [] },
          (response.reader after).contents BufferingReader.contents) := by
  have spec := read_spec incremental method room connection
  rw [ofContents]
  cases found : headIn parse capacity connection.contents.bytes with
  | none =>
      rw [found] at spec
      obtain ⟨error, after, executed⟩ := spec
      rw [executed]
  | some pair =>
      obtain ⟨length, head⟩ := pair
      rw [found] at spec
      obtain ⟨arrived, after, executed, next⟩ := spec
      rw [executed, ofHead_eq]
      cases known : ofHead method capacity room head [] with
      | error => simp only [bind, Except.bind, known]
      | ok response =>
          have within : ensureWithin response.contentLength arrived.length = .ok () := by
            unfold ensureWithin
            cases declared : response.contentLength with
            | none => rfl
            | some contentLength =>
                have bounded := framed length head response contentLength found known declared
                rw [next, Contents.prepend, List.length_append] at bounded
                exact if_neg (by omega)
          simp only [bind, Except.bind, known, within, pure, Except.pure]
          rw [contents_reader, next, ← rawBodyRead_of_ofHead known]
          rfl

end Response

end Http
end Motonet
