import Motonet.Foundation.ByteReader

/-!
# The connection and its buffer

`BufferingReader` reads a body through the buffer that the response was read into: first what is
left there, then the connection.  A TLS connection has a buffer of its own, which is used instead.
-/

namespace Motonet
namespace Http

open ByteReader Fallible

/-- `embedded_io::ErrorKind`, as far as the readers tell them apart. -/
inductive ErrorKind
  | connectionAborted
  | other
  deriving DecidableEq, Repr

/-- Errors of the HTTP client. -/
inductive HttpError
  | network (kind : ErrorKind)
  | codec
  | bufferTooSmall
  | connectionAborted
  deriving DecidableEq, Repr

/-- A piece in which bytes of the peer arrive. -/
structure Segment where
  bytes : List UInt8
  nonempty : bytes ≠ []
  deriving DecidableEq

/-- What is left of a piece. -/
def Segment.drop (segment : Segment) (count : ℕ) (fewer : count < segment.bytes.length) :
    Segment where
  bytes := segment.bytes.drop count
  nonempty := List.ne_nil_of_length_pos (by rw [List.length_drop]; omega)

/-- An established connection: the pieces that arrive, whether they end with the connection or with
an error, and whether the connection has a buffer of its own.  Errors are final. -/
structure HttpConnection where
  segments : List Segment
  ending : Except ErrorKind Unit
  buffered : Bool
  deriving DecidableEq

namespace HttpConnection

/-- What the peer sends. -/
def contents (connection : HttpConnection) : Contents ErrorKind :=
  ⟨connection.segments.flatMap Segment.bytes, connection.ending⟩

/-- Take bytes of the first piece. -/
def takeBytes (count : ℕ) (connection : HttpConnection) : List UInt8 × HttpConnection :=
  match connection.segments with
  | [] => ([], connection)
  | segment :: segments =>
      if fewer : count < segment.bytes.length then
        (segment.bytes.take count,
          { connection with segments := segment.drop count fewer :: segments })
      else (segment.bytes, { connection with segments := segments })

/-- `read` of a connection; nothing is read into an empty buffer. -/
def read (count : ℕ) : Fallible ErrorKind HttpConnection (List UInt8) :=
  ExceptT.mk fun connection =>
    match connection.segments with
    | [] => (connection.ending.map fun _ => [], connection)
    | _ :: _ => (.ok (connection.takeBytes count).1, (connection.takeBytes count).2)

/-- `try_fill_buf`: a TLS connection shows what it has decrypted. -/
def tryFillBuf (connection : HttpConnection) : Option (Except ErrorKind (List UInt8)) :=
  if connection.buffered then
    match connection.segments with
    | [] => some (connection.ending.map fun _ => [])
    | segment :: _ => some (.ok segment.bytes)
  else none

def tryConsume (count : ℕ) (connection : HttpConnection) : HttpConnection :=
  if connection.buffered then (connection.takeBytes count).2 else connection

instance : Read ErrorKind HttpConnection := ⟨read⟩

theorem contents_of_nil {connection : HttpConnection} (nothing : connection.segments = []) :
    connection.contents = ⟨[], connection.ending⟩ := by
  rw [contents, nothing]
  rfl

theorem takeBytes_spec (count : ℕ) (connection : HttpConnection) :
    connection.contents =
      (connection.takeBytes count).2.contents.prepend (connection.takeBytes count).1 := by
  obtain ⟨segments, ending, buffered⟩ := connection
  cases segments with
  | nil => rfl
  | cons segment segments =>
      simp only [takeBytes, contents]
      split
      · simp only [Contents.prepend, Segment.drop, List.flatMap_cons, ← List.append_assoc,
          List.take_append_drop]
      · rfl

theorem length_takeBytes (count : ℕ) {connection : HttpConnection} {segment : Segment}
    {segments : List Segment} (arrived : connection.segments = segment :: segments) :
    (connection.takeBytes count).1.length = min count segment.bytes.length := by
  unfold takeBytes
  rw [arrived]
  dsimp only
  split
  · rw [List.length_take]
  · change segment.bytes.length = _
    omega

theorem exec_read_of_nil (count : ℕ) {connection : HttpConnection}
    (nothing : connection.segments = []) :
    exec (read count) connection = (connection.ending.map fun _ => [], connection) := by
  simp only [read, exec, ExceptT.mk, ExceptT.run, StateT.run, nothing]

theorem exec_read_of_cons (count : ℕ) {connection : HttpConnection} {segment : Segment}
    {segments : List Segment} (arrived : connection.segments = segment :: segments) :
    exec (read count) connection =
      (.ok (connection.takeBytes count).1, (connection.takeBytes count).2) := by
  simp only [read, exec, ExceptT.mk, ExceptT.run, StateT.run, arrived]

/-- A connection is read in pieces. -/
theorem reads : Reads HttpConnection.contents where
  returned := by
    intro count before after bytes executed
    have executed : exec (read count) before = (.ok bytes, after) := executed
    cases arrived : before.segments with
    | nil =>
        rw [exec_read_of_nil count arrived] at executed
        obtain ⟨ended, rfl⟩ := Prod.mk.inj executed
        rw [contents_of_nil arrived]
        cases ending : before.ending with
        | error =>
            rw [ending] at ended
            cases ended
        | ok =>
            rw [ending] at ended
            cases ended
            exact ⟨Nat.zero_le _, rfl, fun _ _ => rfl⟩
    | cons segment segments =>
        rw [exec_read_of_cons count arrived] at executed
        cases executed
        have length := length_takeBytes count arrived
        have positive : 0 < segment.bytes.length := List.length_pos_of_ne_nil segment.nonempty
        refine ⟨by omega, takeBytes_spec count before, fun room empty => ?_⟩
        rw [empty, List.length_nil] at length
        omega
  failed := by
    intro count before after error _ executed
    have executed : exec (read count) before = (.error error, after) := executed
    cases arrived : before.segments with
    | nil =>
        rw [exec_read_of_nil count arrived] at executed
        obtain ⟨ended, rfl⟩ := Prod.mk.inj executed
        rw [contents_of_nil arrived]
        cases ending : before.ending with
        | error =>
            rw [ending] at ended
            cases ended
            rfl
        | ok =>
            rw [ending] at ended
            cases ended
    | cons segment segments =>
        rw [exec_read_of_cons count arrived] at executed
        cases executed

end HttpConnection

/-- `ReadBuffer` and `BufferingReader`: the bytes that are loaded into a buffer, and the connection
that follows them. -/
structure BufferingReader where
  capacity : ℕ
  room : 0 < capacity
  loaded : List UInt8
  stream : HttpConnection
  deriving DecidableEq

namespace BufferingReader

def contents (reader : BufferingReader) : Contents ErrorKind :=
  reader.stream.contents.prepend reader.loaded

def read (count : ℕ) : Fallible ErrorKind BufferingReader (List UInt8) :=
  ExceptT.mk fun reader =>
    if reader.loaded ≠ [] then
      let amt := min reader.loaded.length count
      (.ok (reader.loaded.take amt), { reader with loaded := reader.loaded.drop amt })
    else
      ((exec (HttpConnection.read count) reader.stream).1,
        { reader with stream := (exec (HttpConnection.read count) reader.stream).2 })

def fillBuf : Fallible ErrorKind BufferingReader (List UInt8) :=
  ExceptT.mk fun reader =>
    if reader.loaded ≠ [] then (.ok reader.loaded, reader)
    else
      -- The source drops the first answer and asks again; as errors are final, the second is alike.
      match reader.stream.tryFillBuf with
      | some result => (result, reader)
      | none =>
          match exec (HttpConnection.read reader.capacity) reader.stream with
          | (.ok bytes, stream) => (.ok bytes, { reader with loaded := bytes, stream := stream })
          | (.error error, stream) => (.error error, { reader with stream := stream })

/-- More may be consumed than is loaded; the rest is consumed from the connection. -/
def consume (amt : ℕ) (reader : BufferingReader) : BufferingReader :=
  let unconsumed := amt - min amt reader.loaded.length
  let reader := { reader with loaded := reader.loaded.drop (min amt reader.loaded.length) }
  if 0 < unconsumed then { reader with stream := reader.stream.tryConsume unconsumed } else reader

theorem exec_read_of_nil (count : ℕ) {reader : BufferingReader} (nothing : reader.loaded = []) :
    exec (read count) reader = ((exec (HttpConnection.read count) reader.stream).1,
      { reader with stream := (exec (HttpConnection.read count) reader.stream).2 }) := by
  simp only [read, exec, ExceptT.mk, ExceptT.run, StateT.run, nothing, ne_eq, not_true_eq_false,
    if_false]

theorem exec_read_of_ne_nil (count : ℕ) {reader : BufferingReader} (loaded : reader.loaded ≠ []) :
    exec (read count) reader = (.ok (reader.loaded.take (min reader.loaded.length count)),
      { reader with loaded := reader.loaded.drop (min reader.loaded.length count) }) := by
  simp only [read, exec, ExceptT.mk, ExceptT.run, StateT.run, loaded, ne_eq, not_false_eq_true,
    if_true]

instance : Read ErrorKind BufferingReader := ⟨read⟩

instance : BufRead ErrorKind BufferingReader where
  fillBuf := fillBuf
  consume := consume

/-- A reader is read like its connection, after what is loaded. -/
theorem reads : Reads BufferingReader.contents where
  returned := by
    intro count before after bytes executed
    have executed : exec (read count) before = (.ok bytes, after) := executed
    by_cases loaded : before.loaded = []
    · rw [exec_read_of_nil count loaded] at executed
      rcases received : exec (HttpConnection.read count) before.stream with ⟨outcome, stream⟩
      rw [received] at executed
      cases executed
      obtain ⟨bounded, next, ends⟩ := HttpConnection.reads.returned received
      rw [contents, contents, loaded]
      exact ⟨bounded, next, ends⟩
    · rw [exec_read_of_ne_nil count loaded] at executed
      cases executed
      refine ⟨by rw [List.length_take]; omega, ?_, fun room empty => ?_⟩
      · rw [contents, contents, ← Contents.prepend_append, List.take_append_drop]
      · have length := congrArg List.length empty
        have positive : 0 < before.loaded.length := List.length_pos_of_ne_nil loaded
        rw [List.length_take, List.length_nil] at length
        omega
  failed := by
    intro count before after error positive executed
    have executed : exec (read count) before = (.error error, after) := executed
    by_cases loaded : before.loaded = []
    · rw [exec_read_of_nil count loaded] at executed
      rcases received : exec (HttpConnection.read count) before.stream with ⟨outcome, stream⟩
      rw [received] at executed
      cases executed
      rw [contents, loaded]
      exact HttpConnection.reads.failed positive received
    · rw [exec_read_of_ne_nil count loaded] at executed
      cases executed

/-- What `fillBuf` can do. -/
inductive Filled (before : BufferingReader) : Except ErrorKind (List UInt8) × BufferingReader → Prop
  | loaded : before.loaded ≠ [] → Filled before (.ok before.loaded, before)
  | shown (segment : Segment) (segments : List Segment) :
      before.loaded = [] → before.stream.buffered = true →
      before.stream.segments = segment :: segments → Filled before (.ok segment.bytes, before)
  | closed : before.contents = ⟨[], .ok ()⟩ → before.loaded = [] → Filled before (.ok [], before)
  | broken (error : ErrorKind) :
      before.contents = ⟨[], .error error⟩ → Filled before (.error error, before)
  | received (bytes : List UInt8) (stream : HttpConnection) :
      before.loaded = [] →
      exec (HttpConnection.read before.capacity) before.stream = (.ok bytes, stream) →
      Filled before (.ok bytes, { before with loaded := bytes, stream := stream })
  | failed (error : ErrorKind) (stream : HttpConnection) :
      before.loaded = [] →
      exec (HttpConnection.read before.capacity) before.stream = (.error error, stream) →
      Filled before (.error error, { before with stream := stream })

theorem filled (before : BufferingReader) : Filled before (exec fillBuf before) := by
  have executed : exec fillBuf before =
      if before.loaded ≠ [] then (.ok before.loaded, before)
      else
        match before.stream.tryFillBuf with
        | some result => (result, before)
        | none =>
            match exec (HttpConnection.read before.capacity) before.stream with
            | (.ok bytes, stream) => (.ok bytes, { before with loaded := bytes, stream := stream })
            | (.error error, stream) => (.error error, { before with stream := stream }) := rfl
  rw [executed]
  by_cases loaded : before.loaded = []
  · rw [if_neg (not_not.mpr loaded)]
    unfold HttpConnection.tryFillBuf
    cases buffered : before.stream.buffered with
    | true =>
        rw [if_pos rfl]
        cases arrived : before.stream.segments with
        | nil =>
            have nothing : before.contents = ⟨[], before.stream.ending⟩ := by
              rw [contents, loaded, HttpConnection.contents_of_nil arrived]
              rfl
            cases ending : before.stream.ending with
            | error error => exact .broken error (nothing.trans (by rw [ending]))
            | ok => exact .closed (nothing.trans (by rw [ending])) loaded
        | cons segment segments => exact .shown segment segments loaded buffered arrived
    | false =>
        rw [if_neg Bool.false_ne_true]
        dsimp only
        rcases received : exec (HttpConnection.read before.capacity) before.stream with
          ⟨error | bytes, stream⟩
        · exact .failed error stream loaded received
        · exact .received bytes stream loaded received
  · rw [if_pos loaded]
    exact .loaded loaded

/-- Consuming what is loaded. -/
theorem contents_consume_loaded {reader : BufferingReader} {count : ℕ}
    (fewer : count ≤ reader.loaded.length) :
    (consume count reader).contents = reader.contents.drop count := by
  simp only [consume, Nat.min_eq_left fewer, Nat.sub_self, Nat.lt_irrefl, if_false, contents,
    Contents.drop, Contents.prepend, List.drop_append_of_le_length fewer]

/-- Consuming what the connection shows. -/
theorem contents_consume_shown {reader : BufferingReader} (nothing : reader.loaded = [])
    (buffered : reader.stream.buffered = true) {segment : Segment} {segments : List Segment}
    (arrived : reader.stream.segments = segment :: segments) {count : ℕ}
    (fewer : count ≤ segment.bytes.length) :
    (consume count reader).contents = reader.contents.drop count := by
  have length := HttpConnection.length_takeBytes count arrived
  rw [Nat.min_eq_left fewer] at length
  have dropped : (reader.stream.takeBytes count).2.contents =
      reader.stream.contents.drop count := by
    rw [HttpConnection.takeBytes_spec count reader.stream, Contents.drop_prepend length]
  unfold consume
  rw [nothing, List.length_nil, Nat.min_zero, Nat.sub_zero, List.drop_nil]
  dsimp only
  split
  · simp only [contents, HttpConnection.tryConsume, buffered, if_true, dropped, nothing,
      Contents.prepend_nil]
  · obtain rfl : count = 0 := by omega
    simp only [contents, nothing, Contents.prepend_nil]
    rfl

/-- A reader shows what is loaded, and then what the connection shows or loads. -/
theorem fills : Fills BufferingReader.contents where
  returned := by
    intro before after bytes executed
    have outcome := filled before
    rw [show exec fillBuf before = (.ok bytes, after) from executed] at outcome
    generalize result : (Except.ok bytes, after) = pair at outcome
    cases outcome with
    | loaded loaded =>
        cases result
        exact ⟨rfl, List.prefix_append _ _, fun empty => absurd empty loaded⟩
    | shown segment segments nothing _ arrived =>
        cases result
        refine ⟨rfl, ?_, fun empty => absurd empty segment.nonempty⟩
        rw [contents, nothing, HttpConnection.contents, arrived]
        exact List.prefix_append _ _
    | closed nothing =>
        cases result
        exact ⟨rfl, List.nil_prefix, fun _ => nothing⟩
    | broken => cases result
    | received bytes stream nothing received =>
        cases result
        obtain ⟨-, next, ends⟩ := HttpConnection.reads.returned received
        rw [contents, contents, nothing, Contents.prepend_nil]
        exact ⟨next.symm, next ▸ List.prefix_append _ _, ends before.room⟩
    | failed => cases result
  failed := by
    intro before after error executed
    have outcome := filled before
    rw [show exec fillBuf before = (.error error, after) from executed] at outcome
    generalize result : (Except.error error, after) = pair at outcome
    cases outcome with
    | loaded => cases result
    | shown => cases result
    | closed => cases result
    | broken _ nothing =>
        cases result
        exact nothing
    | received => cases result
    | failed _ _ nothing received =>
        cases result
        rw [contents, nothing]
        exact HttpConnection.reads.failed before.room received
  consumed := by
    intro before after bytes count executed fewer
    have outcome := filled before
    rw [show exec fillBuf before = (.ok bytes, after) from executed] at outcome
    generalize result : (Except.ok bytes, after) = pair at outcome
    cases outcome with
    | loaded =>
        cases result
        exact contents_consume_loaded fewer
    | shown segment segments nothing buffered arrived =>
        cases result
        exact contents_consume_shown nothing buffered arrived fewer
    | closed _ nothing =>
        cases result
        exact contents_consume_loaded (nothing ▸ fewer)
    | broken => cases result
    | received bytes stream nothing received =>
        cases result
        have next := (HttpConnection.reads.returned received).2.1
        rw [show BufRead.consume count _ = consume count _ from rfl, contents_consume_loaded fewer,
          contents, contents, nothing, next]
        rfl
    | failed => cases result

end BufferingReader

end Http
end Motonet
