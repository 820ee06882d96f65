import Motonet.Http.ChunkedReader

/-!
# Bodies of responses

A response says how its body ends: after a number of bytes, with the last of its chunks or with the
connection.  What a body reader shows is a function of the bytes on the connection.
-/

namespace Motonet
namespace Http

open ByteReader Fallible

/-- Fixed length response body reader. -/
structure FixedLengthBodyReader (β : Type) where
  rawBody : β
  remaining : ℕ
  deriving DecidableEq

/-- A number of bytes of a connection; a connection must not end before them. -/
def fixedLength (remaining : ℕ) (raw : Contents ErrorKind) : Contents HttpError :=
  if remaining ≤ raw.bytes.length then ⟨raw.bytes.take remaining, .ok ()⟩
  else
    match raw.ending with
    | .ok _ => ⟨raw.bytes, .error .connectionAborted⟩
    | .error kind => ⟨raw.bytes, .error (.network kind)⟩

/-- All bytes up to the end of a connection. -/
def toEnd (raw : Contents ErrorKind) : Contents HttpError :=
  ⟨raw.bytes, raw.ending.mapError .network⟩

theorem fixedLength_zero (raw : Contents ErrorKind) : fixedLength 0 raw = ⟨[], .ok ()⟩ := by
  rw [fixedLength, if_pos (Nat.zero_le _), List.take_zero]

theorem fixedLength_of_closed {remaining : ℕ} (positive : remaining ≠ 0) :
    fixedLength remaining ⟨[], .ok ()⟩ = ⟨[], .error .connectionAborted⟩ :=
  if_neg fun none_missing => positive (Nat.le_zero.mp none_missing)

theorem fixedLength_of_broken {remaining : ℕ} (positive : remaining ≠ 0) (kind : ErrorKind) :
    fixedLength remaining ⟨[], .error kind⟩ = ⟨[], .error (.network kind)⟩ :=
  if_neg fun none_missing => positive (Nat.le_zero.mp none_missing)

/-- The bytes of a body are the first ones of the connection. -/
theorem fixedLength_bytes (remaining : ℕ) (raw : Contents ErrorKind) :
    (fixedLength remaining raw).bytes = raw.bytes.take remaining := by
  unfold fixedLength
  split
  · rfl
  · rename_i short
    rw [List.take_of_length_le (by omega)]
    split <;> rfl

theorem fixedLength_drop {count remaining : ℕ} {raw : Contents ErrorKind}
    (fewer : count ≤ remaining) (arrived : count ≤ raw.bytes.length) :
    fixedLength (remaining - count) (raw.drop count) = (fixedLength remaining raw).drop count := by
  simp only [fixedLength, Contents.drop, List.length_drop]
  by_cases enough : remaining ≤ raw.bytes.length
  · rw [if_pos enough, if_pos (by omega)]
    simp only [List.drop_take]
  · rw [if_neg enough, if_neg (by omega)]
    cases raw.ending <;> rfl

namespace FixedLengthBodyReader

variable {β : Type} [BufRead ErrorKind β] {rawContents : β → Contents ErrorKind}

def fillBuf : Fallible HttpError (FixedLengthBodyReader β) (List UInt8) := do
  let reader ← update fun reader => (reader, reader)
  if reader.remaining = 0 then return []
  else
    let data ← zoom rawBody (fun reader rawBody => { reader with rawBody := rawBody })
      (mapError .network BufRead.fillBuf)
    let loaded := data.take (min data.length reader.remaining)
    ensure (loaded ≠ []) .connectionAborted
    return loaded

def consume (amt : ℕ) (reader : FixedLengthBodyReader β) : FixedLengthBodyReader β where
  rawBody := BufRead.consume (min amt reader.remaining) reader.rawBody
  remaining := reader.remaining - min amt reader.remaining

instance : BufRead HttpError (FixedLengthBodyReader β) where
  fillBuf := fillBuf
  consume := consume

/-- What is behind a reader. -/
def contents (rawContents : β → Contents ErrorKind) (reader : FixedLengthBodyReader β) :
    Contents HttpError :=
  fixedLength reader.remaining (rawContents reader.rawBody)

/-- What `fillBuf` can do. -/
inductive Filled (rawContents : β → Contents ErrorKind) (before : FixedLengthBodyReader β) :
    Except HttpError (List UInt8) × FixedLengthBodyReader β → Prop
  | done : before.remaining = 0 → Filled rawContents before (.ok [], before)
  | failed (error : HttpError) (after : FixedLengthBodyReader β) :
      before.contents rawContents = ⟨[], .error error⟩ →
      Filled rawContents before (.error error, after)
  | shown (data : List UInt8) (raw : β) :
      exec BufRead.fillBuf before.rawBody = (.ok data, raw) → data ≠ [] → before.remaining ≠ 0 →
      Filled rawContents before
        (.ok (data.take (min data.length before.remaining)), ⟨raw, before.remaining⟩)

theorem filled (raw_fills : Fills rawContents) (before : FixedLengthBodyReader β) :
    Filled rawContents before (exec fillBuf before) := by
  rw [fillBuf, exec_bind, exec_update]
  dsimp only
  by_cases nothing : before.remaining = 0
  · rw [if_pos nothing, exec_pure]
    exact .done nothing
  rw [if_neg nothing, exec_bind, exec_zoom, exec_mapError]
  rcases received : exec BufRead.fillBuf before.rawBody with ⟨kind | data, raw⟩
  · refine .failed (.network kind) _ ?_
    rw [contents, raw_fills.failed received, fixedLength_of_broken nothing]
  · simp only [Except.mapError, exec_bind]
    by_cases empty : data = []
    · subst empty
      rw [ensure, if_neg (not_not.mpr List.take_nil)]
      refine .failed .connectionAborted _ ?_
      rw [contents, (raw_fills.returned received).2.2 rfl, fixedLength_of_closed nothing]
    · have positive : 0 < data.length := List.length_pos_of_ne_nil empty
      have some_loaded : data.take (min data.length before.remaining) ≠ [] := by
        apply List.ne_nil_of_length_pos
        rw [List.length_take]
        omega
      rw [ensure, if_pos some_loaded]
      exact .shown data raw received empty nothing

/-- A reader of a fixed length shows that many bytes of the connection. -/
theorem fills (raw_fills : Fills rawContents) :
    Fills (contents rawContents : FixedLengthBodyReader β → Contents HttpError) where
  returned := by
    intro before after bytes executed
    have outcome := filled raw_fills before
    rw [show exec fillBuf before = (.ok bytes, after) from executed] at outcome
    generalize result : (Except.ok bytes, after) = pair at outcome
    cases outcome with
    | done nothing =>
        cases result
        refine ⟨rfl, List.nil_prefix, fun _ => ?_⟩
        rw [contents, nothing, fixedLength_zero]
    | failed => cases result
    | shown data raw received filled more =>
        cases result
        obtain ⟨same, prefix_of, -⟩ := raw_fills.returned received
        refine ⟨by rw [contents, contents, same], ?_, fun empty => ?_⟩
        · rw [contents, fixedLength_bytes, List.prefix_take_iff, List.length_take]
          exact ⟨(List.take_prefix _ _).trans prefix_of, by omega⟩
        · have length := congrArg List.length empty
          have positive : 0 < data.length := List.length_pos_of_ne_nil filled
          rw [List.length_take, List.length_nil] at length
          omega
  failed := by
    intro before after error executed
    have outcome := filled raw_fills before
    rw [show exec fillBuf before = (.error error, after) from executed] at outcome
    generalize result : (Except.error error, after) = pair at outcome
    cases outcome with
    | done => cases result
    | failed _ _ meaning =>
        cases result
        exact meaning
    | shown => cases result
  consumed := by
    intro before after bytes count executed fewer
    have outcome := filled raw_fills before
    rw [show exec fillBuf before = (.ok bytes, after) from executed] at outcome
    generalize result : (Except.ok bytes, after) = pair at outcome
    rw [show BufRead.consume count after = consume count after from rfl]
    cases outcome with
    | done nothing =>
        cases result
        rw [contents, contents, consume, nothing, Nat.zero_sub, fixedLength_zero,
          fixedLength_zero, Contents.drop, List.drop_nil]
    | failed => cases result
    | shown data raw received filled more =>
        cases result
        have within : count ≤ data.length ∧ count ≤ before.remaining := by
          rw [List.length_take] at fewer
          omega
        have arrived : count ≤ (rawContents before.rawBody).bytes.length :=
          Nat.le_trans within.1 (raw_fills.returned received).2.1.length_le
        rw [contents, contents, consume, Nat.min_eq_left within.2,
          raw_fills.consumed received within.1, fixedLength_drop within.2 arrived]

end FixedLengthBodyReader

/-- A body reader. -/
inductive BodyReader (β : Type)
  | empty
  | fixedLength (reader : FixedLengthBodyReader β)
  | chunked (reader : ChunkedBodyReader β)
  | toEnd (rawBody : β)
  deriving DecidableEq

namespace BodyReader

section Operations

variable {β : Type} [Read ErrorKind β] [BufRead ErrorKind β]

def fillBuf : Fallible HttpError (BodyReader β) (List UInt8) :=
  ExceptT.mk fun body =>
    match body with
    | empty => (.ok [], empty)
    | fixedLength reader =>
        let outcome := exec FixedLengthBodyReader.fillBuf reader
        (outcome.1, fixedLength outcome.2)
    | chunked reader =>
        let outcome := exec ChunkedBodyReader.fillBuf reader
        (outcome.1, chunked outcome.2)
    | toEnd rawBody =>
        let outcome := exec (mapError .network BufRead.fillBuf) rawBody
        (outcome.1, toEnd outcome.2)

def consume (amt : ℕ) : BodyReader β → BodyReader β
  | empty => empty
  | fixedLength reader => fixedLength (reader.consume amt)
  | chunked reader => chunked (reader.consume amt)
  | toEnd rawBody => toEnd (BufRead.consume amt rawBody)

instance : BufRead HttpError (BodyReader β) where
  fillBuf := fillBuf
  consume := consume

end Operations

variable {β : Type} {rawContents : β → Contents ErrorKind}

/-- What is behind a reader. -/
def contents (rawContents : β → Contents ErrorKind) : BodyReader β → Contents HttpError
  | empty => ⟨[], .ok ()⟩
  | fixedLength reader => reader.contents rawContents
  | chunked reader => reader.contents rawContents
  | toEnd rawBody => Http.toEnd (rawContents rawBody)

/-- What a program on one kind of reader does to the body. -/
theorem of_inner {σ : Type} {inner : σ → BodyReader β}
    {outcome : Except HttpError (List UInt8) × σ} {result : Except HttpError (List UInt8)}
    {after : BodyReader β} (executed : (outcome.1, inner outcome.2) = (result, after)) :
    ∃ reader, after = inner reader ∧ outcome = (result, reader) := by
  obtain ⟨rfl, rfl⟩ := Prod.mk.inj executed
  exact ⟨outcome.2, rfl, rfl⟩

variable [Read ErrorKind β] [BufRead ErrorKind β]

/-- Every body reader shows what is behind it, whatever the pieces of the connection are. -/
theorem fills (reads : Reads rawContents) (raw_fills : Fills rawContents) :
    Fills (contents rawContents : BodyReader β → Contents HttpError) where
  returned := by
    intro before after bytes executed
    cases before with
    | empty =>
        cases executed
        exact ⟨rfl, List.nil_prefix, fun _ => rfl⟩
    | fixedLength reader =>
        obtain ⟨reader', rfl, received⟩ := of_inner executed
        exact (FixedLengthBodyReader.fills raw_fills).returned received
    | chunked reader =>
        obtain ⟨reader', rfl, received⟩ := of_inner executed
        exact (ChunkedBodyReader.fills reads raw_fills).returned received
    | toEnd rawBody =>
        obtain ⟨raw, rfl, received⟩ := of_inner executed
        rw [exec_mapError] at received
        rcases shown : exec BufRead.fillBuf rawBody with ⟨kind | data, raw'⟩ <;>
          rw [shown] at received <;> cases received
        obtain ⟨same, prefix_of, ends⟩ := raw_fills.returned shown
        refine ⟨congrArg Http.toEnd same, prefix_of, fun empty => ?_⟩
        rw [contents, ends empty]
        rfl
  failed := by
    intro before after error executed
    cases before with
    | empty => cases executed
    | fixedLength reader =>
        obtain ⟨reader', rfl, received⟩ := of_inner executed
        exact (FixedLengthBodyReader.fills raw_fills).failed received
    | chunked reader =>
        obtain ⟨reader', rfl, received⟩ := of_inner executed
        exact (ChunkedBodyReader.fills reads raw_fills).failed received
    | toEnd rawBody =>
        obtain ⟨raw, rfl, received⟩ := of_inner executed
        rw [exec_mapError] at received
        rcases shown : exec BufRead.fillBuf rawBody with ⟨kind | data, raw'⟩ <;>
          rw [shown] at received <;> cases received
        rw [contents, raw_fills.failed shown]
        rfl
  consumed := by
    intro before after bytes count executed fewer
    cases before with
    | empty =>
        cases executed
        change _ = (⟨[].drop count, .ok ()⟩ : Contents HttpError)
        rw [List.drop_nil]
        rfl
    | fixedLength reader =>
        obtain ⟨reader', rfl, received⟩ := of_inner executed
        exact (FixedLengthBodyReader.fills raw_fills).consumed received fewer
    | chunked reader =>
        obtain ⟨reader', rfl, received⟩ := of_inner executed
        exact (ChunkedBodyReader.fills reads raw_fills).consumed received fewer
    | toEnd rawBody =>
        obtain ⟨raw, rfl, received⟩ := of_inner executed
        rw [exec_mapError] at received
        rcases shown : exec BufRead.fillBuf rawBody with ⟨kind | data, raw'⟩ <;>
          rw [shown] at received <;> cases received
        exact congrArg Http.toEnd (raw_fills.consumed shown fewer)

end BodyReader

end Http
end Motonet
