import Motonet.Tls.Messages

/-!
# Records

The records of a connection as the client reads them from a transport, in whatever pieces their
bytes arrive.
-/

namespace Motonet
namespace Tls

open ByteReader ByteString Fallible Http

/-- A record: its header and what follows it. -/
structure Record where
  header : List UInt8
  contentType : ContentType
  data : List UInt8
  deriving DecidableEq

/-- A transport that ends within a record, or fails. -/
def transportError : ReadExactError ErrorKind → TlsHalt
  | .unexpectedEof => .err .ioError
  | .other kind => .err (.io kind)

/-- `RecordHeader::content_length`. -/
def contentLength (header : List UInt8) : ℕ := ofBigEndian (header.drop 3)

/-- `next_record_header`: the header, and the type in it. -/
def nextRecordHeader {σ : Type} [Read ErrorKind σ] :
    Fallible TlsHalt σ (List UInt8 × ContentType) := do
  let header ← mapError transportError (copyExact 5)
  match ContentType.of (header.headD 0) with
  | none => throw (.err .invalidRecord)
  | some contentType => return (header, contentType)

/-- `read` of the record reader, into a buffer of a given size: a header, then `advance`.  No record
is read before the one in front of it has been used up, so that all of the buffer is free. -/
def readRecord {σ : Type} [Read ErrorKind σ] (capacity : ℕ) : Fallible TlsHalt σ Record := do
  let (header, contentType) ← nextRecordHeader
  ensure (contentLength header ≤ capacity) (.err .insufficientSpace)
  let data ← mapError transportError (copyExact (contentLength header))
  return ⟨header, contentType, data⟩

/-- The bytes of a record. -/
def Record.bytes (record : Record) : List UInt8 := record.header ++ record.data

/-- A record as it is sent, that fits into a buffer of a given size. -/
structure Record.Framed (capacity : ℕ) (record : Record) : Prop where
  header : record.header.length = 5
  contentType : ContentType.of (record.header.headD 0) = some record.contentType
  length : contentLength record.header = record.data.length
  fits : record.data.length ≤ capacity

variable {σ : Type} [Read ErrorKind σ] {contents : σ → Contents ErrorKind}

/-- A number of bytes at the front of the contents is copied. -/
theorem exec_copyExact_of_prepend (reads : Reads contents) {state : σ} {bytes : List UInt8}
    {later : Contents ErrorKind} (arrived : contents state = later.prepend bytes) :
    ∃ after, exec (copyExact bytes.length) state = (.ok bytes, after) ∧ contents after = later := by
  have taken : (contents state).takeExactly
      (ReadExactError.ofEnding (contents state).ending) bytes.length = .ok bytes := by
    rw [Contents.takeExactly_eq_ok_iff, arrived, Contents.drop_prepend rfl]
    exact ⟨rfl, rfl⟩
  rcases reads.copyExact_cases bytes.length state with
    ⟨copied, after, executed, same, dropped⟩ | ⟨error, after, -, failed⟩
  · rw [taken] at same
    cases same
    refine ⟨after, executed, ?_⟩
    rw [dropped, arrived, Contents.drop_prepend rfl]
  · rw [taken] at failed
    cases failed

/-- A record at the front of the contents is read, whatever the pieces are in which it arrives. -/
theorem exec_readRecord_of_framed (reads : Reads contents) {capacity : ℕ} {record : Record}
    (framed : record.Framed capacity) {state : σ} {later : Contents ErrorKind}
    (arrived : contents state = later.prepend record.bytes) :
    ∃ after, exec (readRecord capacity) state = (.ok record, after) ∧ contents after = later := by
  rw [Record.bytes, Contents.prepend_append] at arrived
  obtain ⟨middle, header_read, rest⟩ := exec_copyExact_of_prepend reads arrived
  obtain ⟨after, data_read, last⟩ := exec_copyExact_of_prepend reads rest
  rw [framed.header] at header_read
  refine ⟨after, ?_, last⟩
  have fits : contentLength record.header ≤ capacity := framed.length ▸ framed.fits
  rw [readRecord, nextRecordHeader, exec_bind, exec_bind, exec_mapError, header_read]
  dsimp only [Except.mapError]
  rw [framed.contentType]
  dsimp only
  rw [exec_pure]
  dsimp only
  rw [exec_bind, ensure, if_pos fits, exec_pure]
  dsimp only
  rw [exec_bind, exec_mapError, framed.length, data_read]
  rfl

end Tls
end Motonet
