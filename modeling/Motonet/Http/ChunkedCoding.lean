import Motonet.Http.ChunkedReader

/-!
# The chunked transfer coding

The texts of chunks that the reader accepts, and the bodies in them.  A body ends with a chunk of
length zero; a text that is cut off in the data of a chunk ends like a whole one.
-/

namespace Motonet
namespace Http

open ByteReader ByteString

/-- A line of at most eight hexadecimal digits, of either case, that says a length.  No digit at all
says zero. -/
structure SizeLine (line : List UInt8) (length : ℕ) : Prop where
  line_eq : ∃ digits, line = digits ++ newline ∧ digits.length ≤ 8 ∧
    (∀ digit ∈ digits, isHexDigit digit = true) ∧ Hexadecimal.value digits = length

/-- A whole text of chunks, and the body in it. -/
inductive Coded : List UInt8 → List UInt8 → Prop
  | last {line : List UInt8} : SizeLine line 0 → Coded (line ++ newline) []
  | chunk {line data text body : List UInt8} : SizeLine line data.length → data ≠ [] →
      Coded text body → Coded (line ++ (data ++ (newline ++ text))) (data ++ body)

/-- A text that ends in the data of a chunk, and what there is of the body. -/
inductive CutInData : List UInt8 → List UInt8 → Prop
  | here {line data : List UInt8} {length : ℕ} : SizeLine line length → data.length < length →
      CutInData (line ++ data) data
  | chunk {line data text body : List UInt8} : SizeLine line data.length → data ≠ [] →
      CutInData text body → CutInData (line ++ (data ++ (newline ++ text))) (data ++ body)

theorem digitValue_of_isHexDigit {byte : UInt8} (digit : isHexDigit byte = true) :
    Hexadecimal.digitValue byte < 16 := by
  simp only [isHexDigit, Bool.or_eq_true, Bool.and_eq_true, decide_eq_true_eq,
    UInt8.le_iff_toNat_le, UInt8.reduceToNat] at digit
  simp only [Hexadecimal.digitValue, UInt8.le_iff_toNat_le, UInt8.reduceToNat]
  split_ifs <;> omega

/-- No digit is a line feed or a carriage return. -/
theorem ne_of_isHexDigit {byte : UInt8} (digit : isHexDigit byte = true) :
    byte ≠ 10 ∧ byte ≠ 13 := by
  constructor <;> rintro rfl <;> exact absurd digit (by decide)

theorem parseChunkLength_append {digits : List UInt8} (few : digits.length ≤ 8) :
    parseChunkLength (digits ++ [13]) =
      if digits.all isHexDigit then some (Hexadecimal.value digits) else none := by
  unfold parseChunkLength
  rw [List.dropLast_concat]
  dsimp only
  have zeros : (List.replicate (8 - digits.length) (48 : UInt8)).all isHexDigit = true := by
    rw [List.all_replicate]
    split <;> simp [isHexDigit]
  rw [List.all_append, zeros, Bool.true_and]
  by_cases valid : digits.all isHexDigit = true
  · rw [if_pos valid, if_pos valid, Hexadecimal.ofBigEndian_decode, Hexadecimal.value_zeros]
    · rw [List.length_append, List.length_replicate]
      omega
    · intro digit member
      apply digitValue_of_isHexDigit
      obtain zero | member := List.mem_append.mp member
      · rw [List.eq_of_mem_replicate zero]
        decide
      · exact List.all_eq_true.mp valid digit member
  · rw [if_neg valid, if_neg valid]

/-- What follows a line that says a length. -/
def Phase.ofLength (length : ℕ) : Phase :=
  if length = 0 then last else data length

theorem ofLine_append {digits : List UInt8} (few : digits.length ≤ 8) :
    Phase.ofLine (digits ++ [13]) =
      if digits.all isHexDigit then .ok (Phase.ofLength (Hexadecimal.value digits))
      else .error .codec := by
  rw [Phase.ofLine, List.getLast?_concat, if_pos rfl, parseChunkLength_append few]
  by_cases valid : digits.all isHexDigit = true
  · rw [if_pos valid, if_pos valid]
    cases Hexadecimal.value digits <;> rfl
  · rw [if_neg valid, if_neg valid]

/-- The line that a reader has read up to its line feed says a length. -/
theorem ofLine_eq_ok_iff {header : List UInt8} (fits : header.length < headerBufLen)
    (phase : Phase) :
    Phase.ofLine header = .ok phase ↔
      ∃ length, SizeLine (header ++ [10]) length ∧ phase = Phase.ofLength length := by
  constructor
  · intro followed
    by_cases returned : header.getLast? = some 13
    · obtain ⟨digits, rfl⟩ := List.getLast?_eq_some_iff.mp returned
      have few : digits.length ≤ 8 := by
        rw [List.length_append, List.length_singleton, headerBufLen] at fits
        omega
      rw [ofLine_append few] at followed
      split at followed
      · rename_i valid
        cases followed
        exact ⟨_, ⟨digits, List.append_assoc _ _ _, few, List.all_eq_true.mp valid, rfl⟩, rfl⟩
      · cases followed
    · rw [Phase.ofLine, if_neg returned] at followed
      cases followed
  · rintro ⟨length, ⟨digits, same, few, valid, rfl⟩, rfl⟩
    have header_eq : header = digits ++ [13] := by
      have same : header ++ [10] = (digits ++ [13]) ++ [10] := by
        rw [same, newline, List.append_assoc]
        rfl
      exact List.append_cancel_right same
    rw [header_eq, ofLine_append few, if_pos (List.all_eq_true.mpr valid)]

/-- A line is read up to the first line feed, which comes early enough. -/
theorem decode_line_eq_ok_iff {header bytes body : List UInt8} {ending : Except ErrorKind Unit}
    (fits : header.length ≤ headerBufLen) :
    decode (.line header) bytes ending = ⟨body, .ok ()⟩ ↔
      ∃ line rest phase, bytes = line ++ 10 :: rest ∧ 10 ∉ line ∧
        (header ++ line).length < headerBufLen ∧ Phase.ofLine (header ++ line) = .ok phase ∧
        decode phase rest ending = ⟨body, .ok ()⟩ := by
  induction bytes generalizing header with
  | nil =>
      constructor
      · intro decoded
        rw [decode] at decoded
        split at decoded <;> cases decoded
      · rintro ⟨line, rest, phase, empty, -⟩
        exact absurd empty.symm (by simp)
  | cons byte bytes ih =>
      rw [decode]
      by_cases full : header.length = headerBufLen
      · rw [if_pos full]
        constructor
        · intro impossible
          cases impossible
        · rintro ⟨line, rest, phase, -, -, short, -⟩
          rw [List.length_append] at short
          omega
      rw [if_neg full]
      by_cases feed : byte = 10
      · subst feed
        rw [if_neg (not_not.mpr rfl)]
        constructor
        · intro decoded
          cases followed : Phase.ofLine header with
          | error error =>
              rw [followed] at decoded
              cases decoded
          | ok phase =>
              rw [followed] at decoded
              refine ⟨[], bytes, phase, rfl, List.not_mem_nil, ?_, ?_, decoded⟩
              · rw [List.append_nil]
                omega
              · rwa [List.append_nil]
        · rintro ⟨line, rest, phase, split, absent, -, followed, decoded⟩
          cases line with
          | nil =>
              rw [List.append_nil] at followed
              cases split
              rw [followed]
              exact decoded
          | cons first line =>
              rw [(List.cons.inj split).1] at absent
              exact absurd List.mem_cons_self absent
      · rw [if_pos feed, ih (by rw [List.length_append, List.length_singleton]; omega)]
        constructor
        · rintro ⟨line, rest, phase, rfl, absent, short, followed, decoded⟩
          rw [List.append_assoc] at short followed
          refine ⟨byte :: line, rest, phase, rfl, ?_, short, followed, decoded⟩
          rw [List.mem_cons, not_or]
          exact ⟨Ne.symm feed, absent⟩
        · rintro ⟨line, rest, phase, split, absent, short, followed, decoded⟩
          cases line with
          | nil => exact absurd (List.cons.inj split).1 feed
          | cons first line =>
              obtain ⟨rfl, rfl⟩ := List.cons.inj split
              refine ⟨line, rest, phase, rfl, fun member => absent (List.mem_cons_of_mem _ member),
                ?_, ?_, decoded⟩
              · rwa [List.append_assoc]
              · rwa [List.append_assoc]

/-- The lines that may start a text. -/
theorem decode_start_eq_ok_iff {bytes body : List UInt8} {ending : Except ErrorKind Unit} :
    decode (.line []) bytes ending = ⟨body, .ok ()⟩ ↔
      ∃ line length rest, bytes = line ++ rest ∧ SizeLine line length ∧
        decode (.ofLength length) rest ending = ⟨body, .ok ()⟩ := by
  rw [decode_line_eq_ok_iff (Nat.zero_le _)]
  constructor
  · rintro ⟨line, rest, phase, rfl, -, short, followed, decoded⟩
    obtain ⟨length, stated, rfl⟩ := (ofLine_eq_ok_iff short phase).mp followed
    exact ⟨line ++ [10], length, rest, by simp, stated, decoded⟩
  · rintro ⟨line, length, rest, rfl, stated, decoded⟩
    obtain ⟨digits, rfl, few, valid, value⟩ := stated.line_eq
    have short : ([] ++ (digits ++ [13])).length < headerBufLen := by
      rw [List.nil_append, List.length_append, List.length_singleton, headerBufLen]
      omega
    refine ⟨digits ++ [13], rest, .ofLength length, by simp [newline], ?_, short, ?_, decoded⟩
    · rw [List.mem_append, not_or]
      exact ⟨fun member => (ne_of_isHexDigit (valid 10 member)).1 rfl, by decide⟩
    · refine (ofLine_eq_ok_iff short _).mpr ⟨length, ⟨digits, ?_, few, valid, value⟩, rfl⟩
      simp [newline]

theorem orStop_eq_ok_iff {α : Type} {outcome : Except HttpError α} {next : α → Contents HttpError}
    {body : List UInt8} : orStop outcome next = ⟨body, .ok ()⟩ ↔
      ∃ value, outcome = .ok value ∧ next value = ⟨body, .ok ()⟩ := by
  cases outcome with
  | error error =>
      constructor
      · intro impossible
        cases impossible
      · rintro ⟨value, impossible, -⟩
        cases impossible
  | ok value =>
      constructor
      · exact fun reached => ⟨value, rfl, reached⟩
      · rintro ⟨_, ⟨⟩, reached⟩
        exact reached

/-- The new line behind a chunk. -/
theorem newline_eq_ok_iff {bytes body : List UInt8} {ending : Except ErrorKind Unit}
    {next : Contents HttpError} :
    orStop (((⟨bytes, ending⟩ : Contents ErrorKind).takeExactly
        (ReadExactError.ofEnding ending) 2).mapError readExactError)
      (fun taken => if taken = newline then next else stop .codec) = ⟨body, .ok ()⟩ ↔
      (∃ rest, bytes = newline ++ rest) ∧ next = ⟨body, .ok ()⟩ := by
  rw [orStop_eq_ok_iff]
  constructor
  · rintro ⟨taken, took, reached⟩
    split at reached
    · rename_i ends
      subst ends
      refine ⟨?_, reached⟩
      cases outcome : (⟨bytes, ending⟩ : Contents ErrorKind).takeExactly
          (ReadExactError.ofEnding ending) 2 with
      | error =>
          rw [outcome] at took
          cases took
      | ok value =>
          rw [outcome] at took
          cases took
          exact ⟨_, congrArg Contents.bytes (Contents.takeExactly_eq_ok_iff.mp outcome).2⟩
    · cases reached
  · rintro ⟨⟨rest, rfl⟩, reached⟩
    have taken : (⟨newline ++ rest, ending⟩ : Contents ErrorKind).takeExactly
        (ReadExactError.ofEnding ending) 2 = .ok newline :=
      if_pos (Nat.le_add_left 2 rest.length)
    rw [taken]
    exact ⟨newline, rfl, (if_pos rfl).trans reached⟩

theorem decode_data_zero_eq_ok_iff {bytes body : List UInt8} {ending : Except ErrorKind Unit} :
    decode (.data 0) bytes ending = ⟨body, .ok ()⟩ ↔
      ∃ rest, bytes = newline ++ rest ∧ decode (.line []) rest ending = ⟨body, .ok ()⟩ := by
  have meaning := decodeContents_data_zero ⟨bytes, ending⟩
  rw [decodeContents] at meaning
  rw [meaning, newline_eq_ok_iff]
  constructor
  · rintro ⟨⟨rest, rfl⟩, decoded⟩
    exact ⟨rest, rfl, decoded⟩
  · rintro ⟨rest, rfl, decoded⟩
    exact ⟨⟨rest, rfl⟩, decoded⟩

theorem decode_last_eq_ok_iff {bytes body : List UInt8} {ending : Except ErrorKind Unit} :
    decode .last bytes ending = ⟨body, .ok ()⟩ ↔ ∃ rest, bytes = newline ++ rest ∧ body = [] := by
  have meaning := decodeContents_last ⟨bytes, ending⟩
  rw [decodeContents] at meaning
  rw [meaning, newline_eq_ok_iff]
  constructor
  · rintro ⟨⟨rest, rfl⟩, decoded⟩
    cases decoded
    exact ⟨rest, rfl, rfl⟩
  · rintro ⟨rest, rfl, rfl⟩
    exact ⟨⟨rest, rfl⟩, rfl⟩

/-- A chunk is whole, or the text ends in it. -/
theorem decode_data_eq_ok_iff {length : ℕ} {bytes body : List UInt8}
    {ending : Except ErrorKind Unit} :
    decode (.data length) bytes ending = ⟨body, .ok ()⟩ ↔
      (∃ data rest tail, bytes = data ++ rest ∧ data.length = length ∧ body = data ++ tail ∧
        decode (.data 0) rest ending = ⟨tail, .ok ()⟩) ∨
      (bytes.length < length ∧ ending = .ok () ∧ body = bytes) := by
  constructor
  · intro decoded
    by_cases whole : length ≤ bytes.length
    · rw [decode_data_take (Nat.le_refl length) whole, Nat.sub_self] at decoded
      refine .inl ⟨bytes.take length, bytes.drop length,
        (decode (.data 0) (bytes.drop length) ending).bytes, (List.take_append_drop _ _).symm,
        List.length_take_of_le whole, (congrArg Contents.bytes decoded).symm, ?_⟩
      have ended : (decode (.data 0) (bytes.drop length) ending).ending = .ok () :=
        congrArg Contents.ending decoded
      rw [← ended]
    · have short : bytes.length < length := Nat.not_le.mp whole
      obtain ⟨missing, more⟩ : ∃ missing, length - bytes.length = missing + 1 :=
        ⟨length - bytes.length - 1, by omega⟩
      rw [decode_data_take (Nat.le_of_lt short) (Nat.le_refl _), more, List.drop_length,
        List.take_length, decode] at decoded
      have body_eq : bytes ++ [] = body := congrArg Contents.bytes decoded
      have ended : ending.mapError HttpError.network = .ok () := congrArg Contents.ending decoded
      refine .inr ⟨short, ?_, by rw [← body_eq, List.append_nil]⟩
      cases ending with
      | ok => rfl
      | error => cases ended
  · rintro (⟨data, rest, tail, rfl, rfl, rfl, decoded⟩ | ⟨short, rfl, rfl⟩)
    · have split := decode_data_append data 0 rest ending
      rw [Nat.add_zero] at split
      rw [split, decoded]
      rfl
    · obtain ⟨missing, more⟩ : ∃ missing, length - body.length = missing + 1 :=
        ⟨length - body.length - 1, by omega⟩
      rw [decode_data_take (Nat.le_of_lt short) (Nat.le_refl _), more, List.drop_length,
        List.take_length, decode]
      simp [Contents.prepend, Except.mapError]

/-- A line that says a length is followed by a chunk of it, or by the end if it is zero. -/
theorem decode_text_iff {bytes body : List UInt8} {ending : Except ErrorKind Unit} :
    decode (.line []) bytes ending = ⟨body, .ok ()⟩ ↔
      (∃ line rest, bytes = line ++ (newline ++ rest) ∧ SizeLine line 0 ∧ body = []) ∨
      (∃ line data rest tail, bytes = line ++ (data ++ (newline ++ rest)) ∧
        SizeLine line data.length ∧ data ≠ [] ∧ body = data ++ tail ∧
        decode (.line []) rest ending = ⟨tail, .ok ()⟩) ∨
      (ending = .ok () ∧ ∃ line length, bytes = line ++ body ∧ SizeLine line length ∧
        body.length < length) := by
  rw [decode_start_eq_ok_iff]
  constructor
  · rintro ⟨line, length, rest, rfl, stated, decoded⟩
    rw [Phase.ofLength] at decoded
    split at decoded
    · rename_i zero
      subst zero
      obtain ⟨rest, rfl, rfl⟩ := decode_last_eq_ok_iff.mp decoded
      exact .inl ⟨line, rest, rfl, stated, rfl⟩
    · rename_i positive
      obtain ⟨data, rest, tail, rfl, rfl, rfl, ends⟩ | ⟨short, ended, rfl⟩ :=
        decode_data_eq_ok_iff.mp decoded
      · obtain ⟨rest, rfl, next⟩ := decode_data_zero_eq_ok_iff.mp ends
        exact .inr (.inl ⟨line, data, rest, tail, rfl, stated,
          List.ne_nil_of_length_pos (Nat.pos_of_ne_zero positive), rfl, next⟩)
      · exact .inr (.inr ⟨ended, line, length, rfl, stated, short⟩)
  · rintro (⟨line, rest, rfl, stated, rfl⟩ |
      ⟨line, data, rest, tail, rfl, stated, filled, rfl, decoded⟩ |
      ⟨ended, line, length, rfl, stated, short⟩)
    · exact ⟨line, 0, newline ++ rest, rfl, stated, decode_last_eq_ok_iff.mpr ⟨rest, rfl, rfl⟩⟩
    · refine ⟨line, data.length, data ++ (newline ++ rest), rfl, stated, ?_⟩
      rw [Phase.ofLength, if_neg (mt List.length_eq_zero_iff.mp filled)]
      exact decode_data_eq_ok_iff.mpr (.inl ⟨data, newline ++ rest, tail, rfl, rfl, rfl,
        decode_data_zero_eq_ok_iff.mpr ⟨rest, rfl, decoded⟩⟩)
    · refine ⟨line, length, body, rfl, stated, ?_⟩
      rw [Phase.ofLength, if_neg (by omega)]
      exact decode_data_eq_ok_iff.mpr (.inr ⟨short, ended, rfl⟩)

/-- A whole text of chunks decodes to its body, whatever follows it. -/
theorem Coded.decode {text body : List UInt8} (coded : Coded text body) (rest : List UInt8)
    (ending : Except ErrorKind Unit) :
    decode (.line []) (text ++ rest) ending = ⟨body, .ok ()⟩ := by
  induction coded with
  | @last line stated =>
      refine decode_text_iff.mpr (.inl ⟨line, rest, ?_, stated, rfl⟩)
      rw [List.append_assoc]
  | @chunk line data text tail stated filled _ ih =>
      refine decode_text_iff.mpr
        (.inr (.inl ⟨line, data, text ++ rest, tail, ?_, stated, filled, rfl, ih⟩))
      simp only [List.append_assoc]

/-- So does a text that is cut off in a chunk. -/
theorem CutInData.decode {bytes body : List UInt8} (cut : CutInData bytes body) :
    decode (.line []) bytes (.ok ()) = ⟨body, .ok ()⟩ := by
  induction cut with
  | @here line data length stated short =>
      exact decode_text_iff.mpr (.inr (.inr ⟨rfl, line, length, rfl, stated, short⟩))
  | @chunk line data text tail stated filled _ ih =>
      exact decode_text_iff.mpr (.inr (.inl ⟨line, data, text, tail, rfl, stated, filled, rfl, ih⟩))

/-- A text decodes to a body without an error if and only if it starts with a whole text of chunks,
or the connection was closed in the data of a chunk. -/
theorem decode_eq_ok_iff {bytes body : List UInt8} {ending : Except ErrorKind Unit} :
    decode (.line []) bytes ending = ⟨body, .ok ()⟩ ↔
      (∃ text rest, bytes = text ++ rest ∧ Coded text body) ∨
        (ending = .ok () ∧ CutInData bytes body) := by
  constructor
  · intro decoded
    -- A chunk leaves a shorter text.
    induction length : bytes.length using Nat.strong_induction_on generalizing bytes body with
    | _ _ ih =>
        obtain ⟨line, rest, rfl, stated, rfl⟩ |
          ⟨line, data, rest, tail, rfl, stated, filled, rfl, next⟩ |
          ⟨ended, line, said, rfl, stated, short⟩ := decode_text_iff.mp decoded
        · exact .inl ⟨line ++ newline, rest, (List.append_assoc _ _ _).symm, .last stated⟩
        · have shorter : rest.length < (line ++ (data ++ (newline ++ rest))).length := by
            simp only [List.length_append, newline, List.length_cons, List.length_nil]
            omega
          obtain ⟨text, rest, rfl, coded⟩ | ⟨ended, cut⟩ := ih _ (length ▸ shorter) next rfl
          · exact .inl ⟨line ++ (data ++ (newline ++ text)), rest, by simp,
              .chunk stated filled coded⟩
          · exact .inr ⟨ended, .chunk stated filled cut⟩
        · exact .inr ⟨ended, .here stated short⟩
  · rintro (⟨text, rest, rfl, coded⟩ | ⟨rfl, cut⟩)
    · exact coded.decode rest ending
    · exact cut.decode

/-- Whoever reads a chunked body to its end, in whatever steps, has read the body of a whole text of
chunks, or what there is of one that the connection has cut off in the data of a chunk.  How the
text arrives makes no difference. -/
theorem chunked_body_iff {raw : BufferingReader} {body : List UInt8}
    {after : ChunkedBodyReader BufferingReader}
    (consumed : Consumed (ChunkedBodyReader.new raw) body after) :
    (Fallible.exec BufRead.fillBuf after).1 = .ok [] ↔
      (∃ text rest, raw.contents.bytes = text ++ rest ∧ Coded text body) ∨
        (raw.contents.ending = .ok () ∧ CutInData raw.contents.bytes body) := by
  have fills : Fills (ChunkedBodyReader.contents BufferingReader.contents) :=
    ChunkedBodyReader.fills BufferingReader.reads BufferingReader.fills
  rw [fills.ended_iff consumed, ← decode_eq_ok_iff]
  rfl

/-- A text of one chunk, behind a buffer that holds the start of it. -/
def oneChunk : BufferingReader where
  capacity := 8
  room := by decide
  loaded := [50, 13]
  stream :=
    ⟨[⟨[10, 104], by decide⟩, ⟨[105, 13, 10, 48, 13, 10, 13, 10], by decide⟩], .ok (), false⟩

theorem chunked_body_iff_oneChunk :
    (Fallible.exec BufRead.fillBuf (ChunkedBodyReader.mk
        (BufferingReader.mk 8 (by decide) [13, 10, 48, 13, 10, 13, 10] ⟨[], .ok (), false⟩)
        (.notEmpty 0))).1 = .ok [] ↔
      (∃ text rest, oneChunk.contents.bytes = text ++ rest ∧ Coded text [104, 105]) ∨
        (oneChunk.contents.ending = .ok () ∧ CutInData oneChunk.contents.bytes [104, 105]) := by
  refine chunked_body_iff ?_
  refine @Consumed.more _ _ _ _ _ _ [104] [105] 1 (by rfl) (by decide) ?_
  exact @Consumed.more _ _ _ _ _ _ [105] [] 1 (by rfl) (by decide) (.start _)

end Http
end Motonet
