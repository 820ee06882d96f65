import Motonet.Firmware.SealedImage

/-!
# The chunk loop installs exactly sealed images

Reading is independent of how the stream is sliced.  One iteration of the chunk loop succeeds
exactly on a chunk that is sealed for its place; by induction the loop parses a sealed image off
the stream and writes its plaintext to the start of the slot.
-/

namespace Motonet
namespace Firmware

open ByteString OtaCore Chunked Fallible

/-! ## Reading -/

/-- The bytes that a reader delivers before it fails, times out or ends. -/
def available : Reader → List UInt8
  | [] => []
  | .slice bytes :: fills => if bytes.isEmpty then [] else bytes ++ available fills
  | .failed :: _ | .timedOut :: _ => []

/-- Slices that are not empty deliver their concatenation. -/
theorem available_slices {slices : List (List UInt8)} (nonempty : ∀ bytes ∈ slices, bytes ≠ []) :
    available (slices.map .slice) = slices.flatten := by
  induction slices with
  | nil => rfl
  | cons bytes slices ih =>
      have head : bytes.isEmpty = false := by
        simpa using nonempty bytes List.mem_cons_self
      simp only [List.map_cons, available, head, List.flatten_cons]
      rw [ih fun piece member => nonempty piece (List.mem_cons_of_mem _ member)]
      rfl

/-- The read loop takes the next bytes of the stream, whatever the slices. -/
theorem readExactLoop_spec (missing : ℕ) (reader : Reader) :
    match readExactLoop missing reader with
    | (.ok bytes, rest) => bytes.length = missing ∧ available reader = bytes ++ available rest
    | (.error error, _) => error = .readFailed ∧ (available reader).length < missing := by
  induction reader generalizing missing with
  | nil =>
      by_cases done : missing = 0
      · simp [readExactLoop, done]
      · simp [readExactLoop, done, available]
        omega
  | cons fill fills ih =>
      by_cases done : missing = 0
      · simp [readExactLoop, done]
      cases fill with
      | failed => simp [readExactLoop, done, available]; omega
      | timedOut => simp [readExactLoop, done, available]; omega
      | slice bytes =>
          cases empty : bytes.isEmpty with
          | true => simp [readExactLoop, done, available, empty]; omega
          | false =>
              by_cases fewer : missing < bytes.length
              · have rest_nonempty : (bytes.drop missing).isEmpty = false := by
                  simpa using fewer
                simp only [readExactLoop, if_neg done, empty, Bool.false_eq_true, if_false,
                  if_pos fewer, available, rest_nonempty]
                refine ⟨by simp; omega, ?_⟩
                rw [← List.append_assoc, List.take_append_drop]
              · have rest := ih (missing - bytes.length)
                simp only [readExactLoop, if_neg done, empty, Bool.false_eq_true, if_false,
                  if_neg fewer, available]
                rcases outcome : readExactLoop (missing - bytes.length) fills with
                  ⟨error | tail, reader⟩ <;> simp only [outcome] at rest ⊢
                · refine ⟨rest.1, ?_⟩
                  have short := rest.2
                  rw [List.length_append]
                  omega
                · refine ⟨?_, ?_⟩
                  · rw [List.length_append, rest.1]
                    omega
                  · rw [rest.2, List.append_assoc]

/-- A device in a given state, in front of a given stream. -/
def At (device : Device) (stream : List UInt8) : Device × Reader → Prop := fun state =>
  state.1 = device ∧ available state.2 = stream

section Rules

variable {α β : Type} {device : Device} {stream : List UInt8}
  {returned : β → Device × Reader → Prop} {failed : Halt → Device × Reader → Prop}

/-- Continue after a read. -/
theorem readExact_bind {len : ℕ} {next : List UInt8 → Fallible Halt (Device × Reader) β}
    (short : stream.length < len → ∀ reader, failed (.err .readFailed) (device, reader))
    (enough : ∀ bytes rest, stream = bytes ++ rest → bytes.length = len →
      Triple (At device rest) (next bytes) returned failed) :
    Triple (At device stream) (onReader (readExact len) >>= next) returned failed := by
  rintro ⟨current, reader⟩ ⟨rfl, rfl⟩
  have spec := readExactLoop_spec len reader
  have executed : exec (onReader (readExact len)) (current, reader) =
      ((readExactLoop len reader).1.mapError Halt.err, (current, (readExactLoop len reader).2)) :=
    rfl
  rw [exec_bind, executed]
  rcases outcome : readExactLoop len reader with ⟨error | bytes, rest⟩ <;>
    simp only [outcome] at spec
  · obtain ⟨rfl, missing⟩ := spec
    exact short missing rest
  · exact enough bytes (available rest) spec.2 spec.1 (current, rest) ⟨rfl, rfl⟩

/-- Continue after an operation on the device. -/
theorem onDevice_bind {program : Fallible Halt Device α}
    {next : α → Fallible Halt (Device × Reader) β}
    (error : ∀ halt after, exec program device = (.error halt, after) →
      ∀ reader, failed halt (after, reader))
    (ok : ∀ value after, exec program device = (.ok value, after) →
      Triple (At after stream) (next value) returned failed) :
    Triple (At device stream) (onDevice program >>= next) returned failed := by
  rintro ⟨current, reader⟩ ⟨rfl, rfl⟩
  have executed : exec (onDevice program) (current, reader) =
      ((exec program current).1, ((exec program current).2, reader)) := rfl
  rw [exec_bind, executed]
  rcases outcome : exec program current with ⟨halt | value, after⟩
  · exact error halt after outcome reader
  · exact ok value after outcome (after, reader) ⟨rfl, rfl⟩

end Rules

/-! ## What has been installed -/

/-- The first chunks of a text have been written to the start of a slot, and nothing else was
called. -/
structure Installed (slot : Slot) (text : List UInt8) (chunks : ℕ) (before after : Device) :
    Prop where
  selected : after.selected = before.selected
  imageState : after.imageState = before.imageState
  other : after.flash slot.next = before.flash slot.next
  journal : after.journal = before.journal ++ (List.range chunks).map fun index =>
    .write slot (index * encChunkSize) (slice encChunkSize text index)
  content : after.readRange slot 0 text.length = text
  beyond : ∀ address, text.length ≤ address → after.flash slot address = before.flash slot address

namespace Installed

variable {slot : Slot} {text : List UInt8} {chunks : ℕ} {before after : Device}

theorem nil (slot : Slot) (device : Device) : Installed slot [] 0 device device :=
  ⟨rfl, rfl, rfl, by simp, rfl, fun _ _ => rfl⟩

theorem confined (installed : Installed slot text chunks before after) :
    Confined slot before after := by
  refine ⟨installed.selected, installed.imageState, installed.other, _, installed.journal, ?_⟩
  intro event member
  obtain ⟨index, -, rfl⟩ := List.mem_map.mp member
  rfl

/-- Write one more chunk. -/
theorem write (installed : Installed slot text chunks before after)
    (boundary : text.length = chunks * encChunkSize) {piece : List UInt8}
    (fits : piece.length ≤ encChunkSize) :
    Installed slot (text ++ piece) (chunks + 1) before (after.written slot text.length piece) where
  selected := installed.selected
  imageState := installed.imageState
  other := by
    rw [← installed.other]
    simp [Device.written, Device.setRange, Function.update_of_ne]
  journal := by
    have earlier : (List.range chunks).map (fun index => DeviceEvent.write slot
        (index * encChunkSize) (slice encChunkSize (text ++ piece) index)) =
        (List.range chunks).map fun index => .write slot (index * encChunkSize)
          (slice encChunkSize text index) := by
      apply List.map_congr_left
      intro index member
      have bound : (index + 1) * encChunkSize ≤ chunks * encChunkSize :=
        Nat.mul_le_mul_right _ (List.mem_range.mp member)
      rw [slice_append_left piece (by omega)]
    rw [List.range_succ, List.map_append, earlier, ← List.append_assoc, ← installed.journal,
      List.map_singleton, slice_append_self boundary fits, ← boundary]
    rfl
  content := by
    rw [List.length_append, Device.written, Device.readRange_setRange]
    exact congrArg (· ++ piece) installed.content
  beyond := by
    intro address past
    rw [List.length_append] at past
    rw [← installed.beyond address (by omega)]
    simp only [Device.written, Device.setRange, Function.update_self, Device.log_flash]
    exact if_neg (by omega)

end Installed

/-! ## The local variables -/

/-- The start of an image passes the ESP prefix check, if it is long enough to be checked. -/
def PlausiblePrefix (text : List UInt8) : Prop :=
  8 ≤ text.length → validateEspImagePrefix (text.take espImagePrefixLen) = .ok ()

/-- The local variables of the chunk loop after a text. -/
def progressOf (text : List UInt8) : BodyProgress where
  firstBytes := text.take espImagePrefixLen
  prefixValidated := 8 ≤ text.length
  totalPlaintext := text.length
  flashOffset := text.length
  shaHasher := text
  readbackHasher := text.take flashReadbackLen
  readbackLen := min flashReadbackLen text.length

/-- The result for an image. -/
def EncryptedResult.of (crypto : CryptoPrimitives) (text : List UInt8) : EncryptedResult where
  totalPlaintext := text.length
  digest := crypto.sha256 text
  readbackLen := min flashReadbackLen text.length
  readbackDigest := crypto.sha256 (text.take flashReadbackLen)

/-- A long enough front part has the same prefix. -/
theorem PlausiblePrefix.append {text : List UInt8} (prefix_ok : PlausiblePrefix text)
    (long : espImagePrefixLen ≤ text.length) (piece : List UInt8) :
    PlausiblePrefix (text ++ piece) := by
  intro _
  rw [List.take_append_of_le_length long]
  exact prefix_ok (le_trans (by decide) long)

theorem PlausiblePrefix.of_append {text piece : List UInt8}
    (prefix_ok : PlausiblePrefix (text ++ piece)) (long : espImagePrefixLen ≤ text.length) :
    PlausiblePrefix text := by
  intro checked
  rw [← prefix_ok (by rw [List.length_append]; omega), List.take_append_of_le_length long]

/-- How the local variables grow with a text. -/
theorem progressOf_append (text piece : List UInt8) :
    progressOf (text ++ piece) =
      let copy := min piece.length (flashReadbackLen - min flashReadbackLen text.length)
      { firstBytes := (text ++ piece).take espImagePrefixLen
        prefixValidated := 8 ≤ (text ++ piece).length
        totalPlaintext := text.length + piece.length
        flashOffset := text.length + piece.length
        shaHasher := text ++ piece
        readbackHasher := text.take flashReadbackLen ++ piece.take copy
        readbackLen := min flashReadbackLen text.length + copy } := by
  have copied : piece.take (flashReadbackLen - text.length) =
      piece.take (min piece.length (flashReadbackLen - min flashReadbackLen text.length)) := by
    rw [List.take_eq_take_iff]
    omega
  simp only [progressOf, List.length_append, List.take_append, copied, BodyProgress.mk.injEq,
    true_and]
  omega

/-- The prefix check at a chunk boundary accepts exactly plausible images. -/
theorem checkImagePrefix_progressOf {text : List UInt8} (prefix_ok : PlausiblePrefix text)
    (boundary : text = [] ∨ espImagePrefixLen ≤ text.length) (piece : List UInt8) :
    match checkImagePrefix (progressOf text) piece with
    | .ok progress => PlausiblePrefix (text ++ piece) ∧ progress = { progressOf text with
        firstBytes := (text ++ piece).take espImagePrefixLen
        prefixValidated := 8 ≤ (text ++ piece).length }
    | .error halt => ¬ PlausiblePrefix (text ++ piece) ∧ ∃ error, halt = .err error := by
  rcases boundary with rfl | long
  · have copied : piece.take (min piece.length (espImagePrefixLen - 0)) =
        piece.take espImagePrefixLen := by
      rcases Nat.le_total piece.length espImagePrefixLen with short | more
      · rw [Nat.sub_zero, min_eq_left short, List.take_length, List.take_of_length_le short]
      · rw [Nat.sub_zero, min_eq_right more]
    have length_take : 8 ≤ (piece.take espImagePrefixLen).length ↔ 8 ≤ piece.length := by
      rw [List.length_take, le_min_iff]
      exact and_iff_right (by decide)
    simp only [checkImagePrefix, progressOf, List.take_nil, List.length_nil, List.nil_append,
      copied, length_take]
    by_cases checked : 8 ≤ piece.length
    · rw [if_pos checked]
      cases validated : validateEspImagePrefix (piece.take espImagePrefixLen) with
      | ok => exact ⟨fun _ => validated, by simp [checked]⟩
      | error error =>
          refine ⟨fun accepted => ?_, _, rfl⟩
          rw [accepted checked] at validated
          cases validated
    · rw [if_neg checked]
      exact ⟨fun long => absurd long checked, by simp [checked]⟩
  · have checked : 8 ≤ text.length := le_trans (by decide) long
    have checked_all : 8 ≤ (text ++ piece).length := by
      rw [List.length_append]
      omega
    simp only [checkImagePrefix, progressOf, checked, decide_true, if_true,
      List.take_append_of_le_length long, checked_all]
    exact ⟨prefix_ok.append long piece, rfl⟩

/-- The loop's length computation never overflows and gives the length of the chunk. -/
theorem expectedChunkLen_eq (imageSize : UInt32) {index : ℕ}
    (inside : index < numChunks imageSize.toNat) :
    expectedChunkLen imageSize.toNat index =
      .ok (chunkLength encChunkSize imageSize.toNat index) := by
  have start := (lt_count_iff encChunkSize_pos _).mp inside
  have size_bound := imageSize.toNat_lt
  simp only [expectedChunkLen, checkedSub, if_pos (show 1 ≤ numChunks imageSize.toNat by omega)]
  change (if index = numChunks imageSize.toNat - 1 then _ else _) = _
  split
  · rename_i last
    rw [checkedMul, if_pos (by omega)]
    change (if index * encChunkSize ≤ imageSize.toNat then _ else _) = _
    rw [if_pos start.le, chunkLength_last encChunkSize_pos (by rw [← numChunks_eq_count]; omega)]
    rfl
  · rename_i not_last
    rw [chunkLength_of_lt encChunkSize_pos (by rw [← numChunks_eq_count]; omega)]
    rfl

/-! ## One iteration -/

/-- The stream starts with the chunk that belongs at an index after a text: it is sealed, the text
stays plausible with it, and its write succeeds. -/
structure Accepts (crypto : CryptoPrimitives) (faults : FlashFaults) (args : BodyArgs)
    (index : ℕ) (text stream : List UInt8) (chunk : SealedChunk) (rest : List UInt8) : Prop where
  stream_eq : stream = chunk.wire ++ rest
  seals : Seals crypto args.toBodyKeys args.imageSize.toNat index chunk
  prefix_ok : PlausiblePrefix
    (text ++ chunkCrypt crypto args.aesKey args.noncePrefix index chunk.ciphertext)
  written : faults.write index = none

section Chunk

variable {crypto : CryptoPrimitives} {faults : FlashFaults} {args : BodyArgs}

/-- The bytes in front of the stream are those of any chunk accepted from it. -/
private theorem Accepts.parts {index : ℕ} {text stream : List UInt8} {chunk : SealedChunk}
    {rest : List UInt8} (accepted : Accepts crypto faults args index text stream chunk rest)
    {lenBuf afterLen : List UInt8} (stream_eq : stream = lenBuf ++ afterLen)
    (length : lenBuf.length = 4) :
    lenBuf = toBigEndian 4 chunk.ciphertext.length ∧
      afterLen = chunk.ciphertext ++ (chunk.tag ++ rest) := by
  have same := stream_eq.symm.trans accepted.stream_eq
  simp only [SealedChunk.wire, List.append_assoc] at same
  exact List.append_inj same (by simp [length])

private theorem length_lt (imageSize : UInt32) (index : ℕ) :
    chunkLength encChunkSize imageSize.toNat index < 256 ^ 4 :=
  lt_of_le_of_lt (chunkLength_le _ _ _) (by decide)

/-- A write returns if it is not made to fail; otherwise it fails with the flash error. -/
private theorem write_outcome {slot : Slot} {offset : ℕ} {bytes : List UInt8}
    {fault : Option FlashFailure} {device after : Device} {outcome : Except Halt Unit}
    (executed : exec (flashOperation (writeRegion slot offset bytes fault)) device =
      (outcome, after)) :
    Confined slot device after ∧
      match outcome with
      | .ok () => fault = none ∧ after = device.written slot offset bytes
      | .error halt => fault ≠ none ∧ ∃ error, halt = .err error := by
  rw [flashOperation, exec_mapError, exec_writeRegion] at executed
  have logged : Confined slot device (device.log (.write slot offset bytes)) :=
    .log (by exact rfl) device
  cases fault with
  | none =>
      obtain ⟨rfl, rfl⟩ := Prod.mk.inj executed
      exact ⟨logged.trans (.setRange _ _ _ _), rfl, rfl⟩
  | some failure =>
      obtain ⟨rfl, rfl⟩ := Prod.mk.inj executed
      exact ⟨logged.trans (.setRange _ _ _ _), nofun, _, rfl⟩

/-- An iteration succeeds exactly on an accepted chunk; it then writes the chunk's plaintext, and
otherwise nothing outside the slot changes. -/
theorem processChunk_triple (crypto : CryptoPrimitives) (faults : FlashFaults) {index : ℕ}
    (inside : index < numChunks args.imageSize.toNat)
    {text : List UInt8} (boundary : text.length = index * encChunkSize)
    (prefix_ok : PlausiblePrefix text) (device : Device) (stream : List UInt8) :
    Triple (At device stream) (processChunk crypto faults args (progressOf text) index)
      (fun progress state => ∃ chunk, Accepts crypto faults args index text stream chunk
          (available state.2) ∧
        progress = progressOf
          (text ++ chunkCrypt crypto args.aesKey args.noncePrefix index chunk.ciphertext) ∧
        state.1 = device.written args.slot text.length
          (chunkCrypt crypto args.aesKey args.noncePrefix index chunk.ciphertext))
      (fun halt state => Confined args.slot device state.1 ∧ (∃ error, halt = .err error) ∧
        ∀ chunk rest, ¬ Accepts crypto faults args index text stream chunk rest) := by
  have start := (lt_count_iff encChunkSize_pos _).mp inside
  have ends := min_mul_add_chunkLength encChunkSize_pos inside
  have size_bound := args.imageSize.toNat_lt
  unfold processChunk
  refine readExact_bind (fun short reader => ?_) fun lenBuf afterLen stream_eq len_length => ?_
  · refine ⟨.refl _ _, ⟨_, rfl⟩, fun chunk rest accepted => ?_⟩
    rw [accepted.stream_eq] at short
    simp [SealedChunk.wire] at short
  rw [expectedChunkLen_eq _ inside]
  refine Triple.lift_ok_bind ?_
  refine Triple.ensure_bind (fun other state here => ?_) fun declared => ?_
  · obtain ⟨rfl, -⟩ := here
    refine ⟨.refl _ _, ⟨_, rfl⟩, fun chunk rest accepted => other ?_⟩
    rw [(accepted.parts stream_eq len_length).1, accepted.seals.length,
      ofBigEndian_toBigEndian (length_lt _ _)]
  refine Triple.ensure_bind (fun oversized => absurd (declared ▸ chunkLength_le _ _ _) oversized)
    fun _ => ?_
  rw [declared]
  refine readExact_bind (fun short reader => ?_) fun ct afterCt afterLen_eq ct_length => ?_
  · refine ⟨.refl _ _, ⟨_, rfl⟩, fun chunk rest accepted => ?_⟩
    rw [(accepted.parts stream_eq len_length).2, List.length_append, accepted.seals.length] at short
    omega
  have split : ∀ {chunk rest}, Accepts crypto faults args index text stream chunk rest →
      ct = chunk.ciphertext ∧ afterCt = chunk.tag ++ rest := fun accepted =>
    List.append_inj (afterLen_eq.symm.trans (accepted.parts stream_eq len_length).2)
      (ct_length.trans accepted.seals.length.symm)
  refine readExact_bind (fun short reader => ?_) fun tagBuf afterTag afterCt_eq tag_length => ?_
  · refine ⟨.refl _ _, ⟨_, rfl⟩, fun chunk rest accepted => ?_⟩
    rw [(split accepted).2, List.length_append, accepted.seals.length_tag] at short
    omega
  have unique : ∀ {chunk rest}, Accepts crypto faults args index text stream chunk rest →
      chunk = ⟨ct, tagBuf⟩ := by
    intro chunk rest accepted
    obtain ⟨tag_eq, -⟩ := List.append_inj (afterCt_eq.symm.trans (split accepted).2)
      (tag_length.trans accepted.seals.length_tag.symm)
    rw [(split accepted).1, tag_eq]
  have offset_eq : (progressOf text).flashOffset = index * encChunkSize := boundary
  refine Triple.ensure_bind (fun other state here => ?_) fun verified => ?_
  · obtain ⟨rfl, -⟩ := here
    refine ⟨.refl _ _, ⟨_, rfl⟩, fun chunk rest accepted => other ?_⟩
    have tag_eq := accepted.seals.tag
    rw [unique accepted] at tag_eq
    rw [verifyChunkHmac_iff, offset_eq, ← ct_length]
    exact tag_eq
  rw [verifyChunkHmac_iff, offset_eq, ← ct_length] at verified
  have seals : Seals crypto args.toBodyKeys args.imageSize.toNat index ⟨ct, tagBuf⟩ :=
    ⟨ct_length, verified⟩
  rw [aesCtrCryptInPlace_eq]
  refine Triple.lift_ok_bind ?_
  have empty_or_long : text = [] ∨ espImagePrefixLen ≤ text.length := by
    cases index with
    | zero => exact .inl (List.length_eq_zero_iff.mp (by simpa using boundary))
    | succ index =>
        refine .inr (boundary ▸ ?_)
        exact le_trans (by decide : espImagePrefixLen ≤ 1 * encChunkSize)
          (Nat.mul_le_mul_right _ (by omega))
  have checks := checkImagePrefix_progressOf prefix_ok empty_or_long
    (chunkCrypt crypto args.aesKey args.noncePrefix index ct)
  refine Triple.lift_bind (fun halt refused state here => ?_) fun progress checked => ?_
  · obtain ⟨rfl, -⟩ := here
    rw [refused] at checks
    refine ⟨.refl _ _, checks.2, fun chunk rest accepted => checks.1 ?_⟩
    have next_prefix_ok := accepted.prefix_ok
    rwa [unique accepted] at next_prefix_ok
  rw [checked] at checks
  obtain ⟨next_prefix_ok, rfl⟩ := checks
  refine onDevice_bind (fun halt after failed reader => ?_) fun _ after wrote => ?_
  · obtain ⟨confined, faulty, error⟩ := write_outcome failed
    exact ⟨confined, error, fun chunk rest accepted => faulty accepted.written⟩
  obtain ⟨-, fault, rfl⟩ := write_outcome wrote
  have no_overflow : checkedAdd text.length
      (chunkLength encChunkSize args.imageSize.toNat index) =
        .ok (text.length + chunkLength encChunkSize args.imageSize.toNat index) :=
    if_pos (by omega)
  change Triple _ (Fallible.lift (checkedAdd text.length _) >>= fun flashOffset =>
    Fallible.lift (checkedAdd text.length _) >>= fun totalPlaintext => pure _) _ _
  rw [no_overflow]
  refine Triple.lift_ok_bind (Triple.lift_ok_bind (Triple.pure _ fun state here => ?_))
  obtain ⟨after_eq, rest_eq⟩ := here
  have lenBuf_eq : lenBuf = toBigEndian 4 ct.length := by
    rw [ct_length, ← declared, ← len_length, toBigEndian_ofBigEndian]
  refine ⟨⟨ct, tagBuf⟩, ⟨?_, seals, next_prefix_ok, fault⟩, ?_, after_eq⟩
  · rw [stream_eq, afterLen_eq, afterCt_eq, rest_eq, lenBuf_eq]
    simp only [SealedChunk.wire, List.append_assoc]
  · rw [progressOf_append, length_chunkCrypt, ct_length]
    rfl

end Chunk

/-! ## The whole body -/

/-- The stream starts with a sealed image that the device accepts. -/
structure Delivers (crypto : CryptoPrimitives) (faults : FlashFaults) (args : BodyArgs)
    (stream : List UInt8) (image : SealedImage crypto args.toBodyKeys args.imageSize.toNat)
    (rest : List UInt8) : Prop where
  stream_eq : stream = image.container ++ rest
  prefix_ok : PlausiblePrefix image.plaintext
  written : ∀ index < numChunks args.imageSize.toNat, faults.write index = none

/-- What the chunk loop has done with the stream behind the header after some chunks. -/
structure Parsed (crypto : CryptoPrimitives) (faults : FlashFaults) (args : BodyArgs)
    (device : Device) (body : List UInt8) (chunks : List SealedChunk) (progress : BodyProgress)
    (state : Device × Reader) : Prop where
  seals : SealedChunks crypto args.toBodyKeys args.imageSize.toNat chunks
  prefix_ok : PlausiblePrefix (decrypt crypto args.toBodyKeys chunks)
  written : ∀ index < chunks.length, faults.write index = none
  progress_eq : progress = progressOf (decrypt crypto args.toBodyKeys chunks)
  body_eq : body = chunks.flatMap SealedChunk.wire ++ available state.2
  installed : Installed args.slot (decrypt crypto args.toBodyKeys chunks) chunks.length device
    state.1

section Body

variable {crypto : CryptoPrimitives} {faults : FlashFaults} {args : BodyArgs}

/-- The first chunks of a plausible image are plausible. -/
theorem SealedImage.plausible_front
    (image : SealedImage crypto args.toBodyKeys args.imageSize.toNat)
    {chunks remaining : List SealedChunk} (split : image.chunks = chunks ++ remaining)
    (prefix_ok : PlausiblePrefix image.plaintext) :
    PlausiblePrefix (decrypt crypto args.toBodyKeys chunks) := by
  cases remaining with
  | nil => rwa [SealedImage.plaintext, split, List.append_nil] at prefix_ok
  | cons next remaining =>
      rcases Nat.eq_zero_or_pos chunks.length with empty | nonempty
      · rw [List.length_eq_zero_iff.mp empty]
        exact fun long => absurd long (by simp)
      have count := image.count
      rw [split, List.length_append, List.length_cons] at count
      have sealed : SealedChunks crypto args.toBodyKeys args.imageSize.toNat chunks := by
        intro index inside
        have whole := image.seals index (by rw [split, List.length_append]; omega)
        simpa only [split, List.getElem_append_left inside] using whole
      have start : chunks.length * encChunkSize < args.imageSize.toNat :=
        (lt_count_iff encChunkSize_pos _).mp (by rw [← numChunks_eq_count]; omega)
      rw [SealedImage.plaintext, split, decrypt_append] at prefix_ok
      refine prefix_ok.of_append ?_
      rw [sealed.length_decrypt (by omega), min_eq_left start.le]
      exact le_trans (by decide : espImagePrefixLen ≤ 1 * encChunkSize)
        (Nat.mul_le_mul_right _ nonempty)

/-- A delivered image has a next accepted chunk behind any of its chunks that were parsed. -/
theorem Delivers.accepts {device : Device} {header body stream rest : List UInt8}
    {chunks : List SealedChunk} {progress : BodyProgress} {state : Device × Reader}
    {image : SealedImage crypto args.toBodyKeys args.imageSize.toNat}
    (delivers : Delivers crypto faults args stream image rest)
    (parsed : Parsed crypto faults args device body chunks progress state)
    (stream_eq : stream = header ++ body) (length : header.length = otaV2HeaderSize)
    (inside : chunks.length < numChunks args.imageSize.toNat) :
    ∃ chunk after, Accepts crypto faults args chunks.length
      (decrypt crypto args.toBodyKeys chunks) (available state.2) chunk after := by
  have same := stream_eq.symm.trans delivers.stream_eq
  rw [SealedImage.container, List.append_assoc] at same
  obtain ⟨-, body_eq⟩ := List.append_inj same (length.trans length_otaHeader.symm)
  obtain ⟨remaining, split, available_eq⟩ := parsed.seals.front_of_same image.seals
    (image.count ▸ inside.le) (parsed.body_eq.symm.trans body_eq)
  cases remaining with
  | nil =>
      have count := image.count
      rw [split, List.append_nil] at count
      omega
  | cons chunk remaining =>
      have seals := image.seals chunks.length (by rw [split]; simp)
      simp only [split, List.getElem_append_right (le_refl _), Nat.sub_self,
        List.getElem_cons_zero] at seals
      have prefix_ok : PlausiblePrefix (decrypt crypto args.toBodyKeys (chunks ++ [chunk])) :=
        image.plausible_front (split.trans (List.append_cons _ _ _)) delivers.prefix_ok
      rw [decrypt_concat] at prefix_ok
      exact ⟨chunk, remaining.flatMap SealedChunk.wire ++ rest,
        by rw [available_eq, List.flatMap_cons, List.append_assoc], seals, prefix_ok,
        delivers.written _ inside⟩

/-- An accepted chunk extends what was parsed. -/
theorem Parsed.concat {device : Device} {body : List UInt8} {chunks : List SealedChunk}
    {progress : BodyProgress} {state after : Device × Reader} {chunk : SealedChunk}
    (parsed : Parsed crypto faults args device body chunks progress state)
    (inside : chunks.length < numChunks args.imageSize.toNat)
    (accepts : Accepts crypto faults args chunks.length (decrypt crypto args.toBodyKeys chunks)
      (available state.2) chunk (available after.2))
    (written : after.1 = state.1.written args.slot (decrypt crypto args.toBodyKeys chunks).length
      (chunkCrypt crypto args.aesKey args.noncePrefix chunks.length chunk.ciphertext)) :
    Parsed crypto faults args device body (chunks ++ [chunk])
      (progressOf (decrypt crypto args.toBodyKeys (chunks ++ [chunk]))) after where
  seals := parsed.seals.concat accepts.seals
  prefix_ok := by
    rw [decrypt_concat]
    exact accepts.prefix_ok
  written := by
    intro index bound
    rw [List.length_append, List.length_singleton] at bound
    rcases Nat.lt_succ_iff_lt_or_eq.mp bound with earlier | rfl
    · exact parsed.written index earlier
    · exact accepts.written
  progress_eq := rfl
  body_eq := by
    rw [parsed.body_eq, accepts.stream_eq]
    simp
  installed := by
    have start := (lt_count_iff encChunkSize_pos _).mp inside
    have boundary := parsed.seals.length_decrypt inside.le
    rw [min_eq_left start.le] at boundary
    have fits : (chunkCrypt crypto args.aesKey args.noncePrefix chunks.length
        chunk.ciphertext).length ≤ encChunkSize := by
      rw [length_chunkCrypt, accepts.seals.length]
      exact chunkLength_le _ _ _
    rw [written, decrypt_concat, List.length_append, List.length_singleton]
    exact parsed.installed.write boundary fits

/-- One iteration extends what was parsed, or the stream delivers no sealed image. -/
theorem processChunk_parsed {device : Device} {header body stream : List UInt8}
    (stream_eq : stream = header ++ body) (length : header.length = otaV2HeaderSize) (index : ℕ)
    (progress : BodyProgress) (inside : index < numChunks args.imageSize.toNat) :
    Triple
      (fun state => ∃ chunks : List SealedChunk, chunks.length = index ∧
        Parsed crypto faults args device body chunks progress state)
      (processChunk crypto faults args progress index)
      (fun progress state => ∃ chunks : List SealedChunk, chunks.length = index + 1 ∧
        Parsed crypto faults args device body chunks progress state)
      (fun halt state => Confined args.slot device state.1 ∧ (∃ error, halt = .err error) ∧
        ∀ image rest, ¬ Delivers crypto faults args stream image rest) := by
  rintro state ⟨chunks, rfl, parsed⟩
  obtain rfl := parsed.progress_eq
  have start := (lt_count_iff encChunkSize_pos _).mp inside
  have boundary := parsed.seals.length_decrypt inside.le
  rw [min_eq_left start.le] at boundary
  have outcome := processChunk_triple crypto faults inside boundary parsed.prefix_ok
    state.1 (available state.2) state ⟨rfl, rfl⟩
  rcases executed : exec (processChunk crypto faults args _ chunks.length) state with
    ⟨halt | progress, after⟩ <;> simp only [executed] at outcome ⊢
  · obtain ⟨confined, error, refused⟩ := outcome
    refine ⟨parsed.installed.confined.trans confined, error, fun image rest delivers => ?_⟩
    obtain ⟨chunk, afterChunk, accepts⟩ := delivers.accepts parsed stream_eq length inside
    exact refused chunk afterChunk accepts
  · obtain ⟨chunk, accepts, rfl, written⟩ := outcome
    have extended := parsed.concat inside accepts written
    rw [decrypt_concat] at extended
    exact ⟨chunks ++ [chunk], by simp, extended⟩

/-- The body is processed exactly if the stream delivers a sealed image; the slot then holds its
plaintext, and otherwise nothing outside the slot changes. -/
theorem processEncryptedBody_triple (crypto : CryptoPrimitives) (faults : FlashFaults)
    (args : BodyArgs) (device : Device) (stream : List UInt8) :
    Triple (At device stream) (processEncryptedBody crypto faults args)
      (fun result state => ∃ image : SealedImage crypto args.toBodyKeys args.imageSize.toNat,
        Delivers crypto faults args stream image (available state.2) ∧
        Installed args.slot image.plaintext (numChunks args.imageSize.toNat) device state.1 ∧
        result = .of crypto image.plaintext)
      (fun halt state => Confined args.slot device state.1 ∧ (∃ error, halt = .err error) ∧
        ∀ image rest, ¬ Delivers crypto faults args stream image rest) := by
  unfold processEncryptedBody
  refine readExact_bind (fun short reader => ?_) fun header body stream_eq length => ?_
  · refine ⟨.refl _ _, ⟨_, rfl⟩, fun image rest delivers => ?_⟩
    rw [delivers.stream_eq, SealedImage.container, List.length_append, List.length_append,
      length_otaHeader] at short
    omega
  refine Triple.lift_bind (fun halt refused state here => ?_) fun _ accepted => ?_
  · obtain ⟨rfl, -⟩ := here
    cases validated : validateOtaHeader header with
    | ok => simp [validated, Except.mapError] at refused
    | error error =>
        simp only [validated, Except.mapError, Except.error.injEq] at refused
        refine ⟨.refl _ _, ⟨_, refused.symm⟩, fun image rest delivers => ?_⟩
        have same := stream_eq.symm.trans delivers.stream_eq
        rw [SealedImage.container, List.append_assoc] at same
        rw [(List.append_inj same (length.trans length_otaHeader.symm)).1,
          validateOtaHeader_otaHeader] at validated
        cases validated
  have header_eq : header = otaHeader := by
    refine eq_otaHeader_of_validate length ?_
    cases validated : validateOtaHeader header with
    | ok => rfl
    | error error => simp [validated, Except.mapError] at accepted
  have loop := Triple.foldlM_range
    (fun index progress state => ∃ chunks : List SealedChunk, chunks.length = index ∧
      Parsed crypto faults args device body chunks progress state)
    (numChunks args.imageSize.toNat)
    (fun index progress inside => processChunk_parsed stream_eq length index progress inside)
    BodyProgress.initial
  refine Triple.bind (loop.consequence ?_ (fun _ _ => id) fun _ _ => id) fun progress => ?_
  · rintro state ⟨rfl, rest_eq⟩
    exact ⟨[], rfl, .nil, fun long => absurd long (by simp), by rintro _ ⟨⟩, rfl, by simp [rest_eq],
      .nil _ _⟩
  refine Triple.pure _ ?_
  rintro state ⟨chunks, count, parsed⟩
  let image : SealedImage crypto args.toBodyKeys args.imageSize.toNat :=
    ⟨chunks, count, parsed.seals⟩
  refine ⟨image, ⟨?_, parsed.prefix_ok, count ▸ parsed.written⟩, count ▸ parsed.installed, ?_⟩
  · rw [stream_eq, header_eq, parsed.body_eq, SealedImage.container, List.append_assoc]
  · rw [parsed.progress_eq]
    rfl

/-- A delivered image is installed. -/
theorem processEncryptedBody_of_delivers (device : Device) {reader : Reader}
    {image : SealedImage crypto args.toBodyKeys args.imageSize.toNat} {rest : List UInt8}
    (delivers : Delivers crypto faults args (available reader) image rest) :
    ∃ after, exec (processEncryptedBody crypto faults args) (device, reader) =
        (.ok (.of crypto image.plaintext), after) ∧
      Installed args.slot image.plaintext (numChunks args.imageSize.toNat) device after.1 := by
  have outcome := processEncryptedBody_triple crypto faults args device (available reader)
    (device, reader) ⟨rfl, rfl⟩
  rcases executed : exec (processEncryptedBody crypto faults args) (device, reader) with
    ⟨halt | result, after⟩ <;> simp only [executed] at outcome
  · exact absurd delivers (outcome.2.2 image rest)
  · obtain ⟨other, other_delivers, installed, rfl⟩ := outcome
    rw [SealedImage.eq_of_container_append
      (delivers.stream_eq.symm.trans other_delivers.stream_eq)]
    exact ⟨after, rfl, installed⟩

end Body

end Firmware
end Motonet
