import Motonet.RoundTrip

/-!
# When the image prefix is checked

The chunk loop again, with a record of its calls to `validate_esp_image_prefix`.  Without the record
it is the loop of the download.  An image of eight bytes or more is checked exactly once, on its
first bytes and before anything is written; a shorter one is written without any check.
-/

namespace Motonet

open ByteString OtaCore Chunked Fallible Firmware

/-- A call of `validate_esp_image_prefix`, and the device at that moment. -/
structure PrefixCall where
  bytes : List UInt8
  device : Device

/-- The state of a download and the calls of `validate_esp_image_prefix` so far. -/
abbrev Recorded := (Device × Reader) × List PrefixCall

/-- Note a call of `validate_esp_image_prefix` and make it. -/
def recordedValidate (firstBytes : List UInt8) : Fallible Halt Recorded Unit := do
  record fun state calls => calls ++ [⟨firstBytes, state.1⟩]
  Fallible.lift ((validateEspImagePrefix firstBytes).mapError fun error =>
    Halt.err (.invalidImagePrefix error))

/-- `checkImagePrefix` with a record of its call. -/
def recordedCheckImagePrefix (progress : BodyProgress) (plaintext : List UInt8) :
    Fallible Halt Recorded BodyProgress :=
  if progress.prefixValidated then pure progress
  else
    let copy := min plaintext.length (espImagePrefixLen - progress.firstBytes.length)
    let firstBytes := progress.firstBytes ++ plaintext.take copy
    if 8 ≤ firstBytes.length then do
      recordedValidate firstBytes
      return { progress with firstBytes := firstBytes, prefixValidated := true }
    else pure { progress with firstBytes := firstBytes }

section Recording

variable (crypto : CryptoPrimitives) (faults : FlashFaults) (args : BodyArgs)

/-- `processChunk` with a record of its check. -/
def recordedChunk (progress : BodyProgress) (chunkIndex : ℕ) :
    Fallible Halt Recorded BodyProgress := do
  let lenBuf ← unrecorded (onReader (readExact 4))
  let ciphertextLen := ofBigEndian lenBuf
  let expectedLen ← Fallible.lift (expectedChunkLen args.imageSize.toNat chunkIndex)
  Fallible.ensure (ciphertextLen = expectedLen) (.err .chunkTruncated)
  Fallible.ensure (ciphertextLen ≤ encChunkSize) .panic
  let ct ← unrecorded (onReader (readExact ciphertextLen))
  let tagBuf ← unrecorded (onReader (readExact hmacTagSize))
  Fallible.ensure
    (verifyChunkHmac crypto args.hmacKey args.manifestDigest chunkIndex progress.flashOffset
      ciphertextLen ct tagBuf = true) (.err .hmacMismatch)
  let plaintext ← Fallible.lift
    ((aesCtrCryptInPlace crypto args.aesKey args.noncePrefix chunkIndex ct).mapError
      fun error => Halt.err (.aesError error))
  let progress ← recordedCheckImagePrefix progress plaintext
  unrecorded (onDevice (flashOperation
    (writeRegion args.slot progress.flashOffset plaintext (faults.write chunkIndex))))
  let copy := min plaintext.length (flashReadbackLen - progress.readbackLen)
  let flashOffset ← Fallible.lift (checkedAdd progress.flashOffset ciphertextLen)
  let totalPlaintext ← Fallible.lift (checkedAdd progress.totalPlaintext ciphertextLen)
  return { progress with
    totalPlaintext := totalPlaintext
    flashOffset := flashOffset
    shaHasher := progress.shaHasher ++ plaintext
    readbackHasher := progress.readbackHasher ++ plaintext.take copy
    readbackLen := progress.readbackLen + copy }

/-- `processEncryptedBody` with a record of its checks. -/
def recordedEncryptedBody : Fallible Halt Recorded EncryptedResult := do
  let header ← unrecorded (onReader (readExact otaV2HeaderSize))
  Fallible.lift ((validateOtaHeader header).mapError fun error => Halt.err (.ofHeader error))
  let progress ← (List.range (numChunks args.imageSize.toNat)).foldlM
    (recordedChunk crypto faults args) BodyProgress.initial
  return {
    totalPlaintext := progress.totalPlaintext
    digest := crypto.sha256 progress.shaHasher
    readbackLen := progress.readbackLen
    readbackDigest := crypto.sha256 progress.readbackHasher }

end Recording

/-! ## Without the record -/

theorem erases_recordedCheckImagePrefix (progress : BodyProgress) (plaintext : List UInt8) :
    Erases (recordedCheckImagePrefix progress plaintext)
      (Fallible.lift (checkImagePrefix progress plaintext)) := by
  simp only [recordedCheckImagePrefix, checkImagePrefix]
  split
  · exact .pure _
  · split
    · cases validated : validateEspImagePrefix (progress.firstBytes ++ plaintext.take
          (min plaintext.length (espImagePrefixLen - progress.firstBytes.length))) with
      | ok => simp only [recordedValidate, validated]; exact fun _ => rfl
      | error error => simp only [recordedValidate, validated]; exact fun _ => rfl
    · exact .pure _

section Erasure

variable (crypto : CryptoPrimitives) (faults : FlashFaults) (args : BodyArgs)

theorem erases_recordedChunk (progress : BodyProgress) (index : ℕ) :
    Erases (recordedChunk crypto faults args progress index)
      (processChunk crypto faults args progress index) := by
  unfold recordedChunk processChunk
  refine .bind (.unrecorded _) fun _ => .bind (.lift _) fun _ => .bind (.ensure _ _) fun _ =>
    .bind (.ensure _ _) fun _ => .bind (.unrecorded _) fun _ => .bind (.unrecorded _) fun _ =>
    .bind (.ensure _ _) fun _ => .bind (.lift _) fun _ => ?_
  refine .bind (erases_recordedCheckImagePrefix _ _) fun _ => .bind (.unrecorded _) fun _ => ?_
  exact .bind (.lift _) fun _ => .bind (.lift _) fun _ => .pure _

/-- Keeping the record does not change what is done with a body. -/
theorem erases_recordedEncryptedBody :
    Erases (recordedEncryptedBody crypto faults args)
      (processEncryptedBody crypto faults args) := by
  unfold recordedEncryptedBody processEncryptedBody
  refine .bind (.unrecorded _) fun _ => .bind (.lift _) fun _ => ?_
  exact .bind (.foldlM (erases_recordedChunk crypto faults args) _ _) fun _ => .pure _

end Erasure

variable {crypto : CryptoPrimitives} {faults : FlashFaults} {args : BodyArgs}

/-! ## The record -/

/-- The calls with which an image is checked that is found on a device. -/
def prefixCalls (device : Device) (text : List UInt8) : List PrefixCall :=
  if 8 ≤ text.length then [⟨text.take espImagePrefixLen, device⟩] else []

/-- The check is made when the image reaches eight bytes. -/
theorem recordedCheckImagePrefix_calls {text piece : List UInt8} {state after : Recorded}
    {progress : BodyProgress} (boundary : text = [] ∨ espImagePrefixLen ≤ text.length)
    (executed : exec (recordedCheckImagePrefix (progressOf text) piece) state =
      (.ok progress, after)) :
    progress.shaHasher = text ∧
      after.2 = state.2 ++
        if 8 ≤ text.length then [] else prefixCalls state.1.1 (text ++ piece) := by
  rcases boundary with rfl | long
  · have copied : piece.take (min piece.length espImagePrefixLen) =
        piece.take espImagePrefixLen := by
      rw [List.take_eq_take_iff]
      omega
    have checked : 8 ≤ (piece.take espImagePrefixLen).length ↔ 8 ≤ piece.length := by
      rw [List.length_take, le_min_iff]
      exact and_iff_right (by decide)
    simp only [recordedCheckImagePrefix, progressOf, List.length_nil, List.take_nil,
      Nat.sub_zero, List.nil_append, copied, checked, show ¬ 8 ≤ 0 by decide, decide_false,
      Bool.false_eq_true, if_false] at executed
    simp only [List.length_nil, show ¬ 8 ≤ 0 by decide, if_false, List.nil_append, prefixCalls]
    by_cases enough : 8 ≤ piece.length
    · rw [if_pos enough] at executed ⊢
      obtain ⟨_, middle, validated, returned⟩ := exec_bind_eq_ok executed
      obtain ⟨_, noted, recorded, accepted⟩ := exec_bind_eq_ok validated
      obtain ⟨-, rfl⟩ := exec_lift_eq_ok accepted
      cases recorded
      cases returned
      exact ⟨rfl, rfl⟩
    · rw [if_neg enough] at executed ⊢
      cases executed
      exact ⟨rfl, (List.append_nil _).symm⟩
  · have checked : 8 ≤ text.length := le_trans (by decide) long
    simp only [recordedCheckImagePrefix, progressOf, checked, decide_true, if_true] at executed
    cases executed
    exact ⟨rfl, by rw [if_pos checked, List.append_nil]⟩

/-- Reading takes bytes off the stream and leaves the device and the record alone. -/
private theorem reading_takes {len : ℕ} {bytes : List UInt8} {state after : Recorded}
    (executed : exec (unrecorded (onReader (readExact len))) state = (.ok bytes, after)) :
    (bytes.length = len ∧ available state.1.2 = bytes ++ available after.1.2) ∧
      after.1.1 = state.1.1 ∧ after.2 = state.2 := by
  have spec := readExactLoop_spec len state.1.2
  have unfolded : exec (unrecorded (onReader (readExact len))) state =
      ((readExactLoop len state.1.2).1.mapError Halt.err,
        ((state.1.1, (readExactLoop len state.1.2).2), state.2)) := rfl
  rw [unfolded] at executed
  rcases outcome : readExactLoop len state.1.2 with ⟨error | taken, rest⟩ <;>
    simp only [outcome] at spec executed
  · cases executed
  · cases executed
    exact ⟨spec, rfl, rfl⟩

/-- One iteration appends a piece to the image, and checks the image if it reaches eight bytes
with it. -/
theorem recordedChunk_calls {text : List UInt8} {index : ℕ} {state after : Recorded}
    {progress : BodyProgress} (boundary : text = [] ∨ espImagePrefixLen ≤ text.length)
    (executed : exec (recordedChunk crypto faults args (progressOf text) index) state =
      (.ok progress, after)) :
    ∃ piece, progress.shaHasher = text ++ piece ∧
      after.2 = state.2 ++
        if 8 ≤ text.length then [] else prefixCalls state.1.1 (text ++ piece) := by
  obtain ⟨lenBuf, afterLen, read_len, from_len⟩ := exec_bind_eq_ok executed
  obtain ⟨expectedLen, _, expected, from_expected⟩ := exec_bind_eq_ok from_len
  obtain ⟨-, rfl⟩ := exec_lift_eq_ok expected
  obtain ⟨_, _, declared, from_declared⟩ := exec_bind_eq_ok from_expected
  obtain ⟨-, rfl⟩ := exec_ensure_eq_ok declared
  obtain ⟨_, _, fits, from_fits⟩ := exec_bind_eq_ok from_declared
  obtain ⟨-, rfl⟩ := exec_ensure_eq_ok fits
  obtain ⟨ct, afterCt, read_ct, from_ct⟩ := exec_bind_eq_ok from_fits
  obtain ⟨tagBuf, afterTag, read_tag, from_tag⟩ := exec_bind_eq_ok from_ct
  obtain ⟨_, _, verified, from_verified⟩ := exec_bind_eq_ok from_tag
  obtain ⟨-, rfl⟩ := exec_ensure_eq_ok verified
  obtain ⟨plaintext, _, decrypted, from_decrypted⟩ := exec_bind_eq_ok from_verified
  obtain ⟨-, rfl⟩ := exec_lift_eq_ok decrypted
  obtain ⟨checked, afterCheck, check, from_check⟩ := exec_bind_eq_ok from_decrypted
  obtain ⟨sha_eq, calls_eq⟩ := recordedCheckImagePrefix_calls boundary check
  obtain ⟨_, afterWrite, write, from_write⟩ := exec_bind_eq_ok from_check
  have written : afterWrite.2 = afterCheck.2 := (congrArg (fun outcome => outcome.2.2) write).symm
  obtain ⟨flashOffset, _, advanced, from_advanced⟩ := exec_bind_eq_ok from_write
  obtain ⟨-, rfl⟩ := exec_lift_eq_ok advanced
  obtain ⟨totalPlaintext, _, counted, returned⟩ := exec_bind_eq_ok from_advanced
  obtain ⟨-, rfl⟩ := exec_lift_eq_ok counted
  cases returned
  obtain ⟨-, len_device, len_calls⟩ := reading_takes read_len
  obtain ⟨-, ct_device, ct_calls⟩ := reading_takes read_ct
  obtain ⟨-, tag_device, tag_calls⟩ := reading_takes read_tag
  refine ⟨plaintext, congrArg (· ++ plaintext) sha_eq, ?_⟩
  rw [written, calls_eq, tag_device, tag_calls, ct_device, ct_calls, len_device, len_calls]

/-- What the recording loop has done after some chunks: it has parsed them, and the record holds
the check of the image so far. -/
structure Recording (crypto : CryptoPrimitives) (faults : FlashFaults) (args : BodyArgs)
    (device : Device) (body : List UInt8) (index : ℕ) (progress : BodyProgress)
    (state : Recorded) : Prop where
  parsed : ∃ chunks : List SealedChunk, chunks.length = index ∧
    Parsed crypto faults args device body chunks progress state.1
  untouched : index = 0 → state.1.1 = device
  calls : state.2 = prefixCalls device progress.shaHasher

/-- One iteration keeps the record exact. -/
theorem recordedChunk_recording {device : Device} {header body stream : List UInt8}
    (stream_eq : stream = header ++ body) (length : header.length = otaV2HeaderSize) (index : ℕ)
    (progress : BodyProgress) (inside : index < numChunks args.imageSize.toNat) :
    Triple (Recording crypto faults args device body index progress)
      (recordedChunk crypto faults args progress index)
      (Recording crypto faults args device body (index + 1)) (fun _ _ => True) := by
  refine Triple.of_returned fun state recording next after executed => ?_
  have parsed_next := ((erases_recordedChunk crypto faults args progress index).triple
    (processChunk_parsed stream_eq length index progress inside)).of_ok recording.parsed executed
  obtain ⟨chunks, rfl, parsed⟩ := recording.parsed
  obtain rfl := parsed.progress_eq
  have start := (lt_count_iff encChunkSize_pos _).mp inside
  have text_length := parsed.seals.length_decrypt inside.le
  rw [min_eq_left start.le] at text_length
  have boundary : decrypt crypto args.toBodyKeys chunks = [] ∨
      espImagePrefixLen ≤ (decrypt crypto args.toBodyKeys chunks).length := by
    rcases Nat.eq_zero_or_pos chunks.length with none | some
    · exact .inl (by rw [List.length_eq_zero_iff.mp none, decrypt_nil])
    · refine .inr (text_length ▸ ?_)
      exact le_trans (by decide : espImagePrefixLen ≤ 1 * encChunkSize)
        (Nat.mul_le_mul_right _ some)
  obtain ⟨piece, sha_eq, calls_eq⟩ := recordedChunk_calls boundary executed
  refine ⟨parsed_next, by omega, ?_⟩
  rw [calls_eq, recording.calls, sha_eq]
  rcases boundary with empty | long
  · have first : chunks.length = 0 := by
      rw [empty, List.length_nil] at text_length
      exact (Nat.mul_eq_zero.mp text_length.symm).resolve_right (by decide)
    rw [recording.untouched first, empty]
    rfl
  · have checked : 8 ≤ (decrypt crypto args.toBodyKeys chunks).length := le_trans (by decide) long
    have checked_all : 8 ≤ (decrypt crypto args.toBodyKeys chunks ++ piece).length := by
      rw [List.length_append]
      omega
    rw [if_pos checked, List.append_nil, prefixCalls, prefixCalls, if_pos checked_all,
      List.take_append_of_le_length long]
    exact if_pos checked

/-- A body that was processed is a sealed image, and the record is its check. -/
theorem recordedEncryptedBody_calls {device : Device} {reader : Reader} {result : EncryptedResult}
    {after : Recorded}
    (executed : exec (recordedEncryptedBody crypto faults args) ((device, reader), []) =
      (.ok result, after)) :
    ∃ image : SealedImage crypto args.toBodyKeys args.imageSize.toNat,
      PlausiblePrefix image.plaintext ∧
      Installed args.slot image.plaintext (numChunks args.imageSize.toNat) device after.1.1 ∧
      after.2 = prefixCalls device image.plaintext := by
  obtain ⟨header, _, read, from_header⟩ := exec_bind_eq_ok executed
  obtain ⟨_, afterHeader, accepted, from_accepted⟩ := exec_bind_eq_ok from_header
  obtain ⟨-, rfl⟩ := exec_lift_eq_ok accepted
  obtain ⟨progress, afterLoop, looped, returned⟩ := exec_bind_eq_ok from_accepted
  cases returned
  obtain ⟨⟨length, stream_eq⟩, untouched, no_calls⟩ := reading_takes read
  have loop := Triple.foldlM_range
    (Recording crypto faults args device (available afterHeader.1.2))
    (numChunks args.imageSize.toNat)
    (fun index progress inside => recordedChunk_recording stream_eq length index progress inside)
    BodyProgress.initial
  have started : Recording crypto faults args device (available afterHeader.1.2) 0
      BodyProgress.initial afterHeader :=
    { parsed := ⟨[], rfl, .nil, fun long => absurd long (by simp), nofun, rfl, rfl,
        untouched ▸ .nil _ _⟩
      untouched := fun _ => untouched
      calls := no_calls }
  have finished := loop.of_ok started looped
  obtain ⟨chunks, count, parsed⟩ := finished.parsed
  refine ⟨⟨chunks, count, parsed.seals⟩, parsed.prefix_ok, count ▸ parsed.installed, ?_⟩
  rw [finished.calls]
  exact congrArg (fun last => prefixCalls device last.shaHasher) parsed.progress_eq

/-! ## Which images are checked -/

/-- `validate_esp_image_prefix` was called on the first bytes of an image and accepted them, while
the device was still as it was before the download. -/
def PrefixChecked (before : Device) (image : List UInt8) (calls : List PrefixCall) : Prop :=
  ∃ call ∈ calls, call.bytes <+: image ∧ validateEspImagePrefix call.bytes = .ok () ∧
    call.device = before

/-- Every image of a given size that is processed without an error was checked before it was
written. -/
def ChecksPrefix (crypto : CryptoPrimitives) (keys : BodyKeys) (slot : Slot) (imageSize : UInt32) :
    Prop :=
  ∀ (faults : FlashFaults) (device : Device) (reader : Reader) (result : EncryptedResult)
    (after : Device) (rest : Reader) (calls : List PrefixCall),
    exec (recordedEncryptedBody crypto faults { keys with slot := slot, imageSize := imageSize })
      ((device, reader), []) = (.ok result, ((after, rest), calls)) →
    PrefixChecked device (after.readRange slot 0 imageSize.toNat) calls

/-- An image of less than eight bytes is processed without any check. -/
theorem short_image_processed (crypto : CryptoPrimitives) (keys : BodyKeys) (slot : Slot)
    (device : Device) {imageSize : UInt32} {text : List UInt8}
    (size : text.length = imageSize.toNat) (short : text.length < 8) :
    ∃ after rest, exec (recordedEncryptedBody crypto FlashFaults.none
        { keys with slot := slot, imageSize := imageSize })
      ((device, [.slice (sealImage crypto keys text size).container]), []) =
        (.ok (.of crypto text), ((after, rest), [])) := by
  have nonempty : (sealImage crypto keys text size).container.isEmpty = false := rfl
  have delivers : Delivers crypto FlashFaults.none
      { keys with slot := slot, imageSize := imageSize }
      (available [.slice (sealImage crypto keys text size).container])
      (sealImage crypto keys text size) [] :=
    { stream_eq := by simp only [available, nonempty, Bool.false_eq_true, if_false]
      prefix_ok := by
        rw [plaintext_sealImage]
        exact fun long => absurd long (by omega)
      written := fun _ _ => rfl }
  obtain ⟨_, executed, -⟩ := processEncryptedBody_of_delivers device delivers
  have erased := erases_recordedEncryptedBody crypto FlashFaults.none
    { keys with slot := slot, imageSize := imageSize }
    ((device, [.slice (sealImage crypto keys text size).container]), [])
  rcases recorded : exec (recordedEncryptedBody crypto FlashFaults.none
      { keys with slot := slot, imageSize := imageSize })
    ((device, [.slice (sealImage crypto keys text size).container]), []) with
    ⟨outcome, ⟨after, rest⟩, calls⟩
  rw [executed, recorded, plaintext_sealImage] at erased
  obtain ⟨rfl, -⟩ := Prod.mk.inj erased
  obtain ⟨image, -, -, calls_eq⟩ := recordedEncryptedBody_calls recorded
  have unchecked : calls = [] := by
    refine calls_eq.trans ?_
    rw [prefixCalls, SealedImage.length_plaintext]
    exact if_neg (size ▸ not_le.mpr short)
  exact ⟨after, rest, by rw [unchecked]⟩

/-- The images that are checked before they are written are those of at least eight bytes. -/
theorem checksPrefix_iff (crypto : CryptoPrimitives) (keys : BodyKeys) (slot : Slot)
    (manifest : OtaManifest) :
    ChecksPrefix crypto keys slot manifest.imageSize ↔ 8 ≤ manifest.imageSize.toNat := by
  constructor
  · intro checks
    by_contra short
    have size : (List.replicate manifest.imageSize.toNat (0 : UInt8)).length =
        manifest.imageSize.toNat := List.length_replicate
    obtain ⟨after, rest, executed⟩ := short_image_processed crypto keys slot
      ⟨.ota0, fun _ => .valid, fun _ _ => 0, []⟩ size (by omega)
    obtain ⟨call, member, -⟩ := checks _ _ _ _ _ _ _ executed
    cases member
  · intro long faults device reader result after rest calls executed
    obtain ⟨image, prefix_ok, installed, rfl⟩ := recordedEncryptedBody_calls executed
    have size : image.plaintext.length = manifest.imageSize.toNat := image.length_plaintext
    have content := installed.content
    rw [size] at content
    have checked : prefixCalls device image.plaintext =
        [⟨image.plaintext.take espImagePrefixLen, device⟩] := if_pos (size.symm ▸ long)
    refine ⟨⟨image.plaintext.take espImagePrefixLen, device⟩, ?_, ?_, ?_, rfl⟩
    · rw [checked]
      exact List.mem_singleton_self _
    · rw [content]
      exact List.take_prefix _ _
    · exact prefix_ok (size.symm ▸ long)

/-- A valid manifest for an image of five bytes. -/
def fiveByteManifest : OtaManifest :=
  { sampleManifest with imageSize := 5, downloadSize := 57 }

/-- Five bytes that no ESP image starts with are processed without any check. -/
theorem five_bytes_unchecked :
    fiveByteManifest.validate = .ok () ∧
      validateEspImagePrefix [1, 2, 3, 4, 5] = .error .tooShort ∧
      ¬ ChecksPrefix sampleCrypto (Packer.deviceKeys sampleCrypto sampleInputs sampleNonce) .ota1
        fiveByteManifest.imageSize := by
  refine ⟨by decide +kernel, by decide, fun checks => ?_⟩
  obtain ⟨after, rest, executed⟩ := short_image_processed sampleCrypto
    (Packer.deviceKeys sampleCrypto sampleInputs sampleNonce) .ota1 sampleDevice
    (show [1, 2, 3, 4, 5].length = fiveByteManifest.imageSize.toNat from rfl) (by decide)
  obtain ⟨call, member, -⟩ := checks _ _ _ _ _ _ _ executed
  cases member

end Motonet
