import Motonet.RoundTrip

/-!
# Bounds of a download

The size formula of a manifest, the arithmetic of the chunk loop and the erase arithmetic agree.
Whatever the reader answers, the loop stays inside the erased range and takes at most the declared
number of bytes off the stream.
-/

namespace Motonet

open ByteString OtaCore Chunked Fallible Firmware

/-! ## What a reader holds -/

/-- Number of bytes in an answer of `fill_buf`. -/
def Firmware.Fill.size : Fill → ℕ
  | .slice bytes => bytes.length
  | .failed | .timedOut => 0

/-- Number of bytes that a reader has not handed over yet. -/
def held (reader : Reader) : ℕ :=
  (reader.map Fill.size).sum

@[simp]
theorem held_nil : held [] = 0 := rfl

@[simp]
theorem held_cons (fill : Fill) (fills : Reader) :
    held (fill :: fills) = fill.size + held fills := rfl

/-- A read takes exactly the missing bytes, or fails before it has taken them all. -/
theorem readExactLoop_held (missing : ℕ) (reader : Reader) :
    match readExactLoop missing reader with
    | (.ok _, rest) => held reader = missing + held rest
    | (.error _, rest) => ∃ count < missing, held reader = count + held rest := by
  induction reader generalizing missing with
  | nil =>
      by_cases done : missing = 0
      · simp [readExactLoop, done]
      · simp only [readExactLoop, if_neg done]
        exact ⟨0, Nat.pos_of_ne_zero done, rfl⟩
  | cons fill fills ih =>
      by_cases done : missing = 0
      · simp [readExactLoop, done]
      have some_missing := Nat.pos_of_ne_zero done
      cases fill with
      | failed =>
          simp only [readExactLoop, if_neg done]
          exact ⟨0, some_missing, rfl⟩
      | timedOut =>
          simp only [readExactLoop, if_neg done]
          exact ⟨0, some_missing, rfl⟩
      | slice bytes =>
          cases empty : bytes.isEmpty with
          | true =>
              simp only [readExactLoop, if_neg done, empty, if_true]
              refine ⟨0, some_missing, ?_⟩
              rw [held_cons, Fill.size, List.isEmpty_iff.mp empty, List.length_nil]
          | false =>
              by_cases fewer : missing < bytes.length
              · simp only [readExactLoop, if_neg done, empty, Bool.false_eq_true, if_false,
                  if_pos fewer, held_cons, Fill.size, List.length_drop]
                omega
              · have rest := ih (missing - bytes.length)
                simp only [readExactLoop, if_neg done, empty, Bool.false_eq_true, if_false,
                  if_neg fewer, held_cons, Fill.size]
                rcases outcome : readExactLoop (missing - bytes.length) fills with
                  ⟨error | tail, reader⟩ <;> simp only [outcome] at rest ⊢
                · obtain ⟨count, short, taken⟩ := rest
                  exact ⟨bytes.length + count, by omega, by omega⟩
                · omega

/-! ## Writes -/

/-- The writes of the first pieces of an image. -/
def chunkWrites (slot : Slot) (pieces : List (List UInt8)) : List DeviceEvent :=
  pieces.mapIdx fun index piece => .write slot (index * encChunkSize) piece

@[simp]
theorem chunkWrites_concat (slot : Slot) (pieces : List (List UInt8)) (piece : List UInt8) :
    chunkWrites slot (pieces ++ [piece]) =
      chunkWrites slot pieces ++ [.write slot (pieces.length * encChunkSize) piece] := by
  simp [chunkWrites, List.mapIdx_append]

/-- Pieces with the lengths of the first chunks of an image. -/
structure ChunkPieces (imageSize : ℕ) (pieces : List (List UInt8)) : Prop where
  count : pieces.length ≤ numChunks imageSize
  lengths : ∀ index, (inside : index < pieces.length) →
    (pieces.get ⟨index, inside⟩).length = chunkLength encChunkSize imageSize index

theorem ChunkPieces.nil (imageSize : ℕ) : ChunkPieces imageSize [] :=
  ⟨Nat.zero_le _, fun _ inside => absurd inside (Nat.not_lt_zero _)⟩

theorem ChunkPieces.concat {imageSize : ℕ} {pieces : List (List UInt8)} {piece : List UInt8}
    (chunks : ChunkPieces imageSize pieces) (inside : pieces.length < numChunks imageSize)
    (length : piece.length = chunkLength encChunkSize imageSize pieces.length) :
    ChunkPieces imageSize (pieces ++ [piece]) where
  count := by
    rw [List.length_append]
    exact inside
  lengths := by
    intro index bound
    rw [List.length_append, List.length_singleton] at bound
    rcases Nat.lt_succ_iff_lt_or_eq.mp bound with earlier | rfl
    · simpa [List.getElem_append_left earlier] using chunks.lengths index earlier
    · simpa using length

/-- Since `start` the pieces were written and a number of bytes was taken off the stream. -/
structure Spent (slot : Slot) (start : Device × Reader) (consumed : ℕ)
    (pieces : List (List UInt8)) (state : Device × Reader) : Prop where
  journal : state.1.journal = start.1.journal ++ chunkWrites slot pieces
  stream : held start.2 = consumed + held state.2

/-- The sizes of header, chunks and their framing. -/
def wireSize (imageSize : ℕ) : ℕ :=
  otaV2HeaderSize + imageSize + numChunks imageSize * 36

/-- A run stopped with an error; it kept to the chunks and to the size of the stream. -/
def Stopped (slot : Slot) (imageSize : ℕ) (start : Device × Reader) (halt : Halt)
    (state : Device × Reader) : Prop :=
  (∃ error, halt = .err error) ∧ ∃ consumed pieces, consumed ≤ wireSize imageSize ∧
    ChunkPieces imageSize pieces ∧ Spent slot start consumed pieces state

section Rules

variable {β : Type} {slot : Slot} {start : Device × Reader} {consumed : ℕ}
  {pieces : List (List UInt8)} {imageSize : ℕ}

/-- Continue after a read. -/
theorem readExact_bind_spent {len : ℕ} {next : List UInt8 → Fallible Halt (Device × Reader) β}
    {returned : β → Device × Reader → Prop} (chunks : ChunkPieces imageSize pieces)
    (room : consumed + len ≤ wireSize imageSize)
    (enough : ∀ bytes, bytes.length = len →
      Triple (Spent slot start (consumed + len) pieces) (next bytes) returned
        (Stopped slot imageSize start)) :
    Triple (Spent slot start consumed pieces) (onReader (readExact len) >>= next) returned
      (Stopped slot imageSize start) := by
  have read : Triple (Spent slot start consumed pieces) (onReader (readExact len))
      (fun bytes state => bytes.length = len ∧ Spent slot start (consumed + len) pieces state)
      (Stopped slot imageSize start) := by
    rintro ⟨device, reader⟩ ⟨journal, stream⟩
    have spec := readExactLoop_spec len reader
    have taken := readExactLoop_held len reader
    have executed : exec (onReader (readExact len)) (device, reader) =
        ((readExactLoop len reader).1.mapError Halt.err, (device, (readExactLoop len reader).2)) :=
      rfl
    rw [executed]
    rcases outcome : readExactLoop len reader with ⟨error | bytes, rest⟩ <;>
      simp only [outcome] at spec taken
    · obtain ⟨count, short, held_eq⟩ := taken
      exact ⟨⟨_, rfl⟩, consumed + count, pieces, by omega, chunks, journal, by
        rw [stream, held_eq, Nat.add_assoc]⟩
    · exact ⟨spec.1, journal, by rw [stream, taken, Nat.add_assoc]⟩
  refine Triple.bind read fun bytes => Triple.of_each fun state here => ?_
  exact (enough bytes here.1).consequence (fun _ same => same ▸ here.2) (fun _ _ => id)
    fun _ _ => id

/-- Write the next piece; a write that fails was issued as well. -/
theorem writeRegion_spent {piece : List UInt8} {offset : ℕ} (fault : Option FlashFailure)
    (chunks : ChunkPieces imageSize pieces) (inside : pieces.length < numChunks imageSize)
    (length : piece.length = chunkLength encChunkSize imageSize pieces.length)
    (offset_eq : offset = pieces.length * encChunkSize)
    (room : consumed ≤ wireSize imageSize) :
    Triple (Spent slot start consumed pieces)
      (onDevice (flashOperation (writeRegion slot offset piece fault)))
      (fun _ => Spent slot start consumed (pieces ++ [piece])) (Stopped slot imageSize start) := by
  rintro ⟨device, reader⟩ ⟨journal, stream⟩
  have logged : (device.log (.write slot offset piece)).journal =
      start.1.journal ++ chunkWrites slot (pieces ++ [piece]) := by
    rw [Device.log_journal, journal, chunkWrites_concat, offset_eq, List.append_assoc]
  have executed : exec (onDevice (flashOperation (writeRegion slot offset piece fault)))
      (device, reader) =
        ((exec (writeRegion slot offset piece fault) device).1.mapError
          (fun error => Halt.err (.flash error)),
          ((exec (writeRegion slot offset piece fault) device).2, reader)) := rfl
  rw [executed, exec_writeRegion]
  cases fault with
  | none => exact ⟨logged, stream⟩
  | some failure =>
      exact ⟨⟨_, rfl⟩, consumed, pieces ++ [piece], room, chunks.concat inside length, logged,
        stream⟩

end Rules

/-! ## The chunk loop -/

/-- The prefix check leaves the offsets alone and fails with an error. -/
theorem checkImagePrefix_offsets (progress : BodyProgress) (piece : List UInt8) :
    match checkImagePrefix progress piece with
    | .ok checked => checked.flashOffset = progress.flashOffset ∧
        checked.totalPlaintext = progress.totalPlaintext
    | .error halt => ∃ error, halt = .err error := by
  rcases outcome : checkImagePrefix progress piece with halt | checked <;>
    simp only [checkImagePrefix] at outcome
  · split at outcome
    · cases outcome
    · split at outcome
      · split at outcome
        · cases outcome
        · cases outcome
          exact ⟨_, rfl⟩
      · cases outcome
  · split at outcome
    · cases outcome
      exact ⟨rfl, rfl⟩
    · split at outcome
      · split at outcome
        · cases outcome
          exact ⟨rfl, rfl⟩
        · cases outcome
      · cases outcome
        exact ⟨rfl, rfl⟩

/-- What the chunk loop has written and consumed after some chunks. -/
structure Advanced (slot : Slot) (imageSize : ℕ) (start : Device × Reader) (index : ℕ)
    (progress : BodyProgress) (state : Device × Reader) : Prop where
  flashOffset : progress.flashOffset = min (index * encChunkSize) imageSize
  totalPlaintext : progress.totalPlaintext = min (index * encChunkSize) imageSize
  spent : ∃ pieces : List (List UInt8), pieces.length = index ∧ ChunkPieces imageSize pieces ∧
    Spent slot start (otaV2HeaderSize + min (index * encChunkSize) imageSize + index * 36) pieces
      state

variable (crypto : CryptoPrimitives) (faults : FlashFaults) (args : BodyArgs)

/-- One iteration advances by one chunk, or stops. -/
theorem processChunk_advanced (start : Device × Reader) (index : ℕ) (progress : BodyProgress)
    (inside : index < numChunks args.imageSize.toNat) :
    Triple (Advanced args.slot args.imageSize.toNat start index progress)
      (processChunk crypto faults args progress index)
      (Advanced args.slot args.imageSize.toNat start (index + 1))
      (Stopped args.slot args.imageSize.toNat start) := by
  refine Triple.of_each fun state advanced => ?_
  obtain ⟨pieces, rfl, chunks, spent⟩ := advanced.spent
  have offset_eq := advanced.flashOffset
  have total_eq := advanced.totalPlaintext
  have starts := (lt_count_iff encChunkSize_pos _).mp inside
  have ends := min_mul_add_chunkLength encChunkSize_pos inside
  have size_bound := args.imageSize.toNat_lt
  rw [min_eq_left starts.le] at offset_eq total_eq spent
  have room : otaV2HeaderSize + pieces.length * encChunkSize + pieces.length * 36 + 36 +
      chunkLength encChunkSize args.imageSize.toNat pieces.length ≤
        wireSize args.imageSize.toNat := by
    rw [wireSize]
    have count : (pieces.length + 1) * 36 ≤ numChunks args.imageSize.toNat * 36 :=
      Nat.mul_le_mul_right _ inside
    omega
  suffices from_spent : Triple (Spent args.slot start
      (otaV2HeaderSize + pieces.length * encChunkSize + pieces.length * 36) pieces)
      (processChunk crypto faults args progress pieces.length)
      (Advanced args.slot args.imageSize.toNat start (pieces.length + 1))
      (Stopped args.slot args.imageSize.toNat start) from
    from_spent.consequence (fun _ same => same ▸ spent) (fun _ _ => id) fun _ _ => id
  have stops : ∀ {consumed : ℕ} {error : OtaFlashWriteError},
      consumed ≤ wireSize args.imageSize.toNat →
        ∀ state, Spent args.slot start consumed pieces state →
          Stopped args.slot args.imageSize.toNat start (.err error) state :=
    fun bound _ spent => ⟨⟨_, rfl⟩, _, pieces, bound, chunks, spent⟩
  unfold processChunk
  refine readExact_bind_spent chunks (by omega) fun lenBuf len_length => ?_
  rw [expectedChunkLen_eq _ inside]
  refine Triple.lift_ok_bind (Triple.ensure_bind (fun _ => stops (by omega)) fun declared => ?_)
  refine Triple.ensure_bind (fun oversized => absurd (declared ▸ chunkLength_le _ _ _) oversized)
    fun _ => ?_
  rw [declared]
  refine readExact_bind_spent chunks (by omega) fun ct ct_length => ?_
  have tag_size : hmacTagSize = 32 := rfl
  refine readExact_bind_spent chunks (by omega) fun tagBuf tag_length => ?_
  refine Triple.ensure_bind (fun _ => stops (by omega)) fun verified => ?_
  rw [aesCtrCryptInPlace_eq]
  refine Triple.lift_ok_bind ?_
  have checks := checkImagePrefix_offsets progress
    (chunkCrypt crypto args.aesKey args.noncePrefix pieces.length ct)
  refine Triple.lift_bind (fun halt refused => ?_) fun checked accepted => ?_
  · rw [refused] at checks
    obtain ⟨error, rfl⟩ := checks
    exact stops (by omega)
  rw [accepted] at checks
  obtain ⟨checked_offset, checked_total⟩ := checks
  have piece_length : (chunkCrypt crypto args.aesKey args.noncePrefix pieces.length ct).length =
      chunkLength encChunkSize args.imageSize.toNat pieces.length := by
    rw [length_chunkCrypt, ct_length]
  refine Triple.bind (writeRegion_spent (faults.write pieces.length) chunks inside piece_length
    (checked_offset.trans offset_eq) (by omega)) fun _ => ?_
  have no_overflow : ∀ {value : ℕ}, value = pieces.length * encChunkSize →
      checkedAdd value (chunkLength encChunkSize args.imageSize.toNat pieces.length) =
        .ok (value + chunkLength encChunkSize args.imageSize.toNat pieces.length) :=
    fun same => if_pos (by omega)
  change Triple _ (Fallible.lift (checkedAdd checked.flashOffset _) >>= fun flashOffset =>
    Fallible.lift (checkedAdd checked.totalPlaintext _) >>= fun totalPlaintext => pure _) _ _
  rw [no_overflow (checked_offset.trans offset_eq), no_overflow (checked_total.trans total_eq)]
  refine Triple.lift_ok_bind (Triple.lift_ok_bind (Triple.pure _ fun after written => ?_))
  have consumed_eq : otaV2HeaderSize + pieces.length * encChunkSize + pieces.length * 36 + 4 +
      chunkLength encChunkSize args.imageSize.toNat pieces.length + hmacTagSize =
        otaV2HeaderSize + min ((pieces.length + 1) * encChunkSize) args.imageSize.toNat +
          (pieces.length + 1) * 36 := by
    omega
  refine ⟨?_, ?_, _, List.length_append, chunks.concat inside piece_length, consumed_eq ▸ written⟩
  · rw [← ends, ← offset_eq, ← checked_offset]
  · rw [← ends, ← total_eq, ← checked_total]

/-- The body is processed within the size of the image and of the stream. -/
theorem processEncryptedBody_advanced (start : Device × Reader) :
    Triple (· = start) (processEncryptedBody crypto faults args)
      (fun _ state => ∃ pieces : List (List UInt8),
        pieces.length = numChunks args.imageSize.toNat ∧
        ChunkPieces args.imageSize.toNat pieces ∧
        Spent args.slot start (wireSize args.imageSize.toNat) pieces state)
      (Stopped args.slot args.imageSize.toNat start) := by
  have nothing : Spent args.slot start 0 [] start := ⟨by simp [chunkWrites], by simp⟩
  refine Triple.of_each fun state same => ?_
  suffices from_nothing : Triple (Spent args.slot start 0 []) _ _ _ from
    from_nothing.consequence (fun _ here => here ▸ same ▸ nothing) (fun _ _ => id) fun _ _ => id
  unfold processEncryptedBody
  have header_room : 0 + otaV2HeaderSize ≤ wireSize args.imageSize.toNat := by
    rw [wireSize]
    omega
  refine readExact_bind_spent (.nil _) header_room fun header length => ?_
  refine Triple.lift_bind (fun halt refused state spent => ?_) fun _ accepted => ?_
  · refine ⟨?_, _, [], header_room, .nil _, spent⟩
    cases validated : validateOtaHeader header with
    | ok => simp [validated, Except.mapError] at refused
    | error error =>
        simp only [validated, Except.mapError, Except.error.injEq] at refused
        exact ⟨_, refused.symm⟩
  have loop := Triple.foldlM_range (Advanced args.slot args.imageSize.toNat start)
    (numChunks args.imageSize.toNat) (processChunk_advanced crypto faults args start)
    BodyProgress.initial
  refine Triple.bind (loop.consequence ?_ (fun _ _ => id) fun _ _ => id) fun progress => ?_
  · intro state spent
    exact ⟨by simp [BodyProgress.initial], by simp [BodyProgress.initial], [], rfl, .nil _,
      by simpa using spent⟩
  refine Triple.pure _ fun state finished => ?_
  obtain ⟨pieces, count, chunks, spent⟩ := finished.spent
  have covered : args.imageSize.toNat ≤ numChunks args.imageSize.toNat * encChunkSize :=
    total_le_count_mul encChunkSize_pos
  rw [min_eq_right covered] at spent
  exact ⟨pieces, count, chunks, spent⟩

/-! ## From the manifest to the slot -/

/-- The erase arithmetic does not overflow; an image that is accepted for a slot of whole sectors
is erased in front of the last sector, and one that is too large is not erased at all. -/
theorem prepareInactiveSlot_bounds {slot : Slot} {slotSize imageSize : UInt32}
    {fault : Option FlashFailure} {device after : Device} {outcome : Except Halt Unit}
    (nonempty : imageSize ≠ 0) (sectors : flashSectorSize ∣ slotSize.toNat)
    (executed : exec (prepareInactiveSlot slot slotSize.toNat imageSize.toNat fault) device =
      (outcome, after)) :
    (outcome = .ok () ∧ ∃ erased, after.journal = device.journal ++
        [.prepare slot imageSize.toNat, .erase slot erased] ∧
        imageSize.toNat ≤ erased ∧ erased + flashSectorSize ≤ slotSize.toNat) ∨
      (∃ error, outcome = .error (.err (.flash error))) ∨
      (outcome = .error (.err (.imageTooLargeForSlot imageSize.toNat slotSize.toNat)) ∧
        after = device.log (.prepare slot imageSize.toNat)) := by
  have slot_bound := slotSize.toNat_lt
  have image_pos : 0 < imageSize.toNat := by
    refine Nat.pos_of_ne_zero fun zero => nonempty ?_
    exact UInt32.toNat_inj.mp zero
  rw [prepareInactiveSlot, exec_bind, exec_update] at executed
  dsimp only at executed
  by_cases fits : imageSize.toNat ≤ slotSize.toNat - flashSectorSize
  · obtain ⟨count, slot_eq⟩ := sectors
    have aligned : (imageSize.toNat + flashSectorSize - 1) / flashSectorSize * flashSectorSize +
        flashSectorSize ≤ slotSize.toNat := by
      simp only [flashSectorSize] at fits slot_eq ⊢
      omega
    have covered : imageSize.toNat ≤
        (imageSize.toNat + flashSectorSize - 1) / flashSectorSize * flashSectorSize := by
      simp only [flashSectorSize]
      omega
    rw [ensure, if_pos fits, pure_bind, checkedMul, if_pos (by omega)] at executed
    change exec (flashOperation (eraseRegion slot _ fault)) _ = _ at executed
    rw [flashOperation, exec_mapError, exec_eraseRegion] at executed
    cases fault with
    | none =>
        cases executed
        refine .inl ⟨rfl, _, ?_, covered, aligned⟩
        simp
    | some failure =>
        cases executed
        exact .inr (.inl ⟨_, rfl⟩)
  · rw [ensure, if_neg fits] at executed
    cases executed
    exact .inr (.inr ⟨rfl, rfl⟩)

/-- A run of the chunk loop neither overflows nor slices out of bounds, writes adjacent chunks
inside the erased range, and takes at most the download size off the stream, all of it if it
succeeds. -/
structure WithinBounds (slot : Slot) (erased downloadSize : ℕ) (before : Device × Reader)
    (outcome : Except Halt EncryptedResult) (after : Device × Reader) : Prop where
  no_panic : outcome ≠ .error .panic
  writes : ∃ pieces : List (List UInt8),
    after.1.journal = before.1.journal ++ chunkWrites slot pieces ∧
    (∀ index, (inside : index < pieces.length) →
      index * encChunkSize + (pieces.get ⟨index, inside⟩).length ≤ erased) ∧
    ∀ index, (inside : index + 1 < pieces.length) →
      index * encChunkSize + (pieces.get ⟨index, by omega⟩).length = (index + 1) * encChunkSize
  consumed : ∃ count ≤ downloadSize, held before.2 = count + held after.2 ∧
    ∀ result, outcome = .ok result → count = downloadSize

/-- Adjacent chunks of an image lie in its erased range. -/
theorem ChunkPieces.adjacent {imageSize erased : ℕ} {pieces : List (List UInt8)}
    (chunks : ChunkPieces imageSize pieces) (covered : imageSize ≤ erased) :
    (∀ index, (inside : index < pieces.length) →
        index * encChunkSize + (pieces.get ⟨index, inside⟩).length ≤ erased) ∧
      ∀ index, (inside : index + 1 < pieces.length) →
        index * encChunkSize + (pieces.get ⟨index, by omega⟩).length =
          (index + 1) * encChunkSize := by
  have count : pieces.length ≤ Chunked.count encChunkSize imageSize := chunks.count
  constructor
  · intro index inside
    rw [chunks.lengths index inside,
      min_mul_add_chunkLength encChunkSize_pos (lt_of_lt_of_le inside count)]
    exact (min_le_right _ _).trans covered
  · intro index inside
    rw [chunks.lengths index (by omega),
      chunkLength_of_lt encChunkSize_pos (lt_of_lt_of_le inside count), Nat.succ_mul]

/-- An image that is accepted for a slot is erased in front of the last sector and downloaded
within bounds, whatever the reader answers; an image that is too large leaves the flash alone. -/
def DownloadWithinBounds (crypto : CryptoPrimitives) (faults : FlashFaults) (keys : BodyKeys)
    (slot : Slot) (slotSize : UInt32) (manifest : OtaManifest) (device : Device) : Prop :=
  match exec (prepareInactiveSlot slot slotSize.toNat manifest.imageSize.toNat faults.erase)
    device with
  | (.ok (), prepared) =>
      ∃ erased, prepared.journal = device.journal ++
          [.prepare slot manifest.imageSize.toNat, .erase slot erased] ∧
        erased + flashSectorSize ≤ slotSize.toNat ∧
        ∀ reader outcome after, exec (processEncryptedBody crypto faults
            { keys with slot := slot, imageSize := manifest.imageSize }) (prepared, reader) =
              (outcome, after) →
          WithinBounds slot erased manifest.downloadSize.toNat (prepared, reader) outcome after
  | (.error halt, after) =>
      halt ≠ .panic ∧ ∀ image size, halt = .err (.imageTooLargeForSlot image size) →
        after.flash = device.flash ∧
        after.journal = device.journal ++ [.prepare slot manifest.imageSize.toNat]

/-- Every valid manifest is downloaded within the bounds of a slot of whole sectors. -/
theorem download_within_bounds (keys : BodyKeys) (slot : Slot) (slotSize : UInt32)
    (manifest : OtaManifest) (device : Device) (valid : manifest.validate = .ok ())
    (sectors : flashSectorSize ∣ slotSize.toNat) :
    DownloadWithinBounds crypto faults keys slot slotSize manifest device := by
  obtain ⟨nonempty, download_eq⟩ := OtaManifest.sizes_of_validate valid
  have wire_eq : wireSize manifest.imageSize.toNat = manifest.downloadSize.toNat :=
    download_eq.symm
  unfold DownloadWithinBounds
  rcases executed : exec (prepareInactiveSlot slot slotSize.toNat manifest.imageSize.toNat
    faults.erase) device with ⟨outcome, prepared⟩
  rcases prepareInactiveSlot_bounds nonempty sectors executed with
    ⟨rfl, erased, journal, covered, below⟩ | ⟨error, rfl⟩ | ⟨rfl, rfl⟩
  · refine ⟨erased, journal, below, fun reader result after processed => ?_⟩
    have spec := processEncryptedBody_advanced crypto faults
      { keys with slot := slot, imageSize := manifest.imageSize } (prepared, reader)
      (prepared, reader) rfl
    rw [processed, wire_eq] at spec
    cases result with
    | ok result =>
        obtain ⟨pieces, -, chunks, spent⟩ := spec
        exact ⟨nofun, ⟨pieces, spent.journal, chunks.adjacent covered⟩,
          _, le_rfl, spent.stream, fun _ _ => rfl⟩
    | error halt =>
        obtain ⟨⟨error, rfl⟩, count, pieces, bound, chunks, spent⟩ := spec
        exact ⟨nofun, ⟨pieces, spent.journal, chunks.adjacent covered⟩,
          count, wire_eq ▸ bound, spent.stream, nofun⟩
  · exact ⟨nofun, nofun⟩
  · exact ⟨nofun, fun _ _ _ => ⟨rfl, rfl⟩⟩

theorem download_within_bounds_sample :
    DownloadWithinBounds sampleCrypto FlashFaults.none
      (Packer.deviceKeys sampleCrypto sampleInputs sampleNonce) .ota1 0x180000 sampleManifest
      sampleDevice :=
  download_within_bounds sampleCrypto FlashFaults.none _ .ota1 0x180000 sampleManifest sampleDevice
    validate_sampleManifest (by decide)

end Motonet
