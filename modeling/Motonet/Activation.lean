import Motonet.RoundTrip

/-!
# What a download may do to boot selection

A slot is activated only when the image of the manifest is in it.  The activation consists of two
operations, and a download is all or nothing unless the first of them succeeds and the second fails.
-/

namespace Motonet

open OtaCore Firmware Fallible

section Download

variable {crypto : CryptoPrimitives} {serde : SerdeJson} {env : Environment} {masterKey : Digest}
  {manifest : OtaManifest} {device : Device}

/-! ## The activation gate -/

/-- The start of a slot holds the image of a manifest: the text that a served container decrypts to
under the manifest's keys, every chunk of it verified under the manifest's digest, with the
manifest's hash. -/
def Gate (crypto : CryptoPrimitives) (serde : SerdeJson) (env : Environment) (masterKey : Digest)
    (manifest : OtaManifest) (slot : Slot) (device : Device) : Prop :=
  ∃ (keys : BodyKeys) (body : Reader) (image : SealedImage crypto keys manifest.imageSize.toNat)
      (rest : List UInt8),
    downloadKeys crypto serde masterKey manifest = .ok keys ∧
    Serves env manifest.downloadSize.toNat maxRedirects manifest.url body ∧
    available body = image.container ++ rest ∧
    (∀ index chunk, image.chunks[index]? = some chunk →
      verifyChunkHmac crypto keys.hmacKey keys.manifestDigest index (index * encChunkSize)
        chunk.ciphertext.length chunk.ciphertext chunk.tag = true) ∧
    device.readRange slot 0 manifest.imageSize.toNat = image.plaintext ∧
    eqIgnoreAsciiCase (sha256Hex (crypto.sha256 (device.readRange slot 0 manifest.imageSize.toNat)))
      manifest.imageSha256 = true

theorem Firmware.Installs.gate {downloaded after : Device}
    (installs : Installs crypto serde env masterKey manifest device downloaded)
    (same : after.flash = downloaded.flash) :
    Gate crypto serde env masterKey manifest device.selected.next after := by
  obtain ⟨keys, body, image, rest, verified, content⟩ := installs
  have read :
      after.readRange device.selected.next 0 manifest.imageSize.toNat = image.plaintext := by
    rw [Device.readRange_congr (congrFun same _), ← content.content, image.length_plaintext]
  refine ⟨keys, body, image, rest, verified.keys_eq, verified.serves, verified.delivers.stream_eq,
    ?_, read, read ▸ verified.sha⟩
  intro index chunk found
  obtain ⟨inside, rfl⟩ := List.getElem?_eq_some_iff.mp found
  exact (verifyChunkHmac_iff _ _ _ _ _ _ _ _).mpr (image.seals index inside).tag

/-- Calls on a slot do not activate anything. -/
theorem Firmware.Confined.no_activate {slot : Slot} {before after : Device}
    (confined : Confined slot before after) :
    ∃ events, after.journal = before.journal ++ events ∧
      ∀ target, DeviceEvent.activate target ∉ events := by
  obtain ⟨events, journal, inside⟩ := confined.journal
  exact ⟨events, journal, fun target member => inside _ member⟩

/-- Between two states every activation that is called is one of the inactive slot with the image of
the manifest in it, and without such a call the selection stays. -/
def Gated (crypto : CryptoPrimitives) (serde : SerdeJson) (env : Environment) (masterKey : Digest)
    (manifest : OtaManifest) (before after : Device) : Prop :=
  ∃ events, after.journal = before.journal ++ events ∧
    (∀ slot, DeviceEvent.activate slot ∈ events →
      slot = before.selected.next ∧ Gate crypto serde env masterKey manifest slot after) ∧
    ((∀ slot, DeviceEvent.activate slot ∉ events) → after.selected = before.selected)

/-- An activation that is called on the device with the image in the slot. -/
theorem Firmware.Installs.gated {downloaded after : Device} {later : List DeviceEvent}
    (installs : Installs crypto serde env masterKey manifest device downloaded)
    (same : after.flash = downloaded.flash)
    (journal : after.journal = downloaded.activating.journal ++ later)
    (no_more : ∀ slot, DeviceEvent.activate slot ∉ later) :
    Gated crypto serde env masterKey manifest device after := by
  obtain ⟨_, _, image, _, _, downloads⟩ := id installs
  obtain ⟨events, before, none⟩ := downloads.confined.no_activate
  refine ⟨events ++ .activate device.selected.next :: later, ?_, ?_, ?_⟩
  · rw [journal, Device.activating, Device.log_journal, before, downloads.confined.selected]
    simp
  · intro slot member
    rcases List.mem_append.mp member with early | late
    · exact absurd early (none slot)
    rcases List.mem_cons.mp late with here | late
    · cases here
      exact ⟨rfl, installs.gate same⟩
    · exact absurd late (no_more slot)
  · exact fun absent => absurd (List.mem_append_right _ List.mem_cons_self) (absent _)

theorem Firmware.Outcome.gated {outcome : Except Halt Unit × Device}
    (ends : Outcome crypto serde env masterKey manifest device outcome) :
    Gated crypto serde env masterKey manifest device outcome.2 := by
  cases ends with
  | refused error after _ confined =>
      obtain ⟨events, journal, none⟩ := confined.no_activate
      exact ⟨events, journal, fun slot member => absurd member (none slot),
        fun _ => confined.selected⟩
  | notActivated error downloaded installs _ =>
      exact installs.gated rfl (List.append_nil _).symm fun _ => List.not_mem_nil
  | notMarked error downloaded installs _ _ => exact installs.gated rfl rfl (by simp)
  | installed downloaded installs _ _ => exact installs.gated rfl rfl (by simp)

/-- Activation gate: whatever the manifest, the server and the failing operations, every activation
that a download calls is one of the inactive slot with the verified image of the manifest in it. -/
theorem activation_gate (crypto : CryptoPrimitives) (serde : SerdeJson) (env : Environment)
    (masterKey : Digest) (manifest : OtaManifest) (device : Device) :
    Gated crypto serde env masterKey manifest device
      (exec (downloadAndWriteToFlash crypto serde env masterKey manifest) device).2 :=
  (downloadAndWriteToFlash_outcome device).gated

/-! ## All or nothing -/

/-- A failed download leaves the selected slot and its image state as they were; a successful one
selects the other slot and marks it new. -/
def Atomic (before : Device) : Except Halt Unit × Device → Prop
  | (.ok _, after) =>
      after.selected = before.selected.next ∧ after.imageState after.selected = .new
  | (.error _, after) =>
      after.selected = before.selected ∧
        after.imageState after.selected = before.imageState before.selected

/-- Everything up to the activation and the activation succeed, and marking the slot fails. -/
def TornCommit (crypto : CryptoPrimitives) (serde : SerdeJson) (env : Environment)
    (masterKey : Digest) (manifest : OtaManifest) (device : Device) : Prop :=
  Installable crypto serde env masterKey manifest device.selected.next ∧
    env.faults.activate = none ∧ env.faults.setState ≠ none

theorem Firmware.Installs.installable {downloaded : Device}
    (installs : Installs crypto serde env masterKey manifest device downloaded) :
    Installable crypto serde env masterKey manifest device.selected.next := by
  obtain ⟨keys, body, image, rest, verified, -⟩ := installs
  exact ⟨keys, body, image, rest, verified⟩

/-- A torn commit leaves the other slot selected. -/
theorem Firmware.Outcome.not_atomic {outcome : Except Halt Unit × Device}
    (ends : Outcome crypto serde env masterKey manifest device outcome)
    (torn : TornCommit crypto serde env masterKey manifest device) : ¬ Atomic device outcome := by
  obtain ⟨installable, activated, unmarked⟩ := torn
  cases ends with
  | refused error after refused _ => exact absurd installable refused
  | notActivated error downloaded _ failed => exact absurd activated failed
  | installed downloaded _ _ marked => exact absurd marked unmarked
  | notMarked error downloaded installs _ _ =>
      obtain ⟨_, _, _, _, _, downloads⟩ := installs
      rintro ⟨selected, -⟩
      have switched : downloaded.marking.selected = device.selected.next := by
        rw [← downloads.confined.selected]
        rfl
      exact absurd (switched.symm.trans selected) (Slot.next_ne _)

/-- Every other outcome is all or nothing. -/
theorem Firmware.Outcome.atomic {outcome : Except Halt Unit × Device}
    (ends : Outcome crypto serde env masterKey manifest device outcome)
    (whole : ¬ TornCommit crypto serde env masterKey manifest device) : Atomic device outcome := by
  cases ends with
  | refused error after _ confined =>
      exact ⟨confined.selected, by rw [confined.selected, confined.imageState]⟩
  | notActivated error downloaded installs _ =>
      obtain ⟨_, _, _, _, _, downloads⟩ := installs
      have selected : downloaded.activating.selected = device.selected :=
        downloads.confined.selected
      exact ⟨selected, by rw [selected]; exact congrFun downloads.confined.imageState _⟩
  | notMarked error downloaded installs activated unmarked =>
      exact absurd ⟨installs.installable, activated, unmarked⟩ whole
  | installed downloaded installs _ _ =>
      obtain ⟨_, _, _, _, _, downloads⟩ := installs
      refine ⟨?_, by simp⟩
      rw [← downloads.confined.selected]
      rfl

/-- A download is all or nothing exactly unless its commit is torn. -/
theorem download_atomic_iff (crypto : CryptoPrimitives) (serde : SerdeJson) (env : Environment)
    (masterKey : Digest) (manifest : OtaManifest) (device : Device) :
    Atomic device (exec (downloadAndWriteToFlash crypto serde env masterKey manifest) device) ↔
      ¬ TornCommit crypto serde env masterKey manifest device :=
  ⟨fun atomic torn => (downloadAndWriteToFlash_outcome device).not_atomic torn atomic,
    (downloadAndWriteToFlash_outcome device).atomic⟩

end Download

/-- Only marking the slot fails. -/
def markingFails : FlashFaults :=
  { FlashFaults.none with setState := some ⟨1⟩ }

theorem noneBeforeActivation_markingFails : NoneBeforeActivation markingFails :=
  ⟨rfl, rfl, rfl, fun _ => rfl, rfl, rfl⟩

/-- The small update, signed and accepted, is not all or nothing if marking the slot fails: it ends
with an error and the new slot selected. -/
theorem small_update_torn :
    OtaManifest.parseAndVerify (smallSerde false) (smallVerifier false)
        (asBytes (smallSignedText false)) = .ok (smallManifest false) ∧
      ¬ Atomic sampleDevice (exec (downloadAndWriteToFlash sampleCrypto (smallSerde false)
        (smallUpdate markingFails) sampleInputs.masterKey (smallManifest false)) sampleDevice) := by
  refine ⟨parseAndVerify_small false, (downloadAndWriteToFlash_outcome sampleDevice).not_atomic ?_⟩
  exact ⟨installable_small noneBeforeActivation_markingFails _, rfl, nofun⟩

end Motonet
