import Mathlib.Data.Fintype.Basic
import Mathlib.Tactic.FinCases
import Motonet.AppCore.RtcSchema
import Motonet.Foundation.CheckedFold
import Motonet.Foundation.Fallible

/-!
# Corruption of a stored word

The checksum of a word goes through its bytes with a step that can be undone, so a change confined
to one byte is seen.  A changed magic byte may select another seed, that of an older schema, and is
seen because the two checksums then start from different values.
-/

namespace Motonet
namespace AppCore

/-! ## Words and their bytes -/

/-- A byte of a word by its place. -/
def WordBytes.byte (bytes : WordBytes) : Fin 4 → UInt8
  | 0 => bytes.byte0
  | 1 => bytes.byte1
  | 2 => bytes.byte2
  | 3 => bytes.byte3

/-- The bytes that the checksum is taken of. -/
def WordBytes.payload (bytes : WordBytes) : List UInt8 := [bytes.byte0, bytes.byte1, bytes.byte2]

theorem WordBytes.eq_of_payload {left right : WordBytes} (payload : left.payload = right.payload)
    (byte3 : left.byte3 = right.byte3) : left = right := by
  cases left
  cases right
  simp_all [WordBytes.payload]

/-- The changed word is another one, and all of its bytes but one are those of the word. -/
def ChangedInOneByte (word changed : UInt32) : Prop :=
  changed ≠ word ∧ ∃ place, ∀ other, other ≠ place →
    (toLeBytes changed).byte other = (toLeBytes word).byte other

theorem fromLeBytes_toLeBytes (word : UInt32) : fromLeBytes (toLeBytes word) = word := by
  have bound := word.toNat_lt
  rw [← UInt32.toNat_inj, fromLeBytes, UInt32.toNat_ofNat_of_lt']
  · simp only [toLeBytes, UInt8.toNat_ofNat']
    omega
  · simp only [toLeBytes, UInt8.toNat_ofNat', UInt32.size]
    omega

theorem toLeBytes_injective {left right : UInt32} (same : toLeBytes left = toLeBytes right) :
    left = right := by
  rw [← fromLeBytes_toLeBytes left, same, fromLeBytes_toLeBytes]

/-! ## The checksum -/

/-- `u8::rotate_right` by one bit. -/
def rotateRightOne (byte : UInt8) : UInt8 := (byte >>> 1) ||| (byte <<< 7)

private theorem rotateRightOne_rotated : ∀ byte : Fin 256,
    rotateRightOne (rotateLeftOne (UInt8.ofNat byte)) = UInt8.ofNat byte := by
  decide +kernel

theorem rotateRightOne_rotateLeftOne (byte : UInt8) :
    rotateRightOne (rotateLeftOne byte) = byte := by
  have rotated := rotateRightOne_rotated ⟨byte.toNat, byte.toNat_lt⟩
  simpa only [UInt8.ofNat_toNat] using rotated

theorem rotateLeftOne_injective {left right : UInt8}
    (rotated : rotateLeftOne left = rotateLeftOne right) : left = right := by
  rw [← rotateRightOne_rotateLeftOne left, rotated, rotateRightOne_rotateLeftOne]

theorem cancellative_checksum :
    CancellativeStep fun acc byte : UInt8 => rotateLeftOne acc + byte where
  state := fun added => rotateLeftOne_injective (UInt8.add_left_inj _ |>.mp added)
  item := fun added => UInt8.add_right_inj _ |>.mp added

/-! ## Sealed words -/

/-- A word that carries a magic byte and the checksum of its bytes under a seed. -/
def Sealed (magic seed : UInt8) (word : UInt32) : Prop :=
  (toLeBytes word).byte0 = magic ∧
    checksum seed (toLeBytes word).payload = (toLeBytes word).byte3

theorem sealed_encodeWord (magic byte1 byte2 seed : UInt8) :
    Sealed magic seed (encodeWord magic byte1 byte2 seed) := by
  rw [Sealed, toLeBytes_encodeWord]
  exact ⟨rfl, rfl⟩

/-- Words that agree outside a place have the same payload, or else the same checksum byte and
payloads that agree but once. -/
theorem payload_of_place {word changed : UInt32} {place : Fin 4}
    (kept : ∀ other, other ≠ place →
      (toLeBytes changed).byte other = (toLeBytes word).byte other) :
    (toLeBytes changed).payload = (toLeBytes word).payload ∨
      (toLeBytes changed).byte3 = (toLeBytes word).byte3 ∧
        AgreeExceptOnce (toLeBytes changed).payload (toLeBytes word).payload := by
  have kept0 := kept 0
  have kept1 := kept 1
  have kept2 := kept 2
  have kept3 := kept 3
  simp only [WordBytes.byte] at kept0 kept1 kept2 kept3
  unfold WordBytes.payload
  fin_cases place
  · rw [kept1 (by decide), kept2 (by decide)]
    exact Or.inr ⟨kept3 (by decide), .here _ _ _⟩
  · rw [kept0 (by decide), kept2 (by decide)]
    exact Or.inr ⟨kept3 (by decide), .there _ (.here _ _ _)⟩
  · rw [kept0 (by decide), kept1 (by decide)]
    exact Or.inr ⟨kept3 (by decide), .there _ (.there _ (.here _ _ _))⟩
  · rw [kept0 (by decide), kept1 (by decide), kept2 (by decide)]
    exact Or.inl rfl

/-- A word is not sealed in the same way after a change in one byte. -/
theorem not_sealed_of_changed {magic seed : UInt8} {word changed : UInt32}
    (intact : Sealed magic seed word) (corrupted : ChangedInOneByte word changed) :
    ¬ Sealed magic seed changed := by
  intro still
  obtain ⟨different, place, kept⟩ := corrupted
  obtain ⟨payload, check⟩ :=
    cancellative_checksum.checked_unique still.2 intact.2 (payload_of_place kept)
  exact different (toLeBytes_injective (WordBytes.eq_of_payload payload check))

/-- A word is not sealed for another schema after a change in one byte, if the two magic bytes lead
to different values under their seeds. -/
theorem not_sealed_of_other_magic {magic seed magic' seed' : UInt8} {word changed : UInt32}
    (intact : Sealed magic seed word) (corrupted : ChangedInOneByte word changed)
    (other : magic' ≠ magic)
    (apart : rotateLeftOne seed' + magic' ≠ rotateLeftOne seed + magic) :
    ¬ Sealed magic' seed' changed := by
  rintro ⟨byte0, check⟩
  obtain ⟨-, place, kept⟩ := corrupted
  have place_eq : place = 0 := by
    by_contra elsewhere
    apply other
    rw [← byte0, ← intact.1]
    exact kept 0 (Ne.symm elsewhere)
  rw [place_eq] at kept
  have byte1 : (toLeBytes changed).byte1 = (toLeBytes word).byte1 := kept 1 (by decide)
  have byte2 : (toLeBytes changed).byte2 = (toLeBytes word).byte2 := kept 2 (by decide)
  have byte3 : (toLeBytes changed).byte3 = (toLeBytes word).byte3 := kept 3 (by decide)
  have checks : checksum seed' [magic', (toLeBytes word).byte1, (toLeBytes word).byte2] =
      checksum seed [magic, (toLeBytes word).byte1, (toLeBytes word).byte2] := by
    rw [WordBytes.payload, byte0, byte1, byte2, byte3] at check
    rw [check, ← intact.2, WordBytes.payload, intact.1]
  exact apart (cancellative_checksum.foldl_state checks)

/-! ## What the decoders accept -/

theorem and_le_mask (byte mask : UInt8) : byte &&& mask ≤ mask := by
  rw [UInt8.le_iff_toNat_le, UInt8.toNat_and]
  exact Nat.and_le_right

theorem validateChecksum_eq_ok_iff {payload : List UInt8} {expected seed : UInt8} :
    validateChecksum payload expected seed = .ok () ↔ checksum seed payload = expected := by
  unfold validateChecksum
  split_ifs with same
  · exact ⟨fun _ => same, fun _ => rfl⟩
  · constructor
    · rintro ⟨⟩
    · exact fun equal => absurd equal same

/-- Accepted power settings are sealed under the current schema or under the legacy one, and their
duration has seven bits. -/
theorem of_decodePowerSettings {word : UInt32} {decoded : DecodedValue PowerSettings}
    (read : decodePowerSettings word = .ok decoded) :
    decoded.value.sleepDurationSecs ≤ 0x7f ∧
      (Sealed powerMagicCurrent checksumSeedCurrent word ∧ decoded.needsMigration = false ∨
        Sealed powerMagicLegacy checksumSeedPowerLegacy word ∧ decoded.needsMigration = true) := by
  rcases bytes : toLeBytes word with ⟨byte0, byte1, byte2, byte3⟩
  rw [decodePowerSettings, bytes] at read
  dsimp only at read
  rw [Sealed, Sealed, bytes]
  split_ifs at read with current legacy
  · obtain ⟨_, checked, decoded_eq⟩ := Except.of_bind_eq_ok read
    cases decoded_eq
    exact ⟨and_le_mask byte1 _, Or.inl ⟨⟨current, validateChecksum_eq_ok_iff.mp checked⟩, rfl⟩⟩
  · obtain ⟨_, checked, decoded_eq⟩ := Except.of_bind_eq_ok read
    cases decoded_eq
    exact ⟨and_le_mask byte1 _, Or.inr ⟨⟨legacy, validateChecksum_eq_ok_iff.mp checked⟩, rfl⟩⟩

/-- An accepted RF profile is sealed under the current schema or under the legacy one. -/
theorem of_decodeRfProfile {word : UInt32} {decoded : DecodedValue UInt8}
    (read : decodeRfProfile word = .ok decoded) :
    Sealed rfProfileMagicCurrent checksumSeedCurrent word ∧ decoded.needsMigration = false ∨
      Sealed rfProfileMagicLegacy checksumSeedRfLegacy word ∧ decoded.needsMigration = true := by
  rcases bytes : toLeBytes word with ⟨byte0, byte1, byte2, byte3⟩
  rw [decodeRfProfile, bytes] at read
  dsimp only at read
  rw [Sealed, Sealed, bytes]
  split_ifs at read with current version legacy version
  · obtain ⟨_, _, thrown⟩ := Except.of_bind_eq_ok read
    cases thrown
  · obtain ⟨_, checked, decoded_eq⟩ := Except.of_bind_eq_ok read
    cases decoded_eq
    exact Or.inl ⟨⟨current, validateChecksum_eq_ok_iff.mp checked⟩, rfl⟩
  · obtain ⟨_, _, thrown⟩ := Except.of_bind_eq_ok read
    cases thrown
  · obtain ⟨_, checked, decoded_eq⟩ := Except.of_bind_eq_ok read
    cases decoded_eq
    exact Or.inr ⟨⟨legacy, validateChecksum_eq_ok_iff.mp checked⟩, rfl⟩

/-- Accepted radio settings are sealed under the only schema. -/
theorem of_decodeRadioSettings {word : UInt32} {decoded : DecodedValue RadioSettings}
    (read : decodeRadioSettings word = .ok decoded) :
    Sealed radioSettingsMagicCurrent checksumSeedCurrent word ∧ decoded.needsMigration = false := by
  rcases bytes : toLeBytes word with ⟨byte0, byte1, byte2, byte3⟩
  rw [decodeRadioSettings, bytes] at read
  dsimp only at read
  rw [Sealed, bytes]
  obtain ⟨current, read⟩ := Except.of_guard_eq_ok read
  obtain ⟨_, checked, decoded_eq⟩ := Except.of_bind_eq_ok read
  cases decoded_eq
  exact ⟨⟨not_not.mp current, validateChecksum_eq_ok_iff.mp checked⟩, rfl⟩

/-! ## Corrupted words -/

/-- Every change in one byte of encoded power settings is seen. -/
theorem decodePowerSettings_of_changed {settings : PowerSettings} {changed : UInt32}
    (corrupted : ChangedInOneByte (encodePowerSettings settings) changed) :
    ∃ error, decodePowerSettings changed = .error error := by
  have intact : Sealed powerMagicCurrent checksumSeedCurrent (encodePowerSettings settings) :=
    sealed_encodeWord _ _ _ _
  apply Except.exists_error
  intro decoded read
  rcases (of_decodePowerSettings read).2 with ⟨current, -⟩ | ⟨legacy, -⟩
  · exact not_sealed_of_changed intact corrupted current
  · exact not_sealed_of_other_magic intact corrupted (by decide) (by decide) legacy

/-- Every change in one byte of an encoded RF profile is seen. -/
theorem decodeRfProfile_of_changed {profileIndex : UInt8} {changed : UInt32}
    (corrupted : ChangedInOneByte (encodeRfProfile profileIndex) changed) :
    ∃ error, decodeRfProfile changed = .error error := by
  have intact : Sealed rfProfileMagicCurrent checksumSeedCurrent (encodeRfProfile profileIndex) :=
    sealed_encodeWord _ _ _ _
  apply Except.exists_error
  intro decoded read
  rcases of_decodeRfProfile read with ⟨current, -⟩ | ⟨legacy, -⟩
  · exact not_sealed_of_changed intact corrupted current
  · exact not_sealed_of_other_magic intact corrupted (by decide) (by decide) legacy

/-- Every change in one byte of encoded radio settings is seen. -/
theorem decodeRadioSettings_of_changed {settings : RadioSettings} {changed : UInt32}
    (corrupted : ChangedInOneByte (encodeRadioSettings settings) changed) :
    ∃ error, decodeRadioSettings changed = .error error := by
  have intact :
      Sealed radioSettingsMagicCurrent checksumSeedCurrent (encodeRadioSettings settings) :=
    sealed_encodeWord _ _ _ _
  apply Except.exists_error
  intro decoded read
  exact not_sealed_of_changed intact corrupted (of_decodeRadioSettings read).1

end AppCore
end Motonet
