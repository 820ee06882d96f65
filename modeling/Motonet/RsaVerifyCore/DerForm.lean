import Motonet.Foundation.Der
import Motonet.RsaVerifyCore.KeySetup

/-!
# What the parser of public keys accepts

The reader stays inside its bytes whatever they are.  An accepted string is a sequence that two
integers fill exactly, but neither the lengths nor the integers need be spelled as DER spells them.
-/

namespace Motonet
namespace RsaVerifyCore

open Fallible

namespace DerReader

/-- The bytes that have not been read. -/
def rest (reader : DerReader) : List UInt8 := reader.bytes.drop reader.offset

/-- The reader has gone over some bytes, and is still inside. -/
structure Read (reader : DerReader) (octets : List UInt8) (after : DerReader) : Prop where
  bytes : after.bytes = reader.bytes
  rest : reader.rest = octets ++ after.rest
  offset : after.offset = reader.offset + octets.length
  inside : after.offset ≤ after.bytes.length

theorem Read.refl {reader : DerReader} (inside : reader.offset ≤ reader.bytes.length) :
    reader.Read [] reader := ⟨rfl, rfl, rfl, inside⟩

theorem Read.trans {reader middle after : DerReader} {first second : List UInt8}
    (front : reader.Read first middle) (back : middle.Read second after) :
    reader.Read (first ++ second) after where
  bytes := back.bytes.trans front.bytes
  rest := by rw [front.rest, back.rest, List.append_assoc]
  offset := by rw [back.offset, front.offset, List.length_append, Nat.add_assoc]
  inside := back.inside

/-- One byte is read, or nothing. -/
theorem readByte_triple (reader : DerReader) : Triple (· = reader) readByte
    (fun byte after => reader.Read [byte] after) (fun _ after => after = reader) := by
  rintro state rfl
  cases found : state.bytes[state.offset]? with
  | none =>
      have executed : exec readByte state = (.error .malformedDer, state) := by
        simp [exec, readByte, StateT.run, found]
      rw [executed]
  | some byte =>
      have executed : exec readByte state =
          (.ok byte, { state with offset := state.offset + 1 }) := by
        simp [exec, readByte, StateT.run, found]
      rw [executed]
      obtain ⟨inside, rfl⟩ := List.getElem?_eq_some_iff.mp found
      exact ⟨rfl, List.drop_eq_getElem_cons inside, rfl, inside⟩

/-- A longer length from the next of its octets. -/
theorem append_octet {octets : List UInt8} (short : octets.length < sizeOfUsize) (octet : UInt8) :
    ((ByteString.ofBigEndian octets <<< 8) % 256 ^ sizeOfUsize) ||| octet.toNat =
      ByteString.ofBigEndian (octets ++ [octet]) := by
  have bound := ByteString.ofBigEndian_lt octets
  have room : 256 ^ octets.length * 256 ≤ 256 ^ sizeOfUsize := by
    rw [← pow_succ]
    exact Nat.pow_le_pow_right (by decide) short
  have shifted : ByteString.ofBigEndian octets <<< 8 < 256 ^ sizeOfUsize := by
    rw [Nat.shiftLeft_eq]
    omega
  rw [Nat.mod_eq_of_lt shifted, ← Nat.shiftLeft_add_eq_or_of_lt octet.toNat_lt,
    ByteString.ofBigEndian_append, Nat.shiftLeft_eq]
  simp [ByteString.ofBigEndian]

/-- The loop of `read_len` reads a number of octets. -/
theorem readOctets_triple {reader : DerReader} (inside : reader.offset ≤ reader.bytes.length)
    {count : ℕ} (few : count ≤ sizeOfUsize) :
    Triple (· = reader)
      ((List.range count).foldlM (fun len _ => do
        let byte ← readByte
        pure (((len <<< 8) % 256 ^ sizeOfUsize) ||| byte.toNat)) 0)
      (fun len after => ∃ octets, octets.length = count ∧ len = ByteString.ofBigEndian octets ∧
        reader.Read octets after)
      (fun _ after => ∃ octets, reader.Read octets after) := by
  have loop : Triple (fun state => ∃ octets, octets.length = 0 ∧
      0 = ByteString.ofBigEndian octets ∧ reader.Read octets state)
      ((List.range count).foldlM (fun len _ => do
        let byte ← readByte
        pure (((len <<< 8) % 256 ^ sizeOfUsize) ||| byte.toNat)) 0)
      (fun len after => ∃ octets, octets.length = count ∧ len = ByteString.ofBigEndian octets ∧
        reader.Read octets after)
      (fun _ after => ∃ octets, reader.Read octets after) := by
    refine Triple.foldlM_range (fun index len state => ∃ octets, octets.length = index ∧
      len = ByteString.ofBigEndian octets ∧ reader.Read octets state) count ?_ 0
    intro index len bound
    refine Triple.of_each fun state ⟨octets, length, spelled, read⟩ => ?_
    refine Triple.bind ((readByte_triple state).consequence (fun _ here => here)
      (fun _ _ next => next) ?_) fun octet => ?_
    · rintro error after rfl
      exact ⟨octets, read⟩
    · refine Triple.pure _ fun after next => ⟨octets ++ [octet], ?_, ?_, read.trans next⟩
      · rw [List.length_append, length, List.length_singleton]
      · rw [spelled, append_octet (by omega)]
  refine loop.consequence ?_ (fun _ _ read => read) (fun _ _ stopped => stopped)
  rintro state rfl
  exact ⟨[], rfl, rfl, .refl inside⟩

/-- A length is read from octets that spell it, without losing one of its bits. -/
theorem readLen_triple {reader : DerReader} (inside : reader.offset ≤ reader.bytes.length) :
    Triple (· = reader) readLen
      (fun len after => ∃ octets, Der.LengthOctets octets len ∧ octets.length ≤ 5 ∧
        reader.Read octets after)
      (fun _ after => ∃ octets, reader.Read octets after) := by
  refine Triple.bind ((readByte_triple reader).consequence (fun _ here => here)
    (fun _ _ read => read) ?_) fun first => ?_
  · rintro error after rfl
    exact ⟨[], .refl inside⟩
  by_cases short : first &&& 0x80 = 0
  · rw [if_pos short]
    exact Triple.pure _ fun state read => ⟨[first], .short short, by simp, read⟩
  · rw [if_neg short]
    refine Triple.ensure_bind (fun _ state read => ⟨[first], read⟩) fun counted => ?_
    obtain ⟨nonzero, limit⟩ := not_or.mp counted
    refine Triple.of_each fun middle front => ?_
    refine (readOctets_triple front.inside (Nat.not_lt.mp limit)).consequence
      (fun _ here => here) ?_ ?_
    · rintro len state ⟨octets, length, rfl, read⟩
      refine ⟨first :: octets, .long short length.symm ?_, ?_, front.trans read⟩
      · rintro rfl
        exact nonzero length.symm
      · rw [List.length_cons, length]
        exact Nat.succ_le_succ (Nat.not_lt.mp limit)
    · rintro error state ⟨octets, read⟩
      exact ⟨_, front.trans read⟩

/-- A value is read behind its tag and octets that spell its length. -/
theorem readTlv_triple {reader : DerReader} (inside : reader.offset ≤ reader.bytes.length)
    (tag : UInt8) : Triple (· = reader) (readTlv tag)
      (fun value after => ∃ octets, Der.LengthOctets octets value.length ∧ octets.length ≤ 5 ∧
        value.length < 256 ^ sizeOfUsize ∧ reader.Read (tag :: (octets ++ value)) after)
      (fun _ after => ∃ octets, reader.Read octets after) := by
  refine Triple.bind ((readByte_triple reader).consequence (fun _ here => here)
    (fun _ _ read => read) ?_) fun found => ?_
  · rintro error after rfl
    exact ⟨[], .refl inside⟩
  refine Triple.ensure_bind (fun _ state read => ⟨_, read⟩) ?_
  rintro rfl
  refine Triple.of_each fun middle front => ?_
  refine Triple.bind ((readLen_triple front.inside).consequence (fun _ here => here)
    (fun _ _ read => read) ?_) fun len => ?_
  · rintro error after ⟨octets, read⟩
    exact ⟨_, front.trans read⟩
  refine Triple.of_each fun state ⟨octets, spells, few, back⟩ => ?_
  have read := front.trans back
  have look : Triple (· = state)
      (update fun reader => (reader, reader) : Fallible RsaVerifyError DerReader DerReader)
      (fun value after => value = state ∧ after = state)
      (fun _ after => ∃ octets, reader.Read octets after) :=
    Triple.update _ fun after here => ⟨here, here⟩
  refine Triple.bind look fun here => ?_
  refine Triple.of_each ?_
  rintro after ⟨rfl, rfl⟩
  refine Triple.ensure_bind (fun _ _ here => here ▸ ⟨_, read⟩) fun fits => ?_
  refine Triple.ensure_bind (fun _ _ here => here ▸ ⟨_, read⟩) fun bounded => ?_
  refine Triple.update _ ?_
  rintro after rfl
  have slice : (after.bytes.take (after.offset + len)).drop after.offset = after.rest.take len := by
    rw [List.drop_take, Nat.add_sub_cancel_left]
    rfl
  have length : (after.rest.take len).length = len := by
    rw [List.length_take, rest, List.length_drop]
    omega
  have whole : after.Read (after.rest.take len) { after with offset := after.offset + len } := by
    refine ⟨rfl, ?_, by rw [length], bounded⟩
    show after.rest = after.rest.take len ++ after.bytes.drop (after.offset + len)
    rw [rest, ← List.drop_drop, List.take_append_drop]
  dsimp only
  rw [slice]
  refine ⟨octets, length.symm ▸ spells, few, ?_, read.trans whole⟩
  rw [length]
  omega

/-- The readers that calls make of a new one, whether they return or fail. -/
inductive Reached (bytes : List UInt8) : DerReader → Prop
  | new : Reached bytes (.new bytes)
  | readByte {reader : DerReader} : Reached bytes reader →
      Reached bytes (exec DerReader.readByte reader).2
  | readLen {reader : DerReader} : Reached bytes reader →
      Reached bytes (exec DerReader.readLen reader).2
  | readTlv {reader : DerReader} (tag : UInt8) : Reached bytes reader →
      Reached bytes (exec (DerReader.readTlv tag) reader).2

/-- A call that goes over bytes keeps a reader inside. -/
theorem inside_of_triple {α : Type} {program : Fallible RsaVerifyError DerReader α}
    {reader : DerReader} {bytes : List UInt8}
    (inside : reader.bytes = bytes ∧ reader.offset ≤ bytes.length)
    (triple : Triple (· = reader) program (fun _ after => ∃ octets, reader.Read octets after)
      (fun _ after => ∃ octets, reader.Read octets after)) :
    (exec program reader).2.bytes = bytes ∧ (exec program reader).2.offset ≤ bytes.length := by
  have gone : ∃ octets, reader.Read octets (exec program reader).2 := by
    have outcome := triple reader rfl
    rcases executed : exec program reader with ⟨error | value, after⟩ <;>
      simpa only [executed] using outcome
  obtain ⟨octets, read⟩ := gone
  obtain ⟨rfl, -⟩ := inside
  exact ⟨read.bytes, read.bytes ▸ read.inside⟩

/-- No call takes a reader out of its bytes. -/
theorem Reached.inside {bytes : List UInt8} {reader : DerReader} (reached : Reached bytes reader) :
    reader.bytes = bytes ∧ reader.offset ≤ bytes.length := by
  induction reached with
  | new => exact ⟨rfl, Nat.zero_le _⟩
  | @readByte reader _ ih =>
      refine inside_of_triple ih ((readByte_triple reader).consequence (fun _ here => here)
        (fun byte _ read => ⟨_, read⟩) ?_)
      rintro error after rfl
      obtain ⟨rfl, inside⟩ := ih
      exact ⟨[], .refl inside⟩
  | readLen _ ih =>
      refine inside_of_triple ih ?_
      obtain ⟨rfl, inside⟩ := ih
      exact (readLen_triple inside).consequence (fun _ here => here)
        (fun _ _ ⟨octets, _, _, read⟩ => ⟨octets, read⟩) (fun _ _ read => read)
  | readTlv tag _ ih =>
      refine inside_of_triple ih ?_
      obtain ⟨rfl, inside⟩ := ih
      exact (readTlv_triple inside tag).consequence (fun _ here => here)
        (fun _ _ ⟨_, _, _, _, read⟩ => ⟨_, read⟩) (fun _ _ read => read)

end DerReader

/-! ## Accepted strings -/

theorem exec_eq_of_fst {ε σ α : Type} {program : Fallible ε σ α} {state : σ} {value : α}
    (returned : (exec program state).1 = .ok value) :
    exec program state = (.ok value, (exec program state).2) :=
  Prod.ext returned rfl

/-- What a run of `read_tlv` that returned has gone over. -/
theorem readTlv_eq_ok {reader after : DerReader} (inside : reader.offset ≤ reader.bytes.length)
    {tag : UInt8} {value : List UInt8}
    (returned : exec (DerReader.readTlv tag) reader = (.ok value, after)) :
    ∃ octets, Der.LengthOctets octets value.length ∧ octets.length ≤ 5 ∧
      value.length < 256 ^ sizeOfUsize ∧ reader.Read (tag :: (octets ++ value)) after :=
  (DerReader.readTlv_triple inside tag).of_ok rfl returned

/-- A reader with nothing left has read everything. -/
theorem rest_of_isEmpty {reader : DerReader} (empty : reader.isEmpty = true) :
    reader.rest = [] := by
  have offset : reader.offset = reader.bytes.length := of_decide_eq_true empty
  rw [DerReader.rest, offset, List.drop_length]

/-- A program that ends by making sure that nothing is left has read everything, and returns the
value that it ends with. -/
theorem nothing_left {α : Type} {value result : α} {reader after : DerReader}
    (returned : exec (do
      let reader ← update fun reader => (reader, reader)
      ensure reader.isEmpty .malformedDer
      pure value : Fallible RsaVerifyError DerReader α) reader = (.ok result, after)) :
    reader.rest = [] ∧ value = result := by
  obtain ⟨seen, same_reader, looked, returned⟩ := exec_bind_eq_ok returned
  rw [exec_update] at looked
  obtain ⟨same, rfl⟩ := Prod.mk.inj looked
  obtain rfl := Except.ok.inj same
  obtain ⟨_, last, ensured, finished⟩ := exec_bind_eq_ok returned
  obtain ⟨empty, rfl⟩ := exec_ensure_eq_ok ensured
  exact ⟨rest_of_isEmpty empty, Except.ok.inj (congrArg Prod.fst finished)⟩

theorem readSequence_eq_ok {der sequence : List UInt8} (read : readSequence der = .ok sequence) :
    ∃ octets, Der.LengthOctets octets sequence.length ∧ octets.length ≤ 5 ∧
      sequence.length < 256 ^ sizeOfUsize ∧ der = 0x30 :: (octets ++ sequence) := by
  obtain ⟨value, middle, returned, rest⟩ := exec_bind_eq_ok (exec_eq_of_fst read)
  obtain ⟨nothing, rfl⟩ := nothing_left rest
  obtain ⟨octets, spells, few, small, whole⟩ := readTlv_eq_ok (Nat.zero_le _) returned
  have bytes := whole.rest
  rw [nothing, List.append_nil] at bytes
  exact ⟨octets, spells, few, small, bytes⟩

theorem readIntegers_eq_ok {sequence : List UInt8} {integers : List UInt8 × List UInt8}
    (read : readIntegers sequence = .ok integers) :
    ∃ first second, Der.LengthOctets first integers.1.length ∧
      Der.LengthOctets second integers.2.length ∧
      sequence = 0x02 :: (first ++ integers.1) ++ 0x02 :: (second ++ integers.2) := by
  obtain ⟨modulus, middle, modulus_read, rest⟩ := exec_bind_eq_ok (exec_eq_of_fst read)
  obtain ⟨exponent, after, exponent_read, rest⟩ := exec_bind_eq_ok rest
  obtain ⟨nothing, rfl⟩ := nothing_left rest
  obtain ⟨first, first_spells, -, -, front⟩ := readTlv_eq_ok (Nat.zero_le _) modulus_read
  obtain ⟨second, second_spells, -, -, back⟩ := readTlv_eq_ok front.inside exponent_read
  have bytes := (front.trans back).rest
  rw [nothing, List.append_nil] at bytes
  exact ⟨first, second, first_spells, second_spells, bytes⟩

/-- A string spells a key: a sequence that two integers fill, with lengths in any spelling, of which
the first one is the modulus, perhaps behind a zero, and the second one the exponent without some of
its leading zeros. -/
def Spells (key : Rsa2048PublicKey) (der : List UInt8) : Prop :=
  ∃ outer first second modulus exponent : List UInt8,
    let integers := 0x02 :: (first ++ modulus) ++ 0x02 :: (second ++ exponent)
    der = 0x30 :: (outer ++ integers) ∧ Der.LengthOctets outer integers.length ∧
      Der.LengthOctets first modulus.length ∧ Der.LengthOctets second exponent.length ∧
      (modulus = key.modulusBe.toList ∨ modulus = 0 :: key.modulusBe.toList) ∧
      exponent ≠ [] ∧ key.exponentBe.toList = List.replicate (4 - exponent.length) 0 ++ exponent

theorem parseRsa2048Modulus_cases {integer : List UInt8} {modulus : List.Vector UInt8 rsa2048Len}
    (parsed : parseRsa2048Modulus integer = .ok modulus) :
    integer = modulus.toList ∨ integer = 0 :: modulus.toList := by
  unfold parseRsa2048Modulus at parsed
  split_ifs at parsed with padded whole
  · obtain rfl := Except.ok.inj parsed
    exact .inr (List.eq_cons_of_mem_head? padded.1)
  · obtain rfl := Except.ok.inj parsed
    exact .inl rfl

theorem parseRsaExponent_eq_ok {integer : List UInt8} {exponent : List.Vector UInt8 4}
    (parsed : parseRsaExponent integer = .ok exponent) :
    integer ≠ [] ∧ exponent.toList = List.replicate (4 - integer.length) 0 ++ integer := by
  unfold parseRsaExponent at parsed
  split_ifs at parsed with fits
  dsimp only at parsed
  split_ifs at parsed
  obtain rfl := Except.ok.inj parsed
  exact ⟨fun empty => fits (.inl (List.isEmpty_iff.mpr empty)), rfl⟩

/-- An accepted string spells the key, and its outer length fits a word. -/
theorem spells_of_parsed {der : List UInt8} {key : Rsa2048PublicKey}
    (parsed : parsePkcs1Rsa2048PublicKeyDer der = .ok key) :
    Spells key der ∧ der.length < 256 ^ 5 := by
  obtain ⟨sequence, sequence_read, parsed⟩ := Except.of_bind_eq_ok parsed
  obtain ⟨integers, integers_read, parsed⟩ := Except.of_bind_eq_ok parsed
  obtain ⟨modulus, modulus_parsed, parsed⟩ := Except.of_bind_eq_ok parsed
  obtain ⟨exponent, exponent_parsed, parsed⟩ := Except.of_bind_eq_ok parsed
  obtain rfl := Except.ok.inj parsed
  obtain ⟨outer, outer_spells, few, small, rfl⟩ := readSequence_eq_ok sequence_read
  obtain ⟨first, second, first_spells, second_spells, rfl⟩ := readIntegers_eq_ok integers_read
  obtain ⟨nonempty, padded⟩ := parseRsaExponent_eq_ok exponent_parsed
  refine ⟨⟨outer, first, second, integers.1, integers.2, rfl, outer_spells, first_spells,
    second_spells, parseRsa2048Modulus_cases modulus_parsed, nonempty, padded⟩, ?_⟩
  have word : 256 ^ sizeOfUsize = 256 ^ 4 := rfl
  rw [word] at small
  rw [List.length_cons, List.length_append]
  omega

/-- Leading zeros do not count. -/
theorem ofBigEndian_replicate_append (count : ℕ) (bytes : List UInt8) :
    ByteString.ofBigEndian (List.replicate count 0 ++ bytes) = ByteString.ofBigEndian bytes := by
  induction count with
  | zero => rfl
  | succ count ih =>
      rw [List.replicate_succ, List.cons_append, ByteString.ofBigEndian, ih]
      exact (congrArg (· + _) (Nat.zero_mul _)).trans (Nat.zero_add _)

/-- A string in DER that spells a key is that of the key. -/
theorem Spells.eq_of_der {key : Rsa2048PublicKey} {modulus exponent : ℕ}
    (spells : Spells key (Der.rsaPublicKey modulus exponent))
    (fits : (Der.rsaPublicKey modulus exponent).length < 256 ^ 5) :
    modulus = ByteString.ofBigEndian key.modulusBe.toList ∧
      exponent = ByteString.ofBigEndian key.exponentBe.toList := by
  obtain ⟨outer, first, second, modulusOctets, exponentOctets, same, outer_spells, first_spells,
    second_spells, modulus_cases, -, padded⟩ := spells
  have large : 256 ^ 5 ≤ 256 ^ 127 := Nat.pow_le_pow_right (by decide) (by decide)
  have lengths : (Der.tlv 0x02 (Der.integer modulus) ++
      Der.tlv 0x02 (Der.integer exponent)).length < 256 ^ 5 ∧
      (Der.integer modulus).length < 256 ^ 5 ∧ (Der.integer exponent).length < 256 ^ 5 := by
    rw [Der.rsaPublicKey, Der.tlv, List.length_cons, List.length_append] at fits
    have parts : (Der.integer modulus).length + (Der.integer exponent).length ≤
        (Der.tlv 0x02 (Der.integer modulus) ++ Der.tlv 0x02 (Der.integer exponent)).length := by
      simp only [Der.tlv, List.length_append, List.length_cons]
      omega
    omega
  have outer_same : 0x30 :: (outer ++ ((0x02 :: (first ++ modulusOctets) ++
      0x02 :: (second ++ exponentOctets)) ++ [])) =
        Der.rsaPublicKey modulus exponent ++ [] := by
    rw [List.append_nil, List.append_nil, same]
  obtain ⟨contents, -⟩ := Der.tlv_inj outer_spells (Nat.lt_of_lt_of_le lengths.1 large) outer_same
  have first_same : 0x02 :: (first ++ (modulusOctets ++ 0x02 :: (second ++ exponentOctets))) =
      Der.tlv 0x02 (Der.integer modulus) ++ Der.tlv 0x02 (Der.integer exponent) := by
    rw [← contents, List.cons_append, List.append_assoc]
  obtain ⟨rfl, rest⟩ :=
    Der.tlv_inj first_spells (Nat.lt_of_lt_of_le lengths.2.1 large) first_same
  have second_same : 0x02 :: (second ++ (exponentOctets ++ [])) =
      Der.tlv 0x02 (Der.integer exponent) ++ [] := by
    rw [List.append_nil, List.append_nil, rest]
  obtain ⟨rfl, -⟩ :=
    Der.tlv_inj second_spells (Nat.lt_of_lt_of_le lengths.2.2 large) second_same
  rw [padded, ofBigEndian_replicate_append, Der.ofBigEndian_integer]
  refine ⟨?_, rfl⟩
  have spelled := Der.ofBigEndian_integer modulus
  obtain whole | behind := modulus_cases
  · rw [← whole, spelled]
  · have zero := ofBigEndian_replicate_append 1 key.modulusBe.toList
    rw [behind] at spelled
    exact spelled.symm.trans zero

/-- Every accepted string spells the key that is returned, and if it is in DER it is the encoding of
that key, so that no other string in DER gives the same key; and on every byte string whatsoever
the reader stays inside, also where it takes a value out of the bytes. -/
theorem accepted_spells :
    (∀ der key, parsePkcs1Rsa2048PublicKeyDer der = .ok key → Spells key der ∧
      ∀ modulus exponent, der = Der.rsaPublicKey modulus exponent →
        der = Der.rsaPublicKey (ByteString.ofBigEndian key.modulusBe.toList)
            (ByteString.ofBigEndian key.exponentBe.toList) ∧
          ∀ other otherModulus otherExponent,
            other = Der.rsaPublicKey otherModulus otherExponent →
              parsePkcs1Rsa2048PublicKeyDer other = .ok key → other = der) ∧
    ∀ bytes reader, DerReader.Reached bytes reader →
      reader.bytes = bytes ∧ reader.offset ≤ bytes.length ∧
        ∀ tag value after, exec (DerReader.readTlv tag) reader = (.ok value, after) →
          ∃ start, reader.offset ≤ start ∧ start + value.length = after.offset ∧
            after.offset ≤ bytes.length ∧ value = (bytes.drop start).take value.length := by
  have canonical : ∀ der key modulus exponent, parsePkcs1Rsa2048PublicKeyDer der = .ok key →
      der = Der.rsaPublicKey modulus exponent →
        der = Der.rsaPublicKey (ByteString.ofBigEndian key.modulusBe.toList)
          (ByteString.ofBigEndian key.exponentBe.toList) := by
    rintro der key modulus exponent parsed rfl
    obtain ⟨spells, fits⟩ := spells_of_parsed parsed
    obtain ⟨rfl, rfl⟩ := spells.eq_of_der fits
    rfl
  constructor
  · intro der key parsed
    refine ⟨(spells_of_parsed parsed).1, fun modulus exponent same => ?_⟩
    have encoding := canonical der key modulus exponent parsed same
    refine ⟨encoding, fun other otherModulus otherExponent other_same other_parsed => ?_⟩
    exact (canonical other key otherModulus otherExponent other_parsed other_same).trans
      encoding.symm
  · intro bytes reader reached
    obtain ⟨rfl, inside⟩ := reached.inside
    refine ⟨rfl, inside, fun tag value after returned => ?_⟩
    obtain ⟨octets, -, -, -, read⟩ := readTlv_eq_ok inside returned
    have offset := read.offset
    rw [List.length_cons, List.length_append] at offset
    refine ⟨reader.offset + (octets.length + 1), Nat.le_add_right _ _, by omega,
      read.bytes ▸ read.inside, ?_⟩
    have front : (tag :: octets).length = octets.length + 1 := rfl
    rw [← List.drop_drop]
    show value = (reader.rest.drop _).take value.length
    rw [read.rest, ← List.cons_append, List.append_assoc, ← front, List.drop_left, List.take_left]

theorem accepted_spells_sample : Spells (sampleKey 0x80 0x01) (sampleDer 0x80 0x01) :=
  (accepted_spells.1 (sampleDer 0x80 0x01) (sampleKey 0x80 0x01) (by decide +kernel)).1

/-- Spellings of one key: as DER has it, without the zero before the modulus, with a zero before the
exponent, and with the length of the exponent in two longer forms. -/
def sampleSpellings : List (List UInt8) :=
  let modulus : List UInt8 := 0x80 :: List.replicate 254 0 ++ [0x01]
  [[0x30, 0x82, 0x01, 0x08, 0x02, 0x82, 0x01, 0x01, 0x00] ++ modulus ++ [0x02, 0x01, 0x03],
    [0x30, 0x82, 0x01, 0x07, 0x02, 0x82, 0x01, 0x00] ++ modulus ++ [0x02, 0x01, 0x03],
    [0x30, 0x82, 0x01, 0x09, 0x02, 0x82, 0x01, 0x01, 0x00] ++ modulus ++
      [0x02, 0x02, 0x00, 0x03],
    [0x30, 0x82, 0x01, 0x09, 0x02, 0x82, 0x01, 0x01, 0x00] ++ modulus ++
      [0x02, 0x81, 0x01, 0x03],
    [0x30, 0x82, 0x01, 0x0a, 0x02, 0x82, 0x01, 0x01, 0x00] ++ modulus ++
      [0x02, 0x82, 0x00, 0x01, 0x03]]

/-- One key is returned for five different strings, of which only the first one is its encoding. -/
theorem spellings_accepted :
    sampleSpellings.Nodup ∧
      sampleSpellings.head? = some (Der.rsaPublicKey
        (ByteString.ofBigEndian (sampleKey 0x80 0x01).modulusBe.toList) 3) ∧
      ∀ der ∈ sampleSpellings,
        parsePkcs1Rsa2048PublicKeyDer der = .ok (sampleKey 0x80 0x01) := by
  exact ⟨by decide +kernel, by decide +kernel, by decide +kernel⟩

end RsaVerifyCore
end Motonet
