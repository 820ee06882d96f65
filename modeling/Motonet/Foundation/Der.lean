import Mathlib.Data.Nat.Digits.Defs
import Mathlib.Data.Nat.Digits.Lemmas
import Motonet.Foundation.ByteString

/-!
# Lengths and integers in DER

Values that say how long they are: a tag, octets that spell a length, and as many octets of content.
A length has several spellings, each of which shows where it ends; the shortest one is that of DER.
-/

namespace Der

open ByteString

/-- Octets that spell a length: one octet below 128, or the number of the octets that follow it. -/
inductive LengthOctets : List UInt8 → ℕ → Prop
  | short {octet : UInt8} : octet &&& 0x80 = 0 → LengthOctets [octet] octet.toNat
  | long {first : UInt8} {octets : List UInt8} : first &&& 0x80 ≠ 0 →
      (first &&& 0x7f).toNat = octets.length → octets ≠ [] →
        LengthOctets (first :: octets) (ofBigEndian octets)

/-- The spelling of a length shows where it ends. -/
theorem LengthOctets.append_inj {left right leftTail rightTail : List UInt8}
    {leftLength rightLength : ℕ} (left_spells : LengthOctets left leftLength)
    (right_spells : LengthOctets right rightLength)
    (same : left ++ leftTail = right ++ rightTail) :
    left = right ∧ leftLength = rightLength ∧ leftTail = rightTail := by
  cases left_spells with
  | short clear =>
      cases right_spells with
      | short _ =>
          obtain ⟨rfl, tails⟩ := List.cons.inj same
          exact ⟨rfl, rfl, tails⟩
      | long set _ _ =>
          obtain ⟨rfl, -⟩ := List.cons.inj same
          exact absurd clear set
  | long set count _ =>
      cases right_spells with
      | short clear =>
          obtain ⟨rfl, -⟩ := List.cons.inj same
          exact absurd clear set
      | long _ other _ =>
          obtain ⟨rfl, rest⟩ := List.cons.inj same
          obtain ⟨rfl, tails⟩ := List.append_inj rest (count.symm.trans other)
          exact ⟨rfl, rfl, tails⟩

/-- The octets of a number, without leading zeros. -/
def octets (number : ℕ) : List UInt8 :=
  (Nat.digits 256 number).reverse.map UInt8.ofNat

theorem ofBigEndian_octets (number : ℕ) : ofBigEndian (octets number) = number := by
  have reads : ∀ digits : List ℕ, (∀ digit ∈ digits, digit < 256) →
      ofBigEndian (digits.reverse.map UInt8.ofNat) = Nat.ofDigits 256 digits := by
    intro digits
    induction digits with
    | nil => exact fun _ => rfl
    | cons digit digits ih =>
        intro small
        have byte : (UInt8.ofNat digit).toNat = digit :=
          UInt8.toNat_ofNat_of_lt' (small digit List.mem_cons_self)
        have rest := ih fun other member => small other (List.mem_cons_of_mem _ member)
        rw [List.reverse_cons, List.map_append, List.map_cons, List.map_nil,
          ofBigEndian_append, rest, Nat.ofDigits_cons]
        simp only [ofBigEndian, List.length_nil, List.length_singleton, pow_zero, pow_one, byte]
        ring
  rw [octets, reads _ fun digit member => Nat.digits_lt_base (by decide) member,
    Nat.ofDigits_digits]

/-- The shortest spelling of a length. -/
def lengthOctets (length : ℕ) : List UInt8 :=
  if length < 128 then [UInt8.ofNat length]
  else UInt8.ofNat (128 + (octets length).length) :: octets length

/-- A value: a tag, a length and the content. -/
def tlv (tag : UInt8) (content : List UInt8) : List UInt8 :=
  tag :: (lengthOctets content.length ++ content)

/-- The content of an integer that is not negative: its octets, behind a zero if the first of them
has its highest bit set or there are none. -/
def integer (number : ℕ) : List UInt8 :=
  if 128 ≤ ((octets number).headD 0x80).toNat then 0 :: octets number else octets number

/-- `RSAPublicKey`. -/
def rsaPublicKey (modulus exponent : ℕ) : List UInt8 :=
  tlv 0x30 (tlv 0x02 (integer modulus) ++ tlv 0x02 (integer exponent))

theorem ofBigEndian_integer (number : ℕ) : ofBigEndian (integer number) = number := by
  unfold integer
  split
  · rw [ofBigEndian, ofBigEndian_octets]
    exact (congrArg (· + number) (Nat.zero_mul _)).trans (Nat.zero_add number)
  · exact ofBigEndian_octets number

/-- The shortest spelling is one, for every length that is not beyond all measure. -/
theorem lengthOctets_spells {length : ℕ} (fits : length < 256 ^ 127) :
    LengthOctets (lengthOctets length) length := by
  unfold lengthOctets
  split
  next small =>
    have clear : ∀ value < 128, UInt8.ofNat value &&& 0x80 = 0 := by decide
    have spelled := LengthOctets.short (clear length small)
    rwa [UInt8.toNat_ofNat_of_lt' (Nat.lt_trans small (by decide))] at spelled
  next large =>
    have marked : ∀ count < 128, UInt8.ofNat (128 + count) &&& 0x80 ≠ 0 ∧
        (UInt8.ofNat (128 + count) &&& 0x7f).toNat = count := by decide
    have nonempty : octets length ≠ [] := by
      intro empty
      have zero := ofBigEndian_octets length
      rw [empty] at zero
      exact large (zero ▸ by decide)
    have count : (octets length).length < 128 := by
      rw [octets, List.length_map, List.length_reverse]
      exact Nat.lt_succ_of_le
        ((Nat.digits_length_le_iff (by decide) length).mpr fits)
    obtain ⟨set, follows⟩ := marked _ count
    have spelled := LengthOctets.long set follows nonempty
    rwa [ofBigEndian_octets] at spelled

/-- A value that has the form of a tag, a length and a content, and is written in DER, has that
content. -/
theorem tlv_inj {tag : UInt8} {spelled content rest other tail : List UInt8}
    (spells : LengthOctets spelled content.length) (fits : other.length < 256 ^ 127)
    (same : tag :: (spelled ++ (content ++ rest)) = tlv tag other ++ tail) :
    content = other ∧ rest = tail := by
  have regroup : tlv tag other ++ tail =
      tag :: (lengthOctets other.length ++ (other ++ tail)) := by
    rw [tlv, List.cons_append, List.append_assoc]
  rw [regroup] at same
  have body := (List.cons.inj same).2
  obtain ⟨-, length, bodies⟩ := spells.append_inj (lengthOctets_spells fits) body
  exact List.append_inj bodies length

end Der
