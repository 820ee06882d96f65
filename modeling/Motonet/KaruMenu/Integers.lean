import Mathlib.Data.Int.Order.Basic
import Motonet.KaruMenu.Items

/-!
# The integers of a numeric item

The arithmetic of all the integer types is one: the sum or difference is computed exactly if the
type can represent it, and then compared with the bound.
-/

namespace Motonet
namespace KaruMenu

/-- What a numeric item relies on: the arithmetic is that of the integers, clamped to the bound. -/
class LawfulNumericBounds (T : Type) [LT T] [DecidableLT T] [DecidableEq T]
    [NumericBounds T] where
  toInt : T → ℤ
  toInt_inj : ∀ {left right : T}, toInt left = toInt right → left = right
  lt_iff : ∀ {left right : T}, left < right ↔ toInt left < toInt right
  toInt_addClamped : ∀ (value : T) {step : T} (high : T), 0 ≤ toInt step →
    toInt (NumericBounds.addClamped value step high) =
      min (toInt value + toInt step) (toInt high)
  toInt_subClamped : ∀ (value : T) {step : T} (low : T), 0 ≤ toInt step →
    toInt (NumericBounds.subClamped value step low) =
      max (toInt value - toInt step) (toInt low)

section Clamped

open LawfulNumericBounds

variable {T : Type} [LT T] [DecidableLT T] [DecidableEq T] [NumericBounds T]
  [LawfulNumericBounds T] {low value high step : T}

/-- A number that is incremented stays within its bounds. -/
theorem toInt_addClamped_mem (positive : 0 ≤ toInt step) (above : toInt low ≤ toInt value)
    (below : toInt value ≤ toInt high) :
    toInt low ≤ toInt (NumericBounds.addClamped value step high) ∧
      toInt (NumericBounds.addClamped value step high) ≤ toInt high := by
  rw [toInt_addClamped value high positive]
  exact ⟨by omega, Int.min_le_right _ _⟩

/-- A number that is decremented stays within its bounds. -/
theorem toInt_subClamped_mem (positive : 0 ≤ toInt step) (above : toInt low ≤ toInt value)
    (below : toInt value ≤ toInt high) :
    toInt low ≤ toInt (NumericBounds.subClamped value step low) ∧
      toInt (NumericBounds.subClamped value step low) ≤ toInt high := by
  rw [toInt_subClamped value low positive]
  exact ⟨Int.le_max_right _ _, by omega⟩

end Clamped

section Checked

variable {T : Type} [LT T] [DecidableLT T] [DecidableEq T]

/-- `impl_numeric_bounds_for_int`, for a type that represents the integers from `lowest` to
`highest`: `checked_add` and `checked_sub` yield none of the others. -/
@[reducible]
def checkedBounds (toInt : T → ℤ) (ofInt : ℤ → T) (lowest highest : ℤ) : NumericBounds T where
  addClamped value step high :=
    if lowest ≤ toInt value + toInt step ∧ toInt value + toInt step ≤ highest then
      if high < ofInt (toInt value + toInt step) then high else ofInt (toInt value + toInt step)
    else high
  subClamped value step low :=
    if lowest ≤ toInt value - toInt step ∧ toInt value - toInt step ≤ highest then
      if ofInt (toInt value - toInt step) < low then low else ofInt (toInt value - toInt step)
    else low

/-- A type that represents the integers of an interval has lawful arithmetic. -/
@[reducible]
def lawfulCheckedBounds {toInt : T → ℤ} {ofInt : ℤ → T} {lowest highest : ℤ}
    (toInt_inj : ∀ {left right : T}, toInt left = toInt right → left = right)
    (lt_iff : ∀ {left right : T}, left < right ↔ toInt left < toInt right)
    (lower : ∀ value, lowest ≤ toInt value) (upper : ∀ value, toInt value ≤ highest)
    (exact : ∀ number, lowest ≤ number → number ≤ highest → toInt (ofInt number) = number) :
    @LawfulNumericBounds T _ _ _ (checkedBounds toInt ofInt lowest highest) :=
  letI := checkedBounds toInt ofInt lowest highest
  { toInt := toInt
    toInt_inj := toInt_inj
    lt_iff := lt_iff
    toInt_addClamped := by
      intro value step high positive
      have above := lower value
      have below := upper high
      dsimp only [NumericBounds.addClamped]
      split_ifs with fits larger
      · rw [lt_iff, exact _ fits.1 fits.2] at larger
        omega
      · rw [lt_iff, exact _ fits.1 fits.2] at larger
        rw [exact _ fits.1 fits.2]
        omega
      · omega
    toInt_subClamped := by
      intro value step low positive
      have above := lower low
      have below := upper value
      dsimp only [NumericBounds.subClamped]
      split_ifs with fits smaller
      · rw [lt_iff, exact _ fits.1 fits.2] at smaller
        omega
      · rw [lt_iff, exact _ fits.1 fits.2] at smaller
        rw [exact _ fits.1 fits.2]
        omega
      · omega }

/-- The integers from zero to `size`, exclusive. -/
@[reducible]
def unsignedBounds (toNat : T → ℕ) (ofNat : ℕ → T) (size : ℕ) : NumericBounds T :=
  checkedBounds (fun value => toNat value) (fun number => ofNat number.toNat) 0 (size - 1)

/-- An unsigned type has lawful arithmetic. -/
@[reducible]
def lawfulUnsignedBounds {toNat : T → ℕ} {ofNat : ℕ → T} {size : ℕ}
    (toNat_inj : ∀ {left right : T}, toNat left = toNat right → left = right)
    (lt_iff : ∀ {left right : T}, left < right ↔ toNat left < toNat right)
    (bounded : ∀ value, toNat value < size)
    (exact : ∀ number, number < size → toNat (ofNat number) = number) :
    @LawfulNumericBounds T _ _ _ (unsignedBounds toNat ofNat size) := by
  refine lawfulCheckedBounds (fun same => toNat_inj (Int.ofNat_inj.mp same))
    (lt_iff.trans Int.ofNat_lt.symm) (fun value => Int.natCast_nonneg _)
    (fun value => Int.le_sub_one_of_lt (Int.ofNat_lt.mpr (bounded value))) ?_
  intro number nonneg below
  have inside : number.toNat < size := by omega
  rw [exact _ inside, Int.toNat_of_nonneg nonneg]

end Checked

/-! ## The unsigned types -/

instance : NumericBounds UInt8 := unsignedBounds UInt8.toNat UInt8.ofNat UInt8.size

instance : LawfulNumericBounds UInt8 :=
  lawfulUnsignedBounds UInt8.toNat_inj.mp UInt8.lt_iff_toNat_lt UInt8.toNat_lt
    fun _ inside => UInt8.toNat_ofNat_of_lt' inside

instance : NumericBounds UInt16 := unsignedBounds UInt16.toNat UInt16.ofNat UInt16.size

instance : LawfulNumericBounds UInt16 :=
  lawfulUnsignedBounds UInt16.toNat_inj.mp UInt16.lt_iff_toNat_lt UInt16.toNat_lt
    fun _ inside => UInt16.toNat_ofNat_of_lt' inside

instance : NumericBounds UInt32 := unsignedBounds UInt32.toNat UInt32.ofNat UInt32.size

instance : LawfulNumericBounds UInt32 :=
  lawfulUnsignedBounds UInt32.toNat_inj.mp UInt32.lt_iff_toNat_lt UInt32.toNat_lt
    fun _ inside => UInt32.toNat_ofNat_of_lt' inside

instance : NumericBounds UInt64 := unsignedBounds UInt64.toNat UInt64.ofNat UInt64.size

instance : LawfulNumericBounds UInt64 :=
  lawfulUnsignedBounds UInt64.toNat_inj.mp UInt64.lt_iff_toNat_lt UInt64.toNat_lt
    fun _ inside => UInt64.toNat_ofNat_of_lt' inside

instance : NumericBounds USize := unsignedBounds USize.toNat USize.ofNat USize.size

instance : LawfulNumericBounds USize :=
  lawfulUnsignedBounds USize.toNat_inj.mp USize.lt_iff_toNat_lt USize.toNat_lt_size
    fun _ inside => USize.toNat_ofNat_of_lt' inside

/-! ## The signed types -/

instance : NumericBounds Int8 :=
  checkedBounds Int8.toInt Int8.ofInt (-2 ^ 7) (2 ^ 7 - 1)

instance : LawfulNumericBounds Int8 :=
  lawfulCheckedBounds Int8.toInt_inj.mp Int8.lt_iff_toInt_lt Int8.le_toInt
    (fun value => Int.le_sub_one_of_lt value.toInt_lt)
    (fun _ above below => Int8.toInt_ofInt_of_le above (Int.lt_of_le_sub_one below))

instance : NumericBounds Int16 :=
  checkedBounds Int16.toInt Int16.ofInt (-2 ^ 15) (2 ^ 15 - 1)

instance : LawfulNumericBounds Int16 :=
  lawfulCheckedBounds Int16.toInt_inj.mp Int16.lt_iff_toInt_lt Int16.le_toInt
    (fun value => Int.le_sub_one_of_lt value.toInt_lt)
    (fun _ above below => Int16.toInt_ofInt_of_le above (Int.lt_of_le_sub_one below))

instance : NumericBounds Int32 :=
  checkedBounds Int32.toInt Int32.ofInt (-2 ^ 31) (2 ^ 31 - 1)

instance : LawfulNumericBounds Int32 :=
  lawfulCheckedBounds Int32.toInt_inj.mp Int32.lt_iff_toInt_lt Int32.le_toInt
    (fun value => Int.le_sub_one_of_lt value.toInt_lt)
    (fun _ above below => Int32.toInt_ofInt_of_le above (Int.lt_of_le_sub_one below))

instance : NumericBounds Int64 :=
  checkedBounds Int64.toInt Int64.ofInt (-2 ^ 63) (2 ^ 63 - 1)

instance : LawfulNumericBounds Int64 :=
  lawfulCheckedBounds Int64.toInt_inj.mp Int64.lt_iff_toInt_lt Int64.le_toInt
    (fun value => Int.le_sub_one_of_lt value.toInt_lt)
    (fun _ above below => Int64.toInt_ofInt_of_le above (Int.lt_of_le_sub_one below))

instance : NumericBounds ISize :=
  checkedBounds ISize.toInt ISize.ofIntClamp ISize.minValue.toInt ISize.maxValue.toInt

instance : LawfulNumericBounds ISize :=
  lawfulCheckedBounds ISize.toInt_inj.mp ISize.lt_iff_toInt_lt ISize.minValue_le_toInt
    ISize.toInt_le (fun _ above below => ISize.toInt_ofIntClamp above below)

/-! ## Bytes -/

section Bytes

open LawfulNumericBounds

variable {low value high : UInt8}

theorem byte_le_iff {left right : UInt8} : left ≤ right ↔ toInt left ≤ toInt right :=
  UInt8.le_iff_toNat_le.trans Int.ofNat_le.symm

/-- A byte that is incremented stays within its bounds. -/
theorem addClamped_byte (step : UInt8) (above : low ≤ value) (below : value ≤ high) :
    low ≤ NumericBounds.addClamped value step high ∧
      NumericBounds.addClamped value step high ≤ high := by
  rw [byte_le_iff] at above below
  rw [byte_le_iff, byte_le_iff]
  exact toInt_addClamped_mem (Int.natCast_nonneg step.toNat) above below

/-- A byte that is decremented stays within its bounds. -/
theorem subClamped_byte (step : UInt8) (above : low ≤ value) (below : value ≤ high) :
    low ≤ NumericBounds.subClamped value step low ∧
      NumericBounds.subClamped value step low ≤ high := by
  rw [byte_le_iff] at above below
  rw [byte_le_iff, byte_le_iff]
  exact toInt_subClamped_mem (Int.natCast_nonneg step.toNat) above below

end Bytes

end KaruMenu
end Motonet
