import Motonet.Foundation.Fallible
import Mathlib.Logic.Function.Basic

/-!
# OTA slots and boot metadata

The flash of the device as OTA sees it: two application slots, which of them boots next, and the
image state recorded for each.  Every operation first notes in a journal that it was called.  An
operation of the boot metadata that fails leaves its effect undone; a failed erase or write leaves
arbitrary bytes in its range.
-/

namespace Motonet
namespace Firmware

/-- The image states of the boot metadata. -/
inductive OtaImageState
  | new
  | pendingVerify
  | valid
  | invalid
  | aborted
  | undefined
  deriving DecidableEq, Repr

/-- The image has not been confirmed yet. -/
def OtaImageState.awaitsConfirmation (state : OtaImageState) : Bool :=
  state = .new || state = .pendingVerify

/-- The two OTA application partitions. -/
inductive Slot
  | ota0
  | ota1
  deriving DecidableEq, Repr

/-- The partition after the given one. -/
def Slot.next : Slot → Slot
  | .ota0 => .ota1
  | .ota1 => .ota0

@[simp]
theorem Slot.next_next (slot : Slot) : slot.next.next = slot := by
  cases slot <;> rfl

@[simp]
theorem Slot.next_ne (slot : Slot) : slot.next ≠ slot := by
  cases slot <;> decide

/-- An error of `esp_bootloader_esp_idf::partitions`. -/
structure PartitionError where
  code : ℕ
  deriving DecidableEq, Repr

/-- An error of `esp_storage`. -/
structure FlashStorageError where
  code : ℕ
  deriving DecidableEq, Repr

/-- A failing erase or write, and the bytes that it leaves in its range. -/
structure FlashFailure where
  error : FlashStorageError
  residue : ℕ → UInt8

/-- A call that concerns the OTA slots. -/
inductive DeviceEvent
  /-- `prepare_inactive_slot` was entered. -/
  | prepare (slot : Slot) (imageBytes : ℕ)
  | erase (slot : Slot) (length : ℕ)
  | write (slot : Slot) (offset : ℕ) (bytes : List UInt8)
  | activate (slot : Slot)
  | setState (slot : Slot) (state : OtaImageState)
  deriving DecidableEq, Repr

/-- The OTA slots, the boot metadata and the calls made so far. -/
structure Device where
  selected : Slot
  imageState : Slot → OtaImageState
  flash : Slot → ℕ → UInt8
  journal : List DeviceEvent

namespace Device

/-- Note a call. -/
def log (event : DeviceEvent) (device : Device) : Device :=
  { device with journal := device.journal ++ [event] }

/-- Select the next slot for boot. -/
def selectNext (device : Device) : Device :=
  { device with selected := device.selected.next }

/-- Record an image state for the selected slot. -/
def setState (state : OtaImageState) (device : Device) : Device :=
  { device with imageState := Function.update device.imageState device.selected state }

/-- Replace the bytes of a range of a slot. -/
def setRange (slot : Slot) (offset length : ℕ) (content : ℕ → UInt8) (device : Device) : Device :=
  { device with
    flash := Function.update device.flash slot fun address =>
      if offset ≤ address ∧ address < offset + length then content address
      else device.flash slot address }

/-- The bytes of a range of a slot. -/
def readRange (slot : Slot) (offset length : ℕ) (device : Device) : List UInt8 :=
  (List.range length).map fun i => device.flash slot (offset + i)

section Simp

variable (device : Device) (event : DeviceEvent) (slot other : Slot) (state : OtaImageState)
  (offset length : ℕ) (content : ℕ → UInt8)

@[simp] theorem log_selected : (device.log event).selected = device.selected := rfl
@[simp] theorem log_imageState : (device.log event).imageState = device.imageState := rfl
@[simp] theorem log_flash : (device.log event).flash = device.flash := rfl
@[simp] theorem log_journal : (device.log event).journal = device.journal ++ [event] := rfl

@[simp] theorem selectNext_selected : device.selectNext.selected = device.selected.next := rfl
@[simp] theorem selectNext_imageState : device.selectNext.imageState = device.imageState := rfl
@[simp] theorem selectNext_flash : device.selectNext.flash = device.flash := rfl
@[simp] theorem selectNext_journal : device.selectNext.journal = device.journal := rfl

@[simp] theorem setState_selected : (device.setState state).selected = device.selected := rfl
@[simp] theorem setState_imageState : (device.setState state).imageState =
    Function.update device.imageState device.selected state := rfl
@[simp] theorem setState_flash : (device.setState state).flash = device.flash := rfl
@[simp] theorem setState_journal : (device.setState state).journal = device.journal := rfl

@[simp] theorem setRange_selected :
    (device.setRange slot offset length content).selected = device.selected := rfl
@[simp] theorem setRange_imageState :
    (device.setRange slot offset length content).imageState = device.imageState := rfl
@[simp] theorem setRange_journal :
    (device.setRange slot offset length content).journal = device.journal := rfl

@[simp]
theorem length_readRange : (device.readRange slot offset length).length = length := by
  simp [readRange]

end Simp

/-- A slot's bytes depend on the flash only. -/
theorem readRange_congr {left right : Device} {slot : Slot}
    (same : left.flash slot = right.flash slot) (offset length : ℕ) :
    left.readRange slot offset length = right.readRange slot offset length := by
  simp [readRange, same]

/-- A prefix of a range. -/
theorem take_readRange (device : Device) (slot : Slot) (offset : ℕ) {short length : ℕ}
    (fits : short ≤ length) :
    (device.readRange slot offset length).take short = device.readRange slot offset short := by
  rw [readRange, ← List.map_take, List.take_range, min_eq_left fits, readRange]

/-- Reading up to the end of what was just written. -/
theorem readRange_setRange (device : Device) (slot : Slot) (offset : ℕ) (bytes : List UInt8) :
    (device.setRange slot offset bytes.length fun address =>
        bytes.getD (address - offset) 0).readRange slot 0 (offset + bytes.length) =
      device.readRange slot 0 offset ++ bytes := by
  apply List.ext_getElem
  · simp
  intro i left right
  simp only [length_readRange] at left
  simp only [readRange, setRange, Function.update_self, List.getElem_map, List.getElem_range,
    Nat.zero_add]
  by_cases before : i < offset
  · rw [if_neg (by omega), List.getElem_append_left (by simpa using before)]
    simp
  · rw [if_pos (by omega), List.getElem_append_right (by simpa using before)]
    simp only [List.length_map, List.length_range]
    rw [List.getD_eq_getElem?_getD, List.getElem?_eq_getElem (by omega), Option.getD_some]

end Device

/-! ## Changes confined to a slot -/

/-- A call that prepares, erases or writes a slot. -/
def DeviceEvent.InSlot (slot : Slot) : DeviceEvent → Prop
  | .prepare target _ | .erase target _ | .write target _ _ => target = slot
  | .activate _ | .setState _ _ => False

/-- Between two states of the device only the bytes of one slot changed, by calls on that slot. -/
structure Confined (slot : Slot) (before after : Device) : Prop where
  selected : after.selected = before.selected
  imageState : after.imageState = before.imageState
  other : after.flash slot.next = before.flash slot.next
  journal : ∃ events, after.journal = before.journal ++ events ∧
    ∀ event ∈ events, event.InSlot slot

namespace Confined

variable {slot : Slot} {first middle last : Device}

theorem refl (slot : Slot) (device : Device) : Confined slot device device :=
  ⟨rfl, rfl, rfl, [], by simp, nofun⟩

theorem trans (front : Confined slot first middle) (back : Confined slot middle last) :
    Confined slot first last := by
  obtain ⟨early, early_eq, early_in⟩ := front.journal
  obtain ⟨late, late_eq, late_in⟩ := back.journal
  refine ⟨back.selected.trans front.selected, back.imageState.trans front.imageState,
    back.other.trans front.other, early ++ late, by rw [late_eq, early_eq, List.append_assoc], ?_⟩
  intro event member
  exact (List.mem_append.mp member).elim (early_in event) (late_in event)

theorem log {event : DeviceEvent} (inside : event.InSlot slot) (device : Device) :
    Confined slot device (device.log event) :=
  ⟨rfl, rfl, rfl, [event], rfl, by simpa using inside⟩

theorem setRange (device : Device) (offset length : ℕ) (content : ℕ → UInt8) :
    Confined slot device (device.setRange slot offset length content) := by
  refine ⟨rfl, rfl, ?_, [], by simp, nofun⟩
  simp [Device.setRange, Function.update_of_ne]

end Confined

/-! ## Regions -/

/-- Erase the first bytes of a slot. -/
def eraseRegion (slot : Slot) (length : ℕ) (fault : Option FlashFailure) :
    Fallible FlashStorageError Device Unit := do
  Fallible.update fun device => ((), device.log (.erase slot length))
  match fault with
  | none => Fallible.update fun device => ((), device.setRange slot 0 length fun _ => 0xff)
  | some failure =>
      Fallible.update fun device => ((), device.setRange slot 0 length failure.residue)
      throw failure.error

/-- Write bytes into a slot. -/
def writeRegion (slot : Slot) (offset : ℕ) (bytes : List UInt8) (fault : Option FlashFailure) :
    Fallible FlashStorageError Device Unit := do
  Fallible.update fun device => ((), device.log (.write slot offset bytes))
  match fault with
  | none =>
      Fallible.update fun device =>
        ((), device.setRange slot offset bytes.length fun address =>
          bytes.getD (address - offset) 0)
  | some failure =>
      Fallible.update fun device =>
        ((), device.setRange slot offset bytes.length failure.residue)
      throw failure.error

/-- What an erase does. -/
theorem exec_eraseRegion (slot : Slot) (length : ℕ) (fault : Option FlashFailure)
    (device : Device) :
    Fallible.exec (eraseRegion slot length fault) device =
      match fault with
      | none => (.ok (), (device.log (.erase slot length)).setRange slot 0 length fun _ => 0xff)
      | some failure => (.error failure.error,
          (device.log (.erase slot length)).setRange slot 0 length failure.residue) := by
  cases fault <;> rfl

/-- The device after a write that succeeded. -/
def Device.written (slot : Slot) (offset : ℕ) (bytes : List UInt8) (device : Device) : Device :=
  (device.log (.write slot offset bytes)).setRange slot offset bytes.length fun address =>
    bytes.getD (address - offset) 0

/-- What a write does. -/
theorem exec_writeRegion (slot : Slot) (offset : ℕ) (bytes : List UInt8)
    (fault : Option FlashFailure) (device : Device) :
    Fallible.exec (writeRegion slot offset bytes fault) device =
      match fault with
      | none => (.ok (), device.written slot offset bytes)
      | some failure => (.error failure.error,
          (device.log (.write slot offset bytes)).setRange slot offset bytes.length
            failure.residue) := by
  cases fault <;> rfl

/-- Read bytes of a slot. -/
def readRegion (slot : Slot) (offset length : ℕ) (fault : Option FlashStorageError) :
    Fallible FlashStorageError Device (List UInt8) := do
  Fallible.raise fault
  Fallible.update fun device => (device.readRange slot offset length, device)

/-! ## Boot metadata -/

namespace OtaBootMetadata

/-- Open the boot metadata. -/
def new (fault : Option PartitionError) : Fallible PartitionError Device Unit :=
  Fallible.raise fault

/-- Image state of the selected slot. -/
def currentState (fault : Option PartitionError) :
    Fallible PartitionError Device OtaImageState := do
  Fallible.raise fault
  Fallible.update fun device => (device.imageState device.selected, device)

/-- Whether the selected image awaits confirmation. -/
def currentAppPendingConfirmation (fault : Option PartitionError) :
    Fallible PartitionError Device Bool := do
  let state ← currentState fault
  return state.awaitsConfirmation

/-- The slot that would be activated next. -/
def inactivePartition (fault : Option PartitionError) : Fallible PartitionError Device Slot := do
  Fallible.raise fault
  Fallible.update fun device => (device.selected.next, device)

/-- Select the next slot for boot. -/
def activateNextPartition (fault : Option PartitionError) :
    Fallible PartitionError Device Unit := do
  Fallible.update fun device => ((), device.log (.activate device.selected.next))
  Fallible.raise fault
  Fallible.update fun device => ((), device.selectNext)

/-- Record an image state for the selected slot. -/
def setCurrentOtaState (state : OtaImageState) (fault : Option PartitionError) :
    Fallible PartitionError Device Unit := do
  Fallible.update fun device => ((), device.log (.setState device.selected state))
  Fallible.raise fault
  Fallible.update fun device => ((), device.setState state)

/-- Mark the selected image as new. -/
def markCurrentAppNew (fault : Option PartitionError) : Fallible PartitionError Device Unit :=
  setCurrentOtaState .new fault

/-- Mark the selected image as valid. -/
def markCurrentAppValid (fault : Option PartitionError) : Fallible PartitionError Device Unit :=
  setCurrentOtaState .valid fault

end OtaBootMetadata

end Firmware
end Motonet
