import Mathlib.Data.UInt
import Mathlib.Tactic.Common

/-!
# The items of a menu

Numbers that are edited within bounds, and actions.
-/

namespace Motonet
namespace KaruMenu

/-- `MenuItem`, with its provided methods.  A method that changes the item returns it; `increment`
and `decrement` also tell whether it has changed. -/
class MenuItem (I : Type) (A : outParam Type) where
  label : I → String
  valueString : I → String
  isEditable : I → Bool := fun _ => true
  increment : I → Bool × I
  decrement : I → Bool × I
  onEnterEdit : I → I := id
  onExitEdit : I → I := id
  isModified : I → Bool := fun _ => false
  commit : I → I := id
  discard : I → I := id
  actionId : I → Option A := fun _ => none

/-- `ActionItem`. -/
structure ActionItem (A : Type) where
  label : String
  actionId : A

instance {A : Type} : MenuItem (ActionItem A) A where
  label item := item.label
  valueString _ := ""
  isEditable _ := false
  increment item := (false, item)
  decrement item := (false, item)
  actionId item := some item.actionId

/-- `NumericBounds`: the arithmetic of an integer type, clamped instead of overflowing. -/
class NumericBounds (T : Type) [LT T] [DecidableLT T] [DecidableEq T] where
  addClamped (value step high : T) : T
  subClamped (value step low : T) : T

section Numeric

variable {T : Type} [LT T] [DecidableLT T] [DecidableEq T]

/-- `Ord::clamp`. -/
def clamp (low high value : T) : T :=
  if value < low then low else if high < value then high else value

/-- `NumericItem`. -/
structure NumericItem (T : Type) where
  label : String
  current : T
  pending : T
  min : T
  max : T
  step : T
  formatter : T → String

namespace NumericItem

/-- `NumericItem::new`. -/
def new (label : String) (initial low high step : T) (formatter : T → String) : NumericItem T where
  label := label
  current := clamp low high initial
  pending := clamp low high initial
  min := low
  max := high
  step := step
  formatter := formatter

/-- The part of `increment` and `decrement` after the arithmetic. -/
def move (next : T) (item : NumericItem T) : Bool × NumericItem T :=
  (next ≠ item.pending, { item with pending := next })

variable [NumericBounds T]

instance : MenuItem (NumericItem T) Empty where
  label item := item.label
  valueString item := item.formatter item.pending
  increment item := item.move (NumericBounds.addClamped item.pending item.step item.max)
  decrement item := item.move (NumericBounds.subClamped item.pending item.step item.min)
  isModified item := item.pending ≠ item.current
  commit item := { item with current := item.pending }
  discard item := { item with pending := item.current }

end NumericItem

/-- `MenuEntry`. -/
inductive MenuEntry (T A : Type)
  | numeric (item : NumericItem T)
  | command (item : ActionItem A)

variable [NumericBounds T]

instance {A : Type} : MenuItem (MenuEntry T A) A where
  label
    | .numeric item => MenuItem.label item
    | .command item => MenuItem.label item
  valueString
    | .numeric item => MenuItem.valueString item
    | .command item => MenuItem.valueString item
  isEditable
    | .numeric item => MenuItem.isEditable item
    | .command item => MenuItem.isEditable item
  increment
    | .numeric item => (MenuItem.increment item).map id .numeric
    | .command item => (MenuItem.increment item).map id .command
  decrement
    | .numeric item => (MenuItem.decrement item).map id .numeric
    | .command item => (MenuItem.decrement item).map id .command
  onEnterEdit
    | .numeric item => .numeric (MenuItem.onEnterEdit item)
    | .command item => .command (MenuItem.onEnterEdit item)
  onExitEdit
    | .numeric item => .numeric (MenuItem.onExitEdit item)
    | .command item => .command (MenuItem.onExitEdit item)
  isModified
    | .numeric item => MenuItem.isModified item
    | .command item => MenuItem.isModified item
  commit
    | .numeric item => .numeric (MenuItem.commit item)
    | .command item => .command (MenuItem.commit item)
  discard
    | .numeric item => .numeric (MenuItem.discard item)
    | .command item => .command (MenuItem.discard item)
  actionId
    | .numeric _ => none
    | .command item => MenuItem.actionId item

end Numeric

end KaruMenu
end Motonet
