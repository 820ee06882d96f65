import Mathlib.Data.List.Basic
import Mathlib.Data.UInt
import Mathlib.Tactic.Common
import Mathlib.Tactic.SplitIfs

/-!
# The viewport of a menu

The part of a list that fits on the screen: an offset that follows the selection.
-/

namespace Motonet
namespace KaruMenu

/-- `ScrollableViewport`. -/
structure ScrollableViewport where
  width : UInt8
  height : UInt8
  headerHeight : UInt8
  itemHeight : UInt8
  maxVisible : ℕ
  scrollOffset : ℕ
  selectedIndex : ℕ
  totalItems : ℕ
  deriving DecidableEq, Repr

namespace ScrollableViewport

/-- `ScrollableViewport::with_metrics`.  The additions and subtractions saturate. -/
def withMetrics (width height headerHeight itemHeight : UInt8) : ScrollableViewport :=
  let itemHeight := max itemHeight 1
  let available := height.toNat - min (headerHeight.toNat + 2) 255
  { width := width
    height := height
    headerHeight := headerHeight
    itemHeight := itemHeight
    maxVisible := max (available / itemHeight.toNat) 1
    scrollOffset := 0
    selectedIndex := 0
    totalItems := 0 }

/-- `ScrollableViewport::new`. -/
def new (width height : UInt8) : ScrollableViewport :=
  withMetrics width height 22 10

/-- `ensure_visible`: scroll to the selection, then back to the end of the list. -/
def ensureVisible (viewport : ScrollableViewport) : ScrollableViewport :=
  if viewport.totalItems = 0 then { viewport with scrollOffset := 0, selectedIndex := 0 }
  else
    let scrollOffset :=
      if viewport.selectedIndex < viewport.scrollOffset then viewport.selectedIndex
      else if viewport.scrollOffset + viewport.maxVisible ≤ viewport.selectedIndex then
        viewport.selectedIndex - (viewport.maxVisible - 1)
      else viewport.scrollOffset
    { viewport with
      scrollOffset := min scrollOffset (viewport.totalItems - viewport.maxVisible) }

/-- `set_total_items`. -/
def setTotalItems (totalItems : ℕ) (viewport : ScrollableViewport) : ScrollableViewport :=
  let viewport := { viewport with totalItems := totalItems }
  if totalItems = 0 then { viewport with selectedIndex := 0, scrollOffset := 0 }
  else
    { viewport with
      selectedIndex := min viewport.selectedIndex (totalItems - 1) }.ensureVisible

/-- `select`: whether the selection has changed, and the viewport. -/
def select (index : ℕ) (viewport : ScrollableViewport) : Bool × ScrollableViewport :=
  if viewport.totalItems = 0 then
    (false, { viewport with selectedIndex := 0, scrollOffset := 0 })
  else
    let next := { viewport with
      selectedIndex := min index (viewport.totalItems - 1) }.ensureVisible
    (next.selectedIndex ≠ viewport.selectedIndex, next)

/-- `select_next`. -/
def selectNext (viewport : ScrollableViewport) : Bool × ScrollableViewport :=
  viewport.select (viewport.selectedIndex + 1)

/-- `select_prev`. -/
def selectPrev (viewport : ScrollableViewport) : Bool × ScrollableViewport :=
  viewport.select (viewport.selectedIndex - 1)

/-- `visible_range`: the first index and the one after the last. -/
def visibleRange (viewport : ScrollableViewport) : ℕ × ℕ :=
  if viewport.totalItems = 0 then (0, 0)
  else
    let start := min viewport.scrollOffset (viewport.totalItems - 1)
    (start, min (start + viewport.maxVisible) viewport.totalItems)

/-- `item_y`. -/
def itemY (viewport : ScrollableViewport) (index : ℕ) : ℤ :=
  viewport.headerHeight.toNat + 2 +
    min (index - viewport.scrollOffset) (2 ^ 31 - 1) * viewport.itemHeight.toNat

/-- `has_more_below`. -/
def hasMoreBelow (viewport : ScrollableViewport) : Bool :=
  viewport.scrollOffset + viewport.maxVisible < viewport.totalItems

/-- `has_more_above`. -/
def hasMoreAbove (viewport : ScrollableViewport) : Bool := 0 < viewport.scrollOffset

/-- The selection is in the list and on the screen, and the screen does not go beyond the end of
the list. -/
structure Visible (viewport : ScrollableViewport) : Prop where
  selected : viewport.selectedIndex < viewport.totalItems
  above : viewport.scrollOffset ≤ viewport.selectedIndex
  below : viewport.selectedIndex < viewport.scrollOffset + viewport.maxVisible
  full : viewport.scrollOffset ≤ viewport.totalItems - viewport.maxVisible

@[simp]
theorem ensureVisible_selectedIndex {viewport : ScrollableViewport}
    (nonempty : viewport.totalItems ≠ 0) :
    viewport.ensureVisible.selectedIndex = viewport.selectedIndex := by
  rw [ensureVisible, if_neg nonempty]

@[simp]
theorem ensureVisible_totalItems (viewport : ScrollableViewport) :
    viewport.ensureVisible.totalItems = viewport.totalItems := by
  unfold ensureVisible
  split <;> rfl

@[simp]
theorem ensureVisible_maxVisible (viewport : ScrollableViewport) :
    viewport.ensureVisible.maxVisible = viewport.maxVisible := by
  unfold ensureVisible
  split <;> rfl

/-- Wherever the screen was, a selection in the list becomes visible. -/
theorem visible_ensureVisible {viewport : ScrollableViewport}
    (selected : viewport.selectedIndex < viewport.totalItems)
    (positive : 0 < viewport.maxVisible) : viewport.ensureVisible.Visible := by
  have nonempty : viewport.totalItems ≠ 0 := by omega
  rw [ensureVisible, if_neg nonempty]
  constructor
  · exact selected
  · show min _ _ ≤ viewport.selectedIndex
    split_ifs <;> omega
  · show viewport.selectedIndex < min _ _ + viewport.maxVisible
    split_ifs <;> omega
  · exact Nat.min_le_right _ _

/-- A list that grows or shrinks, but not to nothing, shows its selection. -/
theorem visible_setTotalItems {viewport : ScrollableViewport} {totalItems : ℕ}
    (nonempty : totalItems ≠ 0) (positive : 0 < viewport.maxVisible) :
    (viewport.setTotalItems totalItems).Visible ∧
      (viewport.setTotalItems totalItems).totalItems = totalItems ∧
      (viewport.setTotalItems totalItems).maxVisible = viewport.maxVisible := by
  rw [setTotalItems, if_neg nonempty]
  refine ⟨visible_ensureVisible ?_ positive, ensureVisible_totalItems _,
    ensureVisible_maxVisible _⟩
  show min viewport.selectedIndex (totalItems - 1) < totalItems
  omega

/-- A visible selection needs no scrolling. -/
theorem Visible.ensureVisible_eq {viewport : ScrollableViewport} (visible : viewport.Visible) :
    viewport.ensureVisible = viewport := by
  have nonempty : viewport.totalItems ≠ 0 := Nat.ne_of_gt (Nat.zero_lt_of_lt visible.selected)
  simp only [ensureVisible, if_neg nonempty, if_neg (Nat.not_lt.mpr visible.above),
    if_neg (Nat.not_le.mpr visible.below), Nat.min_eq_left visible.full]

/-- The selection changes, or nothing does. -/
theorem Visible.select {viewport : ScrollableViewport} (visible : viewport.Visible) (index : ℕ) :
    (viewport.select index).2.Visible ∧
      (viewport.select index).2.totalItems = viewport.totalItems ∧
      (viewport.select index).2.maxVisible = viewport.maxVisible ∧
      ((viewport.select index).1 = true ∧
          (viewport.select index).2.selectedIndex ≠ viewport.selectedIndex ∨
        (viewport.select index).1 = false ∧ (viewport.select index).2 = viewport) := by
  have nonempty : viewport.totalItems ≠ 0 := Nat.ne_of_gt (Nat.zero_lt_of_lt visible.selected)
  have positive : 0 < viewport.maxVisible := by
    have above := visible.above
    have below := visible.below
    omega
  have inside : min index (viewport.totalItems - 1) < viewport.totalItems := by omega
  rw [ScrollableViewport.select, if_neg nonempty]
  refine ⟨visible_ensureVisible inside positive, ensureVisible_totalItems _,
    ensureVisible_maxVisible _, ?_⟩
  have moved : { viewport with
      selectedIndex := min index (viewport.totalItems - 1) }.ensureVisible.selectedIndex =
        min index (viewport.totalItems - 1) := ensureVisible_selectedIndex nonempty
  simp only [moved, decide_eq_true_eq, decide_eq_false_iff_not, not_not]
  by_cases same : min index (viewport.totalItems - 1) = viewport.selectedIndex
  · rw [same]
    exact .inr ⟨rfl, visible.ensureVisible_eq⟩
  · exact .inl ⟨same, same⟩

end ScrollableViewport
end KaruMenu
end Motonet
