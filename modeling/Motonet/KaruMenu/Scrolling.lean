import Mathlib.Data.List.Range
import Motonet.Foundation.TransitionSystem
import Motonet.KaruMenu.Menu

/-!
# Runs of a viewport and of a menu

A viewport is moved by its four calls, and a menu moves the viewport that it has taken over.
Whatever they do, the selection stays on the screen and the screen stays filled.
-/

namespace Motonet
namespace KaruMenu

/-! ## The viewport -/

namespace ScrollableViewport

/-- The calls that move a viewport. -/
inductive Call
  | setTotalItems (totalItems : ℕ)
  | select (index : ℕ)
  | selectNext
  | selectPrev
  deriving DecidableEq, Repr

/-- The viewport after a call. -/
def call (viewport : ScrollableViewport) : Call → ScrollableViewport
  | .setTotalItems totalItems => viewport.setTotalItems totalItems
  | .select index => (viewport.select index).2
  | .selectNext => viewport.selectNext.2
  | .selectPrev => viewport.selectPrev.2

/-- The runs of a viewport, of any metrics. -/
def system : TransitionSystem ScrollableViewport Call where
  initial viewport := ∃ width height headerHeight itemHeight,
    viewport = withMetrics width height headerHeight itemHeight
  step viewport call := some (viewport.call call)

/-- What the calls keep: a screen of a few rows, which shows the selection if there is one. -/
structure Settled (viewport : ScrollableViewport) : Prop where
  positive : 0 < viewport.maxVisible
  bounded : viewport.maxVisible ≤ 255
  itemHeight : 0 < viewport.itemHeight.toNat
  empty : viewport.totalItems = 0 → viewport.selectedIndex = 0 ∧ viewport.scrollOffset = 0
  visible : viewport.totalItems ≠ 0 → viewport.Visible

@[simp]
theorem ensureVisible_itemHeight (viewport : ScrollableViewport) :
    viewport.ensureVisible.itemHeight = viewport.itemHeight := by
  unfold ensureVisible
  split <;> rfl

theorem settled_withMetrics (width height headerHeight itemHeight : UInt8) :
    (withMetrics width height headerHeight itemHeight).Settled where
  positive := Nat.lt_of_lt_of_le Nat.one_pos (Nat.le_max_right _ _)
  bounded := by
    have rows : (height.toNat - min (headerHeight.toNat + 2) 255) / (max itemHeight 1).toNat ≤
        height.toNat - min (headerHeight.toNat + 2) 255 := Nat.div_le_self _ _
    have byte := height.toNat_lt
    show max _ 1 ≤ 255
    omega
  itemHeight := by
    show 0 < (if itemHeight ≤ 1 then 1 else itemHeight : UInt8).toNat
    split
    · exact Nat.one_pos
    next large =>
      have larger := UInt8.lt_iff_toNat_lt.mp (UInt8.not_le.mp large)
      exact Nat.lt_trans Nat.one_pos larger
  empty _ := ⟨rfl, rfl⟩
  visible nonempty := absurd rfl nonempty

theorem Settled.setTotalItems {viewport : ScrollableViewport} (settled : viewport.Settled)
    (totalItems : ℕ) : (viewport.setTotalItems totalItems).Settled := by
  by_cases nothing : totalItems = 0
  · rw [ScrollableViewport.setTotalItems, if_pos nothing]
    exact ⟨settled.positive, settled.bounded, settled.itemHeight, fun _ => ⟨rfl, rfl⟩,
      fun nonempty => absurd nothing nonempty⟩
  · obtain ⟨visible, total, size⟩ := visible_setTotalItems nothing settled.positive
    have height : (viewport.setTotalItems totalItems).itemHeight = viewport.itemHeight := by
      rw [ScrollableViewport.setTotalItems, if_neg nothing, ensureVisible_itemHeight]
    exact ⟨size ▸ settled.positive, size ▸ settled.bounded, height ▸ settled.itemHeight,
      fun empty => absurd (total.symm.trans empty) nothing, fun _ => visible⟩

/-- The selection changes exactly when `select` says so. -/
theorem Settled.select {viewport : ScrollableViewport} (settled : viewport.Settled) (index : ℕ) :
    (viewport.select index).2.Settled ∧
      (viewport.select index).2.totalItems = viewport.totalItems ∧
      ((viewport.select index).1 = true ↔
        (viewport.select index).2.selectedIndex ≠ viewport.selectedIndex) := by
  by_cases nothing : viewport.totalItems = 0
  · rw [ScrollableViewport.select, if_pos nothing]
    refine ⟨⟨settled.positive, settled.bounded, settled.itemHeight, fun _ => ⟨rfl, rfl⟩,
      fun nonempty => absurd nothing nonempty⟩, rfl, ?_⟩
    exact ⟨fun never => absurd never Bool.false_ne_true,
      fun changed => absurd (settled.empty nothing).1.symm changed⟩
  · obtain ⟨visible, total, size, result⟩ := (settled.visible nothing).select index
    have height : (viewport.select index).2.itemHeight = viewport.itemHeight := by
      rw [ScrollableViewport.select, if_neg nothing, ensureVisible_itemHeight]
    refine ⟨⟨size ▸ settled.positive, size ▸ settled.bounded, height ▸ settled.itemHeight,
      fun empty => absurd (total.symm.trans empty) nothing, fun _ => visible⟩, total, ?_⟩
    obtain ⟨changed, moved⟩ | ⟨unchanged, same⟩ := result
    · exact ⟨fun _ => moved, fun _ => changed⟩
    · rw [unchanged, same]
      exact ⟨fun never => absurd never Bool.false_ne_true, fun changed => absurd rfl changed⟩

theorem Settled.call {viewport : ScrollableViewport} (settled : viewport.Settled) (call : Call) :
    (viewport.call call).Settled := by
  cases call with
  | setTotalItems totalItems => exact settled.setTotalItems totalItems
  | select index => exact (settled.select index).1
  | selectNext => exact (settled.select _).1
  | selectPrev => exact (settled.select _).1

/-- Every run settles the viewport. -/
theorem settled_of_reachable {viewport : ScrollableViewport}
    (reachable : system.Reachable viewport) : viewport.Settled := by
  refine reachable.invariant Settled ?_ ?_
  · rintro start ⟨width, height, headerHeight, itemHeight, rfl⟩
    exact settled_withMetrics width height headerHeight itemHeight
  · intro before call after settled taken
    cases Option.some.inj taken
    exact settled.call call

/-- The screen shows the selection, is filled as far as the list goes, and what it says about the
items before and after it is right. -/
structure ShowsSelection (viewport : ScrollableViewport) : Prop where
  selected : viewport.selectedIndex < viewport.totalItems
  above : viewport.scrollOffset ≤ viewport.selectedIndex
  below : viewport.selectedIndex < viewport.scrollOffset + viewport.maxVisible
  inside : viewport.scrollOffset + viewport.maxVisible ≤
    max viewport.totalItems viewport.maxVisible
  start : viewport.visibleRange.1 = viewport.scrollOffset
  count : viewport.visibleRange.2 =
    viewport.visibleRange.1 + min viewport.totalItems viewport.maxVisible
  finish : viewport.visibleRange.2 ≤ viewport.totalItems
  contains : viewport.visibleRange.1 ≤ viewport.selectedIndex ∧
    viewport.selectedIndex < viewport.visibleRange.2
  hasMoreAbove : viewport.hasMoreAbove = true ↔
    ∃ index < viewport.totalItems, index < viewport.visibleRange.1
  hasMoreBelow : viewport.hasMoreBelow = true ↔
    ∃ index < viewport.totalItems, viewport.visibleRange.2 ≤ index

theorem Visible.visibleRange_eq {viewport : ScrollableViewport} (visible : viewport.Visible) :
    viewport.visibleRange = (viewport.scrollOffset,
      viewport.scrollOffset + min viewport.totalItems viewport.maxVisible) := by
  obtain ⟨selected, above, below, full⟩ := visible
  have nonempty : viewport.totalItems ≠ 0 := by omega
  have start : min viewport.scrollOffset (viewport.totalItems - 1) = viewport.scrollOffset := by
    omega
  rw [ScrollableViewport.visibleRange, if_neg nonempty, start]
  refine Prod.ext rfl ?_
  show min _ _ = _
  omega

theorem Visible.showsSelection {viewport : ScrollableViewport} (visible : viewport.Visible) :
    viewport.ShowsSelection := by
  have range := visible.visibleRange_eq
  obtain ⟨selected, above, below, full⟩ := visible
  refine ⟨selected, above, below, by omega, ?_, ?_, ?_, ?_, ?_, ?_⟩
  all_goals rw [range]
  · show viewport.scrollOffset + _ ≤ viewport.totalItems
    omega
  · show viewport.scrollOffset ≤ _ ∧ _ < viewport.scrollOffset + _
    omega
  · rw [ScrollableViewport.hasMoreAbove, decide_eq_true_iff]
    constructor
    · intro scrolled
      exact ⟨0, by omega, scrolled⟩
    · rintro ⟨index, -, before⟩
      exact Nat.zero_lt_of_lt before
  · rw [ScrollableViewport.hasMoreBelow, decide_eq_true_iff]
    constructor
    · intro more
      refine ⟨viewport.scrollOffset + viewport.maxVisible, more, ?_⟩
      show viewport.scrollOffset + min _ _ ≤ _
      omega
    · rintro ⟨index, inside, after⟩
      have after : viewport.scrollOffset + min viewport.totalItems viewport.maxVisible ≤ index :=
        after
      omega

/-- A later item on the screen is lower. -/
theorem itemY_lt_itemY {viewport : ScrollableViewport} (settled : viewport.Settled)
    {upper lower : ℕ} (order : upper < lower) (shown : viewport.scrollOffset ≤ upper)
    (fits : lower < viewport.scrollOffset + viewport.maxVisible) :
    viewport.itemY upper < viewport.itemY lower := by
  have bounded := settled.bounded
  have rows : min (upper - viewport.scrollOffset) (2 ^ 31 - 1) <
      min (lower - viewport.scrollOffset) (2 ^ 31 - 1) := by omega
  have pixels := Nat.mul_lt_mul_of_pos_right rows settled.itemHeight
  unfold itemY
  have shifted := Int.ofNat_lt.mpr pixels
  push_cast at shifted ⊢
  omega

end ScrollableViewport

/-! ## The menu -/

namespace Menu

variable {I A : Type} [MenuItem I A] {maxItems : ℕ}

/-- The calls that drive a menu. -/
inductive Call (I : Type)
  | add (item : I)
  | handleEvent (event : UiEvent)
  | setSelected (index : ℕ)
  | commitAll
  | discardAll

/-- The menu after a call.  A full menu is left as it is by `add`. -/
def call (menu : Menu I maxItems) : Call I → Menu I maxItems
  | .add item =>
      match menu.add item with
      | .ok added => added
      | .error _ => menu
  | .handleEvent event => (menu.handleEvent (A := A) event).2
  | .setSelected index => (menu.setSelected index).2
  | .commitAll => menu.commitAll
  | .discardAll => menu.discardAll

/-- The runs of a menu, which begins with any viewport and no items. -/
def system (I : Type) {A : Type} [MenuItem I A] (maxItems : ℕ) :
    TransitionSystem (Menu I maxItems) (Call I) where
  initial menu := ∃ viewport, ScrollableViewport.system.Reachable viewport ∧ menu = new viewport
  step menu call := some (menu.call call)

/-- What the calls keep: a settled viewport of all the items, which are no more than fit. -/
structure Settled (menu : Menu I maxItems) : Prop where
  viewport : menu.viewport.Settled
  total : menu.items ≠ [] → menu.viewport.totalItems = menu.items.length
  capacity : menu.items.length ≤ maxItems

theorem Settled.wellFormed {menu : Menu I maxItems} (settled : menu.Settled)
    (nonempty : menu.items ≠ []) : menu.WellFormed where
  visible := by
    refine settled.viewport.visible ?_
    rw [settled.total nonempty]
    exact fun empty => nonempty (List.length_eq_zero_iff.mp empty)
  total := settled.total nonempty

theorem Settled.add {menu added : Menu I maxItems} {item : I} (settled : menu.Settled)
    (adds : menu.add item = .ok added) : added.Settled := by
  unfold Menu.add at adds
  split at adds <;> cases adds
  next room =>
    have count : (menu.items ++ [item]).length = menu.items.length + 1 := List.length_append
    refine ⟨settled.viewport.setTotalItems (menu.items.length + 1), fun _ => ?_,
      Nat.le_trans count.le room⟩
    rw [count]
    exact (ScrollableViewport.visible_setTotalItems (Nat.succ_ne_zero _)
      settled.viewport.positive).2.1

/-- The number of items stays, and the viewport moves by `select` if at all. -/
theorem Settled.congr {menu after : Menu I maxItems} (settled : menu.Settled)
    (items : after.items.length = menu.items.length)
    (viewport : after.viewport = menu.viewport ∨
      ∃ index, after.viewport = (menu.viewport.select index).2) : after.Settled := by
  have total : after.viewport.Settled ∧
      after.viewport.totalItems = menu.viewport.totalItems := by
    obtain same | ⟨index, moved⟩ := viewport
    · rw [same]
      exact ⟨settled.viewport, rfl⟩
    · rw [moved]
      exact ⟨(settled.viewport.select index).1, (settled.viewport.select index).2.1⟩
  refine ⟨total.1, fun nonempty => ?_, items ▸ settled.capacity⟩
  rw [total.2, items]
  refine settled.total fun empty => nonempty ?_
  exact List.length_eq_zero_iff.mp (items.trans (congrArg List.length empty))

/-- An event changes no number of items, and moves the viewport by `select` if at all. -/
theorem handleEvent_frame (menu : Menu I maxItems) (event : UiEvent) :
    (menu.handleEvent (A := A) event).2.items.length = menu.items.length ∧
      ((menu.handleEvent (A := A) event).2.viewport = menu.viewport ∨
        ∃ index, (menu.handleEvent (A := A) event).2.viewport =
          (menu.viewport.select index).2) := by
  have edited : ∀ change : I → Bool × I,
      (menu.edit (A := A) change).2.items.length = menu.items.length ∧
        (menu.edit (A := A) change).2.viewport = menu.viewport := by
    intro change
    unfold edit
    dsimp only
    split
    · exact ⟨rfl, rfl⟩
    · exact ⟨List.length_set, rfl⟩
  unfold handleEvent
  split
  · exact ⟨rfl, .inl rfl⟩
  cases event with
  | nextScreen =>
      dsimp only [onNext]
      split
      · exact ⟨(edited _).1, .inl (edited _).2⟩
      · exact ⟨rfl, .inr ⟨_, rfl⟩⟩
  | prevScreen =>
      dsimp only [onPrev]
      split
      · exact ⟨(edited _).1, .inl (edited _).2⟩
      · exact ⟨rfl, .inr ⟨_, rfl⟩⟩
  | select =>
      dsimp only [onSelect]
      repeat' split
      all_goals first
        | exact ⟨rfl, .inl rfl⟩
        | exact ⟨List.length_set, .inl rfl⟩

theorem Settled.call {menu : Menu I maxItems} (settled : menu.Settled) (call : Call I) :
    (menu.call call).Settled := by
  cases call with
  | add item =>
      dsimp only [Menu.call]
      cases adds : menu.add item with
      | ok added => exact settled.add adds
      | error returned => exact settled
  | handleEvent event =>
      obtain ⟨items, viewport⟩ := menu.handleEvent_frame (A := A) event
      exact settled.congr items viewport
  | setSelected index => exact settled.congr rfl (.inr ⟨index, rfl⟩)
  | commitAll => exact settled.congr (List.length_map _) (.inl rfl)
  | discardAll => exact settled.congr (List.length_map _) (.inl rfl)

theorem settled_new {viewport : ScrollableViewport}
    (reachable : ScrollableViewport.system.Reachable viewport) :
    (new viewport : Menu I maxItems).Settled :=
  ⟨ScrollableViewport.settled_of_reachable reachable, fun nonempty => absurd rfl nonempty,
    Nat.zero_le _⟩

/-- Every run settles the menu. -/
theorem settled_of_reachable {menu : Menu I maxItems}
    (reachable : (system I maxItems).Reachable menu) : menu.Settled := by
  refine reachable.invariant Settled ?_ ?_
  · rintro start ⟨viewport, reached, rfl⟩
    exact settled_new reached
  · intro before call after settled taken
    cases Option.some.inj taken
    exact settled.call call

end Menu

/-! ## What is rendered -/

namespace Menu

/-- The entries of a list at consecutive indices. -/
theorem filterMap_getElem?_range' {α β : Type} (entries : List α) (render : ℕ → α → β)
    (start count : ℕ) :
    (List.range' start count).filterMap (fun index => entries[index]?.map (render index)) =
      ((entries.zipIdx.drop start).take count).map fun entry => render entry.2 entry.1 := by
  induction count generalizing start with
  | zero => rfl
  | succ count ih =>
      rw [List.range'_succ, List.filterMap_cons, ih (start + 1)]
      by_cases inside : start < entries.length
      · have indexed : start < entries.zipIdx.length := by rwa [List.length_zipIdx]
        rw [List.drop_eq_getElem_cons indexed, List.take_succ_cons, List.map_cons,
          List.getElem?_eq_getElem inside, List.getElem_zipIdx, Nat.zero_add]
        rfl
      · have outside : entries.zipIdx.length ≤ start := by
          rw [List.length_zipIdx]
          exact Nat.not_lt.mp inside
        rw [List.getElem?_eq_none (Nat.not_lt.mp inside), List.drop_eq_nil_of_le outside,
          List.drop_eq_nil_of_le (Nat.le_succ_of_le outside), List.take_nil, List.take_nil]
        rfl

/-- Of the entries at consecutive indices, a test that only one index passes keeps one. -/
theorem filter_filterMap_range' {β : Type} {render : ℕ → Option β} {test : β → Bool}
    {start count chosen : ℕ} {entry : β} (tested : ∀ index entry, render index = some entry →
      (test entry = true ↔ index = chosen)) (found : render chosen = some entry)
    (above : start ≤ chosen) (below : chosen < start + count) :
    ((List.range' start count).filterMap render).filter test = [entry] := by
  have others : ∀ indices : List ℕ, chosen ∉ indices →
      (indices.filterMap render).filter test = [] := by
    intro indices absent
    rw [List.filter_eq_nil_iff]
    intro other rendered passes
    obtain ⟨index, member, rendered⟩ := List.mem_filterMap.mp rendered
    have same := (tested index other rendered).mp passes
    exact absent (same ▸ member)
  have split : List.range' start count = List.range' start (chosen - start) ++
      chosen :: List.range' (chosen + 1) (start + count - chosen - 1) := by
    have ends : count = (chosen - start) + (start + count - chosen - 1 + 1) := by omega
    have middle : start + (chosen - start) = chosen := by omega
    conv_lhs => rw [ends]
    rw [← List.range'_append_1, middle, List.range'_succ]
  rw [split, List.filterMap_append, List.filter_append, others, List.nil_append,
    List.filterMap_cons, found]
  · dsimp only
    rw [List.filter_cons_of_pos ((tested chosen entry found).mpr rfl), others]
    rw [List.mem_range'_1]
    omega
  · rw [List.mem_range'_1]
    omega

variable {I A : Type} [MenuItem I A] {maxItems : ℕ} {menu : Menu I maxItems}

/-- The items of the visible range are rendered in their order. -/
theorem renderItems_eq (menu : Menu I maxItems) : menu.renderItems =
    ((menu.items.zipIdx.drop menu.viewport.visibleRange.1).take
      (menu.viewport.visibleRange.2 - menu.viewport.visibleRange.1)).map
        fun entry => menu.renderItem entry.2 entry.1 :=
  filterMap_getElem?_range' menu.items menu.renderItem _ _

/-- Each rendered item is lower than those before it. -/
theorem pairwise_renderItems (settled : menu.Settled) (nonempty : menu.items ≠ []) :
    menu.renderItems.Pairwise fun upper lower => upper.y < lower.y := by
  have visible := (settled.wellFormed nonempty).visible
  have range := visible.visibleRange_eq
  unfold renderItems
  rw [range, List.pairwise_filterMap]
  refine List.Pairwise.imp_of_mem ?_ List.pairwise_lt_range'
  intro upper lower upper_mem lower_mem order rendered_upper first rendered_lower second
  obtain ⟨item, -, rfl⟩ := Option.map_eq_some_iff.mp first
  obtain ⟨item, -, rfl⟩ := Option.map_eq_some_iff.mp second
  have shown := (List.mem_range'_1.mp upper_mem).1
  have fits := (List.mem_range'_1.mp lower_mem).2
  refine ScrollableViewport.itemY_lt_itemY settled.viewport order shown ?_
  omega

/-- Only the selected item is rendered as selected. -/
theorem filter_renderItems (settled : menu.Settled) (nonempty : menu.items ≠ []) :
    ∃ item, menu.items[menu.selectedIndex]? = some item ∧
      menu.renderItems.filter RenderItem.isSelected =
        [menu.renderItem menu.selectedIndex item] := by
  have wellFormed := settled.wellFormed nonempty
  have shows := wellFormed.visible.showsSelection
  have inside : menu.selectedIndex < menu.items.length := wellFormed.total ▸ shows.selected
  have found : menu.items[menu.selectedIndex]? = some menu.items[menu.selectedIndex] :=
    List.getElem?_eq_getElem inside
  have only : ∀ index rendered, menu.items[index]?.map (menu.renderItem index) = some rendered →
      (rendered.isSelected = true ↔ index = menu.selectedIndex) := by
    intro index rendered rendering
    obtain ⟨item, -, rfl⟩ := Option.map_eq_some_iff.mp rendering
    exact decide_eq_true_iff
  have rendered : menu.renderItems = (List.range' menu.viewport.visibleRange.1
      (menu.viewport.visibleRange.2 - menu.viewport.visibleRange.1)).filterMap fun index =>
        menu.items[index]?.map (menu.renderItem index) := rfl
  refine ⟨menu.items[menu.selectedIndex], found, ?_⟩
  rw [rendered]
  refine filter_filterMap_range' only ?_ shows.contains.1 ?_
  · rw [found]
    rfl
  · rw [Nat.add_sub_cancel' (Nat.le_trans shows.contains.1 shows.contains.2.le)]
    exact shows.contains.2

/-- In every run of a viewport the selection is in the list, on a screen that is filled as far as
the list goes, and `select` tells whether it has changed.  A menu therefore renders the items of
the visible range in their order, each lower than the one before, and one of them as selected. -/
theorem shown_of_reachable :
    (∀ viewport : ScrollableViewport, ScrollableViewport.system.Reachable viewport →
      (viewport.totalItems ≠ 0 → viewport.ShowsSelection) ∧
      (∀ index, (viewport.select index).1 = true ↔
        (viewport.select index).2.selectedIndex ≠ viewport.selectedIndex) ∧
      (viewport.selectNext.1 = true ↔
        viewport.selectNext.2.selectedIndex ≠ viewport.selectedIndex) ∧
      (viewport.selectPrev.1 = true ↔
        viewport.selectPrev.2.selectedIndex ≠ viewport.selectedIndex)) ∧
    ∀ (I A : Type) [MenuItem I A] (maxItems : ℕ) (menu : Menu I maxItems),
      (system I maxItems).Reachable menu → menu.items ≠ [] →
        menu.viewport.totalItems = menu.items.length ∧ menu.viewport.ShowsSelection ∧
        menu.renderItems = ((menu.items.zipIdx.drop menu.viewport.visibleRange.1).take
          (menu.viewport.visibleRange.2 - menu.viewport.visibleRange.1)).map
            (fun entry => menu.renderItem entry.2 entry.1) ∧
        menu.renderItems.length = min menu.items.length menu.viewport.maxVisible ∧
        menu.renderItems.Pairwise (fun upper lower => upper.y < lower.y) ∧
        ∃ item, menu.items[menu.selectedIndex]? = some item ∧
          menu.renderItems.filter RenderItem.isSelected =
            [menu.renderItem menu.selectedIndex item] := by
  constructor
  · intro viewport reachable
    have settled := ScrollableViewport.settled_of_reachable reachable
    exact ⟨fun nonempty => (settled.visible nonempty).showsSelection,
      fun index => (settled.select index).2.2, (settled.select _).2.2, (settled.select _).2.2⟩
  · intro I A _ maxItems menu reachable nonempty
    have settled := settled_of_reachable reachable
    have wellFormed := settled.wellFormed nonempty
    have shows := wellFormed.visible.showsSelection
    refine ⟨wellFormed.total, shows, menu.renderItems_eq, ?_,
      pairwise_renderItems settled nonempty, filter_renderItems settled nonempty⟩
    have finish := shows.finish
    have count := shows.count
    rw [renderItems_eq, List.length_map, List.length_take, List.length_drop, List.length_zipIdx,
      ← wellFormed.total]
    omega

/-- A screen of four rows that has scrolled to the last of six items, and a menu of two actions
whose second one is selected. -/
theorem shown_of_reachable_sample :
    (((ScrollableViewport.new 128 64).call (.setTotalItems 6)).call (.select 5)).ShowsSelection ∧
      ∃ menu : Menu (ActionItem ℕ) 2, menu.selectedIndex = 1 ∧
        menu.renderItems.Pairwise (fun upper lower => upper.y < lower.y) := by
  constructor
  · refine (shown_of_reachable.1 _ ?_).1 (by decide)
    exact ⟨_, [.setTotalItems 6, .select 5], ⟨128, 64, 22, 10, rfl⟩,
      TransitionSystem.path_of_run rfl fun _ _ _ => trivial⟩
  · let start : Menu (ActionItem ℕ) 2 := new (.new 128 64)
    let calls : List (Call (ActionItem ℕ)) :=
      [.add ⟨"Save", 7⟩, .add ⟨"Exit", 8⟩, .handleEvent .nextScreen]
    let finish : Menu (ActionItem ℕ) 2 := calls.foldl Menu.call start
    have empty : ScrollableViewport.system.Reachable (.new 128 64) :=
      ⟨_, [], ⟨128, 64, 22, 10, rfl⟩, .nil⟩
    have path : (system (ActionItem ℕ) 2).Path (fun _ _ => True) start calls finish :=
      TransitionSystem.path_of_run rfl fun _ _ _ => trivial
    have shown := shown_of_reachable.2 _ _ _ finish ⟨start, calls, ⟨_, empty, rfl⟩, path⟩
      (List.cons_ne_nil _ _)
    exact ⟨finish, rfl, shown.2.2.2.2.1⟩

end Menu
end KaruMenu
end Motonet
