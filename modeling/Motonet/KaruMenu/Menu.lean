import Motonet.KaruMenu.Items
import Motonet.KaruMenu.Viewport

/-!
# The menu

A list of items of bounded length with a selection, which is edited while the edit mode is on.
-/

namespace Motonet
namespace KaruMenu

/-- `UiEvent`. -/
inductive UiEvent
  | nextScreen
  | prevScreen
  | select
  deriving DecidableEq, Repr

/-- `MenuEvent`. -/
inductive MenuEvent (A : Type)
  | noOp
  | selectionChanged (index : ℕ)
  | editStarted (index : ℕ)
  | editCompleted (index : ℕ)
  | valueChanged (index : ℕ)
  | actionSelected (index : ℕ) (action : A)
  deriving DecidableEq, Repr

/-- `Menu`, with its capacity. -/
structure Menu (I : Type) (maxItems : ℕ) where
  items : List I
  viewport : ScrollableViewport
  editing : Bool

namespace Menu

variable {I A : Type} [MenuItem I A] {maxItems : ℕ}

/-- `Menu::new`. -/
def new (viewport : ScrollableViewport) : Menu I maxItems := ⟨[], viewport, false⟩

/-- `add`: a full menu returns the item. -/
def add (item : I) (menu : Menu I maxItems) : Except I (Menu I maxItems) :=
  if menu.items.length < maxItems then
    .ok { menu with
      items := menu.items ++ [item]
      viewport := menu.viewport.setTotalItems (menu.items.length + 1) }
  else .error item

/-- `selected_index`. -/
def selectedIndex (menu : Menu I maxItems) : ℕ := menu.viewport.selectedIndex

/-- The part of `on_next` and `on_prev` that edits the selected item. -/
def edit (change : I → Bool × I) (menu : Menu I maxItems) : MenuEvent A × Menu I maxItems :=
  let index := menu.selectedIndex
  match menu.items[index]? with
  | none => (.noOp, menu)
  | some item =>
      let (changed, item) := change item
      (if changed then .valueChanged index else .noOp,
        { menu with items := menu.items.set index item })

/-- The part of `on_next` and `on_prev` that moves the selection. -/
def move (moved : Bool × ScrollableViewport) (menu : Menu I maxItems) :
    MenuEvent A × Menu I maxItems :=
  (if moved.1 then .selectionChanged moved.2.selectedIndex else .noOp,
    { menu with viewport := moved.2 })

/-- `on_next`. -/
def onNext (menu : Menu I maxItems) : MenuEvent A × Menu I maxItems :=
  if menu.editing then menu.edit MenuItem.increment else menu.move menu.viewport.selectNext

/-- `on_prev`. -/
def onPrev (menu : Menu I maxItems) : MenuEvent A × Menu I maxItems :=
  if menu.editing then menu.edit MenuItem.decrement else menu.move menu.viewport.selectPrev

/-- `on_select`. -/
def onSelect (menu : Menu I maxItems) : MenuEvent A × Menu I maxItems :=
  let index := menu.selectedIndex
  match menu.items[index]? with
  | none => (.noOp, menu)
  | some item =>
      if MenuItem.isEditable item then
        if menu.editing then
          (.editCompleted index, { menu with
            editing := false
            items := menu.items.set index (MenuItem.onExitEdit item) })
        else
          (.editStarted index, { menu with
            editing := true
            items := menu.items.set index (MenuItem.onEnterEdit item) })
      else
        match MenuItem.actionId item with
        | none => (.noOp, menu)
        | some action => (.actionSelected index action, menu)

/-- `handle_event`. -/
def handleEvent (event : UiEvent) (menu : Menu I maxItems) : MenuEvent A × Menu I maxItems :=
  if menu.items.isEmpty then (.noOp, menu)
  else
    match event with
    | .nextScreen => menu.onNext
    | .prevScreen => menu.onPrev
    | .select => menu.onSelect

/-- `commit_all`. -/
def commitAll (menu : Menu I maxItems) : Menu I maxItems :=
  { menu with items := menu.items.map MenuItem.commit }

/-- `discard_all`. -/
def discardAll (menu : Menu I maxItems) : Menu I maxItems :=
  { menu with items := menu.items.map MenuItem.discard }

/-- `is_modified`. -/
def isModified (menu : Menu I maxItems) : Bool := menu.items.any MenuItem.isModified

/-- `set_selected`: whether the selection has changed, and the menu. -/
def setSelected (index : ℕ) (menu : Menu I maxItems) : Bool × Menu I maxItems :=
  let (changed, viewport) := menu.viewport.select index
  (changed, { menu with
    viewport := viewport
    editing := if changed then false else menu.editing })

end Menu

/-! ## What an event does -/

namespace Menu

theorem items_set_self {I : Type} {items : List I} {index : ℕ} {item : I}
    (found : items[index]? = some item) : items.set index item = items := by
  obtain ⟨inside, rfl⟩ := List.getElem?_eq_some_iff.mp found
  exact List.set_getElem_self inside

section WellFormed

variable {I : Type} {maxItems : ℕ}

/-- The viewport shows the items and the selection. -/
structure WellFormed (menu : Menu I maxItems) : Prop where
  visible : menu.viewport.Visible
  total : menu.viewport.totalItems = menu.items.length

/-- With its first item the menu is well-formed, and with every other one. -/
theorem wellFormed_add {menu added : Menu I maxItems} {item : I}
    (positive : 0 < menu.viewport.maxVisible) (adds : menu.add item = .ok added) :
    added.items = menu.items ++ [item] ∧ 0 < added.viewport.maxVisible ∧ added.WellFormed := by
  unfold Menu.add at adds
  split at adds <;> cases adds
  obtain ⟨visible, total, size⟩ := ScrollableViewport.visible_setTotalItems
    (Nat.succ_ne_zero menu.items.length) positive
  exact ⟨rfl, Nat.lt_of_lt_of_eq positive size.symm, visible,
    total.trans (by rw [List.length_append]; rfl)⟩

end WellFormed

section Entries

variable {T A : Type} [LT T] [DecidableLT T] [DecidableEq T] [NumericBounds T] {maxItems : ℕ}

/-- The value to which an event turns a number. -/
def turned (item : NumericItem T) : UiEvent → T
  | .nextScreen => NumericBounds.addClamped item.pending item.step item.max
  | .prevScreen => NumericBounds.subClamped item.pending item.step item.min
  | .select => item.pending

/-- The branches of `handle_event`, with what is returned and what is left. -/
inductive Move (menu : Menu (MenuEntry T A) maxItems) :
    UiEvent → MenuEvent A → Menu (MenuEntry T A) maxItems → Prop
  | idle {event : UiEvent} : Move menu event .noOp menu
  | selected {event : UiEvent} {viewport : ScrollableViewport} :
      menu.editing = false → viewport.Visible →
      viewport.totalItems = menu.viewport.totalItems →
      viewport.selectedIndex ≠ menu.selectedIndex →
      Move menu event (.selectionChanged viewport.selectedIndex)
        { menu with viewport := viewport }
  | turned {event : UiEvent} {item : NumericItem T} :
      menu.editing = true → menu.items[menu.selectedIndex]? = some (.numeric item) →
      Menu.turned item event ≠ item.pending →
      Move menu event (.valueChanged menu.selectedIndex) { menu with
        items := menu.items.set menu.selectedIndex
          (.numeric { item with pending := Menu.turned item event }) }
  | toggled {item : NumericItem T} {event : MenuEvent A} :
      menu.items[menu.selectedIndex]? = some (.numeric item) →
      event = .editStarted menu.selectedIndex ∨ event = .editCompleted menu.selectedIndex →
      Move menu .select event { menu with editing := !menu.editing }
  | acted {item : ActionItem A} :
      menu.items[menu.selectedIndex]? = some (.command item) →
      Move menu .select (.actionSelected menu.selectedIndex item.actionId) menu

variable {menu : Menu (MenuEntry T A) maxItems}

/-- A moved viewport shows another item, or it has not moved. -/
theorem move_of_select (wellFormed : menu.WellFormed) (editing : menu.editing = false)
    (event : UiEvent) (index : ℕ) :
    Move menu event (menu.move (A := A) (menu.viewport.select index)).1
      (menu.move (A := A) (menu.viewport.select index)).2 := by
  obtain ⟨visible, total, -, ⟨changed, moved⟩ | ⟨unchanged, same⟩⟩ :=
    wellFormed.visible.select index
  · rw [Menu.move, changed]
    exact .selected editing visible total moved
  · rw [Menu.move, unchanged, same]
    exact .idle

/-- The selected number is turned, or nothing changes. -/
theorem move_of_edit (editing : menu.editing = true) (event : UiEvent)
    {change : MenuEntry T A → Bool × MenuEntry T A}
    (turns : ∀ item : NumericItem T, change (.numeric item) =
      (item.move (Menu.turned item event)).map id MenuEntry.numeric)
    (commands : ∀ item, change (.command item) = (false, .command item)) :
    Move menu event (menu.edit (A := A) change).1 (menu.edit (A := A) change).2 := by
  cases found : menu.items[menu.selectedIndex]? with
  | none =>
      have same : menu.edit (A := A) change = (.noOp, menu) := by
        simp only [Menu.edit, found]
      rw [same]
      exact .idle
  | some entry =>
      have edited : menu.edit (A := A) change =
          (if (change entry).1 then .valueChanged menu.selectedIndex else .noOp,
            { menu with items := menu.items.set menu.selectedIndex (change entry).2 }) := by
        simp only [Menu.edit, found]
      rw [edited]
      cases entry with
      | numeric item =>
          rw [turns]
          by_cases same : Menu.turned item event = item.pending
          · have kept : item.move (Menu.turned item event) = (false, item) := by
              rw [NumericItem.move, same]
              simp
            rw [kept]
            simp only [Prod.map, id_eq, Bool.false_eq_true, if_false, items_set_self found]
            exact .idle
          · have changed : item.move (Menu.turned item event) =
                (true, { item with pending := Menu.turned item event }) := by
              simp [NumericItem.move, same]
            rw [changed]
            exact .turned editing found same
      | command item =>
          rw [commands]
          simp only [Bool.false_eq_true, if_false, items_set_self found]
          exact .idle

/-- The edit mode is switched, an action is selected, or nothing changes. -/
theorem move_of_onSelect :
    Move menu .select (menu.onSelect (A := A)).1 (menu.onSelect (A := A)).2 := by
  cases found : menu.items[menu.selectedIndex]? with
  | none =>
      have same : menu.onSelect (A := A) = (.noOp, menu) := by
        simp only [Menu.onSelect, found]
      rw [same]
      exact .idle
  | some entry =>
      cases entry with
      | numeric item =>
          have switched : menu.onSelect (A := A) =
              (if menu.editing then .editCompleted menu.selectedIndex
                else .editStarted menu.selectedIndex,
                { menu with editing := !menu.editing }) := by
            simp only [Menu.onSelect, found, MenuItem.isEditable,
              MenuItem.onExitEdit, MenuItem.onEnterEdit, id_eq, if_true, items_set_self found]
            cases menu.editing <;> rfl
          rw [switched]
          refine .toggled found ?_
          cases menu.editing with
          | true => exact .inr rfl
          | false => exact .inl rfl
      | command item =>
          have selected : menu.onSelect (A := A) =
              (.actionSelected menu.selectedIndex item.actionId, menu) := by
            simp [Menu.onSelect, found, MenuItem.isEditable,
              MenuItem.actionId]
          rw [selected]
          exact .acted found

/-- Every event makes one of the moves. -/
theorem move_of_handleEvent (wellFormed : menu.WellFormed) (event : UiEvent) :
    Move menu event (menu.handleEvent (A := A) event).1 (menu.handleEvent (A := A) event).2 := by
  unfold Menu.handleEvent
  split
  · exact .idle
  cases event with
  | nextScreen =>
      simp only [Menu.onNext]
      cases editing : menu.editing with
      | true => exact move_of_edit editing .nextScreen (fun _ => rfl) (fun _ => rfl)
      | false => exact move_of_select wellFormed editing .nextScreen _
  | prevScreen =>
      simp only [Menu.onPrev]
      cases editing : menu.editing with
      | true => exact move_of_edit editing .prevScreen (fun _ => rfl) (fun _ => rfl)
      | false => exact move_of_select wellFormed editing .prevScreen _
  | select => exact move_of_onSelect

/-- Every event keeps the selection on the screen. -/
theorem Move.wellFormed {event : UiEvent} {returned : MenuEvent A}
    {after : Menu (MenuEntry T A) maxItems} (move : Move menu event returned after)
    (wellFormed : menu.WellFormed) : after.WellFormed := by
  cases move with
  | idle => exact wellFormed
  | selected _ visible total _ => exact ⟨visible, total.trans wellFormed.total⟩
  | turned => exact ⟨wellFormed.visible, by rw [wellFormed.total, List.length_set]⟩
  | toggled => exact ⟨wellFormed.visible, wellFormed.total⟩
  | acted => exact wellFormed

end Entries

end Menu

/-! ## Rendering -/

/-- `ScrollIndicator`. -/
inductive ScrollIndicator
  | upArrow
  | downArrow
  deriving DecidableEq, Repr

/-- `RenderItem`. -/
structure RenderItem where
  y : ℤ
  label : String
  value : String
  isSelected : Bool
  isEditing : Bool
  deriving DecidableEq, Repr

namespace Menu

variable {I A : Type} [MenuItem I A] {maxItems : ℕ} (menu : Menu I maxItems)

/-- An item as `render_items` renders it. -/
def renderItem (index : ℕ) (item : I) : RenderItem where
  y := menu.viewport.itemY index
  label := MenuItem.label item
  value := MenuItem.valueString item
  isSelected := index = menu.selectedIndex
  isEditing := index = menu.selectedIndex && menu.editing

/-- `MenuRenderer::render_items`.  The rendered items fit, as they are no more than the items. -/
def renderItems : List RenderItem :=
  let (start, finish) := menu.viewport.visibleRange
  (List.range' start (finish - start)).filterMap fun index =>
    menu.items[index]?.map (menu.renderItem index)

/-- `MenuRenderer::scroll_indicator`. -/
def scrollIndicator : Option ScrollIndicator :=
  if menu.viewport.hasMoreBelow then some .downArrow
  else if menu.viewport.hasMoreAbove then some .upArrow
  else none

variable {menu}

/-- The selected item is rendered. -/
theorem renderItem_mem (wellFormed : menu.WellFormed) {item : I}
    (found : menu.items[menu.selectedIndex]? = some item) :
    menu.renderItem menu.selectedIndex item ∈ menu.renderItems := by
  obtain ⟨selected, above, below, full⟩ := wellFormed.visible
  have nonempty : menu.viewport.totalItems ≠ 0 := Nat.ne_of_gt (Nat.zero_lt_of_lt selected)
  simp only [renderItems, ScrollableViewport.visibleRange, if_neg nonempty, List.mem_filterMap]
  refine ⟨menu.selectedIndex, ?_, by rw [found]; rfl⟩
  rw [List.mem_range'_1]
  simp only [selectedIndex]
  omega

/-- In menus that are rendered alike the selected items show the same value. -/
theorem valueString_eq_of_renderItems {other : Menu I maxItems} (wellFormed : menu.WellFormed)
    {item otherItem : I} (found : menu.items[menu.selectedIndex]? = some item)
    (otherFound : other.items[other.selectedIndex]? = some otherItem)
    (same : menu.renderItems = other.renderItems) :
    MenuItem.valueString item = MenuItem.valueString otherItem := by
  have rendered := renderItem_mem wellFormed found
  rw [same, renderItems] at rendered
  obtain ⟨index, -, rendered⟩ := List.mem_filterMap.mp rendered
  obtain ⟨there, at_index, rendered⟩ := Option.map_eq_some_iff.mp rendered
  have selected : index = other.selectedIndex := by
    have flag := congrArg RenderItem.isSelected rendered
    simpa [renderItem] using flag
  rw [selected, otherFound] at at_index
  cases at_index
  exact (congrArg RenderItem.value rendered).symm

end Menu
end KaruMenu
end Motonet
