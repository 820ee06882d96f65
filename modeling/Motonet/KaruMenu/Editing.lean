import Motonet.KaruMenu.Integers
import Motonet.KaruMenu.Scrolling

/-!
# Runs of a menu of numbers and actions

The numbers stay within their bounds, the edit mode is only on while a number is selected, and the
returned events tell what has changed.
-/

namespace Motonet
namespace KaruMenu

/-! ## Numbers -/

namespace NumericItem

variable {T : Type} [LT T] [DecidableLT T] [DecidableEq T] [NumericBounds T]

/-- `set_pending`. -/
def setPending (value : T) (item : NumericItem T) : NumericItem T :=
  { item with pending := clamp item.min item.max value }

variable [LawfulNumericBounds T]

open LawfulNumericBounds in
/-- The numbers that can be built: those of a range and of a step that is not negative, after any
calls. -/
inductive Built : NumericItem T → Prop
  | new {label : String} {initial low high step : T} {formatter : T → String} :
      toInt low ≤ toInt high → 0 ≤ toInt step →
        Built (.new label initial low high step formatter)
  | setPending {item : NumericItem T} (value : T) : Built item → Built (item.setPending value)
  | increment {item : NumericItem T} : Built item → Built (MenuItem.increment item).2
  | decrement {item : NumericItem T} : Built item → Built (MenuItem.decrement item).2
  | commit {item : NumericItem T} : Built item → Built (MenuItem.commit item)
  | discard {item : NumericItem T} : Built item → Built (MenuItem.discard item)

open LawfulNumericBounds in
/-- The value that is shown and the one that is committed are within the bounds. -/
structure InBounds (item : NumericItem T) : Prop where
  current_above : toInt item.min ≤ toInt item.current
  current_below : toInt item.current ≤ toInt item.max
  pending_above : toInt item.min ≤ toInt item.pending
  pending_below : toInt item.pending ≤ toInt item.max

open LawfulNumericBounds in
theorem clamp_mem {low high : T} (range : toInt low ≤ toInt high) (value : T) :
    toInt low ≤ toInt (clamp low high value) ∧ toInt (clamp low high value) ≤ toInt high := by
  unfold clamp
  split
  · exact ⟨Int.le_refl _, range⟩
  next above =>
    rw [lt_iff, Int.not_lt] at above
    split
    · exact ⟨range, Int.le_refl _⟩
    next below =>
      rw [lt_iff, Int.not_lt] at below
      exact ⟨above, below⟩

/-- No call takes a number out of its bounds. -/
theorem Built.inBounds {item : NumericItem T} (built : Built item) :
    item.InBounds ∧ 0 ≤ LawfulNumericBounds.toInt item.step := by
  induction built with
  | @new label initial low high step formatter range positive =>
      have inside := clamp_mem range initial
      exact ⟨⟨inside.1, inside.2, inside.1, inside.2⟩, positive⟩
  | setPending value _ ih =>
      obtain ⟨bounds, positive⟩ := ih
      have inside := clamp_mem (Int.le_trans bounds.current_above bounds.current_below) value
      exact ⟨⟨bounds.current_above, bounds.current_below, inside.1, inside.2⟩, positive⟩
  | @increment item _ ih =>
      obtain ⟨bounds, positive⟩ := ih
      obtain ⟨above, below⟩ :=
        toInt_addClamped_mem positive bounds.pending_above bounds.pending_below
      exact ⟨⟨bounds.current_above, bounds.current_below, above, below⟩, positive⟩
  | @decrement item _ ih =>
      obtain ⟨bounds, positive⟩ := ih
      obtain ⟨above, below⟩ :=
        toInt_subClamped_mem positive bounds.pending_above bounds.pending_below
      exact ⟨⟨bounds.current_above, bounds.current_below, above, below⟩, positive⟩
  | commit _ ih =>
      obtain ⟨bounds, positive⟩ := ih
      exact ⟨⟨bounds.pending_above, bounds.pending_below, bounds.pending_above,
        bounds.pending_below⟩, positive⟩
  | discard _ ih =>
      obtain ⟨bounds, positive⟩ := ih
      exact ⟨⟨bounds.current_above, bounds.current_below, bounds.current_above,
        bounds.current_below⟩, positive⟩

end NumericItem

/-! ## Menus -/

namespace Menu

variable {T A : Type} {maxItems : ℕ}

/-- The pending value of an item that has one. -/
def pendingAt (menu : Menu (MenuEntry T A) maxItems) (index : ℕ) : Option T :=
  match menu.items[index]? with
  | some (.numeric item) => some item.pending
  | _ => none

/-- In the edit mode a number is selected. -/
def EditsNumber (menu : Menu (MenuEntry T A) maxItems) : Prop :=
  menu.editing = true → ∃ item, menu.items[menu.selectedIndex]? = some (.numeric item)

variable {menu : Menu (MenuEntry T A) maxItems}

/-- Another item does not change which one is selected, unless it is the first. -/
theorem EditsNumber.add {added : Menu (MenuEntry T A) maxItems} {entry : MenuEntry T A}
    (edits : menu.EditsNumber) (adds : menu.add entry = .ok added) : added.EditsNumber := by
  unfold Menu.add at adds
  split at adds <;> cases adds
  intro editing
  obtain ⟨item, found⟩ := edits editing
  have inside := (List.getElem?_eq_some_iff.mp found).1
  have kept : (menu.viewport.setTotalItems (menu.items.length + 1)).selectedIndex =
      menu.selectedIndex := by
    rw [ScrollableViewport.setTotalItems, if_neg (Nat.succ_ne_zero _),
      ScrollableViewport.ensureVisible_selectedIndex (Nat.succ_ne_zero _)]
    exact Nat.min_eq_left (Nat.le_of_lt inside)
  refine ⟨item, ?_⟩
  show (menu.items ++ [entry])[(menu.viewport.setTotalItems _).selectedIndex]? = _
  rw [kept, List.getElem?_append_left inside]
  exact found

theorem EditsNumber.setSelected (settled : menu.Settled) (edits : menu.EditsNumber)
    (index : ℕ) : (menu.setSelected index).2.EditsNumber := by
  have result := (settled.viewport.select index).2.2
  intro editing
  dsimp only [Menu.setSelected, Menu.selectedIndex] at editing ⊢
  split at editing
  · exact absurd editing Bool.false_ne_true
  next unchanged =>
    have same := Decidable.not_not.mp ((not_congr result).mp unchanged)
    rw [same]
    exact edits editing

/-- A method that maps numbers to numbers leaves a number selected. -/
theorem EditsNumber.map (edits : menu.EditsNumber) {change : MenuEntry T A → MenuEntry T A}
    (numbers : ∀ item, ∃ changed, change (.numeric item) = .numeric changed) :
    EditsNumber (⟨menu.items.map change, menu.viewport, menu.editing⟩ :
      Menu (MenuEntry T A) maxItems) := by
  intro editing
  obtain ⟨item, found⟩ := edits editing
  obtain ⟨changed, maps⟩ := numbers item
  refine ⟨changed, ?_⟩
  show (menu.items.map change)[menu.selectedIndex]? = _
  rw [List.getElem?_map, found, Option.map_some, maps]

theorem pendingAt_set {index : ℕ} {item : NumericItem T} (inside : index < menu.items.length)
    (other : ℕ) :
    pendingAt (⟨menu.items.set index (.numeric item), menu.viewport, menu.editing⟩ :
      Menu (MenuEntry T A) maxItems) other =
        if index = other then some item.pending else menu.pendingAt other := by
  unfold pendingAt
  dsimp only
  by_cases same : index = other
  · rw [if_pos same, ← same, List.getElem?_set_self inside]
  · rw [if_neg same, List.getElem?_set_ne same]

variable [LT T] [DecidableLT T] [DecidableEq T] [NumericBounds T]

theorem EditsNumber.move {event : UiEvent} {returned : MenuEvent A}
    {after : Menu (MenuEntry T A) maxItems} (edits : menu.EditsNumber)
    (move : Move menu event returned after) : after.EditsNumber := by
  cases move with
  | idle => exact edits
  | selected navigating => exact fun editing => absurd editing (by simp [navigating])
  | @turned _ item _ found =>
      have inside := (List.getElem?_eq_some_iff.mp found).1
      exact fun _ => ⟨_, List.getElem?_set_self inside⟩
  | @toggled item _ found => exact fun _ => ⟨item, found⟩
  | acted => exact edits

/-- An event that finds items makes a move, and another does nothing. -/
theorem Settled.move (settled : menu.Settled) (event : UiEvent) :
    Move menu event (menu.handleEvent (A := A) event).1 (menu.handleEvent (A := A) event).2 := by
  by_cases nothing : menu.items = []
  · have idle : menu.handleEvent (A := A) event = (.noOp, menu) := by
      unfold handleEvent
      rw [nothing]
      rfl
    rw [idle]
    exact .idle
  · exact move_of_handleEvent (settled.wellFormed nothing) event

theorem EditsNumber.call (settled : menu.Settled) (edits : menu.EditsNumber)
    (call : Call (MenuEntry T A)) : (menu.call call).EditsNumber := by
  cases call with
  | add entry =>
      dsimp only [Menu.call]
      cases adds : menu.add entry with
      | ok added => exact edits.add adds
      | error returned => exact edits
  | handleEvent event => exact edits.move (settled.move event)
  | setSelected index => exact edits.setSelected settled index
  | commitAll => exact edits.map fun item => ⟨_, rfl⟩
  | discardAll => exact edits.map fun item => ⟨_, rfl⟩

/-! ## What the events tell -/

variable {event : UiEvent} {returned : MenuEvent A} {after : Menu (MenuEntry T A) maxItems}

theorem Move.selectionChanged_iff (move : Move menu event returned after) (index : ℕ) :
    returned = .selectionChanged index ↔
      after.selectedIndex ≠ menu.selectedIndex ∧ index = after.selectedIndex := by
  cases move with
  | idle => simp
  | @selected _ viewport _ _ _ moved =>
      constructor
      · rintro ⟨⟩
        exact ⟨moved, rfl⟩
      · rintro ⟨-, rfl⟩
        rfl
  | turned => simp [selectedIndex]
  | toggled _ returned => obtain rfl | rfl := returned <;> simp [selectedIndex]
  | acted => simp

theorem Move.valueChanged_iff (move : Move menu event returned after) (index : ℕ) :
    returned = .valueChanged index ↔ after.pendingAt index ≠ menu.pendingAt index := by
  cases move with
  | idle => simp
  | selected => simp [pendingAt]
  | @turned _ item _ found changed =>
      have inside := (List.getElem?_eq_some_iff.mp found).1
      have before : menu.pendingAt menu.selectedIndex = some item.pending := by
        rw [pendingAt, found]
      rw [pendingAt_set inside]
      by_cases same : menu.selectedIndex = index
      · rw [if_pos same, ← same, before]
        exact ⟨fun _ equal => changed (Option.some.inj equal), fun _ => rfl⟩
      · rw [if_neg same]
        constructor
        · rintro ⟨⟩
          exact absurd rfl same
        · intro differs
          exact absurd rfl differs
  | toggled _ returned => obtain rfl | rfl := returned <;> simp [pendingAt]
  | acted => simp

/-- Outside the edit mode no item changes. -/
theorem Move.items_eq (move : Move menu event returned after) (navigating : menu.editing = false) :
    after.items = menu.items := by
  cases move with
  | turned editing => simp [navigating] at editing
  | _ => rfl

/-- In the edit mode the selection stays, and an item that changes is the selected one, of which
only the pending value does. -/
theorem Move.edited (move : Move menu event returned after) (editing : menu.editing = true) :
    after.selectedIndex = menu.selectedIndex ∧
      ∀ index, after.items[index]? = menu.items[index]? ∨ index = menu.selectedIndex ∧
        ∃ item pending, menu.items[index]? = some (.numeric item) ∧
          after.items[index]? = some (.numeric { item with pending := pending }) := by
  cases move with
  | selected navigating => simp [navigating] at editing
  | @turned _ item _ found =>
      have inside := (List.getElem?_eq_some_iff.mp found).1
      refine ⟨rfl, fun index => ?_⟩
      by_cases same : menu.selectedIndex = index
      · subst same
        exact .inr ⟨rfl, item, _, found, List.getElem?_set_self inside⟩
      · exact .inl (List.getElem?_set_ne same)
  | _ => exact ⟨rfl, fun _ => .inl rfl⟩

/-- After a method that makes no item differ from its committed value, none is modified. -/
theorem isModified_map {change : MenuEntry T A → MenuEntry T A}
    (settles : ∀ entry, MenuItem.isModified (change entry) = false) :
    isModified (⟨menu.items.map change, menu.viewport, menu.editing⟩ :
      Menu (MenuEntry T A) maxItems) = false := by
  simp [isModified, settles]

theorem isModified_commitAll (menu : Menu (MenuEntry T A) maxItems) :
    menu.commitAll.isModified = false := by
  refine isModified_map fun entry => ?_
  cases entry <;> simp [MenuItem.commit, MenuItem.isModified]

theorem isModified_discardAll (menu : Menu (MenuEntry T A) maxItems) :
    menu.discardAll.isModified = false := by
  refine isModified_map fun entry => ?_
  cases entry <;> simp [MenuItem.discard, MenuItem.isModified]

/-! ## Runs -/

variable [LawfulNumericBounds T]

/-- Every number of the menu has been built. -/
def Built (menu : Menu (MenuEntry T A) maxItems) : Prop :=
  ∀ item, MenuEntry.numeric item ∈ menu.items → item.Built

/-- The call adds no number that cannot be built. -/
def Call.Built : Call (MenuEntry T A) → Prop
  | .add (.numeric item) => item.Built
  | _ => True

theorem Built.move (built : menu.Built) (move : Move menu event returned after) : after.Built := by
  cases move with
  | @turned event item _ found changed =>
      intro other member
      obtain old | same := List.mem_or_eq_of_mem_set member
      · exact built other old
      · cases same
        have here := built item (List.mem_of_getElem? found)
        cases event with
        | nextScreen => exact here.increment
        | prevScreen => exact here.decrement
        | select => exact absurd rfl changed
  | _ => exact built

theorem Built.map (built : menu.Built) {change : MenuEntry T A → MenuEntry T A}
    (keeps : ∀ item, item.Built → ∃ changed, change (.numeric item) = .numeric changed ∧
      changed.Built) (commands : ∀ item, change (.command item) = .command item) :
    Built (⟨menu.items.map change, menu.viewport, menu.editing⟩ :
      Menu (MenuEntry T A) maxItems) := by
  intro item member
  obtain ⟨entry, old, maps⟩ := List.mem_map.mp member
  cases entry with
  | numeric before =>
      obtain ⟨changed, same, stays⟩ := keeps before (built before old)
      rw [same] at maps
      cases maps
      exact stays
  | command action =>
      rw [commands] at maps
      cases maps

theorem Built.call {call : Call (MenuEntry T A)} (settled : menu.Settled) (built : menu.Built)
    (permitted : call.Built) : (menu.call call).Built := by
  cases call with
  | add entry =>
      dsimp only [Menu.call]
      unfold Menu.add
      split_ifs with room
      · intro item member
        obtain old | same := List.mem_append.mp member
        · exact built item old
        · cases List.mem_singleton.mp same
          exact permitted
      · exact built
  | handleEvent event => exact built.move (settled.move event)
  | setSelected index => exact built
  | commitAll =>
      exact built.map (fun item here => ⟨_, rfl, here.commit⟩) fun _ => rfl
  | discardAll =>
      exact built.map (fun item here => ⟨_, rfl, here.discard⟩) fun _ => rfl

/-- In every run the numbers are within their bounds and are edited one at a time, and what an
event returns tells exactly what it has changed. -/
theorem edited_of_path {start menu : Menu (MenuEntry T A) maxItems}
    {calls : List (Call (MenuEntry T A))}
    (started : (system (MenuEntry T A) maxItems).initial start)
    (path : (system (MenuEntry T A) maxItems).Path (fun _ call => call.Built) start calls menu) :
    (menu.editing = true → ∃ entry, menu.items[menu.selectedIndex]? = some entry ∧
      MenuItem.isEditable entry = true) ∧
    (∀ item, .numeric item ∈ menu.items → item.InBounds) ∧
    (∀ event : UiEvent, event ≠ .select →
      let after := (menu.handleEvent (A := A) event).2
      (menu.editing = false → after.items = menu.items) ∧
      (menu.editing = true → after.selectedIndex = menu.selectedIndex ∧
        ∀ index, after.items[index]? = menu.items[index]? ∨ index = menu.selectedIndex ∧
          ∃ item pending, menu.items[index]? = some (.numeric item) ∧
            after.items[index]? = some (.numeric { item with pending := pending }))) ∧
    (∀ event index,
      let (returned, after) := menu.handleEvent (A := A) event
      (returned = .valueChanged index ↔ after.pendingAt index ≠ menu.pendingAt index) ∧
      (returned = .selectionChanged index ↔
        after.selectedIndex ≠ menu.selectedIndex ∧ index = after.selectedIndex)) ∧
    menu.commitAll.isModified = false ∧ menu.discardAll.isModified = false := by
  obtain ⟨settled, edits, built⟩ : menu.Settled ∧ menu.EditsNumber ∧ menu.Built := by
    refine path.invariant (fun menu => menu.Settled ∧ menu.EditsNumber ∧ menu.Built) ?_ ?_
    · rintro before call after ⟨settled, edits, built⟩ permitted taken
      cases Option.some.inj taken
      exact ⟨settled.call call, edits.call settled call, built.call settled permitted⟩
    · obtain ⟨viewport, reached, rfl⟩ := started
      exact ⟨settled_new reached, fun editing => absurd editing Bool.false_ne_true,
        fun item member => absurd member List.not_mem_nil⟩
  refine ⟨?_, fun item member => (built item member).inBounds.1, ?_, ?_,
    isModified_commitAll menu, isModified_discardAll menu⟩
  · intro editing
    obtain ⟨item, found⟩ := edits editing
    exact ⟨.numeric item, found, rfl⟩
  · intro event _
    exact ⟨(settled.move event).items_eq, (settled.move event).edited⟩
  · intro event index
    exact ⟨(settled.move event).valueChanged_iff index,
      (settled.move event).selectionChanged_iff index⟩

/-- A signed byte that would overflow is left at its bound. -/
theorem edited_of_path_sample : ∃ menu : Menu (MenuEntry Int8 ℕ) 1,
    menu.pendingAt 0 = some 127 ∧ menu.editing = true ∧
      ∀ item, .numeric item ∈ menu.items → item.InBounds := by
  let item : NumericItem Int8 := .new "Gain" 100 (-128) 127 100 fun _ => ""
  let start : Menu (MenuEntry Int8 ℕ) 1 := new (.new 128 64)
  let calls : List (Call (MenuEntry Int8 ℕ)) :=
    [.add (.numeric item), .handleEvent .select, .handleEvent .nextScreen]
  let finish : Menu (MenuEntry Int8 ℕ) 1 := calls.foldl Menu.call start
  have viewport : ScrollableViewport.system.Reachable (.new 128 64) :=
    ⟨_, [], ⟨128, 64, 22, 10, rfl⟩, .nil⟩
  have built : item.Built := .new (by decide) (by decide)
  have path : (system (MenuEntry Int8 ℕ) 1).Path (fun _ call => call.Built) start calls finish :=
    TransitionSystem.path_of_run rfl (by simp [calls, Call.Built, built])
  exact ⟨finish, by decide +kernel, by decide +kernel, (edited_of_path ⟨_, viewport, rfl⟩ path).2.1⟩

end Menu
end KaruMenu
end Motonet
