import Mathlib.Data.List.Sort
import ScriptTree.Proofs.Browser.Session
import ScriptTree.Proofs.Outline.Shape

/-! Folding and the selection. A key that folds or unfolds the selected row keeps it selected, for
no folded row encloses a visible one. A key that finds nothing to fold goes to the parent, which is
visible, for what hides it would hide the selected row as well. Folding and unfolding a row are
inverse to each other and leave all other folds as they are. -/

namespace ScriptTree

namespace Browser

/-- The keys that fold the selected row or unfold it. -/
def toggleKeys : List Key :=
  [.enter, .char ' ']

/-- A row is folded and selected; other rows are folded as before. -/
structure Closes (before after : Browser) (row : Nat) : Prop where
  folded : ∀ index, index ∈ after.folded ↔ index = row ∨ index ∈ before.folded
  selectedRow : after.selectedRow = row

/-- A row is unfolded and selected; other rows are folded as before. -/
structure Opens (before after : Browser) (row : Nat) : Prop where
  folded : ∀ index, index ∈ after.folded ↔ index ≠ row ∧ index ∈ before.folded
  selectedRow : after.selectedRow = row

/-- A row is folded if it was not, and unfolded if it was, and selected; other rows are folded as
before. -/
structure Flips (before after : Browser) (row : Nat) : Prop where
  folded : ∀ index, index ∈ after.folded ↔
    if index = row then row ∉ before.folded else index ∈ before.folded
  selectedRow : after.selectedRow = row

/-- No row is folded or unfolded, and the node of the selected row gives way to its parent. At the
first row, which has no parent, nothing changes. -/
structure Ascends (program : Program) (before after : Browser) : Prop where
  folded : after.folded = before.folded
  visible : after.visible = before.visible
  parent : 0 < before.selectedRow →
    ∃ (inside : before.selectedRow < program.places.length) (p : Nat)
      (above : p < before.selectedRow),
      program.places[before.selectedRow].IsChildOf program.places[p] ∧ after.selectedRow = p
  first : before.selectedRow = 0 → after = before

/-- The searches for a row among the visible ones come to a place: that for the selected row once
it is folded or unfolded, and that for its parent. -/
structure Finds (browser : Browser) : Prop where
  closing : ∃ place, (visibleRows browser.rows
    (insertSorted browser.selectedRow browser.folded)).idxOf? browser.selectedRow = some place
  opening : ∃ place, (visibleRows browser.rows
    (browser.folded.erase browser.selectedRow)).idxOf? browser.selectedRow = some place
  parent : ∀ p, parent? browser.rows browser.selectedRow = some p →
    ∃ place, browser.visible.idxOf? p = some place

variable {browser : Browser} {program : Program} {row : Nat} {key : Key}

theorem press_of_mem_toggleKeys (toggles : key ∈ toggleKeys) :
    browser.press key = browser.toggle := by
  simp only [toggleKeys, List.mem_cons, List.not_mem_nil, or_false] at toggles
  rcases toggles with rfl | rfl <;> rfl

/-! ### Searches -/

theorem exists_idxOf? {rows : List Nat} (shown : row ∈ rows) :
    ∃ place, rows.idxOf? row = some place ∧ rows[place]? = some row := by
  obtain ⟨place, found⟩ := Option.isSome_iff_exists.mp (List.isSome_idxOf?.mpr shown)
  obtain ⟨inside, here, _⟩ := List.idxOf?_eq_some_iff.mp found
  exact ⟨place, found, List.getElem?_eq_some_iff.mpr ⟨inside, here⟩⟩

theorem selectedRow_refold {folded : List Nat} (verb : String)
    (shown : browser.selectedRow ∈ visibleRows browser.rows folded) :
    (browser.refold folded verb).selectedRow = browser.selectedRow := by
  obtain ⟨place, found, here⟩ := exists_idxOf? shown
  simp [refold, selectedRow] at found here ⊢
  simp [found, here]

/-- Selecting a visible row changes nothing but the place of the selection. -/
theorem select_of_mem (shown : row ∈ browser.visible) : ∃ place,
    browser.select row = { browser with selected := place } ∧
      (browser.select row).selectedRow = row := by
  obtain ⟨place, found, here⟩ := exists_idxOf? shown
  refine ⟨place, ?_, ?_⟩ <;> simp [select, found, selectedRow, here]

theorem parent?_zero (rows : List Row) : parent? rows 0 = none := by
  cases rows <;> simp [parent?]

namespace Valid

theorem selectedRow_mem_closing (valid : browser.Valid) : browser.selectedRow ∈
    visibleRows browser.rows (insertSorted browser.selectedRow browser.folded) := by
  have shown := valid.selectedRow_mem
  rw [valid.visible_eq] at shown
  refine mem_visibleRows_of_folded shown fun index before listed => ?_
  exact (mem_insertSorted.mp listed).resolve_left (Nat.ne_of_lt before)

theorem selectedRow_mem_opening (valid : browser.Valid) : browser.selectedRow ∈
    visibleRows browser.rows (browser.folded.erase browser.selectedRow) := by
  have shown := valid.selectedRow_mem
  rw [valid.visible_eq] at shown
  exact mem_visibleRows_of_folded shown fun index _ listed => List.mem_of_mem_erase listed

theorem exists_parent (valid : browser.Valid) (same : browser.rows = program.rows)
    (later : 0 < browser.selectedRow) :
    ∃ (inside : browser.selectedRow < program.places.length) (p : Nat)
      (above : p < browser.selectedRow),
      program.places[browser.selectedRow].IsChildOf program.places[p] ∧
        parent? browser.rows browser.selectedRow = some p ∧ p ∈ browser.visible := by
  have within : browser.selectedRow < program.rows.length := same ▸ valid.selectedRow_lt
  obtain ⟨inside, p, above, child, found, encloses⟩ := program.exists_parent within later
  rw [← same] at found encloses
  have shown := valid.selectedRow_mem
  rw [valid.visible_eq] at shown
  refine ⟨inside, p, above, child, found, ?_⟩
  rw [valid.visible_eq]
  exact mem_visibleRows_of_encloses shown encloses

theorem finds (valid : browser.Valid) (same : browser.rows = program.rows) : browser.Finds := by
  obtain ⟨closing, found, _⟩ := exists_idxOf? valid.selectedRow_mem_closing
  obtain ⟨opening, found', _⟩ := exists_idxOf? valid.selectedRow_mem_opening
  refine ⟨⟨closing, found⟩, ⟨opening, found'⟩, fun p parent => ?_⟩
  rcases Nat.eq_zero_or_pos browser.selectedRow with first | later
  · rw [first, parent?_zero] at parent
    cases parent
  · obtain ⟨_, p', _, _, parent', shown⟩ := valid.exists_parent same later
    obtain rfl : p' = p := Option.some.inj (parent'.symm.trans parent)
    obtain ⟨place, found, _⟩ := exists_idxOf? shown
    exact ⟨place, found⟩

/-! ### Operations -/

theorem collapse_closes (valid : browser.Valid)
    (parent : browser.hasChildren browser.selectedRow = true)
    (unfolded : browser.selectedRow ∉ browser.folded) :
    Closes browser browser.collapse browser.selectedRow := by
  have shape : browser.collapse =
      browser.refold (insertSorted browser.selectedRow browser.folded) "Folded" :=
    if_pos ⟨parent, unfolded⟩
  rw [shape]
  exact ⟨fun index => mem_insertSorted, selectedRow_refold _ valid.selectedRow_mem_closing⟩

theorem expand_opens (valid : browser.Valid) (folded : browser.selectedRow ∈ browser.folded) :
    Opens browser browser.expand browser.selectedRow := by
  have shape : browser.expand =
      browser.refold (browser.folded.erase browser.selectedRow) "Unfolded" := if_pos folded
  have distinct : browser.folded.Nodup := valid.folded_sorted.imp Nat.ne_of_lt
  rw [shape]
  exact ⟨fun index => distinct.mem_erase_iff, selectedRow_refold _ valid.selectedRow_mem_opening⟩

theorem collapse_ascends (valid : browser.Valid) (same : browser.rows = program.rows)
    (nothing : browser.selectedRow ∈ browser.folded ∨
      browser.hasChildren browser.selectedRow = false) :
    Ascends program browser browser.collapse := by
  have kept : ¬(browser.hasChildren browser.selectedRow = true ∧
      browser.selectedRow ∉ browser.folded) := by
    rintro ⟨parent, unfolded⟩
    rcases nothing with folded | childless
    · exact unfolded folded
    · exact absurd (parent.symm.trans childless) (by decide)
  rcases Nat.eq_zero_or_pos browser.selectedRow with first | later
  · have shape : browser.collapse = browser := by
      have none : parent? browser.rows browser.selectedRow = none := first ▸ parent?_zero _
      simp only [Browser.collapse, if_neg kept, none]
    rw [shape]
    exact ⟨rfl, rfl, fun later => absurd first (Nat.ne_of_gt later), fun _ => rfl⟩
  · obtain ⟨inside, p, above, child, found, shown⟩ := valid.exists_parent same later
    obtain ⟨place, moved, there⟩ := select_of_mem shown
    have shape : browser.collapse = browser.select p := by
      simp only [Browser.collapse, if_neg kept, found]
    have moved : browser.collapse = { browser with selected := place } := shape.trans moved
    have there : browser.collapse.selectedRow = p := (congrArg selectedRow shape).trans there
    exact ⟨by rw [moved], by rw [moved], fun _ => ⟨inside, p, above, child, there⟩,
      fun first => absurd first (Nat.ne_of_gt later)⟩

/-- A row that is folded has children. -/
theorem hasChildren_of_folded (valid : browser.Valid) (folded : row ∈ browser.folded) :
    browser.hasChildren row = true :=
  hasChildren_iff.mpr (valid.foldable row folded)

theorem toggle_closes (valid : browser.Valid)
    (parent : browser.hasChildren browser.selectedRow = true)
    (unfolded : browser.selectedRow ∉ browser.folded) :
    Closes browser browser.toggle browser.selectedRow := by
  rw [Browser.toggle, if_neg unfolded]
  exact valid.collapse_closes parent unfolded

theorem toggle_opens (valid : browser.Valid) (folded : browser.selectedRow ∈ browser.folded) :
    Opens browser browser.toggle browser.selectedRow := by
  rw [Browser.toggle, if_pos folded]
  exact valid.expand_opens folded

theorem toggle_ascends (valid : browser.Valid) (same : browser.rows = program.rows)
    (childless : browser.hasChildren browser.selectedRow = false) :
    Ascends program browser browser.toggle := by
  have unfolded : browser.selectedRow ∉ browser.folded := fun folded =>
    absurd ((valid.hasChildren_of_folded folded).symm.trans childless) (by decide)
  rw [Browser.toggle, if_neg unfolded]
  exact valid.collapse_ascends same (.inr childless)

theorem toggle_flips (valid : browser.Valid)
    (parent : browser.hasChildren browser.selectedRow = true) :
    Flips browser browser.toggle browser.selectedRow := by
  by_cases folded : browser.selectedRow ∈ browser.folded
  · obtain ⟨opened, selected⟩ := valid.toggle_opens folded
    refine ⟨fun index => ?_, selected⟩
    split <;> simp_all
  · obtain ⟨closed, selected⟩ := valid.toggle_closes parent folded
    refine ⟨fun index => ?_, selected⟩
    split <;> simp_all

end Valid

/-! ### Keys -/

/-- In every state of a session, the keys that fold or unfold keep the selected row selected. Where
there is nothing to fold, the keys that fold go to the parent of the selected node and change
nothing else, and where nothing is folded, the key that unfolds changes nothing at all. No search
for a row among the visible ones fails. -/
theorem selection_kept (program : Program) (source : String) (events : List Event) :
    let browser := (start program source).run events
    let row := browser.selectedRow
    (browser.hasChildren row = true → row ∉ browser.folded →
      ∀ key ∈ .left :: toggleKeys, Closes browser (browser.press key) row) ∧
    (row ∈ browser.folded →
      ∀ key ∈ .right :: toggleKeys, Opens browser (browser.press key) row) ∧
    (row ∈ browser.folded ∨ browser.hasChildren row = false →
      Ascends program browser (browser.press .left)) ∧
    (browser.hasChildren row = false →
      ∀ key ∈ toggleKeys, Ascends program browser (browser.press key)) ∧
    (row ∉ browser.folded → browser.press .right = browser) ∧
    browser.Finds := by
  intro browser row
  have valid : browser.Valid := (valid_start program source).run events
  have same : browser.rows = program.rows := (Keeps.run (start program source) events).rows
  refine ⟨fun parent unfolded => ?_, fun folded => ?_, valid.collapse_ascends same,
    fun childless key toggles => ?_, fun unfolded => if_neg unfolded, valid.finds same⟩
  · refine List.forall_mem_cons.mpr ⟨valid.collapse_closes parent unfolded, fun key toggles => ?_⟩
    rw [press_of_mem_toggleKeys toggles]
    exact valid.toggle_closes parent unfolded
  · refine List.forall_mem_cons.mpr ⟨valid.expand_opens folded, fun key toggles => ?_⟩
    rw [press_of_mem_toggleKeys toggles]
    exact valid.toggle_opens folded
  · rw [press_of_mem_toggleKeys toggles]
    exact valid.toggle_ascends same childless

/-- A loop is folded and unfolded; from the folded loop and from the last leaf, keys go up. -/
theorem selection_kept_loop :
    let program : Program :=
      ⟨[.whileLoop (.identifier "x") (.block [.empty]), .expression (.identifier "x")]⟩
    let source := "while (x) \x7b ; \x7d x;"
    let loop := (start program source).run [.key .down]
    let folded := (start program source).run [.key .down, .key .enter]
    let leaf := (start program source).run [.key .endKey]
    (loop.hasChildren loop.selectedRow = true ∧ loop.selectedRow ∉ loop.folded ∧
      Closes loop (loop.press .enter) 1 ∧ loop.press .right = loop) ∧
    (folded.selectedRow ∈ folded.folded ∧ Opens folded (folded.press .right) 1 ∧
      Ascends program folded (folded.press .left)) ∧
    (leaf.hasChildren leaf.selectedRow = false ∧ leaf.selectedRow = 6 ∧
      Ascends program leaf (leaf.press (.char ' '))) := by
  intro program source loop folded leaf
  obtain ⟨closes, _, _, _, still, _⟩ := selection_kept program source [.key .down]
  obtain ⟨_, opens, ascends, _⟩ := selection_kept program source [.key .down, .key .enter]
  obtain ⟨_, _, _, up, _⟩ := selection_kept program source [.key .endKey]
  have parent : loop.hasChildren loop.selectedRow = true := by decide
  have unfolded : loop.selectedRow ∉ loop.folded := by decide
  have hidden : folded.selectedRow ∈ folded.folded := by decide
  have childless : leaf.hasChildren leaf.selectedRow = false := by decide
  exact ⟨⟨parent, unfolded, closes parent unfolded .enter (by decide), still unfolded⟩,
    ⟨hidden, opens hidden .right (by decide), ascends (.inl hidden)⟩,
    childless, by decide, up childless (.char ' ') (by decide)⟩

/-! ### Twice -/

/-- Folding or unfolding changes neither the focus nor the scroll offsets, nor anything else but
what is folded, visible and selected, and the message. -/
theorem toggle_shape (browser : Browser) : ∃ folded visible selected status,
    browser.toggle = { browser with folded, visible, selected, status } := by
  unfold toggle
  split
  · unfold expand
    dsimp only
    split
    · exact ⟨_, _, _, _, rfl⟩
    · exact ⟨_, _, _, _, rfl⟩
  · unfold collapse
    dsimp only
    split
    · exact ⟨_, _, _, _, rfl⟩
    · split
      · unfold select
        split
        · exact ⟨_, _, _, _, rfl⟩
        · exact ⟨_, _, _, _, rfl⟩
      · exact ⟨_, _, _, _, rfl⟩

/-- The folded rows and the selected row tell what is visible and the place of the selection. -/
theorem Valid.agree {other : Browser} (valid : browser.Valid) (valid' : other.Valid)
    (same : other.rows = browser.rows)
    (folded : ∀ index, index ∈ other.folded ↔ index ∈ browser.folded)
    (selected : other.selectedRow = browser.selectedRow) :
    other.folded = browser.folded ∧ other.visible = browser.visible ∧
      other.selected = browser.selected := by
  have foldedEq : other.folded = browser.folded :=
    valid'.folded_sorted.eq_of_mem_iff valid.folded_sorted folded
  have visibleEq : other.visible = browser.visible := by
    rw [valid'.visible_eq, valid.visible_eq, same, foldedEq]
  have distinct : browser.visible.Nodup := by
    rw [valid.visible_eq]
    exact (visibleRows_sorted ..).imp Nat.ne_of_lt
  have inside := valid.selected_lt
  have inside' : other.selected < browser.visible.length := visibleEq ▸ valid'.selected_lt
  refine ⟨foldedEq, visibleEq, distinct.getElem_inj_iff.mp (?_ :
    browser.visible[other.selected] = browser.visible[browser.selected])⟩
  simpa [selectedRow, visibleEq, inside, inside'] using selected

theorem Valid.toggle_toggle (valid : browser.Valid)
    (parent : browser.hasChildren browser.selectedRow = true) :
    browser.toggle.toggle = { browser with status := browser.toggle.toggle.status } := by
  have rows : browser.toggle.rows = browser.rows := (Keeps.toggle browser).rows
  have rows' : browser.toggle.toggle.rows = browser.rows := (Keeps.toggle _).rows.trans rows
  obtain ⟨flipped, selected⟩ := valid.toggle_flips parent
  have parent' : browser.toggle.hasChildren browser.toggle.selectedRow = true := by
    rwa [hasChildren, rows, selected]
  obtain ⟨flipped', selected'⟩ := valid.toggle.toggle_flips parent'
  have restored : ∀ index, index ∈ browser.toggle.toggle.folded ↔ index ∈ browser.folded := by
    intro index
    rw [flipped', selected, flipped, flipped]
    by_cases same : index = browser.selectedRow <;> simp [same]
  obtain ⟨folded, visible, place⟩ :=
    valid.agree valid.toggle.toggle rows' restored (selected'.trans selected)
  obtain ⟨_, _, _, _, shape⟩ := toggle_shape browser
  obtain ⟨_, _, _, _, shape'⟩ := toggle_shape browser.toggle
  rw [shape'] at folded visible place ⊢
  dsimp only at folded visible place
  rw [folded, visible, place, shape]

/-- In every state of a session in which the selected row has children, the keys that fold or unfold
it change no other fold, and pressed twice they restore the state, but for the message. -/
theorem toggle_twice (program : Program) (source : String) (events : List Event) :
    let browser := (start program source).run events
    let row := browser.selectedRow
    browser.hasChildren row = true →
      ∀ first ∈ toggleKeys, ∀ second ∈ toggleKeys,
        let once := browser.press first
        let twice := once.press second
        Flips browser once row ∧ twice = { browser with status := twice.status } := by
  intro browser row parent first toggles second toggles' once twice
  have valid : browser.Valid := (valid_start program source).run events
  have pressed : once = browser.toggle := press_of_mem_toggleKeys toggles
  have pressed' : twice = browser.toggle.toggle :=
    (press_of_mem_toggleKeys toggles').trans (congrArg toggle pressed)
  rw [pressed', pressed]
  exact ⟨valid.toggle_flips parent, valid.toggle_toggle parent⟩

/-- Inside a loop the body of another one is folded; folding the outer loop and unfolding it again
leaves the inner fold and all that was on display as they were. -/
theorem toggle_twice_nested :
    let inner : Stmt := .whileLoop (.identifier "y") (.block [.empty])
    let program : Program := ⟨[.whileLoop (.identifier "x") (.block [inner])]⟩
    let source := "while (x) \x7b while (y) \x7b ; \x7d \x7d"
    let events : List Event :=
      [.key .endKey, .key .left, .key .left, .key .home, .key .down, .frame 40 4]
    let browser := (start program source).run events
    let twice := (browser.press .enter).press (.char ' ')
    browser.hasChildren browser.selectedRow = true ∧ browser.folded = [6] ∧
      browser.selectedRow = 1 ∧ (browser.press .enter).folded = [1, 6] ∧
      (browser.press .enter).visible = [0, 1] ∧
      twice = { browser with status := twice.status } ∧ twice.folded = [6] ∧
      twice.visible = [0, 1, 2, 3, 4, 5, 6] := by
  intro inner program source events browser twice
  have parent : browser.hasChildren browser.selectedRow = true := by decide
  have restored : twice = { browser with status := twice.status } :=
    (toggle_twice program source events parent .enter (by decide) (.char ' ') (by decide)).2
  exact ⟨parent, by decide, by decide, by decide, by decide, restored, by decide, by decide⟩

end Browser

end ScriptTree
