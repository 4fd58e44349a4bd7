import ScriptTree.Browser.Draw
import ScriptTree.Proofs.Outline.Fold

/-! Sessions: keys and frames in any order, from the start on a program. Every state of a session
is valid: its rows are those of the program, the visible ones are those that the folded ones leave,
and the selection and the scroll offsets stay among them. -/

namespace ScriptTree.Browser

/-- What holds of a browser at any time. -/
structure Valid (browser : Browser) : Prop where
  visible_eq : browser.visible = visibleRows browser.rows browser.folded
  head_visible : browser.visible.head? = some 0
  selected_lt : browser.selected < browser.visible.length
  folded_sorted : browser.folded.Pairwise (· < ·)
  foldable : ∀ index ∈ browser.folded, ∃ row, browser.rows[index]? = some row ∧ row.hasChildren
  treeScroll_lt : browser.treeScroll < browser.rows.length
  sourceScroll_le : browser.sourceScroll ≤ maxScroll

variable {browser : Browser}

/-! ### Folded rows -/

theorem mem_insertSorted {m n : Nat} {ms : List Nat} :
    m ∈ insertSorted n ms ↔ m = n ∨ m ∈ ms := by
  induction ms with
  | nil => simp [insertSorted]
  | cons first others ih =>
    rw [insertSorted]
    split
    · exact List.mem_cons
    · simp only [List.mem_cons, ih]
      exact or_left_comm

theorem insertSorted_sorted {n : Nat} {ms : List Nat} (sorted : ms.Pairwise (· < ·))
    (fresh : n ∉ ms) : (insertSorted n ms).Pairwise (· < ·) := by
  induction ms with
  | nil => exact List.pairwise_singleton _ n
  | cons first others ih =>
    obtain ⟨least, ordered⟩ := List.pairwise_cons.mp sorted
    have other := List.ne_of_not_mem_cons fresh
    rw [insertSorted]
    split
    · have before : n < first := by omega
      refine List.pairwise_cons.mpr ⟨?_, sorted⟩
      exact List.forall_mem_cons.mpr ⟨before, fun m later => Nat.lt_trans before (least m later)⟩
    · have others := ih ordered (List.not_mem_of_not_mem_cons fresh)
      refine List.pairwise_cons.mpr ⟨fun m listed => ?_, others⟩
      obtain rfl | listed := mem_insertSorted.mp listed
      · omega
      · exact least m listed

theorem hasChildren_iff {index : Nat} : browser.hasChildren index = true ↔
    ∃ row, browser.rows[index]? = some row ∧ row.hasChildren := by
  simp [hasChildren, Option.any_eq_true]

/-! ### Steps -/

namespace Valid

theorem visible_length_le (valid : browser.Valid) :
    browser.visible.length ≤ browser.rows.length := by
  rw [valid.visible_eq]
  exact visibleRows_length_le ..

theorem selectedRow_mem (valid : browser.Valid) : browser.selectedRow ∈ browser.visible := by
  rw [selectedRow, List.getElem?_eq_getElem valid.selected_lt]
  exact List.getElem_mem _

theorem visible_lt (valid : browser.Valid) {index : Nat} (shown : index ∈ browser.visible) :
    index < browser.rows.length :=
  lt_length_of_mem_visibleRows (valid.visible_eq ▸ shown)

theorem selectedRow_lt (valid : browser.Valid) : browser.selectedRow < browser.rows.length :=
  valid.visible_lt valid.selectedRow_mem

theorem rows_ne_nil (valid : browser.Valid) : browser.rows ≠ [] :=
  List.ne_nil_of_length_pos (Nat.lt_of_le_of_lt (Nat.zero_le _) valid.selectedRow_lt)

/-- Another place of the selection among the visible rows. -/
theorem selected (valid : browser.Valid) {place : Nat} (inside : place < browser.visible.length) :
    Valid { browser with selected := place } :=
  { valid with selected_lt := inside }

theorem scrolled (valid : browser.Valid) {scroll : Nat} (inside : scroll ≤ maxScroll) :
    Valid { browser with sourceScroll := scroll } :=
  { valid with sourceScroll_le := inside }

theorem refold (valid : browser.Valid) {folded : List Nat} (verb : String)
    (sorted : folded.Pairwise (· < ·))
    (foldable : ∀ index ∈ folded, ∃ row, browser.rows[index]? = some row ∧ row.hasChildren) :
    (browser.refold folded verb).Valid := by
  have first : (visibleRows browser.rows folded).head? = some 0 :=
    head?_visibleRows valid.rows_ne_nil
  have shown : 0 < (visibleRows browser.rows folded).length :=
    List.length_pos_iff.mpr (List.ne_nil_of_mem (List.mem_of_mem_head? first))
  refine { valid with
    visible_eq := rfl
    head_visible := first
    selected_lt := ?_
    folded_sorted := sorted
    foldable := foldable }
  change ((visibleRows browser.rows folded).idxOf? browser.selectedRow).getD 0 <
    (visibleRows browser.rows folded).length
  cases place : (visibleRows browser.rows folded).idxOf? browser.selectedRow with
  | none => exact shown
  | some place => exact (List.idxOf?_eq_some_iff.mp place).1

theorem select (valid : browser.Valid) (row : Nat) : (browser.select row).Valid := by
  unfold Browser.select
  split
  · rename_i place found
    exact valid.selected (List.idxOf?_eq_some_iff.mp found).1
  · exact valid

theorem collapse (valid : browser.Valid) : browser.collapse.Valid := by
  unfold Browser.collapse
  dsimp only
  split
  · rename_i closes
    refine valid.refold _ (insertSorted_sorted valid.folded_sorted closes.2) fun index listed => ?_
    obtain rfl | listed := mem_insertSorted.mp listed
    · exact hasChildren_iff.mp closes.1
    · exact valid.foldable index listed
  · split
    · exact valid.select _
    · exact valid

theorem expand (valid : browser.Valid) : browser.expand.Valid := by
  unfold Browser.expand
  dsimp only
  split
  · exact valid.refold _ (valid.folded_sorted.sublist List.erase_sublist)
      fun index listed => valid.foldable index (List.mem_of_mem_erase listed)
  · exact valid

theorem toggle (valid : browser.Valid) : browser.toggle.Valid := by
  unfold Browser.toggle
  split
  · exact valid.expand
  · exact valid.collapse

theorem moveUp (valid : browser.Valid) : browser.moveUp.Valid := by
  unfold Browser.moveUp
  split
  · exact valid.scrolled (Nat.le_trans (Nat.sub_le ..) valid.sourceScroll_le)
  · exact valid.selected (Nat.lt_of_le_of_lt (Nat.sub_le ..) valid.selected_lt)

theorem moveDown (valid : browser.Valid) : browser.moveDown.Valid := by
  unfold Browser.moveDown
  split
  · exact valid.scrolled (Nat.min_le_right ..)
  · split
    · rename_i inside
      exact valid.selected inside
    · exact valid

theorem moveHome (valid : browser.Valid) : browser.moveHome.Valid := by
  unfold Browser.moveHome
  split
  · exact valid.scrolled (Nat.zero_le _)
  · exact valid.selected (Nat.lt_of_le_of_lt (Nat.zero_le _) valid.selected_lt)

theorem moveEnd (valid : browser.Valid) : browser.moveEnd.Valid := by
  unfold Browser.moveEnd
  split
  · exact valid.scrolled (Nat.le_refl _)
  · have := valid.selected_lt
    exact valid.selected (by omega)

theorem press (valid : browser.Valid) (key : Key) : (browser.press key).Valid := by
  unfold Browser.press
  split
  · exact { valid with }
  · exact { valid with }
  · exact { valid with }
  · exact { valid with }
  · exact valid.moveUp
  · exact valid.moveDown
  · exact valid.moveHome
  · exact valid.moveEnd
  · exact valid.toggle
  · exact valid.toggle
  · exact valid.collapse
  · exact valid.expand
  · exact valid
  · exact valid

theorem settle (valid : browser.Valid) (height : Nat) : (browser.settle height).Valid := by
  have shown := valid.visible_length_le
  have selected := valid.selected_lt
  have inside := valid.treeScroll_lt
  refine { valid with treeScroll_lt := ?_, sourceScroll_le := ?_ }
  · change TreeView.settle browser.selected (paneHeight height) browser.treeScroll <
      browser.rows.length
    have window : 0 < windowHeight (paneHeight height) := Nat.le_max_right ..
    unfold TreeView.settle
    split
    · omega
    · split <;> omega
  · exact Nat.le_trans (Nat.min_le_left ..) valid.sourceScroll_le

theorem step (valid : browser.Valid) (event : Event) : (browser.step event).Valid := by
  cases event with
  | key key => exact valid.press key
  | frame width height =>
    unfold Browser.step draw
    dsimp only
    split
    · exact valid
    · exact valid.settle height

theorem run (valid : browser.Valid) (events : List Event) : (browser.run events).Valid := by
  induction events generalizing browser with
  | nil => exact valid
  | cons event events ih => exact ih (valid.step event)

end Valid

theorem valid_start (program : Program) (source : String) : (start program source).Valid := by
  have inhabited : program.rows ≠ [] := List.cons_ne_nil _ _
  refine {
    visible_eq := rfl
    head_visible := head?_visibleRows inhabited
    selected_lt := ?_
    folded_sorted := .nil
    foldable := nofun
    treeScroll_lt := List.length_pos_iff.mpr inhabited
    sourceScroll_le := Nat.zero_le _ }
  exact List.length_pos_iff.mpr
    (List.ne_nil_of_mem (List.mem_of_mem_head? (head?_visibleRows inhabited)))

/-! ### What a session leaves -/

/-- Between two states of a session the rows and the source are the same, and a browser that has
been left stays left. -/
structure Keeps (before after : Browser) : Prop where
  rows : after.rows = before.rows
  source : after.source = before.source
  quit : before.quit = true → after.quit = true

namespace Keeps

theorem refl (browser : Browser) : Keeps browser browser :=
  ⟨rfl, rfl, id⟩

theorem trans {first second third : Browser} (before : Keeps first second)
    (behind : Keeps second third) : Keeps first third :=
  ⟨behind.rows.trans before.rows, behind.source.trans before.source,
    fun left => behind.quit (before.quit left)⟩

theorem refold (browser : Browser) (folded : List Nat) (verb : String) :
    Keeps browser (browser.refold folded verb) :=
  ⟨rfl, rfl, id⟩

theorem select (browser : Browser) (row : Nat) : Keeps browser (browser.select row) := by
  unfold Browser.select
  split
  · exact ⟨rfl, rfl, id⟩
  · exact refl browser

theorem collapse (browser : Browser) : Keeps browser browser.collapse := by
  unfold Browser.collapse
  dsimp only
  split
  · exact refold ..
  · split
    · exact select ..
    · exact refl browser

theorem expand (browser : Browser) : Keeps browser browser.expand := by
  unfold Browser.expand
  dsimp only
  split
  · exact refold ..
  · exact refl browser

theorem toggle (browser : Browser) : Keeps browser browser.toggle := by
  unfold Browser.toggle
  split
  · exact expand browser
  · exact collapse browser

theorem move (browser : Browser) : Keeps browser browser.moveUp ∧ Keeps browser browser.moveDown ∧
    Keeps browser browser.moveHome ∧ Keeps browser browser.moveEnd := by
  unfold moveUp moveDown moveHome moveEnd
  cases browser.focus with
  | source => exact ⟨⟨rfl, rfl, id⟩, ⟨rfl, rfl, id⟩, ⟨rfl, rfl, id⟩, ⟨rfl, rfl, id⟩⟩
  | tree =>
    refine ⟨⟨rfl, rfl, id⟩, ?_, ⟨rfl, rfl, id⟩, ⟨rfl, rfl, id⟩⟩
    dsimp only
    split
    · exact ⟨rfl, rfl, id⟩
    · exact refl browser

theorem press (browser : Browser) (key : Key) : Keeps browser (browser.press key) := by
  obtain ⟨up, down, home, last⟩ := move browser
  unfold Browser.press
  split
  · exact ⟨rfl, rfl, fun _ => rfl⟩
  · exact ⟨rfl, rfl, fun _ => rfl⟩
  · exact ⟨rfl, rfl, fun _ => rfl⟩
  · exact ⟨rfl, rfl, id⟩
  · exact up
  · exact down
  · exact home
  · exact last
  · exact toggle browser
  · exact toggle browser
  · exact collapse browser
  · exact expand browser
  · exact refl browser
  · exact refl browser

theorem step (browser : Browser) (event : Event) : Keeps browser (browser.step event) := by
  cases event with
  | key key => exact press browser key
  | frame width height =>
    unfold Browser.step draw
    dsimp only
    split
    · exact refl browser
    · exact ⟨rfl, rfl, id⟩

theorem run (browser : Browser) (events : List Event) : Keeps browser (browser.run events) := by
  induction events generalizing browser with
  | nil => exact refl browser
  | cons event events ih => exact (step browser event).trans (ih _)

end Keeps
end ScriptTree.Browser
