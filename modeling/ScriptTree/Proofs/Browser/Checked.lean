import ScriptTree.Proofs.Browser.Session
import Mathlib.Data.List.Basic

/-! Sessions on a machine with words of 64 bits. There a key or a frame stops the program where an
index lies beyond the rows, a sum does not fit into a word or a difference is negative. The checked
operations of this module are those of the browser with every such place tested; the others
saturate. No state of a session makes a checked operation fail. -/

namespace ScriptTree

/-- The largest number of a word is the scroll offset that stands for the end. -/
def addWord? (m n : Nat) : Option Nat :=
  if m + n ≤ maxScroll then some (m + n) else none

def subWord? (m n : Nat) : Option Nat :=
  if n ≤ m then some (m - n) else none

theorem addWord?_of_le {m n : Nat} (fits : m + n ≤ maxScroll) : addWord? m n = some (m + n) :=
  if_pos fits

theorem subWord?_of_le {m n : Nat} (fits : n ≤ m) : subWord? m n = some (m - n) :=
  if_pos fits

/-- The number of things that a machine can hold is less than half the number of its words. -/
def Holdable (count : Nat) : Prop :=
  count < Nat.pow 2 63

/-! ### The listing -/

theorem mapM_eq_some_filterMap {α β : Type} {f : α → Option β} {xs : List α}
    (each : ∀ x ∈ xs, (f x).isSome) : xs.mapM f = some (xs.filterMap f) := by
  induction xs with
  | nil => rfl
  | cons x xs ih =>
    obtain ⟨first, others⟩ := List.forall_mem_cons.mp each
    obtain ⟨y, found⟩ := Option.isSome_iff_exists.mp first
    rw [List.mapM_cons, found, ih others, List.filterMap_cons_some found]
    rfl

theorem mapM_eq_some_map {α β : Type} {f : α → Option β} {g : α → β} {xs : List α}
    (each : ∀ x ∈ xs, f x = some (g x)) : xs.mapM f = some (xs.map g) := by
  rw [mapM_eq_some_filterMap fun x listed => Option.isSome_of_eq_some (each x listed),
    List.filterMap_eq_map_iff_forall_eq_some.mpr each]

theorem byteLength_reverse (cs : List Char) : byteLength cs.reverse = byteLength cs := by
  induction cs with
  | nil => rfl
  | cons c cs ih =>
    rw [List.reverse_cons, byteLength_append, ih, byteLength, byteLength, byteLength]
    omega

theorem length_le_byteLength (cs : List Char) : cs.length ≤ byteLength cs := by
  induction cs with
  | nil => exact Nat.le_refl 0
  | cons c cs ih =>
    have := c.utf8Size_pos
    rw [byteLength, List.length_cons]
    omega

theorem byteLength_closeLine_le (begun : List Char) :
    byteLength (Text.closeLine begun) ≤ byteLength begun := by
  unfold Text.closeLine
  split
  · rw [byteLength_reverse, byteLength]
    omega
  · exact Nat.le_of_eq (byteLength_reverse begun)

theorem byteLength_le_of_mem_linesFrom {begun cs line : List Char}
    (listed : line ∈ Text.linesFrom begun cs) :
    byteLength line ≤ byteLength begun + byteLength cs := by
  induction cs generalizing begun with
  | nil =>
    rw [Text.linesFrom] at listed
    split at listed
    · cases listed
    · rw [List.mem_singleton.mp listed, byteLength_reverse]
      exact Nat.le_add_right ..
  | cons c cs ih =>
    rw [Text.linesFrom] at listed
    rw [byteLength]
    split at listed
    · obtain rfl | listed := List.mem_cons.mp listed
      · exact Nat.le_trans (byteLength_closeLine_le begun) (Nat.le_add_right ..)
      · have := ih listed
        rw [byteLength_nil] at this
        omega
    · have := ih listed
      rw [byteLength] at this
      omega

theorem linesFrom_length_le (begun cs : List Char) :
    (Text.linesFrom begun cs).length ≤ begun.length + cs.length := by
  induction cs generalizing begun with
  | nil =>
    rw [Text.linesFrom]
    split
    · exact Nat.zero_le _
    · rename_i inhabited
      exact List.length_pos_iff.mpr (by simpa using inhabited)
  | cons c cs ih =>
    rw [Text.linesFrom, List.length_cons]
    split
    · have := ih []
      rw [List.length_nil] at this
      rw [List.length_cons]
      omega
    · have := ih (c :: begun)
      rw [List.length_cons] at this
      omega

theorem byteLength_le_of_mem_lines {source : String} {line : List Char}
    (listed : line ∈ Text.lines source) : byteLength line ≤ byteLength source.toList := by
  simpa using byteLength_le_of_mem_linesFrom listed

theorem lines_length_le (source : String) :
    (Text.lines source).length ≤ byteLength source.toList := by
  have := linesFrom_length_le [] source.toList
  rw [List.length_nil, Nat.zero_add] at this
  exact Nat.le_trans this (length_le_byteLength _)

/-- Highlights the rest of a line that begins at a byte of it, by the bytes at which pieces end. -/
def highlightAt? (place : Nat) : List Char → Option (List Piece)
  | [] => some []
  | c :: cs =>
    if CharClass.name.contains c then do
      let word := c :: cs.takeWhile CharClass.name.contains
      let pieces ← highlightAt? (place + byteLength word) (cs.dropWhile CharClass.name.contains)
      return ⟨Piece.wordKind word, word⟩ :: pieces
    else if c = '/' ∧ cs.head? = some '/' then some [⟨.comment, c :: cs⟩]
    else if c = '"' ∨ c = '\'' then do
      let inside ← addWord? place 1
      match dropped : cs.dropWhile (· != c) with
      | [] => return [⟨.string, c :: cs⟩]
      | close :: rest =>
        have := length_drop_quoted c dropped
        let found ← addWord? inside (byteLength (cs.takeWhile (· != c)))
        let behind ← addWord? found 1
        let pieces ← highlightAt? behind rest
        return ⟨.string, c :: cs.takeWhile (· != c) ++ [close]⟩ :: pieces
    else do
      let behind ← addWord? place c.utf8Size
      let pieces ← highlightAt? behind cs
      return ⟨if Piece.isBracket c then .bracket else .sign, [c]⟩ :: pieces
termination_by cs => cs.length
decreasing_by
  · exact Nat.lt_succ_of_le (List.dropWhile_suffix _).length_le
  · exact Nat.lt_succ_of_lt this
  · exact Nat.lt_succ_self _

theorem highlightAt?_eq {place : Nat} {line : List Char}
    (fits : place + byteLength line ≤ maxScroll) :
    highlightAt? place line = some (highlight line) := by
  fun_induction highlight line generalizing place with
  | case1 => rw [highlightAt?]
  | case2 c cs named =>
    rename_i ih
    have parts : byteLength (c :: cs) = byteLength (c :: cs.takeWhile CharClass.name.contains) +
        byteLength (cs.dropWhile CharClass.name.contains) := by
      rw [← byteLength_append, List.cons_append, List.takeWhile_append_dropWhile]
    rw [parts, ← Nat.add_assoc] at fits
    rw [highlightAt?, if_pos named]
    simp only [ih fits]
    rfl
  | case3 c cs unnamed slashes => rw [highlightAt?, if_neg unnamed, if_pos slashes]
  | case4 c cs unnamed single quote dropped =>
    have first : c.utf8Size = 1 := by
      obtain rfl | rfl := quote <;> rfl
    rw [byteLength, first] at fits
    rw [highlightAt?, if_neg unnamed, if_neg single, if_pos quote, addWord?_of_le (by omega)]
    simp only [bind, Option.bind]
    split
    · rfl
    · rename_i closed
      cases dropped.symm.trans closed
  | case5 c cs unnamed single quote close rest dropped _ ih =>
    have parts : byteLength cs =
        byteLength (cs.takeWhile (· != c)) + (close.utf8Size + byteLength rest) := by
      rw [← byteLength, ← dropped, ← byteLength_append, List.takeWhile_append_dropWhile]
    have closes : close = c := by
      have stop := List.head?_dropWhile_not (· != c) cs
      rw [dropped] at stop
      simpa using stop
    have first : c.utf8Size = 1 := by
      obtain rfl | rfl := quote <;> rfl
    rw [byteLength, parts, closes, first] at fits
    rw [highlightAt?, if_neg unnamed, if_neg single, if_pos quote, addWord?_of_le (by omega)]
    simp only [bind, Option.bind]
    split
    · rename_i unclosed
      cases dropped.symm.trans unclosed
    · rename_i closed
      cases dropped.symm.trans closed
      have found : place + 1 + byteLength (cs.takeWhile (· != c)) ≤ maxScroll := by omega
      have behind : place + 1 + byteLength (cs.takeWhile (· != c)) + 1 ≤ maxScroll := by omega
      have last : place + 1 + byteLength (cs.takeWhile (· != c)) + 1 + byteLength rest ≤
          maxScroll := by omega
      simp only [addWord?_of_le found, addWord?_of_le behind, ih last]
      rfl
  | case6 c cs unnamed single plain ih =>
    rw [byteLength, ← Nat.add_assoc] at fits
    rw [highlightAt?, if_neg unnamed, if_neg single, if_neg plain, addWord?_of_le (by omega)]
    simp only [bind, Option.bind, ih fits]
    rfl

namespace Listing

/-- The lines of a window; the first line has number one. -/
def window? (source : String) (height scroll : Nat) : Option (List (List Screen.Span)) :=
  (((Text.lines source).zipIdx.drop scroll).take (windowHeight height)).mapM
    fun (text, index) => do
      let number ← addWord? index 1
      let pieces ← highlightAt? 0 text
      return ⟨lineNumber number, .text Theme.comment⟩ :: pieces.map Piece.span

theorem window?_eq {source : String} (small : Holdable source.utf8ByteSize) (height scroll : Nat) :
    window? source height scroll = some (window source height scroll) := by
  rw [Holdable, ← byteLength_toList] at small
  unfold window? window
  rw [List.zipIdx_succ, ← List.map_drop, ← List.map_take, List.map_map]
  refine mapM_eq_some_map fun (text, index) shown => ?_
  have listed := List.mem_of_mem_drop (List.mem_of_mem_take shown)
  have counted : index < byteLength source.toList :=
    Nat.lt_of_lt_of_le (List.snd_lt_of_mem_zipIdx listed) (lines_length_le source)
  have inside : byteLength text ≤ byteLength source.toList :=
    byteLength_le_of_mem_lines (List.fst_mem_of_mem_zipIdx listed)
  have limit : Nat.pow 2 63 ≤ maxScroll := by decide
  simp only [addWord?_of_le (show index + 1 ≤ maxScroll by omega),
    highlightAt?_eq (show 0 + byteLength text ≤ maxScroll by omega)]
  rfl

end Listing

/-! ### Rows and the selection -/

namespace TreeView

def settle? (selected height scroll : Nat) : Option Nat :=
  if selected < scroll then some selected
  else do
    let bottom ← addWord? scroll (windowHeight height)
    if bottom ≤ selected then
      let behind ← addWord? selected 1
      subWord? behind (windowHeight height)
    else return scroll

def window? (rows : List Row) (folded visible : List Nat) (selected height scroll : Nat) :
    Option (List (List Screen.Span)) :=
  ((visible.zipIdx.drop scroll).take (windowHeight height)).mapM fun (index, position) => do
    let row ← rows[index]?
    return line row (folded.contains index) (position = selected)

theorem settle?_eq {selected height scroll : Nat} (place : selected + 1 ≤ maxScroll)
    (bottom : scroll + windowHeight height ≤ maxScroll) :
    settle? selected height scroll = some (settle selected height scroll) := by
  unfold settle? settle
  split
  · rfl
  · simp only [addWord?_of_le bottom, addWord?_of_le place, bind, Option.bind]
    split
    · exact subWord?_of_le (by omega)
    · rfl

theorem window?_eq {rows : List Row} {visible : List Nat}
    (inside : ∀ index ∈ visible, index < rows.length) (folded : List Nat)
    (selected height scroll : Nat) : window? rows folded visible selected height scroll =
      some (window rows folded visible selected height scroll) := by
  refine (mapM_eq_some_filterMap ?_).trans ?_
  · intro (index, position) shown
    have listed := List.mem_of_mem_drop (List.mem_of_mem_take shown)
    have found := List.getElem?_eq_getElem (inside index (List.fst_mem_of_mem_zipIdx listed))
    simp [found]
  · unfold window
    congr 2
    funext (index, position)
    dsimp only
    cases rows[index]? <;> rfl

end TreeView

namespace Browser

def picture? (browser : Browser) (width height : Nat) : Option Screen.Picture := do
  let left := listingWidth width
  let lines ← Listing.window? browser.source (paneHeight height) browser.sourceScroll
  let rows ← TreeView.window? browser.rows browser.folded browser.visible browser.selected
    (paneHeight height) browser.treeScroll
  -- The status bar counts the selected row from one.
  let _ ← addWord? browser.selected 1
  let panes := Screen.Picture.beside
    (.framed left (paneHeight height) (Theme.frameStyle (browser.focus = .source)) " Source " lines)
    (.framed (width - left) (paneHeight height) (Theme.frameStyle (browser.focus = .tree))
      " Syntax Tree " rows)
  return panes ++
    StatusBar.picture browser.status browser.selected browser.visible.length width (min height 1)

def render? (browser : Browser) (width height : Nat) : Option (Browser × Screen.Picture) := do
  let treeScroll ← TreeView.settle? browser.selected (paneHeight height) browser.treeScroll
  let settled := { browser.settle height with treeScroll }
  let picture ← settled.picture? width height
  return (settled, picture)

/-- Searches the rows in front of an index, from the last on, for one of a smaller depth. -/
def above? (rows : List Row) (depth : Nat) : Nat → Option (Option Nat)
  | 0 => some none
  | index + 1 => do
    let candidate ← rows[index]?
    if candidate.depth < depth then return some index else above? rows depth index

def refold? (browser : Browser) (folded : List Nat) (verb : String) : Option Browser := do
  let row ← browser.rows[browser.selectedRow]?
  return { browser.refold folded verb with status := verb ++ " " ++ row.kind }

def collapse? (browser : Browser) : Option Browser := do
  let row ← browser.rows[browser.selectedRow]?
  if row.hasChildren ∧ browser.selectedRow ∉ browser.folded then
    browser.refold? (insertSorted browser.selectedRow browser.folded) "Folded"
  else
    match ← above? browser.rows row.depth browser.selectedRow with
    | some parent => return browser.select parent
    | none => return browser

def expand? (browser : Browser) : Option Browser :=
  if browser.selectedRow ∈ browser.folded then
    browser.refold? (browser.folded.erase browser.selectedRow) "Unfolded"
  else some browser

def toggle? (browser : Browser) : Option Browser :=
  if browser.selectedRow ∈ browser.folded then browser.expand? else browser.collapse?

def moveDown? (browser : Browser) : Option Browser :=
  match browser.focus with
  | .source => some browser.moveDown
  | .tree => do
    let next ← addWord? browser.selected 1
    if next < browser.visible.length then return { browser with selected := next }
    else return browser

/-- Keys that neither look at a row nor compute with the selection cannot fail. -/
def press? (browser : Browser) : Key → Option Browser
  | .down => browser.moveDown?
  | .enter | .char ' ' => browser.toggle?
  | .left => browser.collapse?
  | .right => browser.expand?
  | key => some (browser.press key)

/-! ### Sessions -/

theorem above?_eq {rows : List Row} {index : Nat} (depth : Nat) (inside : index ≤ rows.length) :
    above? rows depth index = some ((List.range index).reverse.find? fun candidate =>
      rows[candidate]?.any fun row => row.depth < depth) := by
  induction index with
  | zero => rfl
  | succ index ih =>
    have found := List.getElem?_eq_getElem (show index < rows.length by omega)
    rw [above?, List.range_succ, List.reverse_append, List.reverse_singleton,
      List.singleton_append, List.find?_cons]
    simp only [found, bind, Option.bind, Option.any_some]
    split
    · rename_i smaller
      rw [decide_eq_true smaller]
      rfl
    · rename_i deeper
      rw [decide_eq_false deeper]
      exact ih (by omega)

variable {browser : Browser}

namespace Valid

theorem getElem?_selectedRow (valid : browser.Valid) :
    ∃ row, browser.rows[browser.selectedRow]? = some row :=
  ⟨_, List.getElem?_eq_getElem valid.selectedRow_lt⟩

theorem refold?_eq (valid : browser.Valid) (folded : List Nat) (verb : String) :
    browser.refold? folded verb = some (browser.refold folded verb) := by
  obtain ⟨row, found⟩ := valid.getElem?_selectedRow
  simp [refold?, Browser.refold, found]

theorem collapse?_eq (valid : browser.Valid) : browser.collapse? = some browser.collapse := by
  obtain ⟨row, found⟩ := valid.getElem?_selectedRow
  have above := above?_eq row.depth (Nat.le_of_lt valid.selectedRow_lt)
  have parent : parent? browser.rows browser.selectedRow =
      (List.range browser.selectedRow).reverse.find? fun candidate =>
        browser.rows[candidate]?.any fun other => other.depth < row.depth := by
    simp [parent?, found]
  simp only [collapse?, Browser.collapse, Browser.hasChildren, found, Option.any_some, bind,
    Option.bind, above, parent]
  split
  · exact valid.refold?_eq ..
  · -- Both ask one search for the row to go to.
    generalize List.find? _ _ = target
    cases target <;> rfl

theorem expand?_eq (valid : browser.Valid) : browser.expand? = some browser.expand := by
  unfold expand? Browser.expand
  dsimp only
  split
  · exact valid.refold?_eq ..
  · rfl

theorem toggle?_eq (valid : browser.Valid) : browser.toggle? = some browser.toggle := by
  unfold toggle? Browser.toggle
  split
  · exact valid.expand?_eq
  · exact valid.collapse?_eq

theorem moveDown?_eq (place : browser.selected + 1 ≤ maxScroll) :
    browser.moveDown? = some browser.moveDown := by
  unfold moveDown? Browser.moveDown
  cases browser.focus with
  | source => rfl
  | tree =>
    simp only [addWord?_of_le place, bind, Option.bind]
    split <;> rfl

theorem press?_eq (valid : browser.Valid) (place : browser.selected + 1 ≤ maxScroll) (key : Key) :
    browser.press? key = some (browser.press key) := by
  unfold press?
  split
  · exact moveDown?_eq place
  · exact valid.toggle?_eq
  · exact valid.toggle?_eq
  · exact valid.collapse?_eq
  · exact valid.expand?_eq
  · rfl

theorem picture?_eq (valid : browser.Valid) (small : Holdable browser.source.utf8ByteSize)
    (place : browser.selected + 1 ≤ maxScroll) (width height : Nat) :
    browser.picture? width height = some (browser.picture width height) := by
  simp only [picture?, Listing.window?_eq small, addWord?_of_le place, bind, Option.bind,
    TreeView.window?_eq fun _ shown => valid.visible_lt shown]
  rfl

theorem render?_eq (valid : browser.Valid) (few : Holdable browser.rows.length)
    (small : Holdable browser.source.utf8ByteSize) (width : Nat) {height : Nat}
    (onScreen : height < Nat.pow 2 16) :
    browser.render? width height = some (browser.render width height) := by
  have limit : Nat.pow 2 63 + Nat.pow 2 16 ≤ maxScroll := by decide
  have shown := valid.visible_length_le
  have selected := valid.selected_lt
  have scrolled := valid.treeScroll_lt
  rw [Holdable] at few
  have place : browser.selected + 1 ≤ maxScroll := by omega
  have bottom : browser.treeScroll + windowHeight (paneHeight height) ≤ maxScroll := by
    rw [windowHeight, paneHeight]
    omega
  have picture := (valid.settle height).picture?_eq small place width height
  simp only [render?, TreeView.settle?_eq place bottom, bind, Option.bind_some]
  change Option.bind ((browser.settle height).picture? width height) _ = _
  rw [picture]
  rfl

end Valid

/-- Every state of a session is valid, has the rows and the source that the session began with, and
once left is left for good. If the machine can hold the rows and the source, no key stops the
program, and no frame does on a screen whose height fits into 16 bits, even after leaving. -/
theorem session_valid (program : Program) (source : String) (events : List Event) :
    let browser := (start program source).run events
    browser.Valid ∧ browser.rows = program.rows ∧ browser.source = source ∧
      (browser.quit = true → ∀ more, (browser.run more).quit = true) ∧
      (Holdable program.rows.length → Holdable source.utf8ByteSize →
        (∀ key, browser.press? key = some (browser.press key)) ∧
        ∀ width height, height < Nat.pow 2 16 →
          browser.render? width height = some (browser.render width height)) := by
  intro browser
  have valid : browser.Valid := (valid_start program source).run events
  have keeps : Keeps (start program source) browser := .run _ events
  refine ⟨valid, keeps.rows, keeps.source, fun left more => (Keeps.run browser more).quit left, ?_⟩
  intro few small
  have few : Holdable browser.rows.length := keeps.rows ▸ few
  have small : Holdable browser.source.utf8ByteSize := keeps.source ▸ small
  have limit : Nat.pow 2 63 ≤ maxScroll := by decide
  have shown := valid.visible_length_le
  have selected := valid.selected_lt
  have place : browser.selected + 1 ≤ maxScroll := by
    rw [Holdable] at few
    omega
  exact ⟨valid.press?_eq place, fun width height => valid.render?_eq few small width⟩

/-- With a loop folded, the keys that unfold it and leave it do not stop the program. -/
theorem session_valid_folded :
    let program : Program := ⟨[.whileLoop (.identifier "x") (.block [.empty])]⟩
    let source := "while (x) \x7b ; \x7d"
    let events : List Event := [.key .down, .key .enter, .frame 40 3, .key .endKey]
    let browser := (start program source).run events
    (Holdable program.rows.length ∧ Holdable source.utf8ByteSize) ∧ browser.visible = [0, 1] ∧
      browser.press? .right = some (browser.press .right) ∧
      browser.render? 80 24 = some (browser.render 80 24) := by
  intro program source events browser
  have small : Holdable program.rows.length ∧ Holdable source.utf8ByteSize := by
    unfold Holdable
    decide
  have checked := (session_valid program source events).2.2.2.2 small.1 small.2
  exact ⟨small, by decide, checked.1 .right, checked.2 80 24 (by decide)⟩

end Browser

end ScriptTree
