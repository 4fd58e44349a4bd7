import Mathlib.Data.Nat.Dist
import ScriptTree.Proofs.Browser.Highlight
import ScriptTree.Proofs.Browser.Session

/-! Windows. A frame that is drawn moves the scroll offsets of the panes no further than it has to:
the listing back to its last lines, and the tree view to the selected row. The panes then show what
stands from the offsets on, and the next frame of the same size is the same. -/

namespace ScriptTree

open Screen

variable {height scroll selected offset place : Nat}

theorem windowHeight_pos (height : Nat) : 0 < windowHeight height :=
  Nat.le_max_right ..

/-! ### The listing -/

namespace Listing

variable {source : String}

theorem settle_settle (lineCount height scroll : Nat) :
    settle lineCount height (settle lineCount height scroll) = settle lineCount height scroll := by
  unfold settle
  omega

/-- No offset at which the window is as full as it can be is nearer than the settled one. -/
theorem dist_settle_le {lineCount : Nat} (full : offset ≤ lineCount - windowHeight height) :
    Nat.dist scroll (settle lineCount height scroll) ≤ Nat.dist scroll offset := by
  unfold settle Nat.dist
  omega

/-- The number of a line is in decimal digits, at the right of at least four columns, with a blank
behind it. -/
theorem lineNumber_eq (number : Nat) :
    lineNumber number = String.ofList (List.replicate (4 - (toString number).length) ' ') ++
      toString number ++ " " := by
  have digits : (toString number).toList = Nat.toDigits 10 number := by
    rw [Nat.toString_eq_repr, Nat.toList_repr]
  apply String.toList_inj.mp
  simp only [lineNumber, String.toList_ofList, String.toList_append, ← String.length_toList, digits]
  rfl

/-- A line of the window is its number and the text of the line. -/
theorem join_line (number : Nat) (text : List Char) :
    String.join ((line number text).map Span.text) =
      String.ofList (List.replicate (4 - (toString number).length) ' ') ++ toString number ++ " " ++
        String.ofList text := by
  rw [line, List.map_cons, String.join_cons, List.map_map, ← lineNumber_eq]
  exact congrArg (lineNumber number ++ ·) (join_highlight text)

/-- Some lines are those of the source from an offset on, as many as there is room for. In front of
each stands its number, counted from 1, in decimal digits at the right of at least four columns, and
a blank. -/
structure Shows (source : String) (room scroll : Nat) (window : List (List Span)) : Prop where
  length : window.length = min room ((Text.lines source).length - scroll)
  line : ∀ place < room, window[place]? =
    (Text.lines source)[scroll + place]?.map (Listing.line (scroll + place + 1))
  text : ∀ place line, window[place]? = some line → ∃ text,
    (Text.lines source)[scroll + place]? = some text ∧
      String.join (line.map Span.text) =
        String.ofList (List.replicate (4 - (toString (scroll + place + 1)).length) ' ') ++
          toString (scroll + place + 1) ++ " " ++ String.ofList text

theorem length_window (source : String) (height scroll : Nat) :
    (window source height scroll).length =
      min (windowHeight height) ((Text.lines source).length - scroll) := by
  rw [window, List.length_map, List.length_take, List.length_drop, List.length_zipIdx]

theorem getElem?_window (source : String) (scroll : Nat) (inside : place < windowHeight height) :
    (window source height scroll)[place]? =
      (Text.lines source)[scroll + place]?.map (line (scroll + place + 1)) := by
  rw [window, List.getElem?_map, List.getElem?_take_of_lt inside, List.getElem?_drop,
    List.getElem?_zipIdx, Option.map_map, Nat.add_comm 1]
  rfl

theorem shows_window (source : String) (height scroll : Nat) :
    Shows source (windowHeight height) scroll (window source height scroll) where
  length := length_window ..
  line _ inside := getElem?_window source scroll inside
  text place line here := by
    have within := (List.getElem?_eq_some_iff.mp here).1
    have inside : place < windowHeight height := by
      rw [length_window] at within
      omega
    rw [getElem?_window source scroll inside] at here
    obtain ⟨text, there, rfl⟩ := Option.map_eq_some_iff.mp here
    exact ⟨text, there, join_line ..⟩

end Listing

/-! ### The tree view -/

namespace TreeView

variable {rows : List Row} {folded visible : List Nat}

/-- The offset after drawing, in one formula for all cases. -/
theorem settle_eq (selected height scroll : Nat) : settle selected height scroll =
    max (selected + 1 - windowHeight height) (min scroll selected) := by
  have := windowHeight_pos height
  unfold settle
  split
  · omega
  · split <;> omega

/-- The selected row is in the window. -/
theorem settle_le_selected (selected height scroll : Nat) :
    settle selected height scroll ≤ selected ∧
      selected < settle selected height scroll + windowHeight height := by
  have := windowHeight_pos height
  rw [settle_eq]
  omega

/-- An offset at which the selected row is in the window stays. -/
theorem settle_of_shown (before : scroll ≤ selected)
    (behind : selected < scroll + windowHeight height) :
    settle selected height scroll = scroll := by
  rw [settle_eq]
  omega

theorem settle_settle (selected height scroll : Nat) :
    settle selected height (settle selected height scroll) = settle selected height scroll :=
  have shown := settle_le_selected selected height scroll
  settle_of_shown shown.1 shown.2

/-- No offset at which the selected row is in the window is nearer than the settled one. -/
theorem dist_settle_le (before : offset ≤ selected)
    (behind : selected < offset + windowHeight height) :
    Nat.dist scroll (settle selected height scroll) ≤ Nat.dist scroll offset := by
  rw [settle_eq]
  unfold Nat.dist
  omega

/-- The text of a line is the label of the row behind its blanks and its mark. -/
theorem join_line (row : Row) (folded selected : Bool) :
    String.join ((line row folded selected).map Span.text) =
      row.indent ++ marker row folded ++ row.label := by
  have plain : (line row folded selected).map Span.text = (rowSpans row folded).map Span.text := by
    cases selected with
    | false => rfl
    | true =>
      simp only [line, if_true, List.map_map]
      rfl
  rw [plain]
  obtain ⟨depth, field, kind, detail, more⟩ := row
  cases field <;> cases detail <;>
    simp [rowSpans, Row.label, Row.fieldText, Row.detailText, String.join_cons, String.append_assoc]

theorem length_marker (row : Row) (folded : Bool) : (marker row folded).length = 2 := by
  unfold marker
  split
  · rfl
  · split <;> rfl

theorem background_rowSpans (row : Row) (folded : Bool) :
    ∀ span ∈ rowSpans row folded, span.style.background = none := by
  intro span listed
  simp only [rowSpans, List.mem_append, List.mem_cons, List.mem_map, List.mem_flatMap,
    List.not_mem_nil, or_false] at listed
  rcases listed with (((rfl | rfl) | ⟨field, _, rfl⟩) | rfl) | ⟨detail, _, rfl | rfl⟩ <;> rfl

/-- All of a line stands on the background of the selection, or none of it. -/
theorem background_line (row : Row) (folded selected : Bool) :
    line row folded selected ≠ [] ∧ ∀ span ∈ line row folded selected,
      span.style.background = if selected then some Theme.highlight else none := by
  have filled : rowSpans row folded ≠ [] := List.cons_ne_nil _ _
  cases selected with
  | false => exact ⟨filled, background_rowSpans row folded⟩
  | true =>
    refine ⟨mt List.map_eq_nil_iff.mp filled, fun span listed => ?_⟩
    obtain ⟨_, _, rfl⟩ := List.mem_map.mp listed
    rfl

/-- Some lines are those of the visible rows from an offset on, as many as there is room for. Each
is the label of its row behind two blanks for each level and a mark. The selected row is among them,
and its line alone stands on the background of the selection. -/
structure Shows (rows : List Row) (folded visible : List Nat) (selected room scroll : Nat)
    (window : List (List Span)) : Prop where
  length : window.length = min room (visible.length - scroll)
  line : ∀ place < room, ∀ index, visible[scroll + place]? = some index →
    ∃ row, rows[index]? = some row ∧ window[place]? =
      some (TreeView.line row (folded.contains index) (scroll + place = selected))
  text : ∀ place line, window[place]? = some line → ∃ index row mark,
    visible[scroll + place]? = some index ∧ rows[index]? = some row ∧ mark.length = 2 ∧
      String.join (line.map Span.text) =
        String.ofList (List.replicate (2 * row.depth) ' ') ++ mark ++ row.label
  selection : scroll ≤ selected ∧ selected < scroll + window.length
  background : ∀ place line, window[place]? = some line → line ≠ [] ∧ ∀ span ∈ line,
    span.style.background = if scroll + place = selected then some Theme.highlight else none

section Window

variable (inside : ∀ index ∈ visible, index < rows.length)
include inside

/-- No row of the window is passed over. -/
theorem window_eq_map (selected height scroll : Nat) :
    window rows folded visible selected height scroll =
      ((visible.zipIdx.drop scroll).take (windowHeight height)).map fun (index, position) =>
        ((rows[index]?.map fun row => line row (folded.contains index) (position = selected)).getD
          []) := by
  refine List.filterMap_eq_map_iff_forall_eq_some.mpr fun (index, position) listed => ?_
  have shown : index ∈ visible :=
    List.fst_mem_of_mem_zipIdx (List.mem_of_mem_drop (List.mem_of_mem_take listed))
  simp only [List.getElem?_eq_getElem (inside index shown), Option.map_some, Option.getD_some]

theorem length_window (selected height scroll : Nat) :
    (window rows folded visible selected height scroll).length =
      min (windowHeight height) (visible.length - scroll) := by
  rw [window_eq_map inside, List.length_map, List.length_take, List.length_drop,
    List.length_zipIdx]

theorem getElem?_window {index : Nat} (room : place < windowHeight height)
    (shown : visible[scroll + place]? = some index) : ∃ row, rows[index]? = some row ∧
      (window rows folded visible selected height scroll)[place]? =
        some (line row (folded.contains index) (scroll + place = selected)) := by
  have within := inside index (List.mem_of_getElem? shown)
  refine ⟨rows[index], List.getElem?_eq_getElem within, ?_⟩
  rw [window_eq_map inside, List.getElem?_map, List.getElem?_take_of_lt room, List.getElem?_drop,
    List.getElem?_zipIdx, shown, Nat.zero_add]
  simp only [Option.map_some, List.getElem?_eq_getElem within, Option.getD_some]

/-- Every line of the window is that of a visible row. -/
theorem exists_of_getElem?_window {drawn : List Span}
    (here : (window rows folded visible selected height scroll)[place]? = some drawn) :
    ∃ index row, visible[scroll + place]? = some index ∧ rows[index]? = some row ∧
      drawn = line row (folded.contains index) (scroll + place = selected) := by
  have within := (List.getElem?_eq_some_iff.mp here).1
  rw [length_window inside] at within
  have room : place < windowHeight height := by omega
  have shown : scroll + place < visible.length := by omega
  obtain ⟨row, found, there⟩ : ∃ row, rows[visible[scroll + place]]? = some row ∧
      (window rows folded visible selected height scroll)[place]? = some (line row
        (folded.contains visible[scroll + place]) (scroll + place = selected)) :=
    getElem?_window inside room (List.getElem?_eq_getElem shown)
  exact ⟨_, row, List.getElem?_eq_getElem shown, found, Option.some.inj (here.symm.trans there)⟩

theorem shows_window (shown : selected < visible.length) (height scroll : Nat) :
    Shows rows folded visible selected (windowHeight height) (settle selected height scroll)
      (window rows folded visible selected height (settle selected height scroll)) := by
  obtain ⟨before, behind⟩ := settle_le_selected selected height scroll
  -- From here on it does not matter how the offset has been found.
  generalize settle selected height scroll = scroll at *
  have length : (window rows folded visible selected height scroll).length =
      min (windowHeight height) (visible.length - scroll) :=
    length_window inside selected height scroll
  refine ⟨length, fun place room index => getElem?_window inside room, ?_, ⟨before, ?_⟩, ?_⟩
  · intro place drawn here
    obtain ⟨index, row, shown, found, rfl⟩ := exists_of_getElem?_window inside here
    exact ⟨index, row, _, shown, found, length_marker .., join_line ..⟩
  · rw [length]
    omega
  · intro place drawn here
    obtain ⟨index, row, -, -, rfl⟩ := exists_of_getElem?_window inside here
    simpa using background_line row _ (decide (scroll + place = selected))

end Window

end TreeView

/-! ### Frames -/

namespace Browser

variable {browser : Browser}

theorem settle_settle (browser : Browser) (height : Nat) :
    (browser.settle height).settle height = browser.settle height := by
  simp only [settle, Listing.settle_settle, TreeView.settle_settle]

theorem draw_of_running (running : browser.quit = false) (width height : Nat) :
    browser.draw width height =
      (browser.settle height, some ((browser.settle height).picture width height)) := by
  rw [draw, running]
  rfl

/-- Another frame of the same size changes nothing and shows the same. -/
theorem draw_settle (running : browser.quit = false) (width height : Nat) :
    (browser.settle height).draw width height = browser.draw width height := by
  have running' : (browser.settle height).quit = false := running
  rw [draw_of_running running, draw_of_running running', settle_settle]

/-- In every state of a session, a frame moves the scroll offsets no further than it has to, and the
panes show what stands from there on. Another frame of the same size is the same. -/
theorem draw_shows_windows (program : Program) (source : String) (events : List Event)
    (width height : Nat) :
    let browser := (start program source).run events
    let room := max (height - 1 - 2) 1
    let last := (Text.lines source).length - room
    let after : Browser := { browser with
      sourceScroll := min browser.sourceScroll last
      treeScroll := max (browser.selected + 1 - room) (min browser.treeScroll browser.selected) }
    let listing := Listing.window source (height - 1) after.sourceScroll
    let tree := TreeView.window program.rows browser.folded browser.visible browser.selected
      (height - 1) after.treeScroll
    browser.quit = false →
      Listing.Shows source room after.sourceScroll listing ∧
      TreeView.Shows program.rows browser.folded browser.visible browser.selected room
        after.treeScroll tree ∧
      browser.visible[browser.selected]? = some browser.selectedRow ∧
      browser.draw width height = (after, some (
        Picture.beside
          (.framed (listingWidth width) (height - 1) (Theme.frameStyle (browser.focus = .source))
            " Source " listing)
          (.framed (width - listingWidth width) (height - 1)
            (Theme.frameStyle (browser.focus = .tree)) " Syntax Tree " tree) ++
          StatusBar.picture browser.status browser.selected browser.visible.length width
            (min height 1))) ∧
      after.draw width height = browser.draw width height ∧
      (∀ offset ≤ last,
        Nat.dist browser.sourceScroll after.sourceScroll ≤ Nat.dist browser.sourceScroll offset) ∧
      ∀ offset ≤ browser.selected, browser.selected < offset + room →
        Nat.dist browser.treeScroll after.treeScroll ≤ Nat.dist browser.treeScroll offset := by
  intro browser room last after listing tree running
  have valid : browser.Valid := (valid_start program source).run events
  have kept : Keeps (start program source) browser := Keeps.run _ events
  have rows : browser.rows = program.rows := kept.rows
  have same : browser.source = source := kept.source
  have inside : ∀ index ∈ browser.visible, index < program.rows.length :=
    fun index shown => rows ▸ valid.visible_lt shown
  have listed : after.sourceScroll =
      Listing.settle (Text.lines browser.source).length (height - 1) browser.sourceScroll := by
    rw [same]
    rfl
  have offset : after.treeScroll =
      TreeView.settle browser.selected (height - 1) browser.treeScroll :=
    (TreeView.settle_eq ..).symm
  have settled : browser.settle height = after := by
    rw [settle, paneHeight, ← listed, ← offset]
  refine ⟨Listing.shows_window .., ?_, ?_, ?_, ?_, ?_, ?_⟩
  · simp only [tree, offset]
    exact TreeView.shows_window inside valid.selected_lt ..
  · rw [selectedRow, List.getElem?_eq_getElem valid.selected_lt]
    rfl
  · simp only [draw_of_running running, settled, picture, listing, tree, ← rows, ← same]
    rfl
  · rw [← settled, draw_settle running]
  · exact fun _ => Listing.dist_settle_le
  · intro other before behind
    rw [offset]
    exact TreeView.dist_settle_le before behind

/-- Behind the end of the source, and with the last row selected in a window of two, a frame moves
the listing back to the second line and the tree view on. -/
theorem draw_shows_windows_end :
    let program : Program := ⟨[.expression (.identifier "a"), .expression (.identifier "b")]⟩
    let source := "a;\n\nb;\n"
    let events : List Event := [.frame 40 4, .key .tab, .key .endKey, .key .tab, .key .endKey]
    let browser := (start program source).run events
    browser.quit = false ∧ browser.sourceScroll = maxScroll ∧ browser.treeScroll = 0 ∧
      browser.visible = [0, 1, 2, 3, 4] ∧ browser.selected = 4 ∧
      (∃ after picture, browser.draw 40 5 = (after, some picture) ∧
        after.sourceScroll = 1 ∧ after.treeScroll = 3 ∧
        after.draw 40 5 = (after, some picture)) ∧
      ∃ line, (Listing.window source 4 1)[1]? = some line ∧
        String.join (line.map Span.text) = "   3 b;" := by
  intro program source events browser
  have running : browser.quit = false := by decide
  obtain ⟨listing, _, _, drawn, again, _⟩ :=
    draw_shows_windows program source events 40 5 running
  have shown : Listing.Shows source 2 1 (Listing.window source 4 1) := by
    simp only [source, program, events] at listing
    exact listing
  have third : (Text.lines source)[1 + 1]? = some ['b', ';'] := by decide
  have here : (Listing.window source 4 1)[1]? = some (Listing.line 3 ['b', ';']) := by
    rw [shown.line 1 (by decide), third]
    rfl
  obtain ⟨text, there, joined⟩ := shown.text 1 _ here
  obtain rfl : text = ['b', ';'] := Option.some.inj (there.symm.trans third)
  exact ⟨running, by decide, by decide, by decide, by decide,
    ⟨_, _, drawn, by decide, by decide, again.trans drawn⟩, _, here, joined.trans (by decide)⟩

end Browser
end ScriptTree
