import ScriptTree.Proofs.Browser.Window
import ScriptTree.Proofs.Outline.Recovery
import ScriptTree.Proofs.Outline.Shape

/-! The lines of the tree view and the text of the outline. Both show the label of a row behind the
blanks of its depth, and the tree view puts a mark between the two. No row of a source has a line
break inside, so the lines of the text are known from the text alone; and whether a row has
children, which decides its mark, is known from the row behind it. -/

namespace ScriptTree

open Screen

/-! ### Lines of the text -/

/-- Lines that lack the character behind each of them are what lies between these characters. -/
theorem splitOn_lines {stop : Char} {lines : List (List Char)}
    (inside : ∀ line ∈ lines, stop ∉ line) :
    (lines.flatMap (· ++ [stop])).splitOn stop = lines ++ [[]] := by
  induction lines with
  | nil => rfl
  | cons line lines ih =>
    obtain ⟨first, others⟩ := List.forall_mem_cons.mp inside
    rw [List.flatMap_cons, List.append_assoc, List.singleton_append,
      List.splitOn_append_cons_self_of_not_mem first, ih others, List.cons_append]

namespace Row

variable {row : Row}

theorem toList_text (row : Row) :
    row.text.toList = row.indent.toList ++ row.label.toList :=
  String.toList_append

/-- The blanks in front of a line are those of the depth, and the label stands behind them. -/
theorem Legible.parts (legible : row.Legible) :
    row.text.toList.takeWhile (· == ' ') = row.indent.toList ∧
      row.text.toList.dropWhile (· == ' ') = row.label.toList := by
  rw [toList_text]
  exact ⟨takeWhile_append_stop row.all_indent legible.head?_label,
    dropWhile_append_stop row.all_indent legible.head?_label⟩

end Row

namespace Program

variable {program : Program}

/-- What lies between the line breaks of the text are the rows, one by one. -/
theorem splitOn_treeText (legible : ∀ row ∈ program.rows, row.Legible) :
    program.treeText.toList.splitOn '\n' = program.rows.map (·.text.toList) ++ [[]] := by
  have inside : ∀ line ∈ program.rows.map (·.text.toList), '\n' ∉ line :=
    List.forall_mem_map.mpr fun row listed => (legible row listed).inline
  rw [← splitOn_lines inside, treeText, String.toList_join, map_line, List.flatMap_map,
    List.flatMap_map, List.flatMap_map]
  simp only [String.toList_append]
  rfl

theorem getElem?_splitOn_treeText (legible : ∀ row ∈ program.rows, row.Legible) {index : Nat}
    {row : Row} (here : program.rows[index]? = some row) :
    (program.treeText.toList.splitOn '\n')[index]? = some row.text.toList := by
  have within := (List.getElem?_eq_some_iff.mp here).1
  rw [splitOn_treeText legible, List.getElem?_append_left (by simpa using within),
    List.getElem?_map, here, Option.map_some]

end Program

/-! ### Rows and what stands behind them -/

theorem getElem?_markParents (rows : List Row) (index : Nat) : (markParents rows)[index]? =
    rows[index]?.map fun row => { row with
      hasChildren := row.hasChildren ||
        rows[index + 1]?.any fun next => row.depth < next.depth } := by
  induction rows generalizing index with
  | nil => rfl
  | cons row rows ih =>
    cases rows with
    | nil => cases index <;> simp [markParents]
    | cons next rows =>
      cases index with
      | zero => simp [markParents]
      | succ index => simpa [markParents] using ih index

/-- A row has children exactly if the row behind it is deeper. -/
theorem Program.hasChildren_iff (program : Program) {index : Nat} {row : Row}
    (here : program.rows[index]? = some row) : row.hasChildren = true ↔
      ∃ next, program.rows[index + 1]? = some next ∧ row.depth < next.depth := by
  have marked := getElem?_markParents (program.rows.map Row.bare) index
  rw [program.markParents_rows, List.getElem?_map, List.getElem?_map, here] at marked
  have same : row.hasChildren =
      program.rows[index + 1]?.any fun next => row.depth < next.depth :=
    (congrArg Row.hasChildren (Option.some.inj marked)).trans Option.any_map
  simp [same, Option.any_eq_true]

namespace TreeView

/-! ### Marks -/

/-- The mark of a row: blank if the row behind it is no deeper, and otherwise a sign that tells
whether the row is folded. -/
structure Marks (rows : List Row) (folded : List Nat) (index : Nat) (row : Row) (mark : String) :
    Prop where
  length : mark.length = 2
  blank : mark = "  " ↔ ∀ next, rows[index + 1]? = some next → next.depth ≤ row.depth
  sign : mark ≠ "  " → if index ∈ folded then mark = "▸ " else mark = "▾ "

theorem marks_marker (program : Program) (folded : List Nat) {index : Nat} {row : Row}
    (here : program.rows[index]? = some row) :
    Marks program.rows folded index row (marker row (folded.contains index)) := by
  have children := program.hasChildren_iff here
  by_cases parent : row.hasChildren = true
  · obtain ⟨next, behind, deeper⟩ := children.mp parent
    have signed : ¬∀ next, program.rows[index + 1]? = some next → next.depth ≤ row.depth :=
      fun shallow => Nat.not_le.mpr deeper (shallow next behind)
    by_cases closed : index ∈ folded
    · have sign : marker row (folded.contains index) = "▸ " := by simp [marker, parent, closed]
      rw [sign]
      exact ⟨rfl, iff_of_false (by decide) signed, fun _ => by rw [if_pos closed]⟩
    · have sign : marker row (folded.contains index) = "▾ " := by simp [marker, parent, closed]
      rw [sign]
      exact ⟨rfl, iff_of_false (by decide) signed, fun _ => by rw [if_neg closed]⟩
  · have blank : marker row (folded.contains index) = "  " := by simp [marker, parent]
    have shallow : ∀ next, program.rows[index + 1]? = some next → next.depth ≤ row.depth :=
      fun next behind => Nat.not_lt.mp fun deeper => parent (children.mpr ⟨next, behind, deeper⟩)
    rw [blank]
    exact ⟨rfl, iff_of_true rfl shallow, fun signed => absurd rfl signed⟩

/-- The tree view shows the visible rows as the text of the outline does. At every scroll offset, a
line of the pane is a line of the text with a mark behind the blanks in front of it, and there are
as many as there is room for. -/
theorem lines_show_treeText {source : String} {program : Program}
    (read : parse source = .ok program) (folded : List Nat) (selected height scroll : Nat) :
    let visible := visibleRows program.rows folded
    let offset := settle selected height scroll
    let lines := window program.rows folded visible selected height offset
    lines.length = min (windowHeight height) (visible.length - offset) ∧
      ∀ place line, lines[place]? = some line → ∃ index row text mark,
        visible[offset + place]? = some index ∧ program.rows[index]? = some row ∧
        (program.treeText.toList.splitOn '\n')[index]? = some text ∧
        text.takeWhile (· == ' ') = List.replicate (2 * row.depth) ' ' ∧
        Marks program.rows folded index row mark ∧
        (String.join (line.map Span.text)).toList =
          List.replicate (2 * row.depth) ' ' ++ mark.toList ++ text.dropWhile (· == ' ') := by
  intro visible offset lines
  have legible : ∀ row ∈ program.rows, row.Legible := by
    obtain ⟨tokens, derived, proper⟩ := exists_derivation_of_parse read
    exact Program.legible_outline (derived.wellFormed proper) 0
  have inside : ∀ index ∈ visible, index < program.rows.length :=
    fun _ shown => lt_length_of_mem_visibleRows shown
  refine ⟨length_window inside selected height offset, fun place line here => ?_⟩
  obtain ⟨index, row, shown, found, rfl⟩ := exists_of_getElem?_window inside here
  obtain ⟨blanks, behind⟩ := (legible row (List.mem_of_getElem? found)).parts
  rw [Row.toList_indent] at blanks
  refine ⟨index, row, row.text.toList, marker row (folded.contains index), shown, found,
    Program.getElem?_splitOn_treeText legible found, blanks, marks_marker program folded found, ?_⟩
  rw [join_line, String.toList_append, String.toList_append, Row.toList_indent, behind]

/-- Of a folded block and a string with a line break, a window of three rows leaves out the first
row of the program. -/
theorem lines_show_treeText_folded :
    let program : Program := ⟨[.block [.empty], .expression (.string "\n")]⟩
    let visible := visibleRows program.rows [1, 9]
    let lines := window program.rows [1, 9] visible 3 5 (settle 3 5 0)
    parse "\x7b ; \x7d '\n';" = .ok program ∧ visible = [0, 1, 3, 4] ∧ lines.length = 3 ∧
      ∃ line, lines[0]? = some line ∧
        (String.join (line.map Span.text)).toList = "  ▸ BlockStatement".toList := by
  intro program visible lines
  have read : parse "\x7b ; \x7d '\n';" = .ok program := by decide +kernel
  obtain ⟨length, each⟩ := lines_show_treeText read [1, 9] 3 5 0
  have count : lines.length = 3 := length.trans (by decide)
  have here : lines[0]? = some lines[0] := List.getElem?_eq_getElem (by omega)
  obtain ⟨index, row, text, mark, shown, found, between, -, marks, joined⟩ := each 0 lines[0] here
  have block : program.rows[1]? = some ⟨1, none, "BlockStatement", none, true⟩ := rfl
  have below : program.rows[2]? = some ⟨2, none, "EmptyStatement", none, false⟩ := rfl
  have middle : (program.treeText.toList.splitOn '\n')[1]? = some "  BlockStatement".toList := by
    decide +kernel
  obtain rfl : 1 = index := Option.some.inj ((by decide : visible[1]? = some 1).symm.trans shown)
  obtain rfl := Option.some.inj (block.symm.trans found)
  obtain rfl := Option.some.inj (middle.symm.trans between)
  have signed : mark ≠ "  " := fun blank => absurd (marks.blank.mp blank _ below) (by decide)
  have sign : mark = "▸ " := marks.sign signed
  rw [sign] at joined
  exact ⟨read, by decide, count, lines[0], here, joined.trans (by decide +kernel)⟩

end TreeView

end ScriptTree
