import ScriptTree.Browser.Listing
import ScriptTree.Outline.Fold

/-! The tree view: the pane that shows the visible rows of the outline. -/

namespace ScriptTree

open Screen

namespace TreeView

/-- The mark in front of a row: whether it can be folded and whether it is. -/
def marker (row : Row) (folded : Bool) : String :=
  if !row.hasChildren then "  " else if folded then "▸ " else "▾ "

/-- The parts of a row, each in its style. -/
def rowSpans (row : Row) (folded : Bool) : List Span :=
  [⟨row.indent, .plain⟩, ⟨marker row folded, .text Theme.comment⟩] ++
    (row.field.toList.map fun field => ⟨field ++ ": ", .text Theme.fieldName⟩) ++
    [⟨row.kind, .boldText Theme.nodeKind⟩] ++
    (row.detail.toList.flatMap fun detail =>
      [⟨" ", .plain⟩, ⟨detail, .text Theme.secondary⟩])

/-- A row as a line of the pane; the selected row stands on a background of its own. -/
def line (row : Row) (folded selected : Bool) : List Span :=
  let spans := rowSpans row folded
  if selected then spans.map fun span => { span with style := span.style.on Theme.highlight }
  else spans

/-- The scroll offset after drawing: moved just far enough to show the selected row. -/
def settle (selected height scroll : Nat) : Nat :=
  if selected < scroll then selected
  else if scroll + windowHeight height ≤ selected then selected + 1 - windowHeight height
  else scroll

/-- The lines of the visible rows from an offset on, as many as a window shows. -/
def window (rows : List Row) (folded visible : List Nat) (selected height scroll : Nat) :
    List (List Span) :=
  ((visible.zipIdx.drop scroll).take (windowHeight height)).filterMap fun (index, position) =>
    rows[index]?.map fun row => line row (folded.contains index) (position = selected)

/-- The pane at a settled scroll offset. -/
def picture (rows : List Row) (folded visible : List Nat) (selected : Nat) (focused : Bool)
    (width height scroll : Nat) : Picture :=
  .framed width height (Theme.frameStyle focused) " Syntax Tree "
    (window rows folded visible selected height scroll)

end TreeView
end ScriptTree
