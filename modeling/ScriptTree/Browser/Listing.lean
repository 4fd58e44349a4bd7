import ScriptTree.Browser.Highlight
import ScriptTree.Screen.Picture
import ScriptTree.Text.Lines

/-! The listing: the pane that shows the source with numbered and highlighted lines. -/

namespace ScriptTree

open Screen

/-- The number of rows that a framed pane shows; at least one row counts as shown. -/
def windowHeight (height : Nat) : Nat :=
  max (height - 2) 1

namespace Listing

/-- The number of a line, in at least four columns, and a blank. -/
def lineNumber (number : Nat) : String :=
  let digits := Nat.toDigits 10 number
  String.ofList (List.replicate (4 - digits.length) ' ' ++ digits ++ [' '])

def line (number : Nat) (text : List Char) : List Span :=
  ⟨lineNumber number, .text Theme.comment⟩ :: (highlight text).map Piece.span

/-- The scroll offset after drawing: no further than the last line allows. -/
def settle (lineCount height scroll : Nat) : Nat :=
  min scroll (lineCount - windowHeight height)

/-- The lines of source from an offset on, as many as a window shows. -/
def window (source : String) (height scroll : Nat) : List (List Span) :=
  (((Text.lines source).zipIdx 1).drop scroll |>.take (windowHeight height)).map
    fun (text, number) => line number text

/-- The pane at a settled scroll offset. -/
def picture (source : String) (focused : Bool) (width height scroll : Nat) : Picture :=
  .framed width height (Theme.frameStyle focused) " Source " (window source height scroll)

end Listing
end ScriptTree
