import ScriptTree.Screen.Strip

/-! Pictures: rectangles of the screen, put together from lines of text and frames. -/

namespace ScriptTree.Screen

/-- The strips of a rectangle from top to bottom. -/
abbrev Picture := List Strip

namespace Picture

/-- Lines of text on a background, cut or filled up to a size. -/
def ofLines (width height : Nat) (alignment : Strip.Alignment) (base : Style)
    (lines : List (List Span)) : Picture :=
  let drawn := (lines.take height).map (Strip.ofLine width alignment base)
  drawn ++ List.replicate (height - drawn.length) (Strip.blank width base)

/-- Two pictures of one height, side by side. -/
def beside (left right : Picture) : Picture :=
  List.zipWith (· ++ ·) left right

/-- One row of a frame; where there is no room for both ends, the left one is drawn. -/
def edge (width : Nat) (left right : Strip) (inner : Nat → Strip) : Strip :=
  match width with
  | 0 => []
  | 1 => left
  | width + 2 => left ++ inner width ++ right

/-- A frame with a title in its top row, which is drawn first, around lines of text. -/
def framed (width height : Nat) (style : Style) (title : String) (lines : List (List Span)) :
    Picture :=
  let bar (symbol : Char) : Strip := .ofChars [symbol] style
  let rule (length : Nat) : Strip := .ofChars (List.replicate length '─') style
  let heading (room : Nat) : Strip := .ofChars (title.toList.take room) style
  let top := edge width (bar '┌') (bar '┐') fun room =>
    heading room ++ rule (room - (heading room).length)
  let bottom := edge width (bar '└') (bar '┘') rule
  let content := ofLines (width - 2) (height - 2) .left .plain lines
  match height with
  | 0 => []
  | 1 => [top]
  | _ => top :: content.map (fun strip => edge width (bar '│') (bar '│') fun _ => strip) ++ [bottom]

end Picture
end ScriptTree.Screen
