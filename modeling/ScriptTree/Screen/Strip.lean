import ScriptTree.Screen.Style
import ScriptTree.Text.Width

/-! Strips: single rows of a screen, and lines of styled text laid out on them. -/

namespace ScriptTree.Screen

structure Span where
  text : String
  style : Style
deriving DecidableEq, Repr

/-- A symbol on the screen and the number of columns that it covers. -/
structure Glyph where
  symbol : String
  columns : Nat
  style : Style
deriving DecidableEq, Repr

/-- A row of the screen from left to right. -/
abbrev Strip := List Glyph

def Span.glyphs (span : Span) : Strip :=
  (Text.clusters span.text.toList).map fun cluster =>
    ⟨String.ofList cluster, Text.clusterColumns cluster, span.style⟩

namespace Strip

def columns : Strip → Nat
  | [] => 0
  | glyph :: glyphs => glyph.columns + columns glyphs

def text (strip : Strip) : String :=
  String.join (strip.map Glyph.symbol)

def blank (width : Nat) (style : Style) : Strip :=
  List.replicate width ⟨" ", 1, style⟩

/-- Single-column symbols in a style. -/
def ofChars (symbols : List Char) (style : Style) : Strip :=
  symbols.map fun c => ⟨c.toString, 1, style⟩

/--
The glyphs that fit, where `room` columns of `width` are left. A glyph wider than the whole width
is passed over, and the first that is wider than the room left ends the line.
-/
def fit (width room : Nat) : Strip → Strip
  | [] => []
  | glyph :: glyphs =>
    if width < glyph.columns then fit width room glyphs
    else if room < glyph.columns then []
    else if glyph.columns = 0 then fit width room glyphs
    else glyph :: fit width (room - glyph.columns) glyphs

/-- The side from which a line starts. -/
inductive Alignment where
  | left
  | right
deriving DecidableEq, Repr

/-- Lays out a line of text over a strip of the given width and style. -/
def ofLine (width : Nat) (alignment : Alignment) (base : Style) (line : List Span) : Strip :=
  let glyphs := fit width width (line.flatMap Span.glyphs)
  let drawn := glyphs.map fun glyph => { glyph with style := glyph.style.above base }
  let space := blank (width - columns drawn) base
  match alignment with
  | .left => drawn ++ space
  | .right => space ++ drawn

/-- The columns of a strip as runs of one style. -/
def runs : Strip → List (Nat × Style)
  | [] => []
  | glyph :: glyphs =>
    match runs glyphs with
    | (length, style) :: more =>
      if style = glyph.style then (glyph.columns + length, style) :: more
      else (glyph.columns, glyph.style) :: (length, style) :: more
    | [] => [(glyph.columns, glyph.style)]

end Strip
end ScriptTree.Screen
