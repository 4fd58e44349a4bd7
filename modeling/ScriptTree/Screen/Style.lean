/-! Styles: the colours and the weight in which text is drawn. -/

namespace ScriptTree.Screen

inductive Color where
  | black
  | rgb (red green blue : Nat)
deriving DecidableEq, Repr

/-- A style; a colour that it leaves open is that of what lies below, or the screen's own. -/
structure Style where
  foreground : Option Color
  background : Option Color
  bold : Bool
deriving DecidableEq, Repr

namespace Style

/-- The style that leaves everything open. -/
def plain : Style :=
  ⟨none, none, false⟩

def text (color : Color) : Style :=
  { plain with foreground := some color }

def boldText (color : Color) : Style :=
  { text color with bold := true }

def on (style : Style) (color : Color) : Style :=
  { style with background := some color }

/-- A style laid above another one. -/
def above (upper lower : Style) : Style where
  foreground := upper.foreground <|> lower.foreground
  background := upper.background <|> lower.background
  bold := upper.bold || lower.bold

end Style
end ScriptTree.Screen
