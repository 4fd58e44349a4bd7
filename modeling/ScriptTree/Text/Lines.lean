/-! Lines: a line feed, or a carriage return and a line feed, ends a line. -/

namespace ScriptTree.Text

/-- A line whose characters come last first, without a carriage return at its end. -/
def closeLine : List Char → List Char
  | '\r' :: begun => begun.reverse
  | begun => begun.reverse

/-- The lines of a text whose first line has begun; its characters come last first. -/
def linesFrom (begun : List Char) : List Char → List (List Char)
  | [] => if begun.isEmpty then [] else [begun.reverse]
  | c :: cs => if c = '\n' then closeLine begun :: linesFrom [] cs else linesFrom (c :: begun) cs

/-- The lines of a text. Nothing stands behind a line break at its end. -/
def lines (text : String) : List (List Char) :=
  linesFrom [] text.toList

end ScriptTree.Text
