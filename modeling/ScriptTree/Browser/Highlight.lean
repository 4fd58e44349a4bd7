import ScriptTree.Browser.Theme
import ScriptTree.Screen.Strip
import ScriptTree.Token.Rule

/-!
Highlighting of single lines of source. A line is divided into pieces by a simple scan of its own;
a string that goes on in the next line is highlighted to the end of its first one. The pieces put
together are the line.
-/

namespace ScriptTree

/-- The kinds of pieces that are told apart by colour. -/
inductive PieceKind where
  | keyword
  | constant
  | name
  | string
  | comment
  | bracket
  | sign
deriving DecidableEq, Repr

structure Piece where
  kind : PieceKind
  text : List Char
deriving DecidableEq, Repr

namespace Piece

/-- The words that are drawn as keywords. -/
def keywords : List (List Char) :=
  [['i', 'n', 't'], ['i', 'f'], ['e', 'l', 's', 'e'], ['w', 'h', 'i', 'l', 'e'], ['d', 'o'],
   ['f', 'o', 'r']]

/-- The words that are drawn like numbers. -/
def constants : List (List Char) :=
  [['t', 'r', 'u', 'e'], ['f', 'a', 'l', 's', 'e'], ['n', 'u', 'l', 'l']]

def wordKind (word : List Char) : PieceKind :=
  if word ∈ keywords then .keyword
  else if word ∈ constants then .constant
  else if word.head?.any Char.isDigit then .constant
  else .name

def isBracket (c : Char) : Bool :=
  c == '{' || c == '}' || c == '(' || c == ')'

def style : PieceKind → Screen.Style
  | .keyword => .boldText Theme.keyword
  | .constant => .text Theme.number
  | .name | .sign => .text Theme.text
  | .string => .text Theme.string
  | .comment => .text Theme.comment
  | .bracket => .text Theme.primary

def span (piece : Piece) : Screen.Span :=
  ⟨String.ofList piece.text, style piece.kind⟩

end Piece

/-- The length of what is left behind a quote and the text up to the next one. -/
theorem length_drop_quoted (quote : Char) {close : Char} {cs rest : List Char}
    (dropped : cs.dropWhile (· != quote) = close :: rest) : rest.length < cs.length := by
  have shorter := (List.dropWhile_suffix (l := cs) (· != quote)).length_le
  rw [dropped] at shorter
  exact shorter

def highlight : List Char → List Piece
  | [] => []
  | c :: cs =>
    if CharClass.name.contains c then
      let word := c :: cs.takeWhile CharClass.name.contains
      ⟨Piece.wordKind word, word⟩ :: highlight (cs.dropWhile CharClass.name.contains)
    else if c = '/' ∧ cs.head? = some '/' then [⟨.comment, c :: cs⟩]
    else if c = '"' ∨ c = '\'' then
      match dropped : cs.dropWhile (· != c) with
      | [] => [⟨.string, c :: cs⟩]
      | close :: rest =>
        have := length_drop_quoted c dropped
        ⟨.string, c :: cs.takeWhile (· != c) ++ [close]⟩ :: highlight rest
    else ⟨if Piece.isBracket c then .bracket else .sign, [c]⟩ :: highlight cs
termination_by cs => cs.length
decreasing_by
  · exact Nat.lt_succ_of_le (List.dropWhile_suffix _).length_le
  · exact Nat.lt_succ_of_lt this
  · exact Nat.lt_succ_self _

end ScriptTree
