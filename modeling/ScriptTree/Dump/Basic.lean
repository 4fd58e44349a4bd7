import ScriptTree.Number.Text
import ScriptTree.Text.Quoted

/-!
Dumps: values written out in full, one part a line, each level four spaces further in.
-/

namespace ScriptTree

inductive Dump where
  /-- A value that is written as it is. -/
  | atom (text : String)
  /-- Named parts in braces. -/
  | record (name : String) (fields : List (String × Dump))
  /-- One part in parentheses. -/
  | wrap (name : String) (part : Dump)
  /-- Parts in brackets. -/
  | list (items : List Dump)

namespace Dump

/-- Numbers have no sign in an exponent. -/
def numberStyle : Number.Style :=
  ⟨"e", "inf"⟩

/-- A line break and the indentation of a level. -/
def lineBreak (depth : Nat) : List Char :=
  '\n' :: List.replicate (4 * depth) ' '

mutual

/-- The text of a value that stands at a level, and the text that follows it. -/
def write (depth : Nat) : Dump → List Char → List Char
  | atom text, rest => text.toList ++ rest
  | record name fields, rest =>
    name.toList ++ ' ' :: '{' ::
      writeFields (depth + 1) fields (lineBreak depth ++ '}' :: rest)
  | wrap name part, rest =>
    name.toList ++ '(' :: (lineBreak (depth + 1) ++
      write (depth + 1) part (',' :: (lineBreak depth ++ ')' :: rest)))
  | list [], rest => '[' :: ']' :: rest
  | list (item :: items), rest =>
    '[' :: writeItems (depth + 1) (item :: items) (lineBreak depth ++ ']' :: rest)

/-- The lines of named parts, and the text that follows them. -/
def writeFields (depth : Nat) : List (String × Dump) → List Char → List Char
  | [], rest => rest
  | (name, part) :: fields, rest =>
    lineBreak depth ++ name.toList ++ ':' :: ' ' ::
      write depth part (',' :: writeFields depth fields rest)

/-- The lines of the parts of a list, and the text that follows them. -/
def writeItems (depth : Nat) : List Dump → List Char → List Char
  | [], rest => rest
  | item :: items, rest =>
    lineBreak depth ++ write depth item (',' :: writeItems depth items rest)

end

def text (dump : Dump) : String :=
  String.ofList (dump.write 0 [])

end Dump
end ScriptTree
