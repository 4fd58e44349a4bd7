import ScriptTree.Outline.Basic

/-! Rows: an outline written out with one node a line, parents before their children. -/

namespace ScriptTree

/-- One node of an outline and its depth in the tree. -/
structure Row where
  depth : Nat
  field : Option String
  kind : String
  detail : Option String
  hasChildren : Bool
deriving DecidableEq, Repr

namespace Row

/-- What stands before the kind: the field. -/
def fieldText (row : Row) : String :=
  match row.field with
  | none => ""
  | some field => field ++ ": "

/-- What stands behind the kind: the detail. -/
def detailText (row : Row) : String :=
  match row.detail with
  | none => ""
  | some detail => " " ++ detail

/-- The text of a row without indentation. -/
def label (row : Row) : String :=
  row.fieldText ++ row.kind ++ row.detailText

/-- The blanks before a row, two for each level. -/
def indent (row : Row) : String :=
  String.ofList (List.replicate (2 * row.depth) ' ')

def line (row : Row) : String :=
  row.indent ++ row.label ++ "\n"

end Row

mutual

/-- The rows of a node at a depth and of everything below it. -/
def Outline.rows (depth : Nat) : Outline → List Row
  | .node field kind detail children =>
    ⟨depth, field, kind, detail, !children.isEmpty⟩ :: Outline.listRows (depth + 1) children

def Outline.listRows (depth : Nat) : List Outline → List Row
  | [] => []
  | first :: others => first.rows depth ++ Outline.listRows depth others

end

def Program.rows (program : Program) : List Row :=
  program.outline.rows 0

def Program.treeText (program : Program) : String :=
  String.join (program.rows.map Row.line)

end ScriptTree
