import ScriptTree.Outline.Row

/-! Folding: a folded row stays visible and hides the rows below it in the tree. -/

namespace ScriptTree

/-- Whether a row lies deeper than a folded row in front of it. -/
def Row.isBelow (row : Row) : Option Nat → Bool
  | none => false
  | some depth => depth < row.depth

/--
The visible ones of the rows that are numbered from `index` on, where the rows deeper than
`folding` are hidden up to the first that is not.
-/
def visibleFrom (folded : List Nat) (index : Nat) (folding : Option Nat) :
    List Row → List Nat
  | [] => []
  | row :: rows =>
    if row.isBelow folding then visibleFrom folded (index + 1) folding rows
    else
      let hides := folded.contains index && row.hasChildren
      index :: visibleFrom folded (index + 1) (if hides then some row.depth else none) rows

/-- The numbers of the rows that stay visible when some rows are folded. -/
def visibleRows (rows : List Row) (folded : List Nat) : List Nat :=
  visibleFrom folded 0 none rows

end ScriptTree
