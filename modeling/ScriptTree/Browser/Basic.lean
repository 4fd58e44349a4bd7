import ScriptTree.Outline.Fold

/-!
The browser: the outline of a program with one row selected and some rows folded, beside the
source. Keys go to the pane that has the focus.
-/

namespace ScriptTree

inductive Pane where
  | source
  | tree
deriving DecidableEq, Repr

def Pane.other : Pane → Pane
  | source => tree
  | tree => source

def maxScroll : Nat :=
  Nat.pow 2 64 - 1

structure Browser where
  source : String
  /-- All rows of the outline, folded or not. -/
  rows : List Row
  /-- The numbers of the folded rows in increasing order. -/
  folded : List Nat
  /-- The numbers of the rows on display. -/
  visible : List Nat
  /-- The place of the selected row among the visible ones. -/
  selected : Nat
  focus : Pane
  sourceScroll : Nat
  treeScroll : Nat
  quit : Bool
  status : String
deriving DecidableEq, Repr

namespace Browser

/-- A browser on a program with nothing folded. -/
def start (program : Program) (source : String) : Browser where
  source := source
  rows := program.rows
  folded := []
  visible := visibleRows program.rows []
  selected := 0
  focus := .tree
  sourceScroll := 0
  treeScroll := 0
  quit := false
  status := "Ready!"

/-- The number of the selected row, or that of the first if the place is beyond the last. -/
def selectedRow (browser : Browser) : Nat :=
  (browser.visible[browser.selected]?).getD 0

/-- Inserts a number into increasing ones. -/
def insertSorted (n : Nat) : List Nat → List Nat
  | [] => [n]
  | m :: ms => if n ≤ m then n :: m :: ms else m :: insertSorted n ms

/-- Selects a visible row, or leaves the selection if it is not visible. -/
def select (browser : Browser) (row : Nat) : Browser :=
  match browser.visible.idxOf? row with
  | some position => { browser with selected := position }
  | none => browser

/-- Changes which rows are folded and keeps the same row selected, or the first if it is hidden. -/
def refold (browser : Browser) (folded : List Nat) (verb : String) : Browser :=
  let row := browser.selectedRow
  let shown := visibleRows browser.rows folded
  let kind := (browser.rows[row]?.map Row.kind).getD ""
  { browser with
    folded
    visible := shown
    selected := (shown.idxOf? row).getD 0
    status := verb ++ " " ++ kind }

/-- The nearest row before this one that is less deep: its parent in the tree. -/
def parent? (rows : List Row) (row : Nat) : Option Nat := do
  let child ← rows[row]?
  (List.range row).reverse.find? fun index =>
    rows[index]?.any fun candidate => candidate.depth < child.depth

def hasChildren (browser : Browser) (row : Nat) : Bool :=
  browser.rows[row]?.any Row.hasChildren

/-- Folds the selected row; where there is nothing to fold, goes to its parent. -/
def collapse (browser : Browser) : Browser :=
  let row := browser.selectedRow
  if browser.hasChildren row ∧ row ∉ browser.folded then
    browser.refold (insertSorted row browser.folded) "Folded"
  else
    match parent? browser.rows row with
    | some parent => browser.select parent
    | none => browser

def expand (browser : Browser) : Browser :=
  let row := browser.selectedRow
  if row ∈ browser.folded then browser.refold (browser.folded.erase row) "Unfolded"
  else browser

def toggle (browser : Browser) : Browser :=
  if browser.selectedRow ∈ browser.folded then browser.expand else browser.collapse

end Browser
end ScriptTree
