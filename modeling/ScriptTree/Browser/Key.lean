import ScriptTree.Browser.Basic

/-! Keys and what they do. -/

namespace ScriptTree

/-- The keys that can reach the browser. -/
inductive Key where
  | up
  | down
  | left
  | right
  | home
  | endKey
  | enter
  | tab
  | escape
  | char (c : Char)
  /-- Any key that has no meaning here. -/
  | other
deriving DecidableEq, Repr

namespace Browser

/-- Moves one row up in the pane that has the focus. -/
def moveUp (browser : Browser) : Browser :=
  match browser.focus with
  | .source => { browser with sourceScroll := browser.sourceScroll - 1 }
  | .tree => { browser with selected := browser.selected - 1 }

/-- Moves one row down; the listing is held back only when it is drawn. -/
def moveDown (browser : Browser) : Browser :=
  match browser.focus with
  | .source => { browser with sourceScroll := min (browser.sourceScroll + 1) maxScroll }
  | .tree =>
    if browser.selected + 1 < browser.visible.length then
      { browser with selected := browser.selected + 1 }
    else browser

def moveHome (browser : Browser) : Browser :=
  match browser.focus with
  | .source => { browser with sourceScroll := 0 }
  | .tree => { browser with selected := 0 }

def moveEnd (browser : Browser) : Browser :=
  match browser.focus with
  | .source => { browser with sourceScroll := maxScroll }
  | .tree => { browser with selected := browser.visible.length - 1 }

def press (browser : Browser) : Key → Browser
  | .char 'q' | .char 'Q' | .escape => { browser with quit := true }
  | .tab => { browser with focus := browser.focus.other }
  | .up => browser.moveUp
  | .down => browser.moveDown
  | .home => browser.moveHome
  | .endKey => browser.moveEnd
  | .enter | .char ' ' => browser.toggle
  | .left => browser.collapse
  | .right => browser.expand
  | .char _ | .other => browser

end Browser
end ScriptTree
