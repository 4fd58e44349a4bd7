import ScriptTree.Browser.Key
import ScriptTree.Browser.StatusBar
import ScriptTree.Browser.TreeView

/-!
Drawing and sessions. The status bar takes the last row of the screen and the two panes share the
rows above it. Drawing first settles the scroll offsets of both panes. A session draws frames and
presses keys in any order; it draws nothing more once the browser has been left.
-/

namespace ScriptTree.Browser

open Screen

/-- The width of the listing: 45 percent of the screen, rounded to the nearest column. -/
def listingWidth (width : Nat) : Nat :=
  (45 * width + 50) / 100

def paneHeight (height : Nat) : Nat :=
  height - 1

/-- The state after drawing on a screen of the given height. -/
def settle (browser : Browser) (height : Nat) : Browser :=
  { browser with
    sourceScroll :=
      Listing.settle (Text.lines browser.source).length (paneHeight height) browser.sourceScroll
    treeScroll := TreeView.settle browser.selected (paneHeight height) browser.treeScroll }

/-- The screen that shows a settled state. -/
def picture (browser : Browser) (width height : Nat) : Picture :=
  let left := listingWidth width
  let panes := Picture.beside
    (Listing.picture browser.source (browser.focus = .source) left (paneHeight height)
      browser.sourceScroll)
    (TreeView.picture browser.rows browser.folded browser.visible browser.selected
      (browser.focus = .tree) (width - left) (paneHeight height) browser.treeScroll)
  panes ++
    StatusBar.picture browser.status browser.selected browser.visible.length width (min height 1)

/-- Draws one frame, in whatever state the browser is. -/
def render (browser : Browser) (width height : Nat) : Browser × Picture :=
  let settled := browser.settle height
  (settled, settled.picture width height)

/-! ### Sessions -/

/-- What happens in a session: a key is pressed, or a frame is drawn on a screen of some size. -/
inductive Event where
  | key (key : Key)
  | frame (width height : Nat)
deriving DecidableEq, Repr

/-- The frame that a session draws before it waits for a key, if it goes on. -/
def draw (browser : Browser) (width height : Nat) : Browser × Option Picture :=
  if browser.quit then (browser, none)
  else
    let (rendered, picture) := browser.render width height
    (rendered, some picture)

def step (browser : Browser) : Event → Browser
  | .key key => browser.press key
  | .frame width height => (browser.draw width height).1

def run (browser : Browser) (events : List Event) : Browser :=
  events.foldl step browser

end ScriptTree.Browser
