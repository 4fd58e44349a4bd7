import ScriptTree.Browser.Theme
import ScriptTree.Screen.Picture

/-! The status bar: the place of the selection and a message, and the keys that can be pressed. -/

namespace ScriptTree

open Screen

namespace StatusBar

/-- The place of the selection among the visible rows, and a message. -/
def state (message : String) (selected total : Nat) : List Span :=
  [⟨" Node " ++ toString (selected + 1) ++ "/" ++ toString total ++ " ",
      (Style.boldText .black).on Theme.primary⟩,
   ⟨" | ", (Style.text Theme.comment).on Theme.highlight⟩,
   ⟨" " ++ message ++ " ", (Style.text Theme.text).on Theme.highlight⟩]

def keys : List Span :=
  let key (name : String) : Span := ⟨name, .boldText Theme.secondary⟩
  let action (name : String) : Span := ⟨name, .text Theme.comment⟩
  [key "↑↓", action " move  ", key "Enter", action " fold  ", key "Tab", action " pane  ",
   key "q", action " quit "]

/-- The bar; the left half gets the odd column. -/
def picture (message : String) (selected total width height : Nat) : Picture :=
  let background := Style.plain.on Theme.highlight
  .beside
    (.ofLines ((width + 1) / 2) height .left background [state message selected total])
    (.ofLines (width - (width + 1) / 2) height .right background [keys])

end StatusBar
end ScriptTree
