import ScriptTree.Screen.Style

/-! The colours of the browser. -/

namespace ScriptTree.Theme

open Screen

/-- Names, operators and messages. -/
def text : Color := .rgb 0xCD 0xD6 0xF4

/-- Brackets, and the place of the selection. -/
def primary : Color := .rgb 0x89 0xB4 0xFA

/-- Details of nodes, and keys. -/
def secondary : Color := .rgb 0xFA 0xB3 0x87

/-- Comments, line numbers and other remarks. -/
def comment : Color := .rgb 0x6C 0x70 0x86

def keyword : Color := primary

def number : Color := secondary

def string : Color := .rgb 0xA6 0xE3 0xA1

/-- The frame of the pane that has the focus. -/
def focusedFrame : Color := .rgb 0xF9 0xE2 0xAF

/-- The frame of any other pane. -/
def frame : Color := comment

/-- The background of the selected row and of the status bar. -/
def highlight : Color := .rgb 0x32 0x32 0x46

def nodeKind : Color := .rgb 0x94 0xE2 0xD5

def fieldName : Color := .rgb 0xB4 0xA5 0x78

def frameStyle (focused : Bool) : Style :=
  if focused then .boldText focusedFrame else .text frame

end ScriptTree.Theme
