import ScriptTree.Text.Blank
import ScriptTree.Text.Mark
import ScriptTree.Text.Unassigned

/-!
Printable characters: those that a reader of quoted text can see and tell apart. Controls, blanks
other than the space, marks, format characters, characters that a reader may ignore, and private
and unassigned code points are not.
-/

namespace ScriptTree.Text

/-- The code points of the general category Cf. -/
def formatRanges : Ranges :=
  [(0xAD, 0xAD), (0x600, 0x605), (0x61C, 0x61C), (0x6DD, 0x6DD), (0x70F, 0x70F), (0x890, 0x891),
   (0x8E2, 0x8E2), (0x180E, 0x180E), (0x200B, 0x200F), (0x202A, 0x202E), (0x2060, 0x2064),
   (0x2066, 0x206F), (0xFEFF, 0xFEFF), (0xFFF9, 0xFFFB), (0x110BD, 0x110BD), (0x110CD, 0x110CD),
   (0x13430, 0x1343F), (0x1BCA0, 0x1BCA3), (0x1D173, 0x1D17A), (0xE0001, 0xE0001),
   (0xE0020, 0xE007F)]

/-- The code points with the property Default_Ignorable_Code_Point. -/
def ignorableRanges : Ranges :=
  [(0xAD, 0xAD), (0x34F, 0x34F), (0x61C, 0x61C), (0x115F, 0x1160), (0x17B4, 0x17B5),
   (0x180B, 0x180F), (0x200B, 0x200F), (0x202A, 0x202E), (0x2060, 0x206F), (0x3164, 0x3164),
   (0xFE00, 0xFE0F), (0xFEFF, 0xFEFF), (0xFFA0, 0xFFA0), (0xFFF0, 0xFFF8), (0x1BCA0, 0x1BCA3),
   (0x1D173, 0x1D17A), (0xE0000, 0xE0FFF)]

/-- The sound marks of half-width katakana, which stand in a column of their own. -/
def standingMarkRanges : Ranges :=
  [(0xFF9E, 0xFF9F)]

/-- The code points for private use. -/
def privateRanges : Ranges :=
  [(0xE000, 0xF8FF), (0xF0000, 0xFFFFD), (0x100000, 0x10FFFD)]

def isControl (c : Char) : Bool :=
  c.toNat < 0x20 || (0x7F ≤ c.toNat && c.toNat < 0xA0)

def isPrintable (c : Char) : Bool :=
  if c.toNat < 0x80 then !isControl c
  else
    !(isControl c || isBlank c || (isMark c && !standingMarkRanges.contains c) ||
      formatRanges.contains c || ignorableRanges.contains c || privateRanges.contains c ||
      isUnassigned c)

end ScriptTree.Text
