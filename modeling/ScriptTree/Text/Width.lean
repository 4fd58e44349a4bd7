import ScriptTree.Text.Cluster
import ScriptTree.Text.Traceless

/-!
The number of columns that text takes on a screen: two for wide characters and pictures, none for
line feeds and characters that leave no trace of their own, and one for the rest, other controls
included. Some neighbours in a cluster share their columns: a picture and its selector, tone or
flag, pictures that are joined, and Khmer letters that are written one below the other. The columns
are counted from the end of the cluster, where the characters that change the one in front stand.
-/

namespace ScriptTree.Text

/-- The code points of wide or full East Asian width that are no pictures. -/
def wideRanges : Ranges :=
  [(0x1100, 0x115F), (0x17A4, 0x17A4), (0x2329, 0x232A), (0x2E80, 0x2E99), (0x2E9B, 0x2EF3),
   (0x2F00, 0x2FD5), (0x2FF0, 0x3029), (0x3030, 0x303E), (0x3041, 0x3096), (0x309B, 0x30FF),
   (0x3105, 0x312F), (0x3131, 0x3163), (0x3165, 0x318E), (0x3190, 0x31E3), (0x31EF, 0x321E),
   (0x3220, 0x3247), (0x3250, 0x4DBF), (0x4E00, 0xA48C), (0xA490, 0xA4C6), (0xA960, 0xA97C),
   (0xAC00, 0xD7A3), (0xF900, 0xFAFF), (0xFE10, 0xFE19), (0xFE30, 0xFE52), (0xFE54, 0xFE66),
   (0xFE68, 0xFE6B), (0xFF01, 0xFF60), (0xFFE0, 0xFFE6), (0x16FE0, 0x16FE3), (0x16FF0, 0x16FF1),
   (0x17000, 0x187F7), (0x18800, 0x18CD5), (0x18D00, 0x18D08), (0x1AFF0, 0x1AFF3),
   (0x1AFF5, 0x1AFFB), (0x1AFFD, 0x1AFFE), (0x1B000, 0x1B122), (0x1B132, 0x1B132),
   (0x1B150, 0x1B152), (0x1B155, 0x1B155), (0x1B164, 0x1B167), (0x1B170, 0x1B2FB),
   (0x1F200, 0x1F200), (0x1F202, 0x1F202), (0x1F210, 0x1F219), (0x1F21B, 0x1F22E),
   (0x1F230, 0x1F231), (0x1F237, 0x1F237), (0x1F23B, 0x1F23B), (0x1F240, 0x1F248),
   (0x1F260, 0x1F265), (0x20000, 0x2FFFD), (0x30000, 0x3FFFD)]

/-- The Khmer letters that can be written below another. -/
def khmerLetterRanges : Ranges :=
  [(0x1780, 0x1782), (0x1784, 0x1787), (0x1789, 0x178C), (0x178E, 0x1793), (0x1795, 0x1798),
   (0x179B, 0x179D), (0x17A0, 0x17A0), (0x17A2, 0x17A2), (0x17A7, 0x17A7), (0x17AB, 0x17AC),
   (0x17AF, 0x17AF)]

/-- Joiners, selectors and the like that may stand between a Khmer letter and its sign. -/
def silentRanges : Ranges :=
  [(0x34F, 0x34F), (0x17B4, 0x17B5), (0x180B, 0x180D), (0x180F, 0x180F), (0x200D, 0x200D),
   (0xFE00, 0xFE0F), (0xE0100, 0xE01EF)]

/-- Squares with a word of Chinese or Japanese, which are wide in their plain form too. -/
def squareRanges : Ranges :=
  [(0x1F200, 0x1F2FF)]

/-- The character that asks for the pictorial form of the one before it. -/
def pictureSelector : Char := '\uFE0F'

/-- The character that asks for the plain form of the one before it. -/
def plainSelector : Char := '\uFE0E'

/-- The character that joins pictures. -/
def joiner : Char := '\u200D'

/-- The key drawn around the character before it. -/
def keycap : Char := '\u20E3'

/-- The sign that writes the Khmer letter behind it below the one before it. -/
def khmerSign : Char := '\u17D2'

/-- The flag that tags behind it make the flag of a region. -/
def blackFlag : Char := Char.ofNat 0x1F3F4

/-- The tag that ends the name of a region. -/
def lastTag : Char := Char.ofNat 0xE007F

/-- Whether a character is a letter in the name of a region. -/
def isTagLetter (c : Char) : Bool :=
  0xE0061 ≤ c.toNat && c.toNat ≤ 0xE007A

/-- Whether a character is a digit in the name of a region. -/
def isTagDigit (c : Char) : Bool :=
  0xE0030 ≤ c.toNat && c.toNat ≤ 0xE0039

/-- The number of columns of one character. -/
def columns (c : Char) : Nat :=
  if c = '\n' then 0
  else if c.toNat ≤ 0xA0 then 1
  else if isTraceless c then 0
  else if c.toNat = 0x17D8 then 3
  else if wideRanges.contains c || isPictured c || isTone c then 2
  else 1

/-- What the end of a cluster makes of the character in front of it. -/
inductive Opening where
  /-- Nothing: that character stands beside it. -/
  | plain
  /-- A line feed, which has the carriage return in front of it. -/
  | lineFeed
  /-- A selector of the plain form. -/
  | plainForm
  /-- A selector of the pictorial form, of a character joined to what follows or not. -/
  | pictureForm (joined : Bool)
  /-- A Khmer letter, which may be written below another. -/
  | khmerLetter
  /-- A tone of skin, which a picture takes on. -/
  | tone
  /-- A picture, which may be joined to one in front. -/
  | picture
  /-- A joiner and a picture. -/
  | joined
  /-- A key that is joined to a picture. -/
  | joinedKey
  /-- A regional indicator that is joined to a picture, the second half of a flag. -/
  | joinedIndicator
  /-- The end of a region's name that is joined to a picture: its letters and the digits before. -/
  | region (letters digits : Nat)
deriving DecidableEq, Repr

/-- What one character makes of the character in front of it. -/
def opening (c : Char) : Opening :=
  if c = '\n' then .lineFeed
  else if c = plainSelector then .plainForm
  else if c = pictureSelector then .pictureForm false
  else if isTone c then .tone
  else if isPictured c then .picture
  else if khmerLetterRanges.contains c then .khmerLetter
  else .plain

/-- The end of a cluster: its columns, and what it makes of the character in front of it. -/
structure Extent where
  columns : Nat
  opening : Opening
deriving DecidableEq, Repr

namespace Extent

/-- The end of a cluster behind all its characters. -/
def empty : Extent := ⟨0, .plain⟩

/-- A character beside what follows it. -/
def beside (c : Char) (behind : Extent) : Extent :=
  ⟨Text.columns c + behind.columns, Text.opening c⟩

/-- The name of a region has three to six letters, or three digits and some letters behind them. -/
def namesRegion (letters digits : Nat) : Bool :=
  (digits = 0 && 3 ≤ letters && letters ≤ 6) || digits = 3

/-- A character that shares the columns of what follows it, if it does. -/
def sharing? (c : Char) (behind : Extent) : Option Extent :=
  let ⟨columns, opening⟩ := behind
  match opening with
  | .plain => none
  | .lineFeed => if c = '\r' then some ⟨columns, .plain⟩ else none
  | .plainForm =>
    if isPictured c && hasTwoForms c && !squareRanges.contains c then some ⟨columns + 1, .plain⟩
    else none
  | .pictureForm joined =>
    if hasTwoForms c then some ⟨if joined then columns else columns + 2, .picture⟩ else none
  | .khmerLetter =>
    if c = khmerSign then some ⟨columns - 1, .plain⟩
    else if silentRanges.contains c then some ⟨columns, .khmerLetter⟩
    else none
  | .tone =>
    if isToned c then some ⟨columns, .picture⟩
    else if c = joiner then some ⟨columns, .joined⟩
    else none
  | .picture => if c = joiner then some ⟨columns, .joined⟩ else none
  | .joined =>
    if c = pictureSelector then some ⟨columns, .pictureForm true⟩
    else if c = keycap then some ⟨columns, .joinedKey⟩
    else if c = lastTag then some ⟨columns, .region 0 0⟩
    else if isTone c then some ⟨columns, .tone⟩
    else if isPictured c then some ⟨columns, .picture⟩
    else if isIndicator c then some ⟨columns + 1, .joinedIndicator⟩
    else none
  | .joinedIndicator => if isIndicator c then some ⟨columns - 1, .picture⟩ else none
  | .joinedKey => if c = pictureSelector then some ⟨columns, .pictureForm true⟩ else none
  | .region letters digits =>
    if isTagLetter c && digits = 0 && letters < 6 then some ⟨columns, .region (letters + 1) 0⟩
    else if isTagDigit c && (if digits = 0 then letters ≤ 4 else digits < 3) then
      some ⟨columns, .region letters (digits + 1)⟩
    else if c = blackFlag && namesRegion letters digits then some ⟨columns, .picture⟩
    else none

/-- A character in front of what follows it. -/
def cons (c : Char) (behind : Extent) : Extent :=
  (sharing? c behind).getD (beside c behind)

end Extent

def clusterColumns (cluster : List Char) : Nat :=
  (cluster.foldr Extent.cons Extent.empty).columns

end ScriptTree.Text
