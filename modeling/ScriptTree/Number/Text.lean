import ScriptTree.Number.Shortest

/-!
The written forms of numbers. Plain text has all digits. The other formats mark a number as
fractional: `.0` follows up to sixteen digits, and longer ones are written with an exponent.
-/

namespace ScriptTree.Number

/-- All digits of a number, and never an exponent. -/
def plain : Number → String
  | finite value => toString (shortest value)
  | infinite => "inf"

/-- The decisions in which the formats with an exponent differ. -/
structure Style where
  /-- What stands between the significand and the exponent. -/
  exponentMark : String
  /-- What stands for an infinite number. -/
  infinite : String

/-- Removes the zeros at the end of a row of digits. -/
def trimZeros (digits : List Char) : List Char :=
  (digits.reverse.dropWhile (· == '0')).reverse

/-- One digit, and a point before the others if there are any. -/
def significand : List Char → String
  | [] => ""
  | [digit] => String.singleton digit
  | digit :: more => String.ofList (digit :: '.' :: more)

/-- Writes a number with `.0` or with an exponent. -/
def write (style : Style) : Number → String
  | infinite => style.infinite
  | finite value =>
    let digits := Nat.toDigits 10 (shortest value)
    if digits.length ≤ 16 then String.ofList digits ++ ".0"
    else
      significand (trimZeros digits) ++ style.exponentMark ++ toString (digits.length - 1)

end ScriptTree.Number
