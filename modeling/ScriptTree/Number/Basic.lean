/-!
Numbers as the language stores them: binary floating point with 53 significant bits and a largest
finite value below `2 ^ 1024`. A literal is a row of decimal digits, so every value is a natural
number or infinite.
-/

namespace ScriptTree

inductive Number where
  | finite (value : Nat)
  | infinite
deriving DecidableEq, Repr

namespace Number

/-- Divides by a power of two, rounding to the nearest quotient and a tie to the even one. -/
def roundShift (n shift : Nat) : Nat :=
  let unit := Nat.pow 2 shift
  let quotient := n / unit
  let twice := 2 * (n % unit)
  if twice < unit then quotient
  else if unit < twice then quotient + 1
  else quotient + quotient % 2

/-- The number of low bits beyond the 53 significant ones. -/
def excessBits (n : Nat) : Nat :=
  n.log2 + 1 - 53

/-- The stored value nearest to a natural number; a tie goes to the even significand. -/
def nearest (n : Nat) : Number :=
  if n < Nat.pow 2 53 then finite n
  else
    let rounded := roundShift n (excessBits n) * Nat.pow 2 (excessBits n)
    if rounded < Nat.pow 2 1024 then finite rounded else infinite

/-- The natural number that a row of decimal digits denotes. -/
def digitsValue (digits : List Char) : Nat :=
  digits.foldl (fun value digit => 10 * value + (digit.toNat - '0'.toNat)) 0

/-- The value of a numeral, a non-empty row of decimal digits. -/
def ofNumeral? (numeral : String) : Option Number :=
  let digits := numeral.toList
  if digits ≠ [] ∧ digits.all Char.isDigit then some (nearest (digitsValue digits)) else none

end Number
end ScriptTree
