import ScriptTree.Number.Basic

/-!
The shortest numeral of a stored value: of all natural numbers that are stored as this value, one
with the most trailing zeros, and of two such the nearer.
-/

namespace ScriptTree.Number

/-- The multiple of `10 ^ zeros` next to `n` that is stored as `n`, if there is one. -/
def candidate? (n zeros : Nat) : Option Nat :=
  let step := Nat.pow 10 zeros
  let below := n / step * step
  let above := below + step
  if nearest below = finite n then
    if nearest above = finite n ∧ above - n < n - below then some above else some below
  else if nearest above = finite n then some above
  else none

/-- The numbers of trailing zeros worth trying for `n`, the most first. -/
def zeroCounts (n : Nat) : List Nat :=
  (List.range ((Nat.toDigits 10 n).length + 1)).reverse

/-- The natural number whose digits are written for the stored value `n`. -/
def shortest (n : Nat) : Nat :=
  ((zeroCounts n).findSome? (candidate? n)).getD n

theorem nearest_of_candidate? {n zeros found : Nat} (some : candidate? n zeros = some found) :
    nearest found = finite n := by
  unfold candidate? at some
  grind

/-- What is written for a stored value is stored as this value again. -/
theorem nearest_shortest {n : Nat} (stored : nearest n = finite n) :
    nearest (shortest n) = finite n := by
  unfold shortest
  cases search : (zeroCounts n).findSome? (candidate? n) with
  | none => exact stored
  | some found =>
    obtain ⟨_, _, hit⟩ := List.exists_of_findSome?_eq_some search
    exact nearest_of_candidate? hit

end ScriptTree.Number
