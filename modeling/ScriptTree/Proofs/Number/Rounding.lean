import ScriptTree.Number.Text
import Mathlib.Algebra.Group.Nat.Defs

/-! Which numbers are stored exactly. A stored value is stored as itself, and the digits that are
written for it denote it. -/

namespace ScriptTree.Number

theorem log2_mul_two_pow {significand bits : Nat} (shift : Nat) (low : 2 ^ bits ≤ significand)
    (high : significand < 2 ^ (bits + 1)) : (significand * 2 ^ shift).log2 = bits + shift := by
  have positive : 0 < significand * 2 ^ shift :=
    Nat.mul_pos (Nat.lt_of_lt_of_le (Nat.two_pow_pos bits) low) (Nat.two_pow_pos shift)
  apply (Nat.log2_eq_iff (by omega)).mpr
  constructor
  · calc
      2 ^ (bits + shift) = 2 ^ bits * 2 ^ shift := Nat.pow_add ..
      _ ≤ significand * 2 ^ shift := Nat.mul_le_mul_right _ low
  · calc
      significand * 2 ^ shift < 2 ^ (bits + 1) * 2 ^ shift :=
        Nat.mul_lt_mul_of_pos_right high (Nat.two_pow_pos shift)
      _ = 2 ^ (bits + shift + 1) := by
        rw [← Nat.pow_add]
        congr 1
        omega

/-- A full significand has as many excess bits as it is shifted. -/
theorem excessBits_mul {significand : Nat} (shift : Nat) (low : 2 ^ 52 ≤ significand)
    (high : significand < 2 ^ 53) : excessBits (significand * 2 ^ shift) = shift := by
  rw [excessBits, log2_mul_two_pow shift low high]
  omega

theorem roundShift_mul (quotient shift : Nat) :
    roundShift (quotient * 2 ^ shift) shift = quotient := by
  have positive : 0 < 2 ^ shift := Nat.two_pow_pos shift
  simp only [roundShift, Nat.pow_eq, Nat.mul_mod_left, Nat.mul_zero,
    Nat.mul_div_cancel _ positive, positive, if_true]

theorem roundShift_cases (n shift : Nat) :
    roundShift n shift = n / 2 ^ shift ∨ roundShift n shift = n / 2 ^ shift + 1 := by
  simp only [roundShift, Nat.pow_eq]
  grind

theorem nearest_of_small {n : Nat} (small : n < 2 ^ 53) : nearest n = finite n :=
  if_pos small

theorem nearest_of_large {n : Nat} (large : 2 ^ 53 ≤ n) :
    nearest n =
      if roundShift n (excessBits n) * 2 ^ excessBits n < Nat.pow 2 1024 then
        finite (roundShift n (excessBits n) * 2 ^ excessBits n)
      else infinite :=
  if_neg (Nat.not_lt.mpr large)

/-- A number of at most 53 significant bits is stored exactly. -/
theorem nearest_mul {significand shift : Nat} (low : 2 ^ 52 ≤ significand)
    (high : significand < 2 ^ 53) (fits : significand * 2 ^ shift < Nat.pow 2 1024) :
    nearest (significand * 2 ^ shift) = finite (significand * 2 ^ shift) := by
  by_cases small : significand * 2 ^ shift < 2 ^ 53
  · exact nearest_of_small small
  · rw [nearest_of_large (Nat.not_lt.mp small), excessBits_mul shift low high, roundShift_mul,
      if_pos fits]

/-- The quotient that is rounded has 53 bits. -/
theorem quotient_bounds {n : Nat} (large : 2 ^ 53 ≤ n) :
    2 ^ 52 ≤ n / 2 ^ excessBits n ∧ n / 2 ^ excessBits n < 2 ^ 53 := by
  have nonzero : n ≠ 0 := by omega
  have bits : 53 ≤ n.log2 := (Nat.le_log2 nonzero).mpr large
  have positive : 0 < 2 ^ excessBits n := Nat.two_pow_pos _
  have split : n.log2 = 52 + excessBits n := by
    rw [excessBits]
    omega
  constructor
  · rw [Nat.le_div_iff_mul_le positive, ← Nat.pow_add, ← split]
    exact Nat.log2_self_le nonzero
  · rw [Nat.div_lt_iff_lt_mul positive, ← Nat.pow_add]
    rw [show 53 + excessBits n = n.log2 + 1 by omega]
    exact Nat.lt_log2_self

/-- A stored value is stored as itself. -/
theorem nearest_of_stored {n value : Nat} (stored : nearest n = finite value) :
    nearest value = finite value := by
  by_cases small : n < 2 ^ 53
  · rw [nearest_of_small small] at stored
    cases stored
    exact nearest_of_small small
  · have large := Nat.not_lt.mp small
    obtain ⟨low, high⟩ := quotient_bounds large
    rw [nearest_of_large large] at stored
    split at stored
    case isFalse => cases stored
    case isTrue fits =>
      cases stored
      by_cases full : roundShift n (excessBits n) < 2 ^ 53
      · have least : 2 ^ 52 ≤ roundShift n (excessBits n) := by
          obtain down | up := roundShift_cases n (excessBits n) <;> omega
        exact nearest_mul least full fits
      · -- Rounding up has carried into a further bit.
        have carried : roundShift n (excessBits n) = 2 ^ 53 := by
          obtain down | up := roundShift_cases n (excessBits n) <;> omega
        have double : 2 ^ 53 * 2 ^ excessBits n = 2 ^ 52 * 2 ^ (excessBits n + 1) := by
          rw [← Nat.pow_add, ← Nat.pow_add]
          congr 1
          omega
        rw [carried, double] at fits ⊢
        exact nearest_mul (Nat.le_refl _) (by decide) fits

theorem digitsValue_toDigits (n : Nat) : digitsValue (Nat.toDigits 10 n) = n := by
  rw [digitsValue, ← Nat.ofDigitChars_eq_foldl, Nat.ofDigitChars_ten_toDigits]

theorem isDigit_of_mem {c : Char} {n : Nat} (listed : c ∈ Nat.toDigits 10 n) :
    c.isDigit = true :=
  Nat.isDigit_of_mem_toDigits (by decide) (by decide) listed

theorem toList_toString (n : Nat) : (toString n).toList = Nat.toDigits 10 n := by
  simp [Nat.toString_eq_repr, Nat.repr]

theorem ofNumeral?_toString (n : Nat) : ofNumeral? (toString n) = some (nearest n) := by
  have digits : (Nat.toDigits 10 n).all Char.isDigit :=
    List.all_eq_true.mpr fun _ => isDigit_of_mem
  simp only [ofNumeral?, toList_toString, digits, and_true, digitsValue_toDigits, ne_eq,
    Nat.toDigits_ne_nil, not_false_eq_true, if_true]

/-- What a row of digits denotes is stored as itself. -/
theorem nearest_of_ofNumeral? {numeral : String} {value : Nat}
    (denoted : ofNumeral? numeral = some (finite value)) : nearest value = finite value := by
  simp only [ofNumeral?] at denoted
  split at denoted
  · exact nearest_of_stored (Option.some.inj denoted)
  · cases denoted

/-- The digits that are written for a finite value denote it. -/
theorem ofNumeral?_plain {numeral : String} {value : Nat}
    (denoted : ofNumeral? numeral = some (finite value)) :
    ofNumeral? (plain (finite value)) = some (finite value) := by
  rw [plain, ofNumeral?_toString, nearest_shortest (nearest_of_ofNumeral? denoted)]

end ScriptTree.Number
