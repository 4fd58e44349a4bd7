import ScriptTree.Proofs.Number.Written

/-! Natural numbers up to `2 ^ 53` are stored as themselves, no other number below this bound is
stored as the same value, and they are written with all of their digits. -/

namespace ScriptTree.Number

variable {m n : Nat}

theorem nearest_of_exact (within : n ≤ 2 ^ 53) : nearest n = finite n := by
  obtain small | edge := Nat.lt_or_eq_of_le within
  · exact nearest_of_small small
  · have power : n = 2 ^ 52 * 2 ^ 1 := edge
    have fits : 2 ^ 52 * 2 ^ 1 < Nat.pow 2 1024 := by decide +kernel
    rw [power]
    exact nearest_mul (Nat.le_refl _) (by decide) fits

/-- Rounding does not lead below the bound. -/
theorem le_of_nearest_large (large : 2 ^ 53 ≤ m) (stored : nearest m = finite n) : 2 ^ 53 ≤ n := by
  rw [nearest_of_large large] at stored
  split at stored
  case isFalse => cases stored
  case isTrue =>
    cases stored
    have least : 2 ^ 52 ≤ roundShift m (excessBits m) := by
      have bounds := quotient_bounds large
      obtain down | up := roundShift_cases m (excessBits m) <;> omega
    have excess : 1 ≤ excessBits m := by
      have bits : 53 ≤ m.log2 := (Nat.le_log2 (by omega)).mpr large
      rw [excessBits]
      omega
    calc 2 ^ 53 = 2 ^ 52 * 2 ^ 1 := rfl
      _ ≤ roundShift m (excessBits m) * 2 ^ excessBits m :=
        Nat.mul_le_mul least (Nat.pow_le_pow_right (by decide) excess)

/-- Below the bound a stored value is the value of no other number. -/
theorem eq_of_nearest_small (small : n < 2 ^ 53) (stored : nearest m = finite n) : m = n := by
  obtain below | large := Nat.lt_or_ge m (2 ^ 53)
  · rw [nearest_of_small below] at stored
    exact finite.inj stored
  · have above := le_of_nearest_large large stored
    omega

/-- At the bound itself there are two numbers with the same value. -/
theorem shortest_edge : shortest (2 ^ 53) = 2 ^ 53 := by
  decide +kernel

theorem shortest_of_exact (within : n ≤ 2 ^ 53) : shortest n = n := by
  obtain small | rfl := Nat.lt_or_eq_of_le within
  · rw [shortest]
    cases search : (zeroCounts n).findSome? (candidate? n) with
    | none => rfl
    | some found =>
      obtain ⟨_, _, hit⟩ := List.exists_of_findSome?_eq_some search
      exact eq_of_nearest_small small (nearest_of_candidate? hit)
  · exact shortest_edge

theorem plain_of_exact (within : n ≤ 2 ^ 53) : plain (finite n) = toString n := by
  rw [plain, shortest_of_exact within]

/-- No exponent is needed up to sixteen digits. -/
theorem write_of_exact (style : Style) (within : n ≤ 2 ^ 53) :
    write style (finite n) = toString n ++ ".0" := by
  have short : (Nat.toDigits 10 n).length ≤ 16 :=
    (Nat.length_toDigits_le_iff (by decide) (by decide)).mpr (by omega)
  rw [← shortest_of_exact within] at short
  apply String.toList_inj.mp
  rw [toList_write_short short, shortest_of_exact within, String.toList_append, toList_toString]
  rfl

/-! ### Digits -/

theorem digitsValue_eq (digits : List Char) : digitsValue digits = Nat.ofDigitChars 10 digits 0 :=
  (Nat.ofDigitChars_eq_foldl ..).symm

/-- Zeros in front do not matter: the value is that of the number which the digits denote. -/
theorem ofNumeral?_of_digits {numeral : String} (some : numeral.toList ≠ [])
    (all : numeral.toList.all Char.isDigit = true)
    (within : Nat.ofDigitChars 10 numeral.toList 0 ≤ 2 ^ 53) :
    ofNumeral? numeral = .some (finite (Nat.ofDigitChars 10 numeral.toList 0)) := by
  rw [ofNumeral?, if_pos ⟨some, all⟩, digitsValue_eq, nearest_of_exact within]

end ScriptTree.Number
