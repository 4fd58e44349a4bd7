import ScriptTree.Proofs.Number.Rounding
import ScriptTree.Proofs.Token.Match

/-! A stored value is known from what is written for it: from all of its digits, and also from the
forms with a point or an exponent. -/

namespace ScriptTree.Number

/-- A value that is stored as it is. -/
def Stored (value : Nat) : Prop :=
  nearest value = finite value

theorem shortest_injective {m n : Nat} (first : Stored m) (second : Stored n)
    (same : shortest m = shortest n) : m = n :=
  finite.inj <| calc
    finite m = nearest (shortest m) := (nearest_shortest first).symm
    _ = nearest (shortest n) := congrArg nearest same
    _ = finite n := nearest_shortest second

theorem toDigits_injective {m n : Nat} (same : Nat.toDigits 10 m = Nat.toDigits 10 n) : m = n := by
  rw [← digitsValue_toDigits m, same, digitsValue_toDigits]

/-! ### Significands -/

theorem exists_zeros (digits : List Char) :
    ∃ count, digits = trimZeros digits ++ List.replicate count '0' := by
  have split := List.takeWhile_append_dropWhile (p := (· == '0')) (l := digits.reverse)
  have zeros : digits.reverse.takeWhile (· == '0') =
      List.replicate (digits.reverse.takeWhile (· == '0')).length '0' := by
    refine List.eq_replicate_iff.mpr ⟨rfl, fun c listed => ?_⟩
    simpa using List.all_eq_true.mp List.all_takeWhile c listed
  refine ⟨(digits.reverse.takeWhile (· == '0')).length, ?_⟩
  rw [← List.reverse_replicate, ← zeros, trimZeros, ← List.reverse_append, split,
    List.reverse_reverse]

/-- Digits are known from those in front of their last zeros, and from their number. -/
theorem eq_of_trimZeros_eq {digits digits' : List Char}
    (trimmed : trimZeros digits = trimZeros digits') (length : digits.length = digits'.length) :
    digits = digits' := by
  obtain ⟨count, zeros⟩ := exists_zeros digits
  obtain ⟨count', zeros'⟩ := exists_zeros digits'
  have counts := length
  rw [zeros, zeros', trimmed, List.length_append, List.length_append, List.length_replicate,
    List.length_replicate] at counts
  rw [zeros, zeros', trimmed, Nat.add_left_cancel counts]

theorem mem_of_mem_trimZeros {c : Char} {digits : List Char} (listed : c ∈ trimZeros digits) :
    c ∈ digits := by
  rw [trimZeros, List.mem_reverse] at listed
  exact List.mem_reverse.mp ((List.dropWhile_suffix _).subset listed)

theorem toList_significand (first second : Char) (more : List Char) :
    (significand (first :: second :: more)).toList = first :: '.' :: second :: more :=
  String.toList_ofList

/-- A significand is its digits and perhaps a point. -/
theorem filter_significand {digits : List Char} (pointless : '.' ∉ digits) :
    (significand digits).toList.filter (· != '.') = digits := by
  have digitsOnly : digits.filter (· != '.') = digits := by
    refine List.filter_eq_self.mpr fun c listed => ?_
    simpa using ne_of_mem_of_not_mem listed pointless
  match digits with
  | [] => rfl
  | [digit] => simpa [significand] using digitsOnly
  | first :: second :: more =>
    rw [toList_significand, List.filter_cons, List.filter_cons]
    simpa [List.filter_cons] using digitsOnly

theorem mem_significand {c : Char} {digits : List Char}
    (listed : c ∈ (significand digits).toList) : c ∈ digits ∨ c = '.' := by
  match digits with
  | [] => cases listed
  | [digit] => exact .inl (by simpa [significand] using listed)
  | first :: second :: more =>
    rw [toList_significand, List.mem_cons, List.mem_cons] at listed
    obtain rfl | rfl | listed := listed
    · exact .inl List.mem_cons_self
    · exact .inr rfl
    · exact .inl (List.mem_cons_of_mem _ listed)

/-! ### Forms with a point or an exponent -/

variable {style : Style} {n : Nat}

theorem toList_write_short (short : (Nat.toDigits 10 (shortest n)).length ≤ 16) :
    (write style (finite n)).toList = Nat.toDigits 10 (shortest n) ++ ['.', '0'] := by
  rw [write]
  rw [if_pos short, String.toList_append, String.toList_ofList]
  rfl

theorem toList_write_long {sign : List Char} (mark : style.exponentMark.toList = 'e' :: sign)
    (long : ¬(Nat.toDigits 10 (shortest n)).length ≤ 16) :
    (write style (finite n)).toList =
      (significand (trimZeros (Nat.toDigits 10 (shortest n)))).toList ++
        'e' :: (sign ++ Nat.toDigits 10 ((Nat.toDigits 10 (shortest n)).length - 1)) := by
  rw [write]
  rw [if_neg long, String.toList_append, String.toList_append, mark, toList_toString]
  simp

/-- What stands in front of an exponent. -/
theorem mem_significand_trimZeros {c : Char}
    (listed : c ∈ (significand (trimZeros (Nat.toDigits 10 n))).toList) :
    c.isDigit = true ∨ c = '.' :=
  (mem_significand listed).imp_left fun digit => isDigit_of_mem (mem_of_mem_trimZeros digit)

theorem all_significand_ne_mark :
    (significand (trimZeros (Nat.toDigits 10 n))).toList.all (· != 'e') = true := by
  refine all_ne_of_not_mem fun listed => ?_
  obtain digit | point := mem_significand_trimZeros listed
  · exact absurd digit (by decide)
  · exact absurd point (by decide)

theorem mark_not_mem_short (style : Style) (short : (Nat.toDigits 10 (shortest n)).length ≤ 16) :
    'e' ∉ (write style (finite n)).toList := by
  rw [toList_write_short short, List.mem_append, not_or]
  exact ⟨fun listed => absurd (isDigit_of_mem listed) (by decide), by decide⟩

/-- A stored value is known from its form with a point or an exponent. -/
theorem write_injective {m n : Nat} {sign : List Char} (first : Stored m) (second : Stored n)
    (mark : style.exponentMark.toList = 'e' :: sign)
    (same : write style (finite m) = write style (finite n)) : m = n := by
  refine shortest_injective first second (toDigits_injective ?_)
  have chars := congrArg String.toList same
  by_cases short : (Nat.toDigits 10 (shortest m)).length ≤ 16 <;>
    by_cases short' : (Nat.toDigits 10 (shortest n)).length ≤ 16
  · rw [toList_write_short short, toList_write_short short'] at chars
    exact List.append_cancel_right chars
  · -- Only the second form has an exponent.
    refine absurd ?_ (mark_not_mem_short style short)
    simp [chars, toList_write_long mark short']
  · refine absurd ?_ (mark_not_mem_short style short')
    simp [← chars, toList_write_long mark short]
  · rw [toList_write_long mark short, toList_write_long mark short'] at chars
    have stop (digits : List Char) : ∀ c ∈ ('e' :: digits).head?, (c != 'e') = false := by
      rintro _ ⟨⟩
      rfl
    obtain ⟨significands, exponents⟩ := run_append_injective all_significand_ne_mark
      all_significand_ne_mark (stop _) (stop _) chars
    have pointless (k : Nat) : '.' ∉ trimZeros (Nat.toDigits 10 k) := fun listed =>
      absurd (isDigit_of_mem (mem_of_mem_trimZeros listed)) (by decide)
    refine eq_of_trimZeros_eq ?_ ?_
    · rw [← filter_significand (pointless (shortest m)), significands,
        filter_significand (pointless (shortest n))]
    · have counts := toDigits_injective (List.append_cancel_left (List.cons.inj exponents).2)
      omega

/-- Every character of a written value is a digit, a point or part of the mark of an exponent. -/
theorem mem_write {c : Char} {sign : List Char} (mark : style.exponentMark.toList = 'e' :: sign)
    (listed : c ∈ (write style (finite n)).toList) :
    c.isDigit = true ∨ c = '.' ∨ c ∈ 'e' :: sign := by
  by_cases short : (Nat.toDigits 10 (shortest n)).length ≤ 16
  · rw [toList_write_short short, List.mem_append] at listed
    obtain digit | fraction := listed
    · exact .inl (isDigit_of_mem digit)
    · obtain rfl | zero := List.mem_cons.mp fraction
      · exact .inr (.inl rfl)
      · rw [List.mem_singleton.mp zero]
        exact .inl rfl
  · rw [toList_write_long mark short, List.mem_append, ← List.cons_append,
      List.mem_append] at listed
    obtain before | mark | exponent := listed
    · exact (mem_significand_trimZeros before).imp_right .inl
    · exact .inr (.inr mark)
    · exact .inl (isDigit_of_mem exponent)

end ScriptTree.Number
