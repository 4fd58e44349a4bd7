import ScriptTree.Json.Basic
import ScriptTree.Text.Quoted
import ScriptTree.Proofs.Token.Match

/-! Escapes can be read back. In quoted text as in JSON strings, what is written for a character
tells the character and where the next one begins, and never begins with a quote. So a text between
quotes is known from what is written for it, whatever follows. -/

namespace ScriptTree.Text

/-! ### Hexadecimal digits -/

def hexValue (digit : Char) : Nat :=
  if digit.isDigit then digit.toNat - '0'.toNat else digit.toNat - 'a'.toNat + 10

/-- The number that a row of hexadecimal digits denotes. -/
def hexNumber (digits : List Char) : Nat :=
  digits.foldl (fun value digit => 16 * value + hexValue digit) 0

theorem hexValue_digitChar : ∀ n < 16, hexValue (Nat.digitChar n) = n := by
  decide

theorem hexNumber_hexDigits (n : Nat) : hexNumber (hexDigits n) = n := by
  rw [hexDigits]
  induction n using Nat.strong_induction_on with
  | _ n ih =>
    by_cases single : n < 16
    · rw [Nat.toDigits_of_lt_base single]
      simp [hexNumber, hexValue_digitChar n single]
    · have shorter : n / 16 < n := by omega
      have last : n % 16 < 16 := by omega
      have before := ih (n / 16) shorter
      rw [Nat.toDigits_of_base_le (by decide) (by omega)]
      simp only [hexNumber, List.foldl_append, List.foldl_cons, List.foldl_nil] at before ⊢
      rw [before, hexValue_digitChar _ last]
      omega

theorem not_mem_hexDigits {c : Char} (other : ∀ n < 16, Nat.digitChar n ≠ c) (n : Nat) :
    c ∉ hexDigits n := by
  rw [hexDigits]
  induction n using Nat.strong_induction_on with
  | _ n ih =>
    by_cases single : n < 16
    · rw [Nat.toDigits_of_lt_base single]
      simpa using (other n single).symm
    · have shorter : n / 16 < n := by omega
      have last : n % 16 < 16 := by omega
      rw [Nat.toDigits_of_base_le (by decide) (by omega), List.mem_append, not_or]
      exact ⟨ih _ shorter, by simpa using (other _ last).symm⟩

/-! ### Texts between quotes -/

/-- Reads the character that an escape stands for, and gives what follows; a quote is none. -/
structure Unescapes (escape : Char → List Char)
    (read : List Char → Option (Char × List Char)) : Prop where
  read_escape : ∀ c rest, read (escape c ++ rest) = some (c, rest)
  read_quote : ∀ rest, read ('"' :: rest) = none

/-- Two texts are the same if they are written alike up to the quotes behind them. -/
theorem Unescapes.eq_of_flatMap_eq {escape : Char → List Char}
    {read : List Char → Option (Char × List Char)} (unescapes : Unescapes escape read)
    {first second rest rest' : List Char}
    (same : first.flatMap escape ++ '"' :: rest = second.flatMap escape ++ '"' :: rest') :
    first = second ∧ rest = rest' := by
  induction first generalizing second with
  | nil =>
    cases second with
    | nil => exact ⟨rfl, (List.cons.inj same).2⟩
    | cons d ds =>
      have both := congrArg read same
      rw [List.flatMap_cons, List.append_assoc, unescapes.read_escape] at both
      exact absurd ((unescapes.read_quote rest).symm.trans both) (by simp)
  | cons c cs ih =>
    cases second with
    | nil =>
      have both := congrArg read same
      rw [List.flatMap_cons, List.append_assoc, unescapes.read_escape] at both
      exact absurd (both.trans (unescapes.read_quote rest')) (by simp)
    | cons d ds =>
      have both := congrArg read same
      simp only [List.flatMap_cons, List.append_assoc, unescapes.read_escape, Option.some.injEq,
        Prod.mk.injEq] at both
      obtain ⟨rfl, behind⟩ := both
      obtain ⟨rfl, rfl⟩ := ih behind
      exact ⟨rfl, rfl⟩

/-! ### Quoted text -/

/-- Reads one character of quoted text. -/
def unescape : List Char → Option (Char × List Char)
  | [] => none
  | '"' :: _ => none
  | '\\' :: '0' :: rest => some ('\x00', rest)
  | '\\' :: 't' :: rest => some ('\t', rest)
  | '\\' :: 'r' :: rest => some ('\r', rest)
  | '\\' :: 'n' :: rest => some ('\n', rest)
  | '\\' :: 'u' :: '{' :: rest =>
    some (.ofNat (hexNumber (rest.takeWhile (· != '}'))), (rest.dropWhile (· != '}')).drop 1)
  | '\\' :: c :: rest => some (c, rest)
  | c :: rest => some (c, rest)

theorem unescape_plain {c : Char} (noQuote : c ≠ '"') (noEscape : c ≠ '\\') (rest : List Char) :
    unescape (c :: rest) = some (c, rest) := by
  unfold unescape
  split <;> simp_all

theorem unescape_hexDigits (c : Char) (rest : List Char) :
    unescape ('\\' :: 'u' :: '{' :: (hexDigits c.toNat ++ '}' :: rest)) = some (c, rest) := by
  have inside : '}' ∉ hexDigits c.toNat := not_mem_hexDigits (by decide) _
  have all := all_ne_of_not_mem inside
  have stop : ∀ d ∈ ('}' :: rest).head?, (d != '}') = false := by
    rintro _ ⟨⟩
    rfl
  rw [unescape, takeWhile_append_stop all stop, dropWhile_append_stop all stop,
    hexNumber_hexDigits, Char.ofNat_toNat]
  rfl

theorem unescapes_escapeChar : Unescapes escapeChar unescape where
  read_quote _ := rfl
  read_escape c rest := by
    unfold escapeChar
    split_ifs with zero tab carriage feed quoted printable
    · subst zero
      rfl
    · subst tab
      rfl
    · subst carriage
      rfl
    · subst feed
      rfl
    · simp only [Bool.or_eq_true, decide_eq_true_eq] at quoted
      obtain rfl | rfl := quoted <;> rfl
    · simp only [Bool.or_eq_true, decide_eq_true_eq, not_or] at quoted
      exact unescape_plain quoted.1 quoted.2 rest
    · simpa using unescape_hexDigits c rest

theorem quoted_injective {first second : String} (same : quoted first = quoted second) :
    first = second := by
  have chars := congrArg String.toList same
  simp only [quoted, String.toList_ofList, List.cons_append, List.cons.injEq, true_and] at chars
  exact String.toList_inj.mp (unescapes_escapeChar.eq_of_flatMap_eq chars).1

/-- Quoted text is in one line. -/
theorem not_mem_quoted (text : String) : '\n' ∉ (quoted text).toList := by
  have escaped : ∀ c, '\n' ∉ escapeChar c := by
    intro c
    unfold escapeChar
    split_ifs with zero tab carriage feed quoted printable
    · decide
    · decide
    · decide
    · decide
    · simp only [Bool.or_eq_true, decide_eq_true_eq] at quoted
      obtain rfl | rfl := quoted <;> decide
    · simpa using Ne.symm feed
    · have digits : '\n' ∉ hexDigits c.toNat := not_mem_hexDigits (by decide) _
      simp [digits]
  simp [quoted, escaped]

end ScriptTree.Text

namespace ScriptTree.Json

/-! ### JSON strings -/

/-- Reads one character of a JSON string. -/
def unescape : List Char → Option (Char × List Char)
  | [] => none
  | '"' :: _ => none
  | '\\' :: 'b' :: rest => some ('\x08', rest)
  | '\\' :: 'f' :: rest => some ('\x0c', rest)
  | '\\' :: 'n' :: rest => some ('\n', rest)
  | '\\' :: 'r' :: rest => some ('\r', rest)
  | '\\' :: 't' :: rest => some ('\t', rest)
  | '\\' :: 'u' :: '0' :: '0' :: high :: low :: rest =>
    some (.ofNat (16 * Text.hexValue high + Text.hexValue low), rest)
  | '\\' :: c :: rest => some (c, rest)
  | c :: rest => some (c, rest)

theorem unescape_plain {c : Char} (noQuote : c ≠ '"') (noEscape : c ≠ '\\') (rest : List Char) :
    unescape (c :: rest) = some (c, rest) := by
  unfold unescape
  split <;> simp_all

theorem unescapes_escapeChar : Text.Unescapes escapeChar unescape where
  read_quote _ := rfl
  read_escape c rest := by
    unfold escapeChar
    split_ifs with quoted back form feed carriage tab control
    · simp only [Bool.or_eq_true, decide_eq_true_eq] at quoted
      obtain rfl | rfl := quoted <;> rfl
    · subst back
      rfl
    · subst form
      rfl
    · subst feed
      rfl
    · subst carriage
      rfl
    · subst tab
      rfl
    · have high := Text.hexValue_digitChar (c.toNat / 16) (by omega)
      have low := Text.hexValue_digitChar (c.toNat % 16) (by omega)
      change some (Char.ofNat _, rest) = _
      rw [high, low, Nat.div_add_mod, Char.ofNat_toNat]
    · simp only [Bool.or_eq_true, decide_eq_true_eq, not_or] at quoted
      exact unescape_plain quoted.1 quoted.2 rest

/-- A JSON string is known from its text, whatever follows. -/
theorem eq_of_quote_append_eq {first second : String} {rest rest' : List Char}
    (same : quote first ++ rest = quote second ++ rest') : first = second ∧ rest = rest' := by
  simp only [quote, List.cons_append, List.append_assoc, List.cons.injEq, true_and,
    List.nil_append] at same
  obtain ⟨chars, behind⟩ := unescapes_escapeChar.eq_of_flatMap_eq same
  exact ⟨String.toList_inj.mp chars, behind⟩

end ScriptTree.Json
