import ScriptTree.Proofs.Token.Lexing
import Mathlib.Data.List.Infix

/-! The order of the rules and the length of what they take. Where no digit stands in front, the
first rule that matches takes the longest text, and another rule takes the same text only if it is
that of a keyword and could have been a name. At a digit the order decides otherwise: a number is
read, although a name could go on behind its digits. -/

namespace ScriptTree

/-! ### Two rules at one text -/

namespace Pattern

/-- Texts with one of which all that a pattern takes begins, where there are a few. -/
def beginnings : Pattern → List (List Char)
  | comment => [['/', '/']]
  | pattern => pattern.texts

theorem exists_beginning {pattern : Pattern} {taken : List Char} (few : pattern.beginnings ≠ [])
    (takes : pattern.Takes taken) : ∃ beginning ∈ pattern.beginnings, beginning <+: taken := by
  cases pattern with
  | comment =>
    obtain ⟨line, -, rfl⟩ := takes
    exact ⟨_, List.mem_singleton_self _, line, rfl⟩
  | run | quoted => exact absurd rfl few
  | «exactly» | keyword | operator => exact ⟨taken, takes, List.prefix_rfl⟩

/-- What two patterns take of one text, and the longer of the two begins with the shorter. -/
theorem prefix_of_length_le {first second : Pattern} {cs taken taken' rest rest' : List Char}
    (found : first.split? cs = some (taken, rest))
    (found' : second.split? cs = some (taken', rest'))
    (shorter : taken.length ≤ taken'.length) : taken <+: taken' :=
  List.prefix_of_prefix_length_le ⟨rest, split?_append found⟩ ⟨rest', split?_append found'⟩ shorter

end Pattern

namespace Rule

/-- Whether the first of two rules takes more wherever both match: none of its texts begins a text
of the other. -/
def Outruns (first second : Rule) : Prop :=
  first.pattern.beginnings ≠ [] ∧ second.pattern.texts ≠ [] ∧
    ∀ beginning ∈ first.pattern.beginnings, ∀ text ∈ second.pattern.texts, ¬beginning <+: text

/-- Whether the first of two rules is that of a keyword and the second that of names. -/
def Reserves (first second : Rule) : Prop :=
  first ∈ (rules.drop 8).take 9 ∧ second = ⟨.run .name, some .identifier⟩

instance (first second : Rule) : Decidable (first.Outruns second) :=
  inferInstanceAs (Decidable (_ ∧ _ ∧ _))

instance (first second : Rule) : Decidable (first.Reserves second) :=
  inferInstanceAs (Decidable (_ ∧ _))

variable {first second : Rule} {cs : List Char} {found other : Match}

theorem Outruns.length_lt (outruns : first.Outruns second) (matched : first.match? cs = some found)
    (matched' : second.match? cs = some other) : other.lexeme.length < found.lexeme.length := by
  obtain ⟨few, few', apart⟩ := outruns
  have split := (split?_of_match? matched).1
  have split' := (split?_of_match? matched').1
  have listed := Pattern.mem_texts_of_takes few' (Pattern.takes_of_split? split')
  obtain ⟨beginning, begins, within⟩ :=
    Pattern.exists_beginning few (Pattern.takes_of_split? split)
  apply Nat.lt_of_not_le
  intro shorter
  exact apart beginning begins _ listed
    (within.trans (Pattern.prefix_of_length_le split split' shorter))

/-- Where a keyword is read, a name would be the same word. -/
theorem Reserves.same (reserves : first.Reserves second) (matched : first.match? cs = some found)
    (matched' : second.match? cs = some other) : ∃ word ∈ TokenKind.keywords,
      first.kind = some word ∧ second.kind = some .identifier ∧ other.lexeme = found.lexeme ∧
        String.ofList found.lexeme ∈ word.texts := by
  obtain ⟨listed, rfl⟩ := reserves
  obtain ⟨initial, more, word, rfl, keyword, spelled, named⟩ := exists_keyword first listed
  have split : (Pattern.keyword initial more).split? cs = some (found.lexeme, found.rest) :=
    (split?_of_match? matched).1
  have split' : (Pattern.run .name).split? cs = some (other.lexeme, other.rest) :=
    (split?_of_match? matched').1
  have text : found.lexeme = initial :: more :=
    List.mem_singleton.mp (Pattern.takes_of_split? split)
  have whole := Pattern.split?_append split
  have ends := Pattern.not_name_of_split?_keyword split
  have longest := (Pattern.eq_of_split?_run split').1
  refine ⟨word, keyword, rfl, rfl, ?_, text ▸ spelled⟩
  rw [longest, ← whole, takeWhile_append_stop (text ▸ named) ends]

end Rule

/-! ### All rules -/

/-- Of the rules that can match at a character of ASCII other than a digit, each outruns those
behind it or reserves a word from them. -/
theorem pairwise_of_ascii : ∀ n < 128, (Char.ofNat n).isDigit = false →
    (rules.filter fun rule => rule.pattern.canStart (Char.ofNat n)).Pairwise
      fun first second => first.Outruns second ∨ first.Reserves second := by
  decide +kernel

theorem pairwise_of_canStart {c : Char} (letter : c.isDigit = false) :
    (rules.filter fun rule => rule.pattern.canStart c).Pairwise
      fun first second => first.Outruns second ∨ first.Reserves second := by
  by_cases ascii : c.toNat < 128
  · exact Text.ascii_induction (p := fun c => c.isDigit = false →
      (rules.filter fun rule => rule.pattern.canStart c).Pairwise
        fun first second => first.Outruns second ∨ first.Reserves second)
      pairwise_of_ascii ascii letter
  · have none : (rules.drop 1).filter (fun rule => rule.pattern.canStart c) = [] := by
      rw [List.filter_eq_nil_iff]
      intro rule listed
      rw [not_canStart_of_wide (Nat.le_of_not_lt ascii) rule listed]
      exact Bool.false_ne_true
    have parts : rules = ⟨.run .blank, Option.none⟩ :: rules.drop 1 := rfl
    rw [parts, List.filter_cons, none]
    split
    · exact List.pairwise_singleton ..
    · exact .nil

/-- The first rule that matches a text. -/
def firstRule? (cs : List Char) : Option Rule :=
  rules.find? fun rule => (rule.match? cs).isSome

/-- Where a rule matches, there is a first one, and the rule is this one or stands behind it. -/
theorem exists_firstRule? {cs : List Char} {rule : Rule} {other : Match} (listed : rule ∈ rules)
    (matched : rule.match? cs = some other) : ∃ before first after found,
      rules = before ++ first :: after ∧ firstRule? cs = some first ∧
        first.match? cs = some found ∧ firstMatch? cs = some found ∧
          (rule = first ∨ rule ∈ after) := by
  have some : (firstRule? cs).isSome = true :=
    List.find?_isSome.mpr ⟨rule, listed, by rw [matched]; rfl⟩
  obtain ⟨first, chosen⟩ := Option.isSome_iff_exists.mp some
  obtain ⟨matches_, before, after, parts, skipped⟩ := List.find?_eq_some_iff_append.mp chosen
  obtain ⟨found, matched'⟩ := Option.isSome_iff_exists.mp matches_
  have fails : ∀ earlier ∈ before, earlier.match? cs = none := fun earlier within => by
    simpa using skipped earlier within
  refine ⟨before, first, after, found, parts, chosen, matched', ?_, ?_⟩
  · rw [firstMatch?, parts, List.findSome?_append, List.findSome?_eq_none_iff.mpr fails,
      List.findSome?_cons, matched']
    rfl
  · rw [parts, List.mem_append, List.mem_cons] at listed
    rcases listed with earlier | same | later
    · rw [fails rule earlier] at matched
      cases matched
    · exact .inl same
    · exact .inr later

/-- Where no digit stands in front, a rule behind the first one that matches takes less than this
one, or it reads as a name the word of a keyword. -/
theorem shorter_or_reserved {c : Char} {cs : List Char} (letter : c.isDigit = false)
    {before after : List Rule} {first rule : Rule} {found other : Match}
    (parts : rules = before ++ first :: after) (later : rule ∈ after)
    (matched : first.match? (c :: cs) = some found)
    (matched' : rule.match? (c :: cs) = some other) :
    other.lexeme.length < found.lexeme.length ∨ first.Reserves rule := by
  have ordered := List.pairwise_filter.mp (pairwise_of_canStart letter)
  rw [parts] at ordered
  have behind := List.rel_of_pairwise_cons (List.pairwise_append.mp ordered).2.1 later
  have starts := Pattern.canStart_of_split? (Rule.split?_of_match? matched).1
  have starts' := Pattern.canStart_of_split? (Rule.split?_of_match? matched').1
  rcases behind starts starts' with outruns | reserves
  · exact .inl (outruns.length_lt matched matched')
  · exact .inr reserves

/-- Where no digit stands in front, the first rule that matches takes at least as much as any other,
and another rule takes as much only if the first reads a keyword and the other the same word as a
name. At a digit a number is read, to the last digit in a row. -/
theorem first_match_longest :
    (∀ (c : Char) (cs : List Char), c.isDigit = false →
      ∀ rule ∈ rules, ∀ other, rule.match? (c :: cs) = some other →
        ∃ first found, firstRule? (c :: cs) = some first ∧
          first.match? (c :: cs) = some found ∧ firstMatch? (c :: cs) = some found ∧
          other.lexeme.length ≤ found.lexeme.length ∧
          (rule ≠ first → other.lexeme.length = found.lexeme.length →
            ∃ word ∈ TokenKind.keywords, first.kind = some word ∧ rule.kind = some .identifier ∧
              other.lexeme = found.lexeme ∧ String.ofList found.lexeme ∈ word.texts)) ∧
    ∀ (scanner : Scanner) (c : Char), scanner.rest.head? = some c → c.isDigit = true →
      ∃ digits rest, scanner.rest = digits ++ rest ∧ digits ≠ [] ∧
        digits.all Char.isDigit = true ∧ (∀ d ∈ rest.head?, d.isDigit = false) ∧
        firstMatch? scanner.rest = some ⟨some .number, digits, rest⟩ ∧
        scanner.next = (.ok (some ⟨.number, String.ofList digits⟩),
          scanner.past ⟨some .number, digits, rest⟩) := by
  constructor
  · intro c cs letter rule listed other matched
    obtain ⟨before, first, after, found, parts, chosen, matched', read, place⟩ :=
      exists_firstRule? listed matched
    refine ⟨first, found, chosen, matched', read, ?_⟩
    rcases place with rfl | later
    · cases matched.symm.trans matched'
      exact ⟨Nat.le_refl _, fun different => absurd rfl different⟩
    · rcases shorter_or_reserved letter parts later matched' matched with shorter | reserves
      · exact ⟨Nat.le_of_lt shorter, fun _ same => absurd same (Nat.ne_of_lt shorter)⟩
      · obtain ⟨word, keyword, first_kind, rule_kind, same, spelled⟩ :=
          reserves.same matched' matched
        exact ⟨Nat.le_of_eq (congrArg List.length same),
          fun _ _ => ⟨word, keyword, first_kind, rule_kind, same, spelled⟩⟩
  · intro scanner c head digit
    obtain ⟨cs, shape⟩ := List.head?_eq_some_iff.mp head
    have read := firstMatch?_number shape digit
    refine ⟨_, _, List.takeWhile_append_dropWhile.symm, ?_, List.all_takeWhile,
      stop_of_dropWhile Char.isDigit scanner.rest, read, ?_⟩
    · simp [shape, digit]
    · rw [Scanner.next_of_match read]

/-- A keyword takes as much as a name would, and behind a number a name would go on. -/
theorem first_match_longest_word :
    let cs := ['d', 'o', '+', '1']
    let reserved : Rule := ⟨.keyword 'd' ['o'], some .kwDo⟩
    let name : Rule := ⟨.run .name, some .identifier⟩
    name.match? cs = some ⟨some .identifier, ['d', 'o'], ['+', '1']⟩ ∧
      firstRule? cs = some reserved ∧ firstMatch? cs = some ⟨some .kwDo, ['d', 'o'], ['+', '1']⟩ ∧
      (∃ word ∈ TokenKind.keywords, reserved.kind = some word ∧ "do" ∈ word.texts) ∧
      name.match? "12int".toList = some ⟨some .identifier, "12int".toList, []⟩ ∧
      ∃ digits rest, "12int".toList = digits ++ rest ∧ digits.all Char.isDigit = true ∧
        (∀ d ∈ rest.head?, d.isDigit = false) ∧
        (Scanner.start "12int").next.1 = .ok (some ⟨.number, String.ofList digits⟩) := by
  intro cs reserved name
  have named : name.match? cs = some ⟨some .identifier, ['d', 'o'], ['+', '1']⟩ := by decide
  have first : firstRule? cs = some reserved := by decide
  have read : firstMatch? cs = some ⟨some .kwDo, ['d', 'o'], ['+', '1']⟩ := by decide
  obtain ⟨other, found, chosen, -, read', -, same⟩ :=
    first_match_longest.1 'd' ['o', '+', '1'] (by decide) name (by decide) _ named
  cases chosen.symm.trans first
  cases read'.symm.trans read
  obtain ⟨word, keyword, kind, -, -, spelled⟩ := same (by decide) rfl
  obtain ⟨digits, rest, parts, -, all, stop, -, next⟩ :=
    first_match_longest.2 (.start "12int") '1' (by decide) (by decide)
  exact ⟨named, first, read, ⟨word, keyword, kind, spelled⟩, by decide +kernel, digits, rest, parts,
    all, stop, congrArg Prod.fst next⟩

end ScriptTree
