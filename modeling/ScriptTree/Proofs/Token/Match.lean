import ScriptTree.Proofs.Token.Spelling
import Mathlib.Tactic.FinCases

/-! What the first lexical rule that matches takes. A match that names a kind takes a text of this
kind, and a name that is spelled like a keyword stands only in front of a character that starts no
token. In turn, a proper token in front of a blank is read as it is. -/

namespace ScriptTree

/-! ### Characters -/

namespace Text

/-- What holds of the first 128 characters one by one holds of all characters of ASCII. -/
theorem ascii_induction {p : Char → Prop} (each : ∀ n < 128, p (Char.ofNat n)) {c : Char}
    (ascii : c.toNat < 128) : p c := by
  have := each c.toNat ascii
  rwa [Char.ofNat_toNat] at this

theorem blankRanges_disjoint : (blankRanges.all fun blank =>
    wordRanges.all fun word => blank.2 < word.1 || word.2 < blank.1) = true := by
  decide +kernel

/-- No blank is part of a word. -/
theorem isWordChar_of_isBlank {c : Char} (blank : isBlank c = true) : isWordChar c = false := by
  by_cases ascii : c.toNat < 0x80
  · have each : ∀ n < 128, isBlank (Char.ofNat n) = true → isWordChar (Char.ofNat n) = false := by
      decide
    exact ascii_induction (p := fun c => isBlank c = true → isWordChar c = false) each ascii blank
  · rw [isWordChar, if_neg ascii]
    apply Bool.eq_false_iff.mpr
    intro word
    obtain ⟨range, listed, above, below⟩ := Ranges.contains_iff.mp blank
    obtain ⟨range', listed', above', below'⟩ := Ranges.contains_iff.mp word
    have apart := List.all_eq_true.mp (List.all_eq_true.mp blankRanges_disjoint range listed)
      range' listed'
    simp only [Bool.or_eq_true, decide_eq_true_eq] at apart
    omega

end Text

namespace CharClass

theorem toNat_of_name {c : Char} (named : name.contains c = true) : c.toNat < 128 := by
  simp only [contains, Char.isAlphanum, Bool.or_eq_true, beq_iff_eq] at named
  rcases named with (letter | digit) | rfl
  · have range := Text.isAlpha_iff.mp letter
    omega
  · have range := Text.isDigit_iff.mp digit
    omega
  · decide

theorem isWordChar_of_name {c : Char} (named : name.contains c = true) :
    Text.isWordChar c = true := by
  rw [Text.isWordChar, if_pos (toNat_of_name named)]
  exact named

theorem name_of_digit {c : Char} (digit : CharClass.digit.contains c = true) :
    name.contains c = true := by
  simp only [contains] at digit
  simp [contains, Char.isAlphanum, digit]

theorem not_blank_of_name {c : Char} (named : name.contains c = true) :
    blank.contains c = false := by
  apply Bool.eq_false_iff.mpr
  intro blank
  have outside := Text.isWordChar_of_isBlank blank
  rw [isWordChar_of_name named] at outside
  cases outside

/-- A word character that no name contains lies outside ASCII. -/
theorem toNat_of_isWordChar {c : Char} (word : Text.isWordChar c = true)
    (unnamed : name.contains c = false) : 128 ≤ c.toNat := by
  apply Nat.le_of_not_lt
  intro ascii
  rw [Text.isWordChar, if_pos ascii] at word
  exact absurd (word.symm.trans unnamed) (by decide)

end CharClass

/-! ### Rules that cannot match -/

namespace Pattern

/-- Whether a pattern can match a text with this first character. -/
def canStart : Pattern → Char → Bool
  | run chars, c => chars.contains c
  | comment, c => c == '/'
  | exactly first _, c | keyword first _, c => c == first
  | operator first _, c => first.contains c
  | quoted quote, c => c == quote

theorem split?_of_not_canStart {pattern : Pattern} {c : Char} (cs : List Char)
    (fails : pattern.canStart c = false) : pattern.split? (c :: cs) = none := by
  cases pattern with
  | run chars => simp_all [canStart, split?]
  | comment =>
    simp only [canStart, beq_eq_false_iff_ne] at fails
    simp [split?, fails]
  | «exactly» first more =>
    simp only [canStart, beq_eq_false_iff_ne] at fails
    simp [split?, strip?, fails.symm]
  | keyword first more =>
    simp only [canStart, beq_eq_false_iff_ne] at fails
    simp [split?, strip?, fails.symm]
  | operator first equals => simp_all [canStart, split?]
  | quoted quote => simp_all [canStart, split?]

theorem canStart_of_split? {pattern : Pattern} {c : Char} {cs lexeme rest : List Char}
    (found : pattern.split? (c :: cs) = some (lexeme, rest)) : pattern.canStart c = true := by
  apply Bool.of_not_eq_false
  intro fails
  rw [split?_of_not_canStart cs fails] at found
  cases found

theorem split?_of_forall_not_canStart {before : List Rule} {c : Char} (cs : List Char)
    (fails : ∀ rule ∈ before, rule.pattern.canStart c = false) :
    ∀ rule ∈ before, rule.pattern.split? (c :: cs) = none :=
  fun rule listed => split?_of_not_canStart cs (fails rule listed)

end Pattern

/-- Beyond ASCII only blanks begin what a rule takes. -/
theorem not_canStart_of_wide {c : Char} (wide : 128 ≤ c.toNat) :
    ∀ rule ∈ rules.drop 1, rule.pattern.canStart c = false := by
  have unnamed : CharClass.name.contains c = false := by
    apply Bool.eq_false_iff.mpr
    intro named
    have := CharClass.toNat_of_name named
    omega
  have digit : CharClass.digit.contains c = false := by
    apply Bool.eq_false_iff.mpr
    intro digit
    rw [CharClass.name_of_digit digit] at unnamed
    cases unnamed
  have other (d : Char) (ascii : d.toNat < 128) : c ≠ d := by
    rintro rfl
    omega
  simp [rules, Pattern.canStart, other, digit, unnamed]

/-- A word character that no name contains starts no token. -/
theorem firstMatch?_of_not_name {c : Char} (cs : List Char) (word : Text.isWordChar c = true)
    (unnamed : CharClass.name.contains c = false) : firstMatch? (c :: cs) = none := by
  have visible : CharClass.blank.contains c = false := by
    apply Bool.eq_false_iff.mpr
    intro blank
    rw [Text.isWordChar_of_isBlank blank] at word
    cases word
  have fails : ∀ rule ∈ rules, rule.pattern.canStart c = false :=
    List.forall_mem_cons.mpr
      ⟨visible, not_canStart_of_wide (CharClass.toNat_of_isWordChar word unnamed)⟩
  rw [firstMatch?, List.findSome?_eq_none_iff]
  intro rule listed
  rw [Rule.match?, Pattern.split?_of_not_canStart cs (fails rule listed)]
  rfl

/-! ### Texts that are read as tokens -/

/-- Text in front of which a token ends: none, or one that begins with a blank. -/
def Apart (rest : List Char) : Prop :=
  ∀ c ∈ rest.head?, Text.isBlank c = true

theorem Apart.head_ne {rest : List Char} (apart : Apart rest) {c : Char}
    (visible : Text.isBlank c = false) : rest.head? ≠ some c := by
  intro head
  rw [apart c head] at visible
  cases visible

theorem Apart.wordEnds {rest : List Char} (apart : Apart rest) :
    Pattern.wordEnds rest = true := by
  cases rest with
  | nil => rfl
  | cons c cs => simp [Pattern.wordEnds, Text.isWordChar_of_isBlank (apart c rfl)]

theorem Apart.not_name {rest : List Char} (apart : Apart rest) :
    ∀ c ∈ rest.head?, CharClass.name.contains c = false := by
  intro c head
  apply Bool.eq_false_iff.mpr
  intro named
  have visible := CharClass.not_blank_of_name named
  exact absurd ((apart c head).symm.trans visible) (by decide)

/-- No character with which a fixed text begins is blank. -/
theorem not_blank_of_symbol : ∀ c ∈ ['{', '}', '(', ')', ';', ',', 'i', 'e', 't', 'f', 'n', 'w',
    'd', '=', '!', '+', '-', '*', '/', '<', '>', '&', '|', '"', '\''], Text.isBlank c = false := by
  intro c listed
  fin_cases listed <;> rfl

/-- A keyword is read where its word ends. -/
theorem firstMatch?_keyword {word : TokenKind} {text : String} {rest : List Char}
    (keyword : word ∈ TokenKind.keywords) (listed : text ∈ word.texts)
    (ends : Pattern.wordEnds rest = true) :
    firstMatch? (text.toList ++ rest) = some ⟨some word, text.toList, rest⟩ := by
  have visible := not_blank_of_symbol
  simp only [List.forall_mem_cons] at visible
  fin_cases keyword <;> fin_cases listed <;>
    simp [firstMatch?, rules, Rule.match?, Pattern.split?, Pattern.strip?, CharClass.contains,
      visible, ends]

/-- Where no `=` and no second slash follows, all that begins a symbol is read as this symbol. -/
theorem firstMatch?_symbol {kind : TokenKind} {text : String} {rest : List Char}
    (listed : text ∈ kind.texts) (keyword : kind ∉ TokenKind.keywords)
    (varied : kind ∉ TokenKind.varied) (equals : rest.head? ≠ some '=')
    (slash : rest.head? ≠ some '/') :
    firstMatch? (text.toList ++ rest) = some ⟨some kind, text.toList, rest⟩ := by
  have visible := not_blank_of_symbol
  simp only [List.forall_mem_cons] at visible
  cases rest with
  | nil =>
    cases kind <;> first
      | exact absurd (by decide) keyword
      | exact absurd (by decide) varied
      | (fin_cases listed <;> rfl)
  | cons c cs =>
    simp only [List.head?_cons, ne_eq, Option.some.injEq] at equals slash
    cases kind <;> first
      | exact absurd (by decide) keyword
      | exact absurd (by decide) varied
      | (fin_cases listed <;>
          simp [firstMatch?, rules, Rule.match?, Pattern.split?, Pattern.strip?,
            CharClass.contains, visible, equals, slash])

theorem takeWhile_append_stop {p : Char → Bool} {taken rest : List Char}
    (all : taken.all p = true) (stop : ∀ c ∈ rest.head?, p c = false) :
    (taken ++ rest).takeWhile p = taken := by
  rw [List.takeWhile_append_of_pos (List.all_eq_true.mp all)]
  cases rest with
  | nil => simp
  | cons c cs => simp [stop c rfl]

theorem dropWhile_append_stop {p : Char → Bool} {taken rest : List Char}
    (all : taken.all p = true) (stop : ∀ c ∈ rest.head?, p c = false) :
    (taken ++ rest).dropWhile p = rest := by
  rw [List.dropWhile_append_of_pos (List.all_eq_true.mp all)]
  cases rest with
  | nil => rfl
  | cons c cs => simp [stop c rfl]

theorem stop_of_dropWhile (p : Char → Bool) (cs : List Char) :
    ∀ c ∈ (cs.dropWhile p).head?, p c = false := by
  have stop := List.head?_dropWhile_not p cs
  intro c head
  rw [Option.mem_def] at head
  rwa [head] at stop

/-- A run and what stands behind it are known from the text, if the run cannot go on. -/
theorem run_append_injective {p : Char → Bool} {taken taken' rest rest' : List Char}
    (all : taken.all p = true) (all' : taken'.all p = true)
    (stop : ∀ c ∈ rest.head?, p c = false) (stop' : ∀ c ∈ rest'.head?, p c = false)
    (same : taken ++ rest = taken' ++ rest') : taken = taken' ∧ rest = rest' := by
  have runs := congrArg (List.takeWhile p) same
  have rests := congrArg (List.dropWhile p) same
  rw [takeWhile_append_stop all stop, takeWhile_append_stop all' stop'] at runs
  rw [dropWhile_append_stop all stop, dropWhile_append_stop all' stop'] at rests
  exact ⟨runs, rests⟩

theorem split?_run {chars : CharClass} {taken rest : List Char} (some : taken ≠ [])
    (all : taken.all chars.contains = true) (stop : ∀ c ∈ rest.head?, chars.contains c = false) :
    (Pattern.run chars).split? (taken ++ rest) = .some (taken, rest) := by
  unfold Pattern.split?
  simp only [takeWhile_append_stop all stop, dropWhile_append_stop all stop]

/-- A rule decides if the rules before it fail. -/
theorem firstMatch?_of_rule (before : List Rule) (rule : Rule) (after : List Rule)
    {cs lexeme rest : List Char} (parts : rules = before ++ rule :: after)
    (fails : ∀ earlier ∈ before, earlier.pattern.split? cs = none)
    (found : rule.pattern.split? cs = some (lexeme, rest)) :
    firstMatch? cs = some ⟨rule.kind, lexeme, rest⟩ := by
  have skipped : before.findSome? (fun earlier => earlier.match? cs) = none := by
    rw [List.findSome?_eq_none_iff]
    intro earlier listed
    rw [Rule.match?, fails earlier listed]
    rfl
  rw [firstMatch?, parts, List.findSome?_append, skipped, List.findSome?_cons, Rule.match?, found]
  rfl

/-- A run of digits at the start is a number, whatever stands behind it. -/
theorem firstMatch?_digits {taken rest : List Char} (some : taken ≠ [])
    (all : taken.all CharClass.digit.contains = true)
    (stop : ∀ c ∈ rest.head?, CharClass.digit.contains c = false) :
    firstMatch? (taken ++ rest) = .some ⟨.some .number, taken, rest⟩ := by
  refine firstMatch?_of_rule (rules.take 17) ⟨.run .digit, .some .number⟩ (rules.drop 18) rfl ?_
    (split?_run some all stop)
  cases taken with
  | nil => contradiction
  | cons c cs =>
    simp only [List.all_cons, Bool.and_eq_true] at all
    have named : CharClass.name.contains c = true := CharClass.name_of_digit all.1
    have visible : CharClass.blank.contains c = false := CharClass.not_blank_of_name named
    have other (d : Char) (letter : d.isDigit = false) : c ≠ d := by
      rintro rfl
      exact absurd (all.1.symm.trans letter) (by decide)
    have fails : ∀ rule ∈ rules.take 17, rule.pattern.canStart c = false := by
      simp [rules, Pattern.canStart, other, visible]
    exact Pattern.split?_of_forall_not_canStart _ fails

/-- At a digit the longest run of digits is read. -/
theorem firstMatch?_number {c : Char} {cs more : List Char} (shape : cs = c :: more)
    (digit : c.isDigit = true) : firstMatch? cs =
      some ⟨some .number, cs.takeWhile Char.isDigit, cs.dropWhile Char.isDigit⟩ := by
  have stop := stop_of_dropWhile Char.isDigit cs
  have some : cs.takeWhile Char.isDigit ≠ [] := by simp [shape, digit]
  have read : firstMatch? (cs.takeWhile Char.isDigit ++ cs.dropWhile Char.isDigit) = _ :=
    firstMatch?_digits some List.all_takeWhile stop
  rwa [List.takeWhile_append_dropWhile] at read

/-- Where a word ends, no name goes on. -/
theorem Pattern.not_name_of_wordEnds {rest : List Char} (ends : wordEnds rest = true) :
    ∀ c ∈ rest.head?, CharClass.name.contains c = false := by
  intro c head
  cases rest with
  | nil => cases head
  | cons d ds =>
    cases head
    apply Bool.eq_false_iff.mpr
    intro named
    simp [wordEnds, CharClass.isWordChar_of_name named] at ends

/-- A keyword rule fails at a name that is another word. -/
theorem split?_keyword {first : Char} {more taken rest : List Char}
    (word : (first :: more).all CharClass.name.contains = true)
    (all : taken.all CharClass.name.contains = true)
    (stop : ∀ c ∈ rest.head?, CharClass.name.contains c = false) (other : taken ≠ first :: more) :
    (Pattern.keyword first more).split? (taken ++ rest) = none := by
  rw [Pattern.split?]
  cases stripped : Pattern.strip? (first :: more) (taken ++ rest) with
  | none => rfl
  | some behind =>
    simp only [ite_eq_right_iff, reduceCtorEq]
    intro ends
    have stop' := Pattern.not_name_of_wordEnds ends
    have same := congrArg (List.takeWhile CharClass.name.contains)
      (Pattern.strip?_eq_some.mp stripped)
    rw [takeWhile_append_stop all stop, takeWhile_append_stop word stop'] at same
    exact other same

/-- The rules of the keywords. -/
theorem exists_keyword : ∀ rule ∈ (rules.drop 8).take 9, ∃ first more word,
    rule = ⟨.keyword first more, some word⟩ ∧ word ∈ TokenKind.keywords ∧
      String.ofList (first :: more) ∈ word.texts ∧
        (first :: more).all CharClass.name.contains = true := by
  intro rule listed
  fin_cases listed <;> exact ⟨_, _, _, rfl, by decide, by decide, by decide⟩

/-- A name that is no keyword is read where its letters and digits end. -/
theorem firstMatch?_name {taken rest : List Char} (some : taken ≠ [])
    (all : taken.all CharClass.name.contains = true)
    (letter : ∀ c ∈ taken.head?, c.isDigit = false)
    (no_keyword : ∀ word ∈ TokenKind.keywords, String.ofList taken ∉ word.texts)
    (stop : ∀ c ∈ rest.head?, CharClass.name.contains c = false) :
    firstMatch? (taken ++ rest) = .some ⟨.some .identifier, taken, rest⟩ := by
  refine firstMatch?_of_rule
    (rules.take 8 ++ (rules.drop 8).take 9 ++ [⟨.run .digit, .some .number⟩])
    ⟨.run .name, .some .identifier⟩ (rules.drop 19) rfl ?_ (split?_run some all stop)
  intro rule listed
  simp only [List.mem_append, List.mem_singleton] at listed
  obtain ((listed | listed) | rfl) := listed
  · cases taken with
    | nil => contradiction
    | cons c cs =>
      simp only [List.all_cons, Bool.and_eq_true] at all
      have visible : CharClass.blank.contains c = false := CharClass.not_blank_of_name all.1
      have other (d : Char) (unnamed : CharClass.name.contains d = false) : c ≠ d := by
        rintro rfl
        exact absurd (all.1.symm.trans unnamed) (by decide)
      have fails : ∀ rule ∈ rules.take 8, rule.pattern.canStart c = false := by
        simp only [CharClass.contains] at other
        simp [rules, Pattern.canStart, other, visible]
      exact Pattern.split?_of_forall_not_canStart _ fails rule listed
  · obtain ⟨first, more, word, rfl, keyword, text, named⟩ := exists_keyword rule listed
    refine split?_keyword named all stop ?_
    rintro rfl
    exact no_keyword word keyword text
  · cases taken with
    | nil => contradiction
    | cons c cs => exact Pattern.split?_of_not_canStart _ (letter c rfl)

theorem all_ne_of_not_mem {stop : Char} {cs : List Char} (inside : stop ∉ cs) :
    cs.all (· != stop) = true := by
  rw [List.all_eq_true]
  intro c listed
  simp only [bne_iff_ne, ne_eq]
  rintro rfl
  exact inside listed

theorem split?_quoted {quote : Char} {content : List Char} (inside : quote ∉ content)
    (rest : List Char) : (Pattern.quoted quote).split? (quote :: content ++ quote :: rest) =
      some (quote :: content ++ [quote], rest) := by
  have all := all_ne_of_not_mem inside
  have stop : ∀ c ∈ (quote :: rest).head?, (c != quote) = false := by simp
  simp [Pattern.split?, takeWhile_append_stop all stop, dropWhile_append_stop all stop]

/-- Text from a quote to the next one is a string, whatever stands behind it. -/
theorem firstMatch?_quoted {quote : Char} {content : List Char} (mark : quote ∈ ['"', '\''])
    (inside : quote ∉ content) (rest : List Char) :
    firstMatch? (quote :: content ++ quote :: rest) =
      some ⟨some .string, quote :: content ++ [quote], rest⟩ := by
  have visible : Text.isBlank '"' = false ∧ Text.isBlank '\'' = false := by decide
  have found := split?_quoted inside rest
  simp only [List.mem_cons, List.not_mem_nil, or_false] at mark
  obtain rfl | rfl := mark
  · refine firstMatch?_of_rule (rules.take 28) ⟨.quoted '"', some .string⟩ (rules.drop 29) rfl ?_
      found
    have fails : ∀ rule ∈ rules.take 28, rule.pattern.canStart '"' = false := by
      simp [rules, Pattern.canStart, CharClass.contains, visible]
    exact Pattern.split?_of_forall_not_canStart _ fails
  · refine firstMatch?_of_rule (rules.take 29) ⟨.quoted '\'', some .string⟩ [] rfl ?_ found
    have fails : ∀ rule ∈ rules.take 29, rule.pattern.canStart '\'' = false := by
      simp [rules, Pattern.canStart, CharClass.contains, visible]
    exact Pattern.split?_of_forall_not_canStart _ fails

/-! ### What a match takes -/

namespace Pattern

/-- The texts of a pattern that has no more than a few. -/
def texts : Pattern → List (List Char)
  | exactly first more | keyword first more => [first :: more]
  | operator first .absent => first.map ([·])
  | operator first .required => first.map ([·, '='])
  | operator first .optional => first.map ([·]) ++ first.map ([·, '='])
  | _ => []

/-- Whether a pattern can take a text. -/
def Takes : Pattern → List Char → Prop
  | run chars, taken => taken ≠ [] ∧ taken.all chars.contains
  | comment, taken => ∃ line, '\n' ∉ line ∧ taken = '/' :: '/' :: line
  | quoted quote, taken => ∃ content, quote ∉ content ∧ taken = quote :: content ++ [quote]
  | pattern, taken => taken ∈ pattern.texts

theorem takes_of_split? {pattern : Pattern} {cs taken rest : List Char}
    (found : pattern.split? cs = some (taken, rest)) : pattern.Takes taken := by
  unfold split? at found
  split at found <;> try contradiction
  · split at found <;> cases found
    exact ⟨by assumption, List.all_takeWhile⟩
  · cases found
    refine ⟨_, ?_, rfl⟩
    intro listed
    exact absurd (List.all_eq_true.mp List.all_takeWhile _ listed) (by decide)
  · simp only [Option.map_eq_some_iff, Prod.mk.injEq] at found
    obtain ⟨_, _, rfl, _⟩ := found
    exact List.mem_singleton_self _
  · split at found <;> try contradiction
    split at found <;> cases found
    exact List.mem_singleton_self _
  · rename_i first equals c cs
    split at found <;> try contradiction
    rename_i listed
    have listed : c ∈ first := by simpa using listed
    split at found <;> cases found <;> simp [Takes, texts, listed]
  · rename_i quote c cs
    split at found <;> try contradiction
    rename_i same
    split at found <;> cases found
    rename_i close rest dropped
    have stop := List.head?_dropWhile_not (· != quote) cs
    simp only [dropped, List.head?_cons, bne_eq_false_iff_eq] at stop
    refine ⟨_, ?_, by rw [same, stop]⟩
    intro listed
    exact absurd (List.all_eq_true.mp List.all_takeWhile _ listed) (by simp)

theorem mem_texts_of_takes {pattern : Pattern} {taken : List Char} (few : pattern.texts ≠ [])
    (takes : pattern.Takes taken) : taken ∈ pattern.texts := by
  cases pattern with
  | run | comment | quoted => exact absurd rfl few
  | «exactly» | keyword | operator => exact takes

end Pattern

theorem pattern_of_number : ∀ rule ∈ rules, rule.kind = some .number →
    rule.pattern = .run .digit := by
  decide

theorem pattern_of_string : ∀ rule ∈ rules, rule.kind = some .string →
    ∃ quote ∈ ['"', '\''], rule.pattern = .quoted quote := by
  have each : ∀ rule ∈ rules, rule.kind = some .string →
      rule.pattern = .quoted '"' ∨ rule.pattern = .quoted '\'' := by
    decide
  intro rule listed produces
  rcases each rule listed produces with shape | shape
  · exact ⟨'"', by simp, shape⟩
  · exact ⟨'\'', by simp, shape⟩

theorem pattern_of_identifier : ∀ rule ∈ rules, rule.kind = some .identifier →
    rule.pattern = .run .name := by
  decide

theorem pattern_of_keyword : ∀ rule ∈ rules, ∀ word ∈ rule.kind, word ∈ TokenKind.keywords →
    ∃ first more, rule.pattern = .keyword first more := by
  have each : ∀ rule ∈ rules, ∀ word ∈ rule.kind, word ∈ TokenKind.keywords →
      rule ∈ (rules.drop 8).take 9 := by
    decide
  intro rule listed word produces keyword
  obtain ⟨first, more, _, rfl, _⟩ := exists_keyword rule (each rule listed word produces keyword)
  exact ⟨first, more, rfl⟩

theorem texts_of_rule : ∀ rule ∈ rules, ∀ kind ∈ rule.kind,
    kind ∉ TokenKind.varied →
      rule.pattern.texts ≠ [] ∧
        ∀ taken ∈ rule.pattern.texts, String.ofList taken ∈ kind.texts := by
  decide

/-- A match that names a kind takes a text of this kind. -/
theorem spells_of_firstMatch? {cs taken rest : List Char} {kind : TokenKind}
    (matched : firstMatch? cs = some ⟨some kind, taken, rest⟩) :
    kind.Spells (String.ofList taken) := by
  obtain ⟨rule, listed, applied⟩ := exists_rule_of_firstMatch? matched
  obtain ⟨found, produces⟩ := Rule.split?_of_match? applied
  have takes := Pattern.takes_of_split? found
  by_cases varied : kind ∈ TokenKind.varied
  · simp only [TokenKind.varied, List.mem_cons, List.not_mem_nil, or_false] at varied
    obtain rfl | rfl | rfl := varied
    · rw [pattern_of_number rule listed produces] at takes
      simpa [TokenKind.Spells, Pattern.Takes] using takes
    · obtain ⟨quote, mark, shape⟩ := pattern_of_string rule listed produces
      rw [shape] at takes
      obtain ⟨content, inside, rfl⟩ := takes
      exact ⟨quote, mark, content, inside, String.toList_ofList⟩
    · rw [pattern_of_identifier rule listed produces] at takes
      obtain ⟨some, all⟩ := takes
      simp only [TokenKind.Spells, String.toList_ofList]
      refine ⟨some, all, ?_⟩
      -- A digit in front would have made the match a number.
      cases taken with
      | nil => exact absurd rfl some
      | cons c more =>
        have whole : c :: more ++ rest = cs := Pattern.split?_append found
        rintro _ ⟨⟩
        apply Bool.eq_false_iff.mpr
        intro digit
        have number := firstMatch?_number whole.symm digit
        rw [matched] at number
        cases number
  · obtain ⟨few, within⟩ := texts_of_rule rule listed kind produces varied
    exact (TokenKind.spells_iff varied).mpr (within taken (Pattern.mem_texts_of_takes few takes))

/-- A run is taken to its end. -/
theorem Pattern.eq_of_split?_run {chars : CharClass} {cs taken rest : List Char}
    (found : (run chars).split? cs = some (taken, rest)) :
    taken = cs.takeWhile chars.contains ∧ rest = cs.dropWhile chars.contains := by
  rw [split?] at found
  split at found <;> cases found
  exact ⟨rfl, rfl⟩

theorem Pattern.not_name_of_split?_keyword {first : Char} {more cs taken rest : List Char}
    (found : (keyword first more).split? cs = some (taken, rest)) :
    ∀ c ∈ rest.head?, CharClass.name.contains c = false := by
  rw [split?] at found
  split at found <;> try contradiction
  split at found <;> cases found
  rename_i ends
  exact not_name_of_wordEnds ends

/-- Behind a token whose only rule takes a run, no character of this class stands. -/
theorem stop_of_run {cs taken rest : List Char} {kind : TokenKind} {chars : CharClass}
    (only : ∀ rule ∈ rules, rule.kind = some kind → rule.pattern = .run chars)
    (matched : firstMatch? cs = some ⟨some kind, taken, rest⟩) :
    ∀ c ∈ rest.head?, chars.contains c = false := by
  obtain ⟨rule, listed, applied⟩ := exists_rule_of_firstMatch? matched
  obtain ⟨found, produces⟩ := Rule.split?_of_match? applied
  rw [only rule listed produces] at found
  obtain rfl : rest = _ := (Pattern.eq_of_split?_run found).2
  exact stop_of_dropWhile chars.contains cs

/-- Behind a number no digit stands. -/
theorem stop_of_number {cs taken rest : List Char}
    (matched : firstMatch? cs = some ⟨some .number, taken, rest⟩) :
    ∀ c ∈ rest.head?, CharClass.digit.contains c = false :=
  stop_of_run pattern_of_number matched

/-- Behind a keyword no character of a name stands. -/
theorem stop_of_keyword {cs taken rest : List Char} {word : TokenKind}
    (keyword : word ∈ TokenKind.keywords)
    (matched : firstMatch? cs = some ⟨some word, taken, rest⟩) :
    ∀ c ∈ rest.head?, CharClass.name.contains c = false := by
  obtain ⟨rule, listed, applied⟩ := exists_rule_of_firstMatch? matched
  obtain ⟨found, produces⟩ := Rule.split?_of_match? applied
  obtain ⟨first, more, shape⟩ := pattern_of_keyword rule listed word produces keyword
  rw [shape] at found
  exact Pattern.not_name_of_split?_keyword found

/-- Behind a name no character of a name stands. -/
theorem stop_of_name {cs taken rest : List Char}
    (matched : firstMatch? cs = some ⟨some .identifier, taken, rest⟩) :
    ∀ c ∈ rest.head?, CharClass.name.contains c = false :=
  stop_of_run pattern_of_identifier matched

/-- Behind a name that is spelled like a keyword stands a character that starts no token. -/
theorem stuck_behind_keyword {cs taken rest : List Char} {word : TokenKind}
    (matched : firstMatch? cs = some ⟨some .identifier, taken, rest⟩)
    (keyword : word ∈ TokenKind.keywords) (listed : String.ofList taken ∈ word.texts) :
    rest ≠ [] ∧ firstMatch? rest = none := by
  have whole : taken ++ rest = cs := firstMatch?_append matched
  have goes_on : Pattern.wordEnds rest = false := by
    apply Bool.eq_false_iff.mpr
    intro ends
    have other := firstMatch?_keyword keyword listed ends
    rw [String.toList_ofList, whole, matched] at other
    cases other
    exact absurd keyword (by decide)
  cases rest with
  | nil => cases goes_on
  | cons c more =>
    have word : Text.isWordChar c = true := by simpa [Pattern.wordEnds] using goes_on
    exact ⟨List.cons_ne_nil c more, firstMatch?_of_not_name more word (stop_of_name matched c rfl)⟩

/-- A proper token in front of a blank is read as it is. -/
theorem firstMatch?_of_proper {token : Token} {rest : List Char} (proper : token.Proper)
    (apart : Apart rest) : firstMatch? (token.text.toList ++ rest) =
      some ⟨some token.kind, token.text.toList, rest⟩ := by
  obtain ⟨kind, text⟩ := token
  have spelled : kind.Spells text := proper.spelled
  have word := apart.not_name
  have digit (c : Char) (head : c ∈ rest.head?) : CharClass.digit.contains c = false := by
    apply Bool.eq_false_iff.mpr
    intro digit
    exact absurd ((CharClass.name_of_digit digit).symm.trans (word c head)) (by decide)
  by_cases varied : kind ∈ TokenKind.varied
  · simp only [TokenKind.varied, List.mem_cons, List.not_mem_nil, or_false] at varied
    obtain rfl | rfl | rfl := varied
    · exact firstMatch?_digits spelled.1 spelled.2 digit
    · obtain ⟨quote, mark, content, inside, shape⟩ := spelled
      simpa [shape] using firstMatch?_quoted mark inside rest
    · obtain ⟨some, all, letter⟩ := spelled
      refine firstMatch?_name some all letter ?_ word
      simpa using proper.no_keyword rfl
  · have listed := (TokenKind.spells_iff varied).mp spelled
    by_cases keyword : kind ∈ TokenKind.keywords
    · exact firstMatch?_keyword keyword listed apart.wordEnds
    · exact firstMatch?_symbol listed keyword varied (apart.head_ne (by decide))
        (apart.head_ne (by decide))

end ScriptTree
