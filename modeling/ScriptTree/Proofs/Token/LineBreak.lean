import ScriptTree.Proofs.Token.Gap

/-! Line breaks between texts. No token but a string, and no comment, goes on behind a line break,
and a string only as long as it is open. So the tokens of a text without lexical errors do not
change when a line break and another text follow, and neither do those of the other text. -/

namespace ScriptTree

/-! ### Patterns -/

theorem takeWhile_append_cons {p : Char → Bool} {stop : Char} (stops : p stop = false)
    (cs more : List Char) : (cs ++ stop :: more).takeWhile p = cs.takeWhile p := by
  induction cs with
  | nil => simp [stops]
  | cons c cs ih => simp [List.takeWhile_cons, ih]

theorem dropWhile_append_cons {p : Char → Bool} {stop : Char} (stops : p stop = false)
    (cs more : List Char) : (cs ++ stop :: more).dropWhile p = cs.dropWhile p ++ stop :: more := by
  induction cs with
  | nil => simp [stops]
  | cons c cs ih =>
    simp only [List.cons_append, List.dropWhile_cons, ih]
    split <;> rfl

namespace Pattern

/-- Whether a pattern can neither take a line break nor needs to see what stands behind one. -/
def isInline : Pattern → Bool
  | run chars => !chars.contains '\n'
  | comment => true
  | exactly first more | keyword first more => '\n' ∉ first :: more
  | operator first _ => '\n' ∉ first
  | quoted _ => false

theorem strip?_append_newline {word : List Char} (inline : '\n' ∉ word) (cs more : List Char) :
    strip? word (cs ++ '\n' :: more) = (strip? word cs).map (· ++ '\n' :: more) := by
  induction word generalizing cs with
  | nil => rfl
  | cons w ws ih =>
    obtain ⟨other, inside⟩ := not_or.mp (mt List.mem_cons.mpr inline)
    cases cs with
    | nil => simp [strip?, Ne.symm other]
    | cons c cs =>
      simp only [List.cons_append, strip?, ih inside]
      split <;> rfl

theorem wordEnds_append_newline (cs more : List Char) :
    wordEnds (cs ++ '\n' :: more) = wordEnds cs := by
  cases cs with
  | nil => rfl
  | cons => rfl

theorem split?_append_newline {pattern : Pattern} (inline : pattern.isInline = true)
    (cs more : List Char) : pattern.split? (cs ++ '\n' :: more) =
      (pattern.split? cs).map fun (lexeme, rest) => (lexeme, rest ++ '\n' :: more) := by
  cases pattern with
  | run chars =>
    have stops : chars.contains '\n' = false := by simpa [isInline] using inline
    simp only [split?, takeWhile_append_cons stops, dropWhile_append_cons stops]
    split <;> rfl
  | comment =>
    rcases cs with _ | ⟨c, _ | ⟨d, cs⟩⟩
    · rfl
    · simp [split?]
    · by_cases slashes : c = '/' ∧ d = '/'
      · obtain ⟨rfl, rfl⟩ := slashes
        simp [split?, takeWhile_append_cons, dropWhile_append_cons]
      · simp_all [split?]
  | «exactly» first more' =>
    have inside : '\n' ∉ first :: more' := of_decide_eq_true inline
    simp only [split?, strip?_append_newline inside, Option.map_map]
    rfl
  | keyword first more' =>
    have inside : '\n' ∉ first :: more' := of_decide_eq_true inline
    simp only [split?, strip?_append_newline inside]
    cases strip? (first :: more') cs with
    | none => rfl
    | some rest =>
      simp only [Option.map_some, wordEnds_append_newline]
      split <;> rfl
  | operator first equals =>
    have inside : '\n' ∉ first := of_decide_eq_true inline
    rcases cs with _ | ⟨c, _ | ⟨d, cs⟩⟩
    · simp [split?, inside]
    · cases equals <;> simp [split?]
    · by_cases equal : d = '='
      · subst equal
        cases equals <;> by_cases listed : c ∈ first <;> simp [split?, listed]
      · cases equals <;> by_cases listed : c ∈ first <;> simp [split?, listed, equal]
  | quoted quote => cases inline

end Pattern

/-! ### Matches -/

/-- A match in front of more text. -/
def Match.onto (found : Match) (more : List Char) : Match :=
  { found with rest := found.rest ++ more }

theorem Rule.match?_append_newline {rule : Rule} (inline : rule.pattern.isInline = true)
    (cs more : List Char) :
    rule.match? (cs ++ '\n' :: more) = (rule.match? cs).map (·.onto ('\n' :: more)) := by
  rw [match?, match?, Pattern.split?_append_newline inline, Option.map_map, Option.map_map]
  rfl

theorem pattern_of_quote {quote : Char} (mark : quote ∈ ['"', '\'']) : ∀ rule ∈ rules,
    rule.pattern.canStart quote = true → rule.pattern = .quoted quote := by
  simp only [List.mem_cons, List.not_mem_nil, or_false] at mark
  obtain rfl | rfl := mark <;> decide

theorem pattern_of_not_inline : ∀ rule ∈ rules, rule.pattern.isInline = false →
    rule.pattern = .run .blank ∨ rule.pattern = .quoted '"' ∨ rule.pattern = .quoted '\'' := by
  decide

/-- A string is read as well if more text follows. -/
theorem firstMatch?_append_of_quote {c : Char} {cs : List Char} {found : Match}
    (mark : c ∈ ['"', '\'']) (matched : firstMatch? (c :: cs) = some found) (more : List Char) :
    firstMatch? (c :: cs ++ more) = some (found.onto more) := by
  obtain ⟨rule, listed, applied⟩ := exists_rule_of_firstMatch? matched
  obtain ⟨split, -⟩ := Rule.split?_of_match? applied
  have takes := Pattern.takes_of_split? split
  rw [pattern_of_quote mark rule listed (Pattern.canStart_of_split? split)] at takes
  obtain ⟨kind, lexeme, rest⟩ := found
  obtain ⟨content, inside, rfl⟩ := takes
  have whole : c :: content ++ c :: rest = c :: cs := by
    simpa using firstMatch?_append matched
  rw [← whole, firstMatch?_quoted mark inside] at matched
  cases matched
  rw [← whole, List.append_assoc]
  exact firstMatch?_quoted mark inside (rest ++ more)

/-- Away from blanks and quotes, no rule tells a line break behind the text from its end. -/
theorem match?_append_newline {c : Char} (visible : Text.isBlank c = false)
    (unquoted : c ∉ ['"', '\'']) (cs more : List Char) :
    ∀ rule ∈ rules, rule.match? (c :: cs ++ '\n' :: more) =
      (rule.match? (c :: cs)).map (·.onto ('\n' :: more)) := by
  intro rule listed
  cases inline : rule.pattern.isInline with
  | true => exact rule.match?_append_newline inline (c :: cs) more
  | false =>
    have fails : rule.pattern.canStart c = false := by
      simp only [List.mem_cons, List.not_mem_nil, or_false, not_or] at unquoted
      obtain shape | shape | shape := pattern_of_not_inline rule listed inline <;> rw [shape]
      · exact visible
      · exact beq_eq_false_iff_ne.mpr unquoted.1
      · exact beq_eq_false_iff_ne.mpr unquoted.2
    rw [List.cons_append, Rule.match?, Rule.match?, Pattern.split?_of_not_canStart _ fails,
      Pattern.split?_of_not_canStart _ fails]
    rfl

/-- What is read at a visible character is read as well if a line break follows the text. -/
theorem firstMatch?_append_newline {c : Char} {cs : List Char} {found : Match}
    (visible : Text.isBlank c = false) (matched : firstMatch? (c :: cs) = some found)
    (more : List Char) :
    firstMatch? (c :: cs ++ '\n' :: more) = some (found.onto ('\n' :: more)) := by
  by_cases mark : c ∈ ['"', '\'']
  · exact firstMatch?_append_of_quote mark matched _
  · have alike := match?_append_newline visible mark cs more
    rw [firstMatch?, List.findSome?_eq_some_iff] at matched ⊢
    obtain ⟨before, rule, after, parts, applied, fails⟩ := matched
    refine ⟨before, rule, after, parts, ?_, ?_⟩
    · rw [alike rule (by simp [parts]), applied]
      rfl
    · intro earlier listed
      rw [alike earlier (by simp [parts, listed]), fails earlier listed]
      rfl

/-- A token is read as well if a line break follows the text. -/
theorem firstMatch?_of_token {cs : List Char} {found : Match} {kind : TokenKind}
    (matched : firstMatch? cs = some found) (names : found.kind = some kind) (more : List Char) :
    firstMatch? (cs ++ '\n' :: more) = some (found.onto ('\n' :: more)) := by
  cases cs with
  | nil => cases matched
  | cons c cs =>
    refine firstMatch?_append_newline (Bool.eq_false_iff.mpr ?_) matched more
    intro blank
    rw [Scanner.firstMatch?_blank blank] at matched
    cases matched
    cases names

/-- What is skipped is skipped as well if a line break follows the text. -/
theorem Skipped.append_newline {text rest : List Char} (skipped : Skipped text rest)
    (more : List Char) : Skipped text (rest ++ '\n' :: more) := by
  cases skipped with
  | blanks some blank => exact .blanks some blank
  | comment inside ends =>
    refine .comment inside ?_
    cases rest with
    | nil =>
      rintro c ⟨⟩
      rfl
    | cons => exact ends

/-! ### Scanners -/

/-- The error where the text stands `n` bytes further on. -/
def LexError.shift (n : Nat) (error : LexError) : LexError :=
  { error with position := error.position + n }

namespace Scanner

/-- A scanner with more text behind its own. -/
def onto (scanner : Scanner) (more : List Char) : Scanner :=
  { scanner with rest := scanner.rest ++ more }

/-- A scanner `n` bytes further on in front of the same text. -/
def further (scanner : Scanner) (n : Nat) : Scanner :=
  { scanner with cursor := scanner.cursor + n }

/-- A scanner that has taken its whole text and goes on with more. -/
def beyond (scanner : Scanner) (more : List Char) : Scanner :=
  scanner.past ⟨none, scanner.rest, more⟩

theorem beyond_past {scanner : Scanner} {found : Match}
    (matched : firstMatch? scanner.rest = some found) (more : List Char) :
    (scanner.past found).beyond more = scanner.beyond more := by
  rw [beyond, beyond, past_past, ← firstMatch?_append matched]
  rfl

/-- What a scanner yields it also yields in front of a line break, and then it goes on as if it had
taken its whole text. -/
theorem drain_append_newline (more : List Char) (scanner : Scanner)
    (faultless : scanner.drain.2 = none) : (scanner.onto ('\n' :: more)).drain =
      (scanner.drain.1 ++ (scanner.beyond ('\n' :: more)).drain.1,
        (scanner.beyond ('\n' :: more)).drain.2) := by
  induction scanner using match_induction with
  | finished scanner unread =>
    have same : scanner.onto ('\n' :: more) = scanner.beyond ('\n' :: more) := by
      simp [onto, beyond, past, unread]
    rw [same, drain_nil unread]
    rfl
  | stuck scanner c cs unread stuck =>
    rw [drain_stuck unread stuck] at faultless
    cases faultless
  | past scanner found matched ih =>
    rw [← beyond_past matched]
    obtain ⟨_ | kind, lexeme, rest⟩ := found
    · rw [drain_skip matched rfl] at faultless ⊢
      have skipped := (skipped_of_firstMatch? matched).append_newline more
      have unread : (scanner.onto ('\n' :: more)).rest = lexeme ++ (rest ++ '\n' :: more) := by
        rw [← List.append_assoc, onto, ← firstMatch?_append matched]
      rw [drain_skipped skipped unread]
      exact ih faultless
    · rw [drain_token matched rfl] at faultless ⊢
      have matched' : firstMatch? (scanner.onto ('\n' :: more)).rest = _ :=
        firstMatch?_of_token matched rfl more
      have behind := ih faultless
      rw [drain_token matched' rfl]
      exact congrArg (fun read => (_ :: read.1, read.2)) behind

/-- A scanner further on in its text finds the same. -/
theorem drain_further (n : Nat) (scanner : Scanner) :
    (scanner.further n).drain = (scanner.drain.1, scanner.drain.2.map (LexError.shift n)) := by
  induction scanner using match_induction with
  | finished scanner unread =>
    have unread' : (scanner.further n).rest = [] := unread
    rw [drain_nil unread, drain_nil unread']
    rfl
  | stuck scanner c cs unread stuck =>
    have unread' : (scanner.further n).rest = c :: cs := unread
    rw [drain_stuck unread stuck, drain_stuck unread' stuck]
    rfl
  | past scanner found matched ih =>
    have matched' : firstMatch? (scanner.further n).rest = some found := matched
    have there : (scanner.further n).past found = (scanner.past found).further n := by
      simp [past, further, Nat.add_right_comm]
    cases produces : found.kind with
    | none => rw [drain_skip matched produces, drain_skip matched' produces, there, ih]
    | some kind => rw [drain_token matched produces, drain_token matched' produces, there, ih]

end Scanner

/-- A text without lexical errors, a line break and another text hold the tokens of both. An error
in the second text stands as many bytes further on as there are in front of it. -/
theorem lex_append_newline {first : String} {tokens : List Token}
    (lexed : lex first = (tokens, none)) (second : String) : lex (first ++ "\n" ++ second) =
      (tokens ++ (lex second).1,
        (lex second).2.map (LexError.shift (first.utf8ByteSize + 1))) := by
  have whole : Scanner.start (first ++ "\n" ++ second) =
      (Scanner.start first).onto ('\n' :: second.toList) := by
    simp [Scanner.start, Scanner.onto]
  have unread : ((Scanner.start first).beyond ('\n' :: second.toList)).rest =
      '\n' :: second.toList := rfl
  have place : ((Scanner.start first).beyond ('\n' :: second.toList)).past
      ⟨none, ['\n'], second.toList⟩ =
        (Scanner.start second).further (first.utf8ByteSize + 1) := by
    simp only [Scanner.start, Scanner.further, Scanner.beyond, Scanner.past, byteLength_toList,
      Nat.zero_add]
    rfl
  have behind := Scanner.drain_blank unread (by decide)
  rw [place, Scanner.drain_further] at behind
  rw [lex, whole, Scanner.drain_append_newline _ _ (congrArg Prod.snd lexed), behind,
    show (Scanner.start first).drain = (tokens, none) from lexed]
  rfl

end ScriptTree
