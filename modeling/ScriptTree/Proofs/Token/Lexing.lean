import ScriptTree.Proofs.Token.Match
import ScriptTree.Token.Scanner

/-! The tokens of a whole source. Every token has a text of its kind; the tokens of a source without
lexical errors are proper, and proper tokens with a space between any two are read back as they
are. -/

namespace ScriptTree

namespace Scanner

variable {scanner after : Scanner} {found : Match} {c : Char} {cs : List Char}

theorem drain_of_next_none (read : scanner.next = (.ok none, after)) :
    scanner.drain = ([], none) := by
  rw [drain]
  split <;> simp_all

theorem drain_of_next_error {error : LexError} (read : scanner.next = (.error error, after)) :
    scanner.drain = ([], some error) := by
  rw [drain]
  split <;> simp_all

theorem drain_of_next_token {token : Token} (read : scanner.next = (.ok (some token), after)) :
    scanner.drain = (token :: after.drain.1, after.drain.2) := by
  rw [drain]
  split <;> simp_all

/-! ### One match -/

theorem next_nil (unread : scanner.rest = []) : scanner.next = (.ok none, scanner) := by
  rw [next]
  split <;> simp_all

theorem next_stuck (unread : scanner.rest = c :: cs) (stuck : firstMatch? (c :: cs) = none) :
    scanner.next = (.error ⟨c, scanner.cursor⟩, scanner) := by
  rw [next]
  split <;> rename_i shape
  · simp_all
  · rw [unread] at shape
    cases shape
    split <;> rename_i matched
    · rfl
    · rw [stuck] at matched
      cases matched

theorem next_of_match (matched : firstMatch? scanner.rest = some found) : scanner.next =
    match found.kind with
    | none => (scanner.past found).next
    | some kind => (.ok (some ⟨kind, String.ofList found.lexeme⟩), scanner.past found) := by
  rw [next]
  split <;> rename_i unread
  · rw [unread] at matched
    cases matched
  · rw [unread] at matched
    split <;> rename_i matched' <;> rw [matched] at matched' <;> cases matched'
    cases found.kind <;> rfl

theorem drain_nil (unread : scanner.rest = []) : scanner.drain = ([], none) :=
  drain_of_next_none (next_nil unread)

theorem drain_stuck (unread : scanner.rest = c :: cs) (stuck : firstMatch? (c :: cs) = none) :
    scanner.drain = ([], some ⟨c, scanner.cursor⟩) :=
  drain_of_next_error (next_stuck unread stuck)

/-- A match without a kind is skipped. -/
theorem drain_skip (matched : firstMatch? scanner.rest = some found) (skips : found.kind = none) :
    scanner.drain = (scanner.past found).drain := by
  have same : scanner.next = (scanner.past found).next := by
    rw [next_of_match matched, skips]
  cases read : (scanner.past found).next with
  | mk result after =>
    rw [read] at same
    cases result with
    | error error => rw [drain_of_next_error same, drain_of_next_error read]
    | ok token =>
      cases token with
      | none => rw [drain_of_next_none same, drain_of_next_none read]
      | some token => rw [drain_of_next_token same, drain_of_next_token read]

/-- A match with a kind is a token. -/
theorem drain_token (matched : firstMatch? scanner.rest = some found) {kind : TokenKind}
    (names : found.kind = some kind) : scanner.drain =
      (⟨kind, String.ofList found.lexeme⟩ :: (scanner.past found).drain.1,
        (scanner.past found).drain.2) := by
  have read := next_of_match matched
  rw [names] at read
  exact drain_of_next_token read

/-- A match leaves the lexical error behind it, or its absence, as it is. -/
theorem fault_past (matched : firstMatch? scanner.rest = some found) :
    (scanner.past found).drain.2 = scanner.drain.2 := by
  cases produces : found.kind with
  | none => rw [drain_skip matched produces]
  | some kind => rw [drain_token matched produces]

/-- What holds where nothing is read, and before a match if behind it, holds of every scanner. -/
theorem match_induction {motive : Scanner → Prop}
    (finished : ∀ scanner, scanner.rest = [] → motive scanner)
    (stuck : ∀ scanner c cs, scanner.rest = c :: cs → firstMatch? (c :: cs) = none →
      motive scanner)
    (past : ∀ scanner found, firstMatch? scanner.rest = some found →
      motive (scanner.past found) → motive scanner) (scanner : Scanner) : motive scanner := by
  cases matched : firstMatch? scanner.rest with
  | none =>
    cases unread : scanner.rest with
    | nil => exact finished scanner unread
    | cons c cs => exact stuck scanner c cs unread (unread ▸ matched)
  | some found =>
    have shorter : (scanner.past found).rest.length < scanner.rest.length :=
      firstMatch?_length_lt matched
    exact past scanner found matched (match_induction finished stuck past (scanner.past found))
termination_by scanner.rest.length

/-! ### All tokens -/

/-- Every token has a text of its kind. -/
theorem spelled_of_mem_drain (scanner : Scanner) :
    ∀ token ∈ scanner.drain.1, token.Spelled := by
  induction scanner using match_induction with
  | finished scanner unread => simp [drain_nil unread]
  | stuck scanner c cs unread stuck => simp [drain_stuck unread stuck]
  | past scanner found matched ih =>
    obtain ⟨kind, taken, rest⟩ := found
    cases kind with
    | none => rwa [drain_skip matched rfl]
    | some kind =>
      rw [drain_token matched rfl]
      intro token listed
      obtain rfl | listed := List.mem_cons.mp listed
      · exact spells_of_firstMatch? matched
      · exact ih token listed

/-- Without a lexical error, every token is proper. -/
theorem proper_of_drain (scanner : Scanner) (faultless : scanner.drain.2 = none) :
    ∀ token ∈ scanner.drain.1, token.Proper := by
  induction scanner using match_induction with
  | finished scanner unread => simp [drain_nil unread]
  | stuck scanner c cs unread stuck => simp [drain_stuck unread stuck]
  | past scanner found matched ih =>
    obtain ⟨kind, taken, rest⟩ := found
    cases kind with
    | none =>
      rw [drain_skip matched rfl] at faultless ⊢
      exact ih faultless
    | some kind =>
      rw [drain_token matched rfl] at faultless ⊢
      intro token listed
      obtain rfl | listed := List.mem_cons.mp listed
      · refine ⟨spells_of_firstMatch? matched, ?_⟩
        rintro rfl word keyword text
        -- The character behind the name would have been a lexical error.
        obtain ⟨some, none⟩ := stuck_behind_keyword matched keyword text
        cases rest with
        | nil => exact some rfl
        | cons c rest =>
          have fault : (scanner.past ⟨.some .identifier, taken, c :: rest⟩).drain.2 = .some _ :=
            congrArg Prod.snd (drain_stuck rfl none)
          rw [faultless] at fault
          cases fault
      · exact ih faultless token listed

/-! ### Tokens apart -/

theorem firstMatch?_blank (blank : Text.isBlank c = true) : firstMatch? (c :: cs) =
    some ⟨none, c :: cs.takeWhile Text.isBlank, cs.dropWhile Text.isBlank⟩ := by
  refine firstMatch?_of_rule [] ⟨.run .blank, none⟩ (rules.drop 1) rfl (by simp) ?_
  have blank : CharClass.blank.contains c = true := blank
  simp only [Pattern.split?, List.takeWhile_cons, List.dropWhile_cons, blank, if_true]
  rfl

/-- A blank in front can be skipped alone. -/
theorem drain_blank (unread : scanner.rest = c :: cs) (blank : Text.isBlank c = true) :
    scanner.drain = (scanner.past ⟨none, [c], cs⟩).drain := by
  have skipped : scanner.drain =
      (scanner.past ⟨none, c :: cs.takeWhile Text.isBlank, cs.dropWhile Text.isBlank⟩).drain :=
    drain_skip (unread ▸ firstMatch?_blank blank) rfl
  rw [skipped]
  cases cs with
  | nil => rfl
  | cons d ds =>
    by_cases again : Text.isBlank d = true
    · have matched : firstMatch? (scanner.past ⟨none, [c], d :: ds⟩).rest = _ :=
        firstMatch?_blank again
      rw [drain_skip matched rfl]
      simp [past, byteLength, again, Nat.add_assoc]
    · simp [again]

/-- A proper token is read where nothing follows it or a blank. -/
theorem drain_proper {token : Token} {rest : List Char} (proper : token.Proper)
    (apart : Apart rest) (unread : scanner.rest = token.text.toList ++ rest) :
    scanner.drain =
      (token :: (scanner.past ⟨some token.kind, token.text.toList, rest⟩).drain.1,
        (scanner.past ⟨some token.kind, token.text.toList, rest⟩).drain.2) := by
  have matched := firstMatch?_of_proper proper apart
  rw [← unread] at matched
  rw [drain_token matched rfl, String.ofList_toList]

theorem drain_spaced (tokens : List Token) (proper : ∀ token ∈ tokens, token.Proper)
    (scanner : Scanner)
    (unread : scanner.rest = [' '].intercalate (tokens.map fun token => token.text.toList)) :
    scanner.drain = (tokens, none) := by
  induction tokens generalizing scanner with
  | nil => exact drain_nil unread
  | cons token others ih =>
    obtain ⟨first, proper⟩ := List.forall_mem_cons.mp proper
    cases others with
    | nil =>
      have apart : Apart [] := by simp [Apart]
      rw [drain_proper first apart (by simpa using unread), drain_nil rfl]
    | cons next others =>
      have shape : scanner.rest = token.text.toList ++ ' ' ::
          [' '].intercalate ((next :: others).map fun token => token.text.toList) := by
        simpa [List.intercalate] using unread
      have apart : Apart (' ' ::
          [' '].intercalate ((next :: others).map fun token => token.text.toList)) := by
        rintro c ⟨⟩
        decide
      rw [drain_proper first apart shape, drain_blank rfl (by decide), ih proper _ rfl]

end Scanner

/-- Tokens as a text with a space between any two. -/
def spaced (tokens : List Token) : String :=
  " ".intercalate (tokens.map Token.text)

/-- Proper tokens with spaces between them are read back. -/
theorem lex_spaced {tokens : List Token} (proper : ∀ token ∈ tokens, token.Proper) :
    lex (spaced tokens) = (tokens, none) := by
  refine Scanner.drain_spaced tokens proper (Scanner.start (spaced tokens)) ?_
  simp [Scanner.start, spaced, String.toList_intercalate, Function.comp_def]

theorem proper_of_lex {source : String} {tokens : List Token}
    (lexed : lex source = (tokens, none)) : ∀ token ∈ tokens, token.Proper := by
  have proper := Scanner.proper_of_drain (Scanner.start source) (congrArg Prod.snd lexed)
  rwa [show (Scanner.start source).drain.1 = tokens from congrArg Prod.fst lexed] at proper

/-- The proper tokens are those that some source without lexical errors holds. -/
theorem Token.proper_iff {token : Token} :
    token.Proper ↔ ∃ source tokens, lex source = (tokens, none) ∧ token ∈ tokens := by
  constructor
  · intro proper
    exact ⟨spaced [token], [token], lex_spaced (by simpa using proper), by simp⟩
  · rintro ⟨source, tokens, lexed, listed⟩
    exact proper_of_lex lexed token listed

end ScriptTree
