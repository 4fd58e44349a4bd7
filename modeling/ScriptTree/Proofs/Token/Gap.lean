import ScriptTree.Proofs.Token.Lexing

/-! What stands between tokens: blanks, and comments to the end of their lines. The rules without a
kind take nothing else, and a scanner passes it without a trace. A source is free of tokens and of
lexical errors exactly if it holds nothing else. -/

namespace ScriptTree

/-- Whether a text can be skipped in front of another one. -/
inductive Skipped : List Char → List Char → Prop where
  | blanks {text rest : List Char} : text ≠ [] → (∀ c ∈ text, Text.isBlank c = true) →
      Skipped text rest
  /-- A comment goes up to a line break, or to the end of the text. -/
  | comment {line rest : List Char} : '\n' ∉ line → (∀ c ∈ rest.head?, c = '\n') →
      Skipped ('/' :: '/' :: line) rest

/-- A text in which there are no tokens. -/
inductive Tokenless : List Char → Prop where
  | nil : Tokenless []
  | skip {text rest : List Char} : Skipped text rest → Tokenless rest → Tokenless (text ++ rest)

/-! ### Matches -/

theorem pattern_of_no_kind : ∀ rule ∈ rules, rule.kind = none →
    rule.pattern = .run .blank ∨ rule.pattern = .comment := by
  decide

/-- A comment stops in front of a line break alone. -/
theorem Pattern.stop_of_comment {cs taken rest : List Char}
    (found : Pattern.comment.split? cs = some (taken, rest)) : ∀ c ∈ rest.head?, c = '\n' := by
  unfold split? at found
  split at found <;> try contradiction
  cases found
  intro c head
  simpa using stop_of_dropWhile (· != '\n') _ c head

/-- A match without a kind takes what can be skipped. -/
theorem skipped_of_firstMatch? {cs taken rest : List Char}
    (matched : firstMatch? cs = some ⟨none, taken, rest⟩) : Skipped taken rest := by
  obtain ⟨rule, listed, applied⟩ := exists_rule_of_firstMatch? matched
  obtain ⟨found, produces⟩ := Rule.split?_of_match? applied
  have takes := Pattern.takes_of_split? found
  obtain shape | shape := pattern_of_no_kind rule listed produces <;> rw [shape] at takes found
  · exact .blanks takes.1 (List.all_eq_true.mp takes.2)
  · obtain ⟨line, inside, rfl⟩ := takes
    exact .comment inside (Pattern.stop_of_comment found)

theorem firstMatch?_comment {line rest : List Char} (inside : '\n' ∉ line)
    (ends : ∀ c ∈ rest.head?, c = '\n') : firstMatch? ('/' :: '/' :: (line ++ rest)) =
      some ⟨none, '/' :: '/' :: line, rest⟩ := by
  have all := all_ne_of_not_mem inside
  have stop : ∀ c ∈ rest.head?, (c != '\n') = false := by
    intro c head
    rw [ends c head]
    rfl
  refine firstMatch?_of_rule [⟨.run .blank, none⟩] ⟨.comment, none⟩ (rules.drop 2) rfl ?_ ?_
  · have visible : ∀ rule ∈ [(⟨.run .blank, none⟩ : Rule)],
        rule.pattern.canStart '/' = false := by
      decide
    exact Pattern.split?_of_forall_not_canStart _ visible
  · simp only [Pattern.split?, takeWhile_append_stop all stop, dropWhile_append_stop all stop]

/-! ### Scanners -/

namespace Scanner

variable {scanner : Scanner} {text rest : List Char}

theorem past_past (scanner : Scanner) (first second : Match) :
    (scanner.past first).past second =
      scanner.past ⟨second.kind, first.lexeme ++ second.lexeme, second.rest⟩ := by
  simp [past, Nat.add_assoc]

theorem past_nil (unread : scanner.rest = rest) (kind : Option TokenKind) :
    scanner.past ⟨kind, [], rest⟩ = scanner := by
  subst unread
  rfl

/-- Blanks in front can be skipped, and others may follow. -/
theorem drain_blanks (blank : ∀ c ∈ text, Text.isBlank c = true)
    (unread : scanner.rest = text ++ rest) :
    scanner.drain = (scanner.past ⟨none, text, rest⟩).drain := by
  induction text generalizing scanner with
  | nil => rw [past_nil (show scanner.rest = rest from unread)]
  | cons c cs ih =>
    obtain ⟨first, others⟩ := List.forall_mem_cons.mp blank
    rw [drain_blank unread first, ih others rfl, past_past]
    rfl

theorem drain_skipped (skipped : Skipped text rest) (unread : scanner.rest = text ++ rest) :
    scanner.drain = (scanner.past ⟨none, text, rest⟩).drain := by
  cases skipped with
  | blanks _ blank => exact drain_blanks blank unread
  | comment inside ends => exact drain_skip (unread ▸ firstMatch?_comment inside ends) rfl

theorem drain_tokenless (tokenless : Tokenless scanner.rest) : scanner.drain = ([], none) := by
  generalize unread : scanner.rest = cs at tokenless
  induction tokenless generalizing scanner with
  | nil => exact drain_nil unread
  | skip skipped _ ih => rw [drain_skipped skipped unread, ih rfl]

theorem tokenless_of_drain (silent : scanner.drain = ([], none)) : Tokenless scanner.rest := by
  induction scanner using match_induction with
  | finished scanner unread => exact unread ▸ .nil
  | stuck scanner c cs unread stuck =>
    rw [drain_stuck unread stuck] at silent
    cases silent
  | past scanner found matched ih =>
    obtain ⟨kind, taken, rest⟩ := found
    cases kind with
    | none =>
      rw [drain_skip matched rfl] at silent
      rw [← firstMatch?_append matched]
      exact .skip (skipped_of_firstMatch? matched) (ih silent)
    | some kind =>
      rw [drain_token matched rfl] at silent
      cases silent

end Scanner

/-- A source yields nothing exactly if it is made of blanks and comments. -/
theorem lex_eq_nil_iff {source : String} :
    lex source = ([], none) ↔ Tokenless source.toList := by
  constructor
  · exact Scanner.tokenless_of_drain
  · intro tokenless
    exact Scanner.drain_tokenless (show Tokenless (Scanner.start source).rest from tokenless)

end ScriptTree
