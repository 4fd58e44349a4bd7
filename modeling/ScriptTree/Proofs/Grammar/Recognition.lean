import ScriptTree.Proofs.Grammar.OnDemand
import ScriptTree.Proofs.Grammar.Soundness

/-! The parser accepts the grammar and builds the trees that the grammar assigns. Where it refuses a
source with a syntax error, the tokens before the error could have been completed, any token of the
expected kind could have come next, and the offending token could not. -/

namespace ScriptTree

open Grammar

theorem allSpelled_of_lex {source : String} {tokens : List Token} {error : Option LexError}
    (lexed : lex source = (tokens, error)) : AllSpelled tokens := by
  have spelled := Scanner.spelled_of_mem_drain (Scanner.start source)
  rwa [show (Scanner.start source).drain.1 = tokens from congrArg Prod.fst lexed] at spelled

theorem parseTokens_eq (tokens : List Token) :
    parseTokens tokens = (program tokens).plain.result :=
  Reading.outcome_eq_result _

theorem derives_of_parseTokens {tokens : List Token} {whole : Program}
    (spelled : AllSpelled tokens) (read : parseTokens tokens = .ok whole) :
    Derives tokens whole := by
  have finished := peekKind_of_outcome_program read
  rw [Reading.rest_eq_plain_rest] at finished
  rw [parseTokens_eq] at read
  cases explains_program spelled with
  | ok c r value parts derived steady =>
    subst parts
    rw [steady r rfl] at read finished
    cases read
    cases r with
    | nil => rwa [List.append_nil]
    | cons t r => cases finished
  | unexpected c r found expected parts viable steady =>
    rw [parts, steady r] at read
    cases read
  | ended expected viable refused =>
    rw [refused] at read
    cases read
  | invalid c r operator target parts assigns viable steady =>
    rw [parts, steady r] at read
    cases read

theorem parse_of_lex_ok {source : String} {tokens : List Token}
    (lexed : lex source = (tokens, none)) : parse source = parseTokens tokens :=
  Parser.fresh.parse_of_lex_ok lexed

/-- A source with a tree has no lexical error, and its tokens form the tree. -/
theorem exists_lex_of_parse {source : String} {whole : Program}
    (read : parse source = .ok whole) :
    ∃ tokens, lex source = (tokens, none) ∧ parseTokens tokens = .ok whole := by
  cases lexed : lex source with
  | mk tokens fault =>
    cases fault with
    | none => exact ⟨tokens, rfl, (parse_of_lex_ok lexed).symm.trans read⟩
    | some error =>
      obtain ⟨lexical, -⟩ | ⟨_, refusal, -, -, -, refused, -⟩ :=
        Parser.fresh.parse_of_lex_error lexed []
      · cases read.symm.trans lexical
      · cases read.symm.trans refused

/-- A source has a tree exactly if it can be read to its end and the grammar derives this tree from
its tokens. A list of tokens derives at most one tree. -/
theorem parse_iff_derives :
    (∀ source whole, parse source = .ok whole ↔
      ∃ tokens, lex source = (tokens, none) ∧ Derives tokens whole) ∧
    ∀ tokens first second, Derives tokens first → Derives tokens second → first = second := by
  refine ⟨fun source whole => ⟨fun read => ?_, ?_⟩, ?_⟩
  · cases lexed : lex source with
    | mk tokens fault =>
      cases fault with
      | none =>
        rw [parse_of_lex_ok lexed] at read
        exact ⟨tokens, rfl, derives_of_parseTokens (allSpelled_of_lex lexed) read⟩
      | some error =>
        -- Behind a lexical error there is no tree.
        obtain ⟨lexical, -⟩ | ⟨_, refusal, -, -, -, refused, -⟩ :=
          Parser.fresh.parse_of_lex_error lexed []
        · cases read.symm.trans lexical
        · cases read.symm.trans refused
  · rintro ⟨tokens, lexed, derived⟩
    rw [parse_of_lex_ok lexed]
    exact parseTokens_of_derives derived
  · intro tokens first second derived derived'
    have same := (parseTokens_of_derives derived).symm.trans (parseTokens_of_derives derived')
    exact Except.ok.inj same

/-- Subtraction is joined from the left. -/
theorem parse_iff_derives_left :
    lex "a-b-c;" = ([⟨.identifier, "a"⟩, ⟨.additive, "-"⟩, ⟨.identifier, "b"⟩, ⟨.additive, "-"⟩,
      ⟨.identifier, "c"⟩, ⟨.semicolon, ";"⟩], none) ∧
    Derives [⟨.identifier, "a"⟩, ⟨.additive, "-"⟩, ⟨.identifier, "b"⟩, ⟨.additive, "-"⟩,
      ⟨.identifier, "c"⟩, ⟨.semicolon, ";"⟩]
      ⟨[.expression (.binary .sub (.binary .sub (.identifier "a") (.identifier "b"))
        (.identifier "c"))]⟩ := by
  have lexed : lex "a-b-c;" = ([⟨.identifier, "a"⟩, ⟨.additive, "-"⟩, ⟨.identifier, "b"⟩,
      ⟨.additive, "-"⟩, ⟨.identifier, "c"⟩, ⟨.semicolon, ";"⟩], none) := by
    decide +kernel
  have parsed : parse "a-b-c;" = .ok ⟨[.expression (.binary .sub
      (.binary .sub (.identifier "a") (.identifier "b")) (.identifier "c"))]⟩ := by
    decide +kernel
  obtain ⟨tokens, same, derived⟩ := (parse_iff_derives.1 _ _).mp parsed
  rw [lexed] at same
  cases same
  exact ⟨lexed, derived⟩

/-! ### Errors -/

/-- A list of tokens with which the token list of some valid program begins. -/
def Viable (tokens : List Token) : Prop :=
  ∃ source more whole, lex source = (tokens ++ more, none) ∧ parse source = .ok whole

/-- A token of some source without lexical errors. -/
def Token.Occurs (t : Token) : Prop :=
  ∃ source tokens, lex source = (tokens, none) ∧ t ∈ tokens

theorem Viable.of_append {first last : List Token} (viable : Viable (first ++ last)) :
    Viable first := by
  obtain ⟨source, more, whole, lexed, read⟩ := viable
  exact ⟨source, last ++ more, whole, by rwa [← List.append_assoc], read⟩

theorem viable_of_completable {tokens : List Token} (proper : ∀ t ∈ tokens, t.Proper)
    (completable : Completable Derives tokens) : Viable tokens := by
  obtain ⟨more, whole, proper', derived⟩ := completable
  have lexed := lex_spaced (List.forall_mem_append.mpr ⟨proper, proper'⟩)
  refine ⟨spaced (tokens ++ more), more, whole, lexed, ?_⟩
  rw [parse_of_lex_ok lexed]
  exact parseTokens_of_derives derived

theorem not_viable {tokens : List Token}
    (refused : ∀ more, ∃ error, parseTokens (tokens ++ more) = .error error) :
    ¬Viable tokens := by
  rintro ⟨source, more, whole, lexed, read⟩
  obtain ⟨error, failed⟩ := refused more
  rw [parse_of_lex_ok lexed, failed] at read
  cases read

theorem not_viable_next {c : List Token} {t : Token}
    (refused : ∀ more, ∃ error rest, (program (c ++ t :: more)).plain = .error ⟨error, rest⟩) :
    ¬Viable (c ++ [t]) := by
  apply not_viable
  intro more
  obtain ⟨error, rest, failed⟩ := refused more
  exact ⟨error, by
    rw [List.append_assoc, List.singleton_append, parseTokens_eq, failed]
    rfl⟩

theorem viable_next {c : List Token} {t : Token} (proper : ∀ t ∈ c, t.Proper) (fits : t.Proper)
    (completable : Completable Derives (c ++ [t])) : Viable (c ++ [t]) := by
  apply viable_of_completable _ completable
  rw [List.forall_mem_append, List.forall_mem_singleton]
  exact ⟨proper, fits⟩

theorem viable_before {c : List Token} {expected : TokenKind}
    (viable : ∀ t : Token, t.Proper → t.kind = expected → Viable (c ++ [t])) : Viable c :=
  (viable expected.token expected.token_proper rfl).of_append

/-- A syntax error stands at the first token that cannot be. If it names an expected kind, every
token of this kind could stand there, and if it is a bad target, it stands at the operator. -/
theorem parse_stops_at_first_error {source : String} {tokens : List Token}
    (lexed : lex source = (tokens, none)) :
    (∀ found expected, parse source = .error (.unexpectedToken found expected) →
      ∃ c rest, tokens = c ++ found :: rest ∧ Viable c ∧ ¬Viable (c ++ [found]) ∧
        ∀ t : Token, t.Occurs → t.kind = expected → Viable (c ++ [t])) ∧
    (∀ expected, parse source = .error (.unexpectedEnd expected) →
      Viable tokens ∧
        (∀ other whole, lex other = (tokens, none) → parse other ≠ .ok whole) ∧
        ∀ t : Token, t.Occurs → t.kind = expected → Viable (tokens ++ [t])) ∧
    ∀ target, parse source = .error (.invalidTarget target) →
      ∃ c operator rest, tokens = c ++ operator :: rest ∧ operator.kind.isAssignment = true ∧
        Viable c ∧ ¬Viable (c ++ [operator]) := by
  have proper := proper_of_lex lexed
  rw [parse_of_lex_ok lexed, parseTokens_eq]
  cases explains_program (allSpelled_of_lex lexed) with
  | ok c r value parts derived steady =>
    rw [parts, steady r rfl]
    refine ⟨?_, ?_, ?_⟩ <;> intros <;> contradiction
  | unexpected c r found expected parts viable steady =>
    subst parts
    have within : ∀ t ∈ c, t.Proper := fun t listed => proper t (List.mem_append_left _ listed)
    have expects (t : Token) (fits : t.Proper) (kind : t.kind = expected) : Viable (c ++ [t]) :=
      viable_next within fits (viable t fits kind)
    have refused : ¬Viable (c ++ [found]) := not_viable_next fun more => ⟨_, _, steady more⟩
    rw [steady r]
    refine ⟨?_, ?_, ?_⟩
    · rintro _ _ ⟨⟩
      exact ⟨c, r, rfl, viable_before expects, refused,
        fun t occurs => expects t (Token.proper_iff.mpr occurs)⟩
    · rintro _ ⟨⟩
    · rintro _ ⟨⟩
  | ended expected viable refused =>
    have expects (t : Token) (fits : t.Proper) (kind : t.kind = expected) :
        Viable (tokens ++ [t]) :=
      viable_next proper fits (viable t fits kind)
    have no_program (other : String) (whole : Program) (lexed : lex other = (tokens, none)) :
        parse other ≠ .ok whole := by
      rw [parse_of_lex_ok lexed, parseTokens_eq, refused]
      exact nofun
    rw [refused]
    refine ⟨?_, ?_, ?_⟩
    · rintro _ _ ⟨⟩
    · rintro _ ⟨⟩
      exact ⟨viable_before expects, no_program,
        fun t occurs => expects t (Token.proper_iff.mpr occurs)⟩
    · rintro _ ⟨⟩
  | invalid c r operator target parts assigns viable steady =>
    subst parts
    have within : ∀ t ∈ c, t.Proper := fun t listed => proper t (List.mem_append_left _ listed)
    have refused : ¬Viable (c ++ [operator]) := not_viable_next fun more => ⟨_, _, steady more⟩
    rw [steady r]
    refine ⟨?_, ?_, ?_⟩
    · rintro _ _ ⟨⟩
    · rintro _ ⟨⟩
    · rintro _ ⟨⟩
      exact ⟨c, operator, r, rfl, assigns, viable_of_completable within viable, refused⟩

/-- A condition without a block behind it can be completed, and the error says so. -/
theorem parse_stops_at_first_error_unfinished :
    let tokens := [TokenKind.kwIf, .leftParen, .identifier, .rightParen].map TokenKind.token
    lex "if (x)" = (tokens, none) ∧ parse "if (x)" = .error (.unexpectedEnd .leftBrace) ∧
      Viable tokens := by
  intro tokens
  have lexed : lex "if (x)" = (tokens, none) := by decide +kernel
  have failed : parse "if (x)" = .error (.unexpectedEnd .leftBrace) := by decide +kernel
  exact ⟨lexed, failed, ((parse_stops_at_first_error lexed).2.1 _ failed).1⟩

end ScriptTree
