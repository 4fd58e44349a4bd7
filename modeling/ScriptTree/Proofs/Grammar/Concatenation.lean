import ScriptTree.Proofs.Grammar.Recognition
import ScriptTree.Proofs.Token.LineBreak

/-! Programs one after the other. Where a program ends in the middle of a list of tokens, what
follows is read as if it stood alone, unless it is an `else`. So a source with another one on the
lines behind it denotes the statements of both, and an error in the second one stays the same. -/

namespace ScriptTree

/-- The error where the source stands `n` bytes further on. -/
def ParseError.shift (n : Nat) : ParseError → ParseError
  | lexical error => lexical (error.shift n)
  | error => error

/-! ### Lists of tokens -/

namespace Grammar

/-- Behind derived statements, other statements are read as if they stood alone. -/
theorem statements_append {ts : List Token} {list : List Stmt} (derived : DerivesStmts ts list)
    {k : List Token} (more : peekKind k ≠ none) (no_else : peekKind k ≠ some .kwElse) :
    (statements none (ts ++ k)).plain = (statements none k).plain.map (list ++ ·) := by
  cases derived with
  | last derived =>
    have goes_on : ¬(peekKind k = none ∨ peekKind k = none) := by simpa using more
    rw [plain_statements, statement_of_derives derived k no_else, Outcome.andThen_ok,
      plain_statementsOnward, if_neg goes_on]
    rfl
  | @more ts us stmt others derived others_derived =>
    have rest := statements_append others_derived more no_else
    obtain ⟨kind, ahead, -⟩ := others_derived.peekKind_append k
    rw [List.append_assoc, plain_statements,
      statement_of_derives derived (us ++ k) (others_derived.peekKind_ne rfl k),
      Outcome.andThen_ok, plain_statementsOnward, if_neg (by simp [ahead]), rest]
    cases (statements none k).plain <;> rfl
termination_by list.length

variable {ts k : List Token} {whole : Program}

theorem program_append (derived : Derives ts whole) (more : peekKind k ≠ none)
    (no_else : peekKind k ≠ some .kwElse) : (program (ts ++ k)).plain =
      (program k).plain.map fun other => ⟨whole.body ++ other.body⟩ := by
  rw [plain_program, plain_program, statements_append derived more no_else]
  cases (statements none k).plain <;> rfl

theorem parseTokens_append (derived : Derives ts whole) (more : peekKind k ≠ none)
    (no_else : peekKind k ≠ some .kwElse) : parseTokens (ts ++ k) =
      (parseTokens k).map fun other => ⟨whole.body ++ other.body⟩ := by
  rw [parseTokens_eq, parseTokens_eq, program_append derived more no_else]
  cases (program k).plain <;> rfl

theorem rest_program_append (derived : Derives ts whole) (more : peekKind k ≠ none)
    (no_else : peekKind k ≠ some .kwElse) : (program (ts ++ k)).rest = (program k).rest := by
  rw [Reading.rest_eq_plain_rest, Reading.rest_eq_plain_rest, program_append derived more no_else]
  cases (program k).plain <;> rfl

/-- A program takes all tokens that derive it. -/
theorem rest_of_derives (derived : Derives ts whole) : (program ts).rest = [] := by
  have ended := peekKind_of_outcome_program (parseTokens_of_derives derived)
  cases rest : (program ts).rest with
  | nil => rfl
  | cons t more =>
    rw [rest] at ended
    cases ended

/-- A list of tokens ends in no lexical error. -/
theorem shift_of_parseTokens {tokens : List Token} {error : ParseError}
    (spelled : AllSpelled tokens) (refused : parseTokens tokens = .error error) (n : Nat) :
    error.shift n = error := by
  rw [parseTokens_eq] at refused
  cases explains_program spelled with
  | ok c r value parts derived steady =>
    rw [parts, steady r rfl] at refused
    cases refused
  | unexpected c r found expected parts viable steady =>
    rw [parts, steady r] at refused
    cases refused
    rfl
  | ended expected viable stopped =>
    rw [stopped] at refused
    cases refused
    rfl
  | invalid c r operator target parts assigns viable steady =>
    rw [parts, steady r] at refused
    cases refused
    rfl

end Grammar

open Grammar

/-! ### Sources -/

/-- In a source with a lexical error, this is reported if the productions take every token in front
of it, and otherwise the error is that of the list of these tokens. -/
theorem parse_of_lex_error {source : String} {tokens : List Token} {error : LexError}
    (lexed : lex source = (tokens, some error)) : parse source =
      if (program tokens).rest = [] then .error (.lexical error) else parseTokens tokens := by
  have alone := Parser.fresh.parse_of_lex_error lexed []
  rw [List.append_nil] at alone
  obtain ⟨lexical, within⟩ | ⟨seen, refusal, nonempty, shape, -, refused, same⟩ := alone
  · rw [if_pos (List.suffix_nil.mp within)]
    exact lexical
  · rw [List.append_nil] at shape
    rw [if_neg (shape ▸ nonempty), same]
    exact refused

/-- A program is read alike in front of a line break and other text. If this is a program, the
result is the statements of both, and if it is refused for what it holds, the result is the same
error, as many bytes further on as the first source and the line break take. -/
theorem parse_append_newline {first : String} {program : Program}
    (parsed : parse first = .ok program) (second : String) :
    (∀ other, parse second = .ok other →
      parse (first ++ "\n" ++ second) = .ok ⟨program.body ++ other.body⟩) ∧
    (Tokenless second.toList → parse (first ++ "\n" ++ second) = .ok program) ∧
    ∀ error, parse second = .error error → ¬Tokenless second.toList →
      peekKind (lex second).1 ≠ some .kwElse →
      parse (first ++ "\n" ++ second) = .error (error.shift (first.utf8ByteSize + 1)) := by
  obtain ⟨tokens, lexed, formed⟩ := exists_lex_of_parse parsed
  have derived := derives_of_parseTokens (allSpelled_of_lex lexed) formed
  have joined := lex_append_newline lexed second
  refine ⟨?_, ?_, ?_⟩
  · intro other parsed'
    obtain ⟨others, lexed', formed'⟩ := exists_lex_of_parse parsed'
    have derived' := derives_of_parseTokens (allSpelled_of_lex lexed') formed'
    obtain ⟨t, us, rfl, -⟩ := derived'.first
    have more : peekKind (t :: us) ≠ none := nofun
    have no_else : peekKind (t :: us ++ []) ≠ some .kwElse := derived'.peekKind_ne rfl []
    rw [List.append_nil] at no_else
    rw [lexed'] at joined
    rw [parse_of_lex_ok joined, parseTokens_append derived more no_else, formed']
    rfl
  · intro tokenless
    rw [lex_eq_nil_iff.mpr tokenless, List.append_nil] at joined
    exact (parse_of_lex_ok joined).trans formed
  · intro error refused filled no_else
    cases lexed' : lex second with
    | mk others fault =>
      rw [lexed'] at joined no_else
      cases others with
      | nil =>
        cases fault with
        | none => exact absurd (lex_eq_nil_iff.mp lexed') filled
        | some fault =>
          rw [parse_of_lex_error lexed', if_pos (by decide +kernel)] at refused
          cases refused
          rw [List.append_nil] at joined
          rw [parse_of_lex_error joined, if_pos (rest_of_derives derived)]
          rfl
      | cons t others =>
        have more : peekKind (t :: others) ≠ none := nofun
        cases fault with
        | none =>
          rw [parse_of_lex_ok lexed'] at refused
          rw [parse_of_lex_ok joined, parseTokens_append derived more no_else, refused,
            shift_of_parseTokens (allSpelled_of_lex lexed') refused]
          rfl
        | some fault =>
          rw [parse_of_lex_error lexed'] at refused
          rw [parse_of_lex_error joined, rest_program_append derived more no_else,
            parseTokens_append derived more no_else]
          by_cases taken : (Grammar.program (t :: others)).rest = []
          · rw [if_pos taken] at refused ⊢
            cases refused
            rfl
          · rw [if_neg taken] at refused ⊢
            rw [refused, shift_of_parseTokens (allSpelled_of_lex lexed') refused]
            rfl

/-- Behind a loop without a semicolon and a comment: another program, a comment, and an error. -/
theorem parse_append_newline_loop :
    let first := "do \x7b\x7d while (x) // again"
    let loop : Stmt := .doWhile (.block []) (.identifier "x")
    parse first = .ok ⟨[loop]⟩ ∧
    parse ";" = .ok ⟨[.empty]⟩ ∧ parse (first ++ "\n" ++ ";") = .ok ⟨[loop, .empty]⟩ ∧
    Tokenless "// end".toList ∧ parse (first ++ "\n" ++ "// end") = .ok ⟨[loop]⟩ ∧
    parse "y = #" = .error (.lexical ⟨'#', 4⟩) ∧ ¬Tokenless "y = #".toList ∧
    peekKind (lex "y = #").1 ≠ some .kwElse ∧
    parse (first ++ "\n" ++ "y = #") = .error (.lexical ⟨'#', 29⟩) := by
  intro first loop
  have parsed : parse first = .ok ⟨[loop]⟩ := by decide +kernel
  have statement : parse ";" = .ok ⟨[.empty]⟩ := by decide +kernel
  have comment : Tokenless "// end".toList := lex_eq_nil_iff.mp (by decide +kernel)
  have refused : parse "y = #" = .error (.lexical ⟨'#', 4⟩) := by decide +kernel
  have lexed : lex "y = #" = ([⟨.identifier, "y"⟩, ⟨.simpleAssignment, "="⟩], some ⟨'#', 4⟩) := by
    decide +kernel
  have filled : ¬Tokenless "y = #".toList := by
    rw [← lex_eq_nil_iff, lexed]
    exact nofun
  have no_else : peekKind (lex "y = #").1 ≠ some .kwElse := by
    rw [lexed]
    exact nofun
  exact ⟨parsed, statement, (parse_append_newline parsed ";").1 _ statement, comment,
    (parse_append_newline parsed "// end").2.1 comment, refused, filled, no_else,
    (parse_append_newline parsed "y = #").2.2 _ refused filled no_else⟩

end ScriptTree
