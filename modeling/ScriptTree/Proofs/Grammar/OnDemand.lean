import ScriptTree.Proofs.Grammar.Simulation
import ScriptTree.Proofs.Token.Lexing

/-! Reading tokens on demand. A parser pulls each token when the one before it is taken, so a
lexical error can come before or after a syntax error. Which of the two is reported follows from the
tokens in front of the lexical error alone. -/

namespace ScriptTree

open TokenSource

/-! ### Sources that unfold into a list -/

/-- How a source unfolds into its tokens and the lexical error behind them, if there is one. -/
structure Unfolding (σ : Type) [TokenSource σ] where
  content : σ → List Token × Option LexError
  peek_eq (s : σ) : peek s = (content s).1.head?
  fault_of_nil {s : σ} {fault : Option LexError} : content s = ([], fault) → fault = none
  content_of_advance {s rest : σ} {token : Token} {tokens : List Token}
    {fault : Option LexError} : content s = (token :: tokens, fault) → advance s = .ok rest →
      content rest = (tokens, fault)
  fault_of_advance {s rest : σ} {token : Token} {tokens : List Token} {fault : Option LexError}
    {error : LexError} : content s = (token :: tokens, fault) →
      advance s = .error (error, rest) → tokens = [] ∧ fault = some error

namespace Unfolding

variable {σ : Type} [TokenSource σ] (U : Unfolding σ)

/-- The tokens of a source that ends in `fault`, with `more` behind them where the source has a
lexical error. -/
def extended (fault : Option LexError) (tokens more : List Token) : List Token :=
  match fault with
  | none => tokens
  | some _ => tokens ++ more

/-- A source beside the list of its tokens. Behind a lexical error the list may go on. -/
def simulation (fault : Option LexError) (more : List Token) : Simulation σ where
  follows s tokens := ∃ seen, U.content s = (seen, fault) ∧ tokens = extended fault seen more
  lost error tokens := fault = some error ∧ tokens <:+ more
  peek_eq := by
    rintro s _ ⟨seen, content, rfl⟩
    rw [U.peek_eq, content]
    cases seen with
    | nil =>
      rw [U.fault_of_nil content]
      rfl
    | cons token seen => cases fault <;> rfl
  follows_of_advance := by
    rintro s rest token tokens ⟨seen, content, shape⟩ moved
    cases seen with
    | nil =>
      rw [U.fault_of_nil content] at shape
      cases shape
    | cons first seen =>
      refine ⟨seen, U.content_of_advance content moved, ?_⟩
      cases fault <;> cases shape <;> rfl
  lost_of_advance := by
    rintro s rest token tokens error ⟨seen, content, shape⟩ moved
    cases seen with
    | nil =>
      rw [U.fault_of_nil content] at shape
      cases shape
    | cons first seen =>
      obtain ⟨rfl, rfl⟩ := U.fault_of_advance content moved
      cases shape
      exact ⟨rfl, List.suffix_refl more⟩
  lost_tail := by
    rintro error token tokens ⟨same, within⟩
    exact ⟨same, (List.suffix_cons token tokens).trans within⟩

open Grammar

variable {U} {s : σ} {tokens : List Token} {error : LexError}

/-- Without a lexical error, a program is read from a source as from the list of its tokens. -/
theorem outcome_program (content : U.content s = (tokens, none)) :
    (program s).outcome = (program tokens).outcome := by
  have agree : (U.simulation none []).Agrees (.ok s) (fun s => (program s).plain)
      (program tokens) := Simulation.agrees_program ⟨tokens, content, rfl⟩
  rw [Reading.outcome_eq_result]
  obtain ⟨same, -, -⟩ | ⟨fault, -, impossible, -⟩ := agree.same_or_lost
  · exact same
  · cases impossible

/-- Take a source with a lexical error behind its tokens, and a list with more tokens there. Either
the list is read beyond the tokens of the source, and the source ends in its lexical error, or both
end in one and the same error before that. -/
theorem program_faulty (content : U.content s = (tokens, some error)) (more : List Token) :
    ((program s).outcome = .error (.lexical error) ∧ (program (tokens ++ more)).rest <:+ more) ∨
    ∃ seen refusal, seen ≠ [] ∧ (program (tokens ++ more)).rest = seen ++ more ∧
      refusal.EndsAt (seen ++ more) ∧ (program s).outcome = .error refusal ∧
      (program (tokens ++ more)).outcome = .error refusal := by
  have agree : (U.simulation (some error) more).Agrees (.ok s) (fun s => (program s).plain)
      (program (tokens ++ more)) := Simulation.agrees_program ⟨tokens, content, rfl⟩
  obtain ⟨same, ⟨seen, remaining, shape⟩, ends⟩ | ⟨fault, ended, found, within⟩ :=
    agree.same_or_lost
  · right
    have nonempty : seen ≠ [] := by
      rintro rfl
      cases U.fault_of_nil remaining
    replace shape : (program (tokens ++ more)).rest = seen ++ more := shape
    replace same : (program s).outcome = (program (tokens ++ more)).outcome :=
      (Reading.outcome_eq_result _).trans same
    cases outcome : (program (tokens ++ more)).outcome with
    | error refusal =>
      have ends := ends refusal outcome
      rw [shape] at ends
      exact ⟨seen, refusal, nonempty, shape, ends, same.trans outcome, rfl⟩
    | ok whole =>
      -- A program is read to the end of its source, but here a token is left.
      have finished := peekKind_of_outcome_program outcome
      rw [shape] at finished
      cases seen with
      | nil => exact absurd rfl nonempty
      | cons token seen => cases finished
  · left
    cases found
    rw [Reading.outcome_eq_result]
    exact ⟨ended, within⟩

end Unfolding

/-! ### Cursors -/

/-- The lookahead of a cursor and all that its scanner yields. -/
def Cursor.content (cursor : Cursor) : List Token × Option LexError :=
  match cursor.lookahead with
  | none => ([], none)
  | some token => (token :: cursor.scanner.drain.1, cursor.scanner.drain.2)

/-- After a move, a cursor holds what its scanner had to yield. -/
theorem Cursor.content_of_refill {cursor rest : Cursor} (moved : cursor.refill = .ok rest) :
    rest.content = cursor.scanner.drain := by
  unfold refill at moved
  split at moved <;> cases moved
  rename_i next scanner read
  cases next with
  | none => rw [Scanner.drain_of_next_none read]; rfl
  | some token => rw [Scanner.drain_of_next_token read]; rfl

theorem Cursor.drain_of_refill {cursor rest : Cursor} {error : LexError}
    (stopped : cursor.refill = .error (error, rest)) :
    cursor.scanner.drain = ([], some error) := by
  unfold refill at stopped
  split at stopped <;> cases stopped
  rename_i read
  exact Scanner.drain_of_next_error read

/-- A cursor unfolds into its lookahead and the tokens of its scanner. -/
def Cursor.unfolding : Unfolding Cursor where
  content := Cursor.content
  peek_eq cursor := by
    obtain ⟨lookahead, scanner⟩ := cursor
    cases lookahead <;> rfl
  fault_of_nil {cursor fault} content := by
    obtain ⟨lookahead, scanner⟩ := cursor
    cases lookahead <;> cases content
    rfl
  content_of_advance {cursor rest token tokens fault} content moved := by
    rw [Cursor.content_of_refill moved]
    obtain ⟨lookahead, scanner⟩ := cursor
    cases lookahead <;> cases content
    rfl
  fault_of_advance {cursor rest token tokens fault error} content stopped := by
    have drained := Cursor.drain_of_refill stopped
    obtain ⟨lookahead, scanner⟩ := cursor
    cases lookahead with
    | none => cases content
    | some ahead =>
      simp only [Cursor.content, drained, Prod.mk.injEq, List.cons.injEq] at content
      exact ⟨content.1.2.symm, content.2.symm⟩

/-! ### Parsers -/

namespace Parser

open Grammar

variable (parser : Parser) {source : String} {tokens : List Token} {error : LexError}

/-- Only the lookahead of an earlier source can be left, and only where there is no first token. -/
theorem parse_eq_parse (source : String) : (parser.parse source).1 = ScriptTree.parse source := by
  unfold ScriptTree.parse parse
  simp only [load, Scanner.load_eq_start, Cursor.refill]
  obtain ⟨error | token, scanner⟩ := (Scanner.start source).next <;> rfl

theorem parse_of_lex_ok (lexed : lex source = (tokens, none)) :
    (parser.parse source).1 = parseTokens tokens := by
  have drained : (parser.load source).scanner.drain = (tokens, none) := lexed
  cases moved : (parser.load source).refill with
  | error stop =>
    rw [Cursor.drain_of_refill moved] at drained
    cases drained
  | ok cursor =>
    simp only [parse, moved]
    exact Cursor.unfolding.outcome_program ((Cursor.content_of_refill moved).trans drained)

/-- The two ways in which parsing a source with a lexical error can end, seen from any list of
tokens that begins with those of the source. -/
theorem parse_of_lex_error (lexed : lex source = (tokens, some error)) (more : List Token) :
    ((parser.parse source).1 = .error (.lexical error) ∧
      (program (tokens ++ more)).rest <:+ more) ∨
    ∃ seen refusal, seen ≠ [] ∧ (program (tokens ++ more)).rest = seen ++ more ∧
      refusal.EndsAt (seen ++ more) ∧ (parser.parse source).1 = .error refusal ∧
      parseTokens (tokens ++ more) = .error refusal := by
  have drained : (parser.load source).scanner.drain = (tokens, some error) := lexed
  cases moved : (parser.load source).refill with
  | error stop =>
    left
    rw [Cursor.drain_of_refill moved] at drained
    cases drained
    have away : (Cursor.unfolding.simulation (some stop.1) more).Agrees (.error stop.1)
        (fun s => (program s).plain) (program more) :=
      Simulation.agrees_program ⟨rfl, List.suffix_refl more⟩
    exact ⟨by simp only [parse, moved], away.2⟩
  | ok cursor =>
    simp only [parse, moved]
    exact Cursor.unfolding.program_faulty ((Cursor.content_of_refill moved).trans drained) more

/-- Whatever a parser has read before, it reads a source as a fresh parser does. Without a lexical
error the result is that of the list of tokens. Otherwise the lexical error is reported exactly
when the productions, run over the list of the tokens before it, take every one of them; if they do
not, the error is the one in which every list that begins with these tokens ends. -/
theorem parse_on_demand (source : String) :
    (parser.parse source).1 = ScriptTree.parse source ∧
    (∀ tokens, lex source = (tokens, none) → (parser.parse source).1 = parseTokens tokens) ∧
    ∀ tokens error, lex source = (tokens, some error) →
      ((parser.parse source).1 = .error (.lexical error) ↔ (program tokens).rest = []) ∧
      ((program tokens).rest ≠ [] → ∃ refusal,
        ((∃ found expected, refusal = .unexpectedToken found expected) ∨
          ∃ target, refusal = .invalidTarget target) ∧
        (parser.parse source).1 = .error refusal ∧
        ∀ more, parseTokens (tokens ++ more) = .error refusal) ∧
      (∀ whole, (parser.parse source).1 ≠ .ok whole) ∧
      ∀ expected, (parser.parse source).1 ≠ .error (.unexpectedEnd expected) := by
  refine ⟨parser.parse_eq_parse source, fun tokens lexed => parser.parse_of_lex_ok lexed,
    fun tokens error lexed => ?_⟩
  have alone := parser.parse_of_lex_error lexed []
  rw [List.append_nil] at alone
  obtain ⟨lexical, within⟩ | ⟨seen, refusal, nonempty, shape, ends, refused, -⟩ := alone
  · -- The lexical error is reported, and nothing is left of the tokens.
    have finished : (program tokens).rest = [] := List.suffix_nil.mp within
    refine ⟨by simp [lexical, finished], fun left => absurd finished left, ?_, ?_⟩ <;>
      simp [lexical]
  · rw [List.append_nil] at shape ends
    have syntactic : (∃ found expected, refusal = .unexpectedToken found expected) ∨
        ∃ target, refusal = .invalidTarget target := by
      cases refusal with
      | unexpectedToken found expected => exact Or.inl ⟨found, expected, rfl⟩
      | invalidTarget target => exact Or.inr ⟨target, rfl⟩
      | unexpectedEnd expected => exact absurd ends nonempty
      | lexical fault => cases ends
      | notLiteral text => cases ends
    have always : ∀ more, parseTokens (tokens ++ more) = .error refusal := by
      intro more
      obtain ⟨lexical, -⟩ | ⟨_, other, -, -, -, refused', result⟩ :=
        parser.parse_of_lex_error lexed more
      · rw [refused] at lexical
        cases lexical
        cases ends
      · rw [refused] at refused'
        cases refused'
        exact result
    refine ⟨?_, fun _ => ⟨refusal, syntactic, refused, always⟩, ?_, ?_⟩
    · rw [refused, shape]
      constructor
      · rintro ⟨⟩
        cases ends
      · exact fun finished => absurd finished nonempty
    · simp [refused]
    · rintro expected found
      rw [refused] at found
      cases found
      exact nonempty ends

/-- A parser that has just lost its lookahead to a lexical error meets another one behind a bad
target, and the lexical error wins. -/
theorem parse_on_demand_lexical_wins :
    lex "1 = #" = ([⟨.number, "1"⟩, ⟨.simpleAssignment, "="⟩], some ⟨'#', 4⟩) ∧
      ((fresh.parse "x #").2.parse "1 = #").1 = .error (.lexical ⟨'#', 4⟩) := by
  have lexed : lex "1 = #" = ([⟨.number, "1"⟩, ⟨.simpleAssignment, "="⟩], some ⟨'#', 4⟩) := by
    decide +kernel
  refine ⟨lexed, ?_⟩
  exact (((fresh.parse "x #").2.parse_on_demand "1 = #").2.2 _ _ lexed).1.mpr (by decide +kernel)

end Parser
end ScriptTree
