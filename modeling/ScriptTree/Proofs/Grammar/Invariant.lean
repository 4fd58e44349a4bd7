import ScriptTree.Proofs.Grammar.Plain
import ScriptTree.Proofs.Grammar.Soundness

/-! Invariants of a source under which every token ahead has a text of its kind. The productions
keep such an invariant, and none of them then ends in an internal error: a token that they take is
never one that they have no meaning for. -/

namespace ScriptTree

open TokenSource

/-- Whether an error is one of the source. The others are internal: that a token of the expected
kind is unexpected, and that a literal is none. -/
def ParseError.IsGenuine : ParseError → Prop
  | unexpectedToken found expected => found.kind ≠ expected
  | notLiteral _ => False
  | lexical _ | unexpectedEnd _ | invalidTarget _ => True

/-- What holds of a source however far it is advanced, and whose tokens are spelled. -/
structure Invariant (σ : Type) [TokenSource σ] where
  holds : σ → Prop
  spelled {s : σ} {token : Token} : holds s → peek s = some token → token.Spelled
  advance {s rest : σ} {token : Token} :
    holds s → peek s = some token → TokenSource.advance s = .ok rest → holds rest

namespace Invariant

variable {σ α β : Type} [TokenSource σ] (I : Invariant σ)

/-- An outcome that keeps the invariant or is an error of the source. -/
def Sound : Outcome σ α → Prop
  | .ok (_, rest) => I.holds rest
  | .error failure => failure.error.IsGenuine

variable {I} {s : σ} {kind : TokenKind} {outcome : Outcome σ α}

namespace Sound

theorem andThen {next : α → σ → Outcome σ β} (first : I.Sound outcome)
    (second : ∀ value rest, outcome = .ok (value, rest) → I.holds rest →
      I.Sound (next value rest)) : I.Sound (outcome.andThen next) := by
  cases outcome with
  | error failure => exact first
  | ok read => exact second read.1 read.2 rfl first

theorem map {f : α → β} (first : I.Sound outcome) : I.Sound (outcome.map f) :=
  first.andThen fun _ _ _ kept => kept

theorem isGenuine (sound : I.Sound outcome) {error : ParseError}
    (failed : outcome.result = .error error) : error.IsGenuine := by
  cases outcome with
  | error failure =>
    cases failed
    exact sound
  | ok read => cases failed

end Sound

/-! ### Tokens -/

/-- What is known of a token that has been taken. -/
theorem of_eat (kept : I.holds s) {token : Token} {rest : σ}
    (read : (eat kind s).plain = .ok (token, rest)) :
    peek s = some token ∧ TokenSource.advance s = .ok rest ∧ token.kind = kind ∧ token.Spelled := by
  obtain ⟨ahead, same, moved⟩ := Grammar.plain_eat_eq_ok.mp read
  exact ⟨ahead, moved, same, I.spelled kept ahead⟩

theorem sound_eat (kept : I.holds s) (kind : TokenKind) : I.Sound (eat kind s).plain := by
  rw [Grammar.plain_eat]
  split
  · exact trivial
  · rename_i token ahead
    split
    · split
      · rename_i moved
        exact I.advance kept ahead moved
      · exact trivial
    · rename_i other
      exact other

/-- Takes a token and goes on. -/
theorem eat_andThen {next : Token → σ → Outcome σ β} (kept : I.holds s)
    (second : ∀ token rest, token.kind = kind → token.Spelled → I.holds rest →
      size rest < size s → I.Sound (next token rest)) :
    I.Sound ((eat kind s).plain.andThen next) := by
  refine (sound_eat kept kind).andThen fun token rest read kept' => ?_
  obtain ⟨-, -, same, spelled⟩ := of_eat kept read
  exact second token rest same spelled kept' (Reading.size_lt_of_plain read)

end Invariant

namespace Grammar

open Invariant

variable {σ : Type} [TokenSource σ] {I : Invariant σ} {s : σ}

/-! ### Expressions -/

theorem sound_identifier (kept : I.holds s) : I.Sound (identifier s).plain := by
  rw [plain_identifier]
  exact (sound_eat kept _).map

theorem sound_literal (kept : I.holds s) {kind : TokenKind} (ahead : peekKind s = some kind)
    (isLiteral : kind.isLiteral = true) : I.Sound (literal s).plain := by
  rw [plain_literal, ahead]
  cases kind with
  | number =>
    refine eat_andThen kept fun token rest same spelled kept' _ => ?_
    obtain ⟨_, text⟩ := token
    subst same
    obtain ⟨value, numeral⟩ := exists_numeral spelled
    simp only [numberValue, numeral]
    exact kept'
  | string | kwTrue | kwFalse | kwNull => exact (sound_eat kept _).map
  | _ => cases isLiteral

mutual

theorem sound_assignment (s : σ) (kept : I.holds s) : I.Sound (assignment s).plain := by
  rw [plain_assignment]
  refine (sound_chain .or s kept).andThen fun left s₁ read kept₁ => ?_
  have shorter := Reading.size_lt_of_plain read
  split
  · exact kept₁
  · rename_i kind _
    split
    · rename_i assigns
      refine eat_andThen kept₁ fun token s₂ same spelled kept₂ _ => ?_
      obtain ⟨operator, rfl⟩ := AssignmentOperator.exists_of_spelled spelled (same ▸ assigns)
      simp only [assigned, operator.ofSymbol?_token]
      split
      · exact (sound_assignment s₂ kept₂).map
      · exact trivial
    · exact kept₁
termination_by 16 * size s + 14
decreasing_by
  · exact Nat.add_lt_add_left (by decide : 2 * Level.or.height + 1 < 14) _
  · omega

theorem sound_chain (level : Level) (s : σ) (kept : I.holds s) :
    I.Sound (chain level s).plain := by
  rw [plain_chain]
  refine (sound_operand level s kept).andThen fun left s₁ read kept₁ => ?_
  have shorter := Reading.size_lt_of_plain read
  exact sound_chainOnward level left s₁ kept₁
termination_by 16 * size s + 2 * level.height + 1

theorem sound_chainOnward (level : Level) (left : Expr) (s : σ) (kept : I.holds s) :
    I.Sound (chainOnward level left s).plain := by
  rw [plain_chainOnward]
  split
  · refine eat_andThen kept fun token s₁ same spelled kept₁ shorter => ?_
    refine (sound_operand level s₁ kept₁).andThen fun right s₂ read kept₂ => ?_
    have shorter₂ := Reading.size_lt_of_plain read
    obtain ⟨operator, rfl, rfl⟩ := Connective.exists_of_spelled spelled same
    simp only [joined, operator.token_eq, operator.join?_symbol]
    exact sound_chainOnward _ _ s₂ kept₂
  · exact kept
termination_by 16 * size s
decreasing_by
  · have := level.height_le
    omega
  · omega

theorem sound_operand (level : Level) (s : σ) (kept : I.holds s) :
    I.Sound (operand level s).plain := by
  rw [plain_operand]
  split
  · rename_i tighter next
    have := Level.height_tighter next
    exact sound_chain tighter s kept
  · have := level.height_pos
    exact sound_unary s kept
termination_by 16 * size s + 2 * level.height

theorem sound_unary (s : σ) (kept : I.holds s) : I.Sound (unary s).plain := by
  rw [plain_unary]
  split
  · exact sound_signed .additive (by decide) s kept
  · exact sound_signed .logicalNot (by decide) s kept
  · exact sound_primary s kept
termination_by 16 * size s + 1

theorem sound_signed (kind : TokenKind) (sign : kind ∈ [TokenKind.additive, .logicalNot]) (s : σ)
    (kept : I.holds s) : I.Sound (signed kind s).plain := by
  rw [plain_signed]
  refine eat_andThen kept fun token s₁ same spelled kept₁ shorter => ?_
  obtain ⟨operator, rfl⟩ := UnaryOperator.exists_of_spelled spelled (same ▸ sign)
  simp only [signedBy, operator.ofSymbol?_token]
  exact (sound_unary s₁ kept₁).map
termination_by 16 * size s

theorem sound_primary (s : σ) (kept : I.holds s) : I.Sound (primary s).plain := by
  rw [plain_primary]
  split
  · refine eat_andThen kept fun _ s₁ _ _ kept₁ shorter => ?_
    refine (sound_assignment s₁ kept₁).andThen fun inner s₂ _ kept₂ => ?_
    exact (sound_eat kept₂ _).map
  · rename_i ahead
    split
    · rename_i isLiteral
      exact sound_literal kept ahead isLiteral
    · exact (sound_identifier kept).map
  · exact (sound_identifier kept).map
termination_by 16 * size s

end

/-! ### Statements -/

theorem sound_declaration (kept : I.holds s) : I.Sound (declaration s).plain := by
  rw [plain_declaration]
  refine (sound_identifier kept).andThen fun name s₁ _ kept₁ => ?_
  split
  · exact kept₁
  · exact eat_andThen kept₁ fun _ s₂ _ _ kept₂ _ => (sound_assignment s₂ kept₂).map

theorem sound_declarationsOnward (s : σ) (kept : I.holds s) :
    I.Sound (declarationsOnward s).plain := by
  rw [plain_declarationsOnward]
  split
  · refine eat_andThen kept fun _ s₁ _ _ kept₁ shorter => ?_
    refine (sound_declaration kept₁).andThen fun first s₂ read kept₂ => ?_
    have shorter₂ := Reading.size_lt_of_plain read
    exact (sound_declarationsOnward s₂ kept₂).map
  · exact kept
termination_by size s

theorem sound_declarations (kept : I.holds s) : I.Sound (declarations s).plain := by
  rw [plain_declarations]
  exact (sound_declaration kept).andThen fun first s₁ _ kept₁ =>
    (sound_declarationsOnward s₁ kept₁).map

theorem sound_intDeclarations (kept : I.holds s) : I.Sound (intDeclarations s).plain := by
  rw [plain_intDeclarations]
  exact eat_andThen kept fun _ s₁ _ _ kept₁ _ => sound_declarations kept₁

theorem sound_condition (kept : I.holds s) : I.Sound (condition s).plain := by
  rw [plain_condition]
  refine eat_andThen kept fun _ s₁ _ _ kept₁ _ => ?_
  exact (sound_assignment s₁ kept₁).andThen fun test s₂ _ kept₂ => (sound_eat kept₂ _).map

theorem sound_forInit (s : σ) (kept : I.holds s) : I.Sound (forInit s).plain := by
  rw [plain_forInit]
  split
  · exact (sound_intDeclarations kept).map
  · exact (sound_assignment s kept).map

theorem sound_unlessNext {α : Type} {read : (s : σ) → Reading σ (size s) α}
    (sound : ∀ s, I.holds s → I.Sound (read s).plain) (kept : I.holds s) (stop : TokenKind) :
    I.Sound (unlessNext stop read s).plain := by
  rw [plain_unlessNext]
  split
  · exact kept
  · exact (sound s kept).map

theorem sound_forHead (kept : I.holds s) : I.Sound (forHead s).plain := by
  rw [plain_forHead]
  refine eat_andThen kept fun _ s₁ _ _ kept₁ _ => ?_
  refine eat_andThen kept₁ fun _ s₂ _ _ kept₂ _ => ?_
  refine (sound_unlessNext sound_forInit kept₂ _).andThen fun init s₃ _ kept₃ => ?_
  refine eat_andThen kept₃ fun _ s₄ _ _ kept₄ _ => ?_
  refine (sound_unlessNext sound_assignment kept₄ _).andThen fun test s₅ _ kept₅ => ?_
  refine eat_andThen kept₅ fun _ s₆ _ _ kept₆ _ => ?_
  refine (sound_unlessNext sound_assignment kept₆ _).andThen fun update s₇ _ kept₇ => ?_
  exact (sound_eat kept₇ _).map

theorem sound_expressionStatement (kept : I.holds s) :
    I.Sound (expressionStatement s).plain := by
  rw [plain_expressionStatement]
  exact (sound_assignment s kept).andThen fun value s₁ _ kept₁ => (sound_eat kept₁ _).map

theorem sound_declarationStatement (kept : I.holds s) :
    I.Sound (declarationStatement s).plain := by
  rw [plain_declarationStatement]
  exact (sound_intDeclarations kept).andThen fun list s₁ _ kept₁ => (sound_eat kept₁ _).map

mutual

theorem sound_statement (s : σ) (kept : I.holds s) : I.Sound (statement s).plain := by
  rw [plain_statement]
  split
  · exact (sound_eat kept _).map
  · exact (sound_block s kept).map
  · exact sound_declarationStatement kept
  · exact sound_ifStatement s kept
  · exact sound_whileStatement s kept
  · exact sound_doStatement s kept
  · exact sound_forStatement s kept
  · exact sound_expressionStatement kept
termination_by 4 * size s + 1

theorem sound_ifStatement (s : σ) (kept : I.holds s) : I.Sound (ifStatement s).plain := by
  rw [plain_ifStatement]
  refine eat_andThen kept fun _ s₁ _ _ kept₁ shorter₁ => ?_
  refine (sound_condition kept₁).andThen fun test s₂ read kept₂ => ?_
  have shorter₂ := Reading.size_lt_of_plain read
  refine (sound_block s₂ kept₂).andThen fun consequent s₃ read' kept₃ => ?_
  have shorter₃ := Reading.size_lt_of_plain read'
  split
  · exact eat_andThen kept₃ fun _ s₄ _ _ kept₄ _ => (sound_block s₄ kept₄).map
  · exact kept₃
termination_by 4 * size s

theorem sound_whileStatement (s : σ) (kept : I.holds s) : I.Sound (whileStatement s).plain := by
  rw [plain_whileStatement]
  refine eat_andThen kept fun _ s₁ _ _ kept₁ shorter₁ => ?_
  refine (sound_condition kept₁).andThen fun test s₂ read kept₂ => ?_
  have shorter₂ := Reading.size_lt_of_plain read
  exact (sound_block s₂ kept₂).map
termination_by 4 * size s

theorem sound_doStatement (s : σ) (kept : I.holds s) : I.Sound (doStatement s).plain := by
  rw [plain_doStatement]
  refine eat_andThen kept fun _ s₁ _ _ kept₁ shorter => ?_
  refine (sound_block s₁ kept₁).andThen fun body s₂ _ kept₂ => ?_
  exact eat_andThen kept₂ fun _ s₃ _ _ kept₃ _ => (sound_condition kept₃).map
termination_by 4 * size s

theorem sound_forStatement (s : σ) (kept : I.holds s) : I.Sound (forStatement s).plain := by
  rw [plain_forStatement]
  refine (sound_forHead kept).andThen fun head s₁ read kept₁ => ?_
  have shorter := Reading.size_lt_of_plain read
  exact (sound_block s₁ kept₁).map
termination_by 4 * size s

theorem sound_block (s : σ) (kept : I.holds s) : I.Sound (block s).plain := by
  rw [plain_block]
  refine eat_andThen kept fun _ s₁ _ _ kept₁ shorter => ?_
  split
  · exact (sound_eat kept₁ _).map
  · exact (sound_statements _ s₁ kept₁).andThen fun body s₂ _ kept₂ => (sound_eat kept₂ _).map
termination_by 4 * size s

theorem sound_statements (stop : Option TokenKind) (s : σ) (kept : I.holds s) :
    I.Sound (statements stop s).plain := by
  rw [plain_statements]
  refine (sound_statement s kept).andThen fun first s₁ read kept₁ => ?_
  have shorter := Reading.size_lt_of_plain read
  exact (sound_statementsOnward stop s₁ kept₁).map
termination_by 4 * size s + 2

theorem sound_statementsOnward (stop : Option TokenKind) (s : σ) (kept : I.holds s) :
    I.Sound (statementsOnward stop s).plain := by
  rw [plain_statementsOnward]
  split
  · exact kept
  · exact sound_statements stop s kept
termination_by 4 * size s + 3

end

theorem sound_program (kept : I.holds s) : I.Sound (program s).plain := by
  rw [plain_program]
  exact (sound_statements none s kept).map

end Grammar
end ScriptTree
