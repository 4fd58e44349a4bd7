import ScriptTree.Proofs.Grammar.Plain

/-! A source of tokens that runs beside a list of tokens. As long as the source gives the tokens of
the list, each production reads the same from both; when the source ends in a lexical error, the
list may go on alone. -/

namespace ScriptTree

open TokenSource

/-- Which errors a reading of a list can end in, with what is left of the list. -/
def ParseError.EndsAt (tokens : List Token) : ParseError → Prop
  | unexpectedEnd _ => tokens = []
  | unexpectedToken _ _ | invalidTarget _ => True
  | lexical _ | notLiteral _ => False

/-- A way to run a source beside a list of tokens: `follows` relates their states, and `lost`
holds of what remains of the list after the source has ended in a lexical error. -/
structure Simulation (σ : Type) [TokenSource σ] where
  follows : σ → List Token → Prop
  lost : LexError → List Token → Prop
  peek_eq {s : σ} {tokens : List Token} : follows s tokens → peek s = tokens.head?
  follows_of_advance {s rest : σ} {token : Token} {tokens : List Token} :
    follows s (token :: tokens) → advance s = .ok rest → follows rest tokens
  lost_of_advance {s rest : σ} {token : Token} {tokens : List Token} {error : LexError} :
    follows s (token :: tokens) → advance s = .error (error, rest) → lost error tokens
  lost_tail {error : LexError} {token : Token} {tokens : List Token} :
    lost error (token :: tokens) → lost error tokens

namespace Simulation

variable {σ α β : Type} [TokenSource σ] (S : Simulation σ)

/-- The source, or the error in which it has ended, beside the list. -/
def At : Except LexError σ → List Token → Prop
  | .ok s, tokens => S.follows s tokens
  | .error error, tokens => S.lost error tokens

/-- What `read` yields from the source agrees with a reading of the list: the same value or the
same error, or else a lexical error after which the list has gone on alone. -/
def Agrees {bound : Nat} (start : Except LexError σ) (read : σ → Outcome σ α)
    (reading : Reading (List Token) bound α) : Prop :=
  match start with
  | .error error => S.lost error reading.rest
  | .ok s =>
    match read s with
    | .ok (value, rest) => ∃ tokens, reading.plain = .ok (value, tokens) ∧ S.follows rest tokens
    | .error ⟨error, rest⟩ =>
      (∃ tokens, reading.plain = .error ⟨error, tokens⟩ ∧ error.EndsAt tokens ∧
        S.follows rest tokens) ∨ ∃ fault, error = .lexical fault ∧ S.lost fault reading.rest

variable {S} {bound : Nat} {start : Except LexError σ} {read read' : σ → Outcome σ α}
  {reading : Reading (List Token) bound α} {tokens : List Token}

theorem At.peekKind_eq {s : σ} (place : S.At (.ok s) tokens) : peekKind s = peekKind tokens :=
  congrArg (Option.map Token.kind) (S.peek_eq place)

/-- Agreement depends on what is read from the present state alone. -/
theorem Agrees.congr (agree : S.Agrees start read' reading)
    (same : ∀ s, start = .ok s → read s = read' s) : S.Agrees start read reading := by
  cases start with
  | error error => exact agree
  | ok s =>
    unfold Agrees at agree ⊢
    simp only [same s rfl]
    exact agree

theorem Agrees.done (place : S.At start tokens) (value : α) :
    S.Agrees start (fun s => .ok (value, s)) (Reading.done value tokens) := by
  cases start with
  | error error => exact place
  | ok s => exact ⟨tokens, rfl, place⟩

theorem Agrees.error {bound : Nat} (place : S.At start tokens) {error : ParseError}
    (ends : error.EndsAt tokens) : S.Agrees start (fun s => (.error ⟨error, s⟩ : Outcome σ α))
      (.error ⟨error, tokens⟩ : Reading (List Token) bound α) := by
  cases start with
  | error fault => exact place
  | ok s => exact Or.inl ⟨tokens, rfl, ends, place⟩

theorem Agrees.unexpected {bound : Nat} (place : S.At start tokens) (found : Token)
    (expected : TokenKind) :
    S.Agrees start (fun s => (.error ⟨.unexpectedToken found expected, s⟩ : Outcome σ α))
      (.error ⟨.unexpectedToken found expected, tokens⟩ : Reading (List Token) bound α) :=
  Agrees.error place trivial

theorem Agrees.invalid {bound : Nat} (place : S.At start tokens) (target : String) :
    S.Agrees start (fun s => (.error ⟨.invalidTarget target, s⟩ : Outcome σ α))
      (.error ⟨.invalidTarget target, tokens⟩ : Reading (List Token) bound α) :=
  Agrees.error place trivial

theorem rest_relax (reading : Reading (List Token) bound α) :
    reading.relax.rest = reading.rest := by
  cases reading <;> rfl

theorem rest_map (f : α → β) (reading : Reading (List Token) bound α) :
    (reading.map f).rest = reading.rest := by
  cases reading <;> rfl

theorem Agrees.relax (agree : S.Agrees start read reading) :
    S.Agrees start read reading.relax := by
  unfold Agrees at agree ⊢
  simp only [rest_relax, Reading.plain_relax]
  exact agree

theorem Agrees.map (f : α → β) (agree : S.Agrees start read reading) :
    S.Agrees start (fun s => (read s).map f) (reading.map f) := by
  cases start with
  | error error =>
    show S.lost error (reading.map f).rest
    rw [rest_map]
    exact agree
  | ok s =>
    unfold Agrees at agree ⊢
    simp only [rest_map, Reading.plain_map] at agree ⊢
    cases outcome : read s with
    | ok result =>
      simp only [outcome] at agree
      obtain ⟨tokens, same, beside⟩ := agree
      exact ⟨tokens, by rw [same]; rfl, beside⟩
    | error failure =>
      simp only [outcome] at agree
      obtain ⟨tokens, same, ends⟩ | away := agree
      · exact Or.inl ⟨tokens, by rw [same]; rfl, ends⟩
      · exact Or.inr away

/-- Both go on from where the first reading ends. Where the source has stopped, the second reading
of the list still has to end among the tokens that are lost. -/
theorem Agrees.onward {next' : α → (tokens : List Token) → size tokens < bound →
      Reading (List Token) (size tokens + 1) β}
    (agree : S.Agrees start read reading) (next : α → σ → Outcome σ β)
    (further : ∀ value start' tokens' (smaller : size tokens' < bound), S.At start' tokens' →
      S.Agrees start' (next value) (next' value tokens' smaller)) :
    S.Agrees start (fun s => (read s).andThen next) (reading.onward next') := by
  have lost_onward : ∀ error, S.lost error reading.rest →
      S.lost error (reading.onward next').rest := by
    intro error away
    cases reading with
    | error failure => exact away
    | ok parsed =>
      obtain ⟨value, tokens', smaller⟩ := parsed
      have ends := further value (.error error) tokens' smaller away
      simp only [Reading.onward]
      cases result : next' value tokens' smaller <;> rw [result] at ends <;> exact ends
  cases start with
  | error error => exact lost_onward error agree
  | ok s =>
    unfold Agrees at agree ⊢
    cases outcome : read s with
    | error failure =>
      simp only [outcome, Outcome.andThen_error] at agree ⊢
      obtain ⟨tokens', same, ends⟩ | ⟨fault, lexical, away⟩ := agree
      · refine Or.inl ⟨tokens', ?_, ends⟩
        cases reading <;> cases same
        rfl
      · exact Or.inr ⟨fault, lexical, lost_onward fault away⟩
    | ok result =>
      obtain ⟨value, rest⟩ := result
      simp only [outcome, Outcome.andThen_ok] at agree ⊢
      obtain ⟨tokens', same, beside⟩ := agree
      cases reading with
      | error failure => cases same
      | ok parsed =>
        obtain ⟨value', tokens', smaller⟩ := parsed
        cases same
        have both := further value' (.ok rest) tokens' smaller beside
        unfold Agrees at both
        simp only [Reading.onward]
        cases result : next' value' tokens' smaller <;> rw [result] at both <;> exact both

theorem Agrees.andThen {next' : α → (tokens : List Token) → size tokens < bound →
      Reading (List Token) (size tokens) β}
    (agree : S.Agrees start read reading) (next : α → σ → Outcome σ β)
    (further : ∀ value start' tokens' (smaller : size tokens' < bound), S.At start' tokens' →
      S.Agrees start' (next value) (next' value tokens' smaller)) :
    S.Agrees start (fun s => (read s).andThen next) (reading.andThen next') :=
  agree.onward next fun value start' tokens' smaller place =>
    (further value start' tokens' smaller place).relax

/-- Either both end in the same way and place, or the source ends in a lexical error. -/
theorem Agrees.same_or_lost {s : σ} (agree : S.Agrees (.ok s) read reading) :
    ((read s).result = reading.outcome ∧ S.follows (read s).rest reading.rest ∧
      ∀ error, reading.outcome = .error error → error.EndsAt reading.rest) ∨
    ∃ fault, (read s).result = .error (.lexical fault) ∧ S.lost fault reading.rest := by
  unfold Agrees at agree
  simp only [Reading.outcome_eq_result, Reading.rest_eq_plain_rest] at agree ⊢
  cases outcome : read s with
  | ok result =>
    simp only [outcome] at agree
    obtain ⟨tokens, same, beside⟩ := agree
    refine Or.inl ?_
    rw [same]
    exact ⟨rfl, beside, fun error refused => nomatch refused⟩
  | error failure =>
    simp only [outcome] at agree
    obtain ⟨tokens, same, ends, beside⟩ | ⟨fault, lexical, away⟩ := agree
    · refine Or.inl ?_
      rw [same]
      refine ⟨rfl, beside, fun error refused => ?_⟩
      cases refused
      exact ends
    · exact Or.inr ⟨fault, congrArg Except.error lexical, away⟩

/-! ### What all productions are made of -/

open Grammar

section Productions

variable {start : Except LexError σ} {tokens : List Token}

theorem agrees_eat (place : S.At start tokens) (kind : TokenKind) :
    S.Agrees start (fun s => (eat kind s).plain) (eat kind tokens) := by
  cases tokens with
  | nil =>
    refine Agrees.congr (Agrees.error place rfl) fun s here => ?_
    subst here
    rw [plain_eat, S.peek_eq place]
    rfl
  | cons token tokens =>
    by_cases expected : token.kind = kind
    · cases start with
      | error error =>
        show S.lost error (eat kind (token :: tokens)).rest
        rw [Reading.rest_eq_plain_rest, plain_eat_cons, if_pos expected]
        exact S.lost_tail place
      | ok s =>
        have taken : (eat kind (token :: tokens)).plain = .ok (token, tokens) := by
          rw [plain_eat_cons, if_pos expected]
        cases moved : advance s with
        | ok rest =>
          have moves : (eat kind s).plain = .ok (token, rest) := by
            simp [plain_eat, S.peek_eq place, expected, moved]
          simp only [Agrees, moves, taken]
          exact ⟨tokens, rfl, S.follows_of_advance place moved⟩
        | error fault =>
          have moves : (eat kind s).plain = .error ⟨.lexical fault.1, fault.2⟩ := by
            simp [plain_eat, S.peek_eq place, expected, moved]
          simp only [Agrees, moves, Reading.rest_eq_plain_rest, taken]
          exact Or.inr ⟨fault.1, rfl, S.lost_of_advance place moved⟩
    · have refused : eat kind (token :: tokens) =
          .error ⟨.unexpectedToken token kind, token :: tokens⟩ := by
        simp [eat, peek, expected]
      rw [refused]
      apply (Agrees.unexpected place token kind).congr
      intro s here
      subst here
      rw [plain_eat, S.peek_eq place]
      simp [expected]

theorem agrees_identifier (place : S.At start tokens) :
    S.Agrees start (fun s => (identifier s).plain) (identifier tokens) := by
  simp only [plain_identifier]
  exact (agrees_eat place .identifier).map Token.text

theorem agrees_unlessNext {read : (s : σ) → Reading σ (size s) α}
    {read' : (tokens : List Token) → Reading (List Token) (size tokens) α}
    (place : S.At start tokens) (stop : TokenKind)
    (agree : S.Agrees start (fun s => (read s).plain) (read' tokens)) :
    S.Agrees start (fun s => (unlessNext stop read s).plain) (unlessNext stop read' tokens) := by
  unfold unlessNext
  split
  · rename_i stops
    apply (Agrees.done place none).congr
    intro s here
    simp [At.peekKind_eq (here ▸ place), stops]
  · rename_i goes
    apply ((agree.map some).relax).congr
    intro s here
    simp [At.peekKind_eq (here ▸ place), goes]

/-! ### Expressions -/

theorem agrees_literal (place : S.At start tokens) {kind : TokenKind}
    (next : peekKind tokens = some kind) (isLiteral : kind.isLiteral = true) :
    S.Agrees start (fun s => (literal s).plain) (literal tokens) := by
  have ahead : ∀ s, start = .ok s → peekKind s = peekKind tokens :=
    fun s here => At.peekKind_eq (here ▸ place)
  rw [literal]
  split
  · rename_i number
    refine ((agrees_eat place .number).onward numberValue
      fun token start' tokens' _ place' => ?_).congr fun s here => ?_
    · cases value : Number.ofNumeral? token.text with
      | none => exact (Agrees.unexpected place' _ _).congr fun s _ => by simp [numberValue, value]
      | some number =>
        exact (Agrees.done place' _).congr fun s _ => by simp [numberValue, value]
    · rw [plain_literal, ahead s here, number]
  · rename_i string
    exact ((agrees_eat place .string).map _).congr fun s here => by
      rw [plain_literal, ahead s here, string]
  · rename_i yes
    exact ((agrees_eat place .kwTrue).map _).congr fun s here => by
      rw [plain_literal, ahead s here, yes]
  · rename_i no
    exact ((agrees_eat place .kwFalse).map _).congr fun s here => by
      rw [plain_literal, ahead s here, no]
  · rename_i null
    exact ((agrees_eat place .kwNull).map _).congr fun s here => by
      rw [plain_literal, ahead s here, null]
  · rename_i other _ _ _ _ _ otherNext
    rw [next] at otherNext
    cases otherNext
    cases kind <;> simp_all [TokenKind.isLiteral]
  · simp_all

mutual

theorem agrees_assignment {start : Except LexError σ} {tokens : List Token}
    (place : S.At start tokens) :
    S.Agrees start (fun s => (assignment s).plain) (assignment tokens) := by
  rw [assignment]
  simp only [plain_assignment]
  refine (agrees_chain .or place).onward _ fun left start₁ tokens₁ smaller place₁ => ?_
  have ahead : ∀ s, start₁ = .ok s → peekKind s = peekKind tokens₁ :=
    fun s here => At.peekKind_eq (here ▸ place₁)
  cases next : peekKind tokens₁ with
  | none => exact (Agrees.done place₁ left).congr fun s here => by simp [ahead s here, next]
  | some kind =>
    by_cases assigns : kind.isAssignment = true
    · simp only [assigns, if_true]
      refine ((agrees_eat place₁ kind).andThen (assigned left)
        fun token start₂ tokens₂ smaller₂ place₂ => ?_).relax.congr
          fun s here => by simp [ahead s here, next, assigns]
      cases spelled : (OperatorFamily.ofSymbol? token.text : Option AssignmentOperator) with
      | none => exact (Agrees.unexpected place₂ _ _).congr fun s _ => by simp [assigned, spelled]
      | some operator =>
        cases left with
        | identifier target =>
          exact ((agrees_assignment place₂).map _).congr fun s _ => by simp [assigned, spelled]
        | _ => exact (Agrees.invalid place₂ _).congr fun s _ => by simp [assigned, spelled]
    · simp only [assigns]
      exact (Agrees.done place₁ left).congr fun s here => by simp [ahead s here, next, assigns]
termination_by 16 * size tokens + 14
decreasing_by
  · exact Nat.add_lt_add_left (by decide : 2 * Level.or.height + 1 < 14) _
  · omega

theorem agrees_chain (level : Level) {start : Except LexError σ} {tokens : List Token}
    (place : S.At start tokens) :
    S.Agrees start (fun s => (chain level s).plain) (chain level tokens) := by
  rw [chain]
  simp only [plain_chain]
  exact (agrees_operand level place).onward _ fun left _ tokens₁ smaller place₁ =>
    agrees_chainOnward level left place₁
termination_by 16 * size tokens + 2 * level.height + 1

theorem agrees_chainOnward (level : Level) (left : Expr) {start : Except LexError σ}
    {tokens : List Token} (place : S.At start tokens) :
    S.Agrees start (fun s => (chainOnward level left s).plain) (chainOnward level left tokens) := by
  have ahead : ∀ s, start = .ok s → peekKind s = peekKind tokens :=
    fun s here => At.peekKind_eq (here ▸ place)
  rw [chainOnward]
  split
  · rename_i more
    refine ((agrees_eat place level.operator).andThen
      (fun token s => (operand level s).plain.andThen (joined level left token))
      fun token start₁ tokens₁ smaller₁ place₁ => ?_).relax.congr
        fun s here => by simp [plain_chainOnward, ahead s here, more]
    refine (agrees_operand level place₁).onward _
      fun right start₂ tokens₂ smaller₂ place₂ => ?_
    cases whole : level.join? token.text left right with
    | none => exact (Agrees.unexpected place₂ _ _).congr fun s _ => by simp [joined, whole]
    | some expr =>
      exact (agrees_chainOnward level expr place₂).congr fun s _ => by simp [joined, whole]
  · rename_i stops
    exact (Agrees.done place left).congr fun s here => by
      simp [plain_chainOnward, ahead s here, stops]
termination_by 16 * size tokens
decreasing_by
  · have := level.height_le
    omega
  · omega

theorem agrees_operand (level : Level) {start : Except LexError σ} {tokens : List Token}
    (place : S.At start tokens) :
    S.Agrees start (fun s => (operand level s).plain) (operand level tokens) := by
  rw [operand]
  split
  · rename_i tighter next
    have := Level.height_tighter next
    exact (agrees_chain tighter place).congr fun s _ => by simp [plain_operand, next]
  · rename_i last
    have := level.height_pos
    exact (agrees_unary place).congr fun s _ => by simp [plain_operand, last]
termination_by 16 * size tokens + 2 * level.height

theorem agrees_unary {start : Except LexError σ} {tokens : List Token}
    (place : S.At start tokens) :
    S.Agrees start (fun s => (unary s).plain) (unary tokens) := by
  have ahead : ∀ s, start = .ok s → peekKind s = peekKind tokens :=
    fun s here => At.peekKind_eq (here ▸ place)
  rw [unary]
  split
  · rename_i sign
    exact (agrees_signed .additive place).congr fun s here => by
      simp [plain_unary, ahead s here, sign]
  · rename_i sign
    exact (agrees_signed .logicalNot place).congr fun s here => by
      simp [plain_unary, ahead s here, sign]
  · rename_i additive negation
    exact (agrees_primary place).congr fun s here => by
      rw [plain_unary, ahead s here]
      split <;> simp_all
termination_by 16 * size tokens + 1

theorem agrees_signed (kind : TokenKind) {start : Except LexError σ} {tokens : List Token}
    (place : S.At start tokens) :
    S.Agrees start (fun s => (signed kind s).plain) (signed kind tokens) := by
  rw [signed]
  simp only [plain_signed]
  refine (agrees_eat place kind).andThen _ fun token start₁ tokens₁ smaller₁ place₁ => ?_
  cases spelled : (OperatorFamily.ofSymbol? token.text : Option UnaryOperator) with
  | none => exact (Agrees.unexpected place₁ _ _).congr fun s _ => by simp [signedBy, spelled]
  | some operator =>
    exact ((agrees_unary place₁).map _).congr fun s _ => by simp [signedBy, spelled]
termination_by 16 * size tokens

theorem agrees_primary {start : Except LexError σ} {tokens : List Token}
    (place : S.At start tokens) :
    S.Agrees start (fun s => (primary s).plain) (primary tokens) := by
  have ahead : ∀ s, start = .ok s → peekKind s = peekKind tokens :=
    fun s here => At.peekKind_eq (here ▸ place)
  have named := (agrees_identifier place).map Expr.identifier
  rw [primary]
  split
  · rename_i opened
    refine ((agrees_eat place .leftParen).andThen _
      fun _ start₁ tokens₁ smaller₁ place₁ => (agrees_assignment place₁).andThen _
        fun inner start₂ tokens₂ smaller₂ place₂ =>
          (agrees_eat place₂ .rightParen).map fun _ => inner).congr fun s here => ?_
    rw [plain_primary, ahead s here, opened]
  · rename_i kind closed next
    split
    · rename_i isLiteral
      exact (agrees_literal place next isLiteral).congr fun s here => by
        rw [plain_primary, ahead s here, next]
        simp [isLiteral]
    · rename_i notLiteral
      exact named.congr fun s here => by
        rw [plain_primary, ahead s here, next]
        simp [notLiteral]
  · rename_i next
    exact named.congr fun s here => by rw [plain_primary, ahead s here, next]
termination_by 16 * size tokens

end


/-! ### Statements -/

theorem agrees_declaration (place : S.At start tokens) :
    S.Agrees start (fun s => (declaration s).plain) (declaration tokens) := by
  rw [declaration]
  simp only [plain_declaration]
  refine (agrees_identifier place).onward _ fun name start₁ tokens₁ smaller₁ place₁ => ?_
  have ahead : ∀ s, start₁ = .ok s → peekKind s = peekKind tokens₁ :=
    fun s here => At.peekKind_eq (here ▸ place₁)
  split
  · rename_i separated
    exact (Agrees.done place₁ _).congr fun s here => by
      rw [ahead s here, if_pos separated]
  · rename_i valued
    refine ((agrees_eat place₁ .simpleAssignment).andThen _
      fun _ start₂ tokens₂ smaller₂ place₂ => (agrees_assignment place₂).map _).relax.congr
        fun s here => ?_
    rw [ahead s here, if_neg valued]

theorem agrees_declarationsOnward {start : Except LexError σ} {tokens : List Token}
    (place : S.At start tokens) :
    S.Agrees start (fun s => (declarationsOnward s).plain) (declarationsOnward tokens) := by
  have ahead : ∀ s, start = .ok s → peekKind s = peekKind tokens :=
    fun s here => At.peekKind_eq (here ▸ place)
  rw [declarationsOnward]
  split
  · rename_i more
    refine ((agrees_eat place .comma).andThen _ fun _ start₁ tokens₁ smaller₁ place₁ =>
      (agrees_declaration place₁).onward _ fun first start₂ tokens₂ smaller₂ place₂ =>
        (agrees_declarationsOnward place₂).map (first :: ·)).relax.congr fun s here => ?_
    rw [plain_declarationsOnward, ahead s here, if_pos more]
  · rename_i stops
    apply (Agrees.done place []).congr
    intro s here
    rw [plain_declarationsOnward, ahead s here, if_neg stops]
termination_by size tokens

theorem agrees_declarations (place : S.At start tokens) :
    S.Agrees start (fun s => (declarations s).plain) (declarations tokens) := by
  rw [declarations]
  simp only [plain_declarations]
  exact (agrees_declaration place).onward _ fun first _ _ _ place₁ =>
    (agrees_declarationsOnward place₁).map (first :: ·)

theorem agrees_intDeclarations (place : S.At start tokens) :
    S.Agrees start (fun s => (intDeclarations s).plain) (intDeclarations tokens) := by
  rw [intDeclarations]
  simp only [plain_intDeclarations]
  exact (agrees_eat place .kwInt).andThen _ fun _ _ _ _ place₁ => agrees_declarations place₁

theorem agrees_condition (place : S.At start tokens) :
    S.Agrees start (fun s => (condition s).plain) (condition tokens) := by
  rw [condition]
  simp only [plain_condition]
  exact (agrees_eat place .leftParen).andThen _ fun _ start₁ tokens₁ smaller₁ place₁ =>
    (agrees_assignment place₁).andThen _ fun test start₂ tokens₂ smaller₂ place₂ =>
      (agrees_eat place₂ .rightParen).map fun _ => test

theorem agrees_forInit (place : S.At start tokens) :
    S.Agrees start (fun s => (forInit s).plain) (forInit tokens) := by
  have ahead : ∀ s, start = .ok s → peekKind s = peekKind tokens :=
    fun s here => At.peekKind_eq (here ▸ place)
  rw [forInit]
  split
  · rename_i declares
    apply ((agrees_intDeclarations place).map _).congr
    intro s here
    rw [plain_forInit, ahead s here, if_pos declares]
  · rename_i evaluates
    apply ((agrees_assignment place).map _).congr
    intro s here
    rw [plain_forInit, ahead s here, if_neg evaluates]

theorem agrees_forHead (place : S.At start tokens) :
    S.Agrees start (fun s => (forHead s).plain) (forHead tokens) := by
  rw [forHead]
  simp only [plain_forHead]
  exact (agrees_eat place .kwFor).andThen _ fun _ _ _ _ place₁ =>
    (agrees_eat place₁ .leftParen).onward _ fun _ _ _ _ place₂ =>
      (agrees_unlessNext place₂ .semicolon (agrees_forInit place₂)).andThen _ fun _ _ _ _ place₃ =>
        (agrees_eat place₃ .semicolon).onward _ fun _ _ _ _ place₄ =>
          (agrees_unlessNext place₄ .semicolon (agrees_assignment place₄)).andThen _
            fun _ _ _ _ place₅ =>
              (agrees_eat place₅ .semicolon).onward _ fun _ _ _ _ place₆ =>
                (agrees_unlessNext place₆ .rightParen (agrees_assignment place₆)).andThen _
                  fun _ _ _ _ place₇ => (agrees_eat place₇ .rightParen).map _

theorem agrees_expressionStatement (place : S.At start tokens) :
    S.Agrees start (fun s => (expressionStatement s).plain) (expressionStatement tokens) := by
  rw [expressionStatement]
  simp only [plain_expressionStatement]
  exact (agrees_assignment place).andThen _ fun value _ _ _ place₁ =>
    (agrees_eat place₁ .semicolon).map fun _ => Stmt.expression value

theorem agrees_declarationStatement (place : S.At start tokens) :
    S.Agrees start (fun s => (declarationStatement s).plain) (declarationStatement tokens) := by
  rw [declarationStatement]
  simp only [plain_declarationStatement]
  exact (agrees_intDeclarations place).andThen _ fun list _ _ _ place₁ =>
    (agrees_eat place₁ .semicolon).map fun _ => Stmt.declaration list

end Productions

mutual

theorem agrees_statement {start : Except LexError σ} {tokens : List Token}
    (place : S.At start tokens) :
    S.Agrees start (fun s => (statement s).plain) (statement tokens) := by
  have ahead : ∀ s, start = .ok s → peekKind s = peekKind tokens :=
    fun s here => At.peekKind_eq (here ▸ place)
  rw [statement]
  simp only [plain_statement]
  split
  · rename_i empty
    exact ((agrees_eat place .semicolon).map _).congr fun s here => by rw [ahead s here, empty]
  · rename_i block
    exact ((agrees_block place).map _).congr fun s here => by rw [ahead s here, block]
  · rename_i int
    exact (agrees_declarationStatement place).congr fun s here => by rw [ahead s here, int]
  · rename_i branch
    exact (agrees_ifStatement place).congr fun s here => by rw [ahead s here, branch]
  · rename_i loop
    exact (agrees_whileStatement place).congr fun s here => by rw [ahead s here, loop]
  · rename_i loop
    exact (agrees_doStatement place).congr fun s here => by rw [ahead s here, loop]
  · rename_i loop
    exact (agrees_forStatement place).congr fun s here => by rw [ahead s here, loop]
  · apply (agrees_expressionStatement place).congr
    intro s here
    rw [ahead s here]
    split <;> simp_all
termination_by 4 * size tokens + 1

theorem agrees_ifStatement {start : Except LexError σ} {tokens : List Token}
    (place : S.At start tokens) :
    S.Agrees start (fun s => (ifStatement s).plain) (ifStatement tokens) := by
  rw [ifStatement]
  simp only [plain_ifStatement]
  refine (agrees_eat place .kwIf).andThen _ fun _ _ tokens₁ smaller₁ place₁ =>
    (agrees_condition place₁).andThen _ fun test _ tokens₂ smaller₂ place₂ =>
      (agrees_block place₂).onward _ fun consequent start₃ tokens₃ smaller₃ place₃ => ?_
  have ahead : ∀ s, start₃ = .ok s → peekKind s = peekKind tokens₃ :=
    fun s here => At.peekKind_eq (here ▸ place₃)
  split
  · rename_i alternative
    refine ((agrees_eat place₃ .kwElse).andThen _ fun _ _ tokens₄ smaller₄ place₄ =>
      (agrees_block place₄).map _).relax.congr fun s here => ?_
    rw [ahead s here, if_pos alternative]
  · rename_i ends
    apply (Agrees.done place₃ _).congr
    intro s here
    rw [ahead s here, if_neg ends]
termination_by 4 * size tokens

theorem agrees_whileStatement {start : Except LexError σ} {tokens : List Token}
    (place : S.At start tokens) :
    S.Agrees start (fun s => (whileStatement s).plain) (whileStatement tokens) := by
  rw [whileStatement]
  simp only [plain_whileStatement]
  exact (agrees_eat place .kwWhile).andThen _ fun _ _ tokens₁ smaller₁ place₁ =>
    (agrees_condition place₁).andThen _ fun test _ tokens₂ smaller₂ place₂ =>
      (agrees_block place₂).map _
termination_by 4 * size tokens

theorem agrees_doStatement {start : Except LexError σ} {tokens : List Token}
    (place : S.At start tokens) :
    S.Agrees start (fun s => (doStatement s).plain) (doStatement tokens) := by
  rw [doStatement]
  simp only [plain_doStatement]
  exact (agrees_eat place .kwDo).andThen _ fun _ _ tokens₁ smaller₁ place₁ =>
    (agrees_block place₁).andThen _ fun body _ tokens₂ smaller₂ place₂ =>
      (agrees_eat place₂ .kwWhile).andThen _ fun _ _ _ _ place₃ =>
        (agrees_condition place₃).map _
termination_by 4 * size tokens

theorem agrees_forStatement {start : Except LexError σ} {tokens : List Token}
    (place : S.At start tokens) :
    S.Agrees start (fun s => (forStatement s).plain) (forStatement tokens) := by
  rw [forStatement]
  simp only [plain_forStatement]
  exact (agrees_forHead place).andThen _ fun head _ tokens₁ smaller₁ place₁ =>
    (agrees_block place₁).map _
termination_by 4 * size tokens

theorem agrees_block {start : Except LexError σ} {tokens : List Token}
    (place : S.At start tokens) :
    S.Agrees start (fun s => (block s).plain) (block tokens) := by
  rw [block]
  simp only [plain_block]
  refine (agrees_eat place .leftBrace).andThen _ fun _ start₁ tokens₁ smaller₁ place₁ => ?_
  have ahead : ∀ s, start₁ = .ok s → peekKind s = peekKind tokens₁ :=
    fun s here => At.peekKind_eq (here ▸ place₁)
  split
  · rename_i closes
    apply ((agrees_eat place₁ .rightBrace).map _).congr
    intro s here
    rw [ahead s here, if_pos closes]
  · rename_i goes
    refine ((agrees_statements (some .rightBrace) place₁).andThen _
      fun body _ tokens₂ smaller₂ place₂ =>
        (agrees_eat place₂ .rightBrace).map fun _ => body).congr fun s here => ?_
    rw [ahead s here, if_neg goes]
termination_by 4 * size tokens

theorem agrees_statements (stop : Option TokenKind) {start : Except LexError σ}
    {tokens : List Token} (place : S.At start tokens) :
    S.Agrees start (fun s => (statements stop s).plain) (statements stop tokens) := by
  rw [statements]
  simp only [plain_statements]
  exact (agrees_statement place).onward _ fun first _ tokens₁ smaller₁ place₁ =>
    (agrees_statementsOnward stop place₁).map (first :: ·)
termination_by 4 * size tokens + 2

theorem agrees_statementsOnward (stop : Option TokenKind) {start : Except LexError σ}
    {tokens : List Token} (place : S.At start tokens) :
    S.Agrees start (fun s => (statementsOnward stop s).plain) (statementsOnward stop tokens) := by
  have ahead : ∀ s, start = .ok s → peekKind s = peekKind tokens :=
    fun s here => At.peekKind_eq (here ▸ place)
  rw [statementsOnward]
  simp only [plain_statementsOnward]
  split
  · rename_i ends
    exact (Agrees.done place []).congr fun s here => by simp [ahead s here, ends]
  · rename_i kind next
    split
    · rename_i stops
      exact (Agrees.done place []).congr fun s here => by simp [ahead s here, next, stops]
    · rename_i goes
      exact (agrees_statements stop place).relax.congr fun s here => by
        simp [ahead s here, next, goes]
termination_by 4 * size tokens + 3

end

/-- A whole program reads the same from the source as from the list beside it. -/
theorem agrees_program {start : Except LexError σ} {tokens : List Token}
    (place : S.At start tokens) :
    S.Agrees start (fun s => (program s).plain) (program tokens) := by
  rw [program]
  simp only [plain_program]
  exact (agrees_statements none place).map Program.mk

end Simulation
end ScriptTree
