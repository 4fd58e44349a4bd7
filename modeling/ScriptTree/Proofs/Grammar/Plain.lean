import ScriptTree.Grammar.Parser

/-! Readings without the bounds in their types, and what each production does in these terms. The
bounds serve termination alone, and two readings can be compared only where they are gone. -/

namespace ScriptTree

open TokenSource

/-- A value or an error, with the state of the source that goes with it. -/
abbrev Outcome (σ α : Type) := Except (Failure σ) (α × σ)

namespace Outcome

variable {σ α β : Type}

/-- Reads on from the rest. -/
def andThen (outcome : Outcome σ α) (next : α → σ → Outcome σ β) : Outcome σ β :=
  match outcome with
  | .ok (value, rest) => next value rest
  | .error failure => .error failure

/-- Applies a function to the value read. -/
def map (f : α → β) (outcome : Outcome σ α) : Outcome σ β :=
  outcome.andThen fun value rest => .ok (f value, rest)

/-- The value or the error alone. -/
def result : Outcome σ α → Except ParseError α
  | .ok (value, _) => .ok value
  | .error failure => .error failure.error

/-- The state of the source alone. -/
def rest : Outcome σ α → σ
  | .ok (_, rest) => rest
  | .error failure => failure.rest

@[simp] theorem andThen_ok (value : α) (rest : σ) (next : α → σ → Outcome σ β) :
    andThen (.ok (value, rest)) next = next value rest := rfl

@[simp] theorem andThen_error (failure : Failure σ) (next : α → σ → Outcome σ β) :
    andThen (.error failure) next = .error failure := rfl

@[simp] theorem map_ok (f : α → β) (value : α) (rest : σ) :
    map f (.ok (value, rest)) = .ok (f value, rest) := rfl

@[simp] theorem map_error (f : α → β) (failure : Failure σ) :
    map f (.error failure) = .error failure := rfl

theorem andThen_eq_ok {outcome : Outcome σ α} {next : α → σ → Outcome σ β} {result : β × σ} :
    outcome.andThen next = .ok result ↔
      ∃ value rest, outcome = .ok (value, rest) ∧ next value rest = .ok result := by
  constructor
  · intro read
    cases outcome with
    | error failure => cases read
    | ok first => exact ⟨first.1, first.2, rfl, read⟩
  · rintro ⟨value, rest, rfl, read⟩
    exact read

theorem map_eq_ok {f : α → β} {outcome : Outcome σ α} {result : β × σ} :
    outcome.map f = .ok result ↔ ∃ value, outcome = .ok (value, result.2) ∧ f value = result.1 := by
  constructor
  · intro mapped
    obtain ⟨value, rest, read, shape⟩ := andThen_eq_ok.mp mapped
    cases shape
    exact ⟨value, read, rfl⟩
  · rintro ⟨value, rfl, same⟩
    rw [map_ok, same]

end Outcome

namespace Reading

variable {σ α β : Type} [TokenSource σ] {bound : Nat}

/-- A reading without its bound. -/
def plain (reading : Reading σ bound α) : Outcome σ α :=
  match reading with
  | .ok parsed => .ok (parsed.value, parsed.rest)
  | .error failure => .error failure

theorem size_lt_of_plain {reading : Reading σ bound α} {value : α} {rest : σ}
    (read : reading.plain = .ok (value, rest)) : size rest < bound := by
  cases reading with
  | error failure => cases read
  | ok parsed => cases read; exact parsed.size_lt

@[simp] theorem plain_ok (parsed : Parsed σ bound α) :
    plain (.ok parsed) = .ok (parsed.value, parsed.rest) := rfl

@[simp] theorem plain_error (failure : Failure σ) :
    plain (.error failure : Reading σ bound α) = .error failure := rfl

@[simp] theorem plain_done (value : α) (s : σ) : (done value s).plain = .ok (value, s) := rfl

@[simp] theorem plain_relax (reading : Reading σ bound α) :
    reading.relax.plain = reading.plain := by
  cases reading <;> rfl

@[simp] theorem plain_map (f : α → β) (reading : Reading σ bound α) :
    (reading.map f).plain = reading.plain.map f := by
  cases reading <;> rfl

@[simp] theorem plain_onward (reading : Reading σ bound α)
    (next : α → (s : σ) → Reading σ (size s + 1) β) :
    (reading.onward fun value s _ => next value s).plain =
      reading.plain.andThen fun value s => (next value s).plain := by
  cases reading with
  | error failure => rfl
  | ok parsed =>
    simp only [onward, plain_ok, Outcome.andThen_ok]
    cases next parsed.value parsed.rest <;> rfl

@[simp] theorem plain_andThen (reading : Reading σ bound α)
    (next : α → (s : σ) → Reading σ (size s) β) :
    (reading.andThen fun value s _ => next value s).plain =
      reading.plain.andThen fun value s => (next value s).plain := by
  simp [andThen]

theorem outcome_eq_result (reading : Reading σ bound α) :
    reading.outcome = reading.plain.result := by
  cases reading <;> rfl

theorem rest_eq_plain_rest (reading : Reading σ bound α) : reading.rest = reading.plain.rest := by
  cases reading <;> rfl

end Reading

namespace Grammar

variable {σ : Type} [TokenSource σ]

theorem plain_eat (expected : TokenKind) (s : σ) : (eat expected s).plain =
    match peek s with
    | none => .error ⟨.unexpectedEnd expected, s⟩
    | some token =>
      if token.kind = expected then
        match advance s with
        | .ok rest => .ok (token, rest)
        | .error (error, rest) => .error ⟨.lexical error, rest⟩
      else .error ⟨.unexpectedToken token expected, s⟩ := by
  unfold eat
  split
  · rename_i ahead
    simp [ahead]
  · rename_i token ahead
    simp only [ahead]
    split
    · split <;> rename_i moved <;> simp [moved]
    · rfl

theorem plain_eat_eq_ok {expected : TokenKind} {s rest : σ} {token : Token} :
    (eat expected s).plain = .ok (token, rest) ↔
      peek s = some token ∧ token.kind = expected ∧ advance s = .ok rest := by
  rw [plain_eat]
  constructor
  · intro read
    split at read
    · cases read
    · rename_i ahead
      split at read
      · rename_i same
        split at read <;> cases read
        rename_i moved
        exact ⟨ahead, same, moved⟩
      · cases read
  · rintro ⟨ahead, same, moved⟩
    simp only [ahead, same, moved, if_true]

@[simp] theorem peekKind_nil : peekKind ([] : List Token) = none := rfl

@[simp] theorem peekKind_cons (token : Token) (tokens : List Token) :
    peekKind (token :: tokens) = some token.kind := rfl

@[simp] theorem plain_eat_nil (expected : TokenKind) :
    (eat expected ([] : List Token)).plain = .error ⟨.unexpectedEnd expected, []⟩ := by
  rw [plain_eat]
  rfl

theorem plain_eat_cons (expected : TokenKind) (token : Token) (tokens : List Token) :
    (eat expected (token :: tokens)).plain =
      if token.kind = expected then .ok (token, tokens)
      else .error ⟨.unexpectedToken token expected, token :: tokens⟩ := by
  rw [plain_eat]
  rfl

@[simp] theorem plain_eat_cons_self (token : Token) (tokens : List Token) :
    (eat token.kind (token :: tokens)).plain = .ok (token, tokens) := by
  rw [plain_eat_cons, if_pos rfl]

@[simp] theorem plain_misfit {α : Type} {bound : Nat} (token : Token) (s : σ) :
    (misfit token s : Reading σ bound α).plain =
      .error ⟨.unexpectedToken token token.kind, s⟩ := rfl

theorem plain_unlessNext {α : Type} (stop : TokenKind) (read : (s : σ) → Reading σ (size s) α)
    (s : σ) : (unlessNext stop read s).plain =
      if peekKind s = some stop then .ok (none, s) else (read s).plain.map some := by
  unfold unlessNext
  split <;> simp

/-! ### Expressions -/

/-- The value of a numeral token. -/
def numberValue (token : Token) (s : σ) : Outcome σ Expr :=
  match Number.ofNumeral? token.text with
  | some value => .ok (.number value, s)
  | none => .error ⟨.unexpectedToken token token.kind, s⟩

/-- What follows the first operand of an assignment once its operator is read. -/
def assigned (left : Expr) (token : Token) (s : σ) : Outcome σ Expr :=
  match OperatorFamily.ofSymbol? token.text with
  | none => .error ⟨.unexpectedToken token token.kind, s⟩
  | some operator =>
    match left with
    | .identifier target => (assignment s).plain.map (.assignment operator target)
    | other => .error ⟨.invalidTarget other.kindName, s⟩

theorem plain_identifier (s : σ) :
    (identifier s).plain = (eat .identifier s).plain.map Token.text := by
  simp [identifier]

theorem plain_assignment (s : σ) : (assignment s).plain =
    (chain .or s).plain.andThen fun left s₁ =>
      match peekKind s₁ with
      | none => .ok (left, s₁)
      | some kind =>
        if kind.isAssignment then (eat kind s₁).plain.andThen (assigned left)
        else .ok (left, s₁) := by
  rw [assignment, Reading.plain_onward]
  congr
  funext left s₁
  cases peekKind s₁ with
  | none => rfl
  | some kind =>
    by_cases assigns : kind.isAssignment = true
    · simp only [assigns, if_true, Reading.plain_relax, Reading.plain_andThen]
      congr
      funext token s₂
      unfold assigned
      cases (OperatorFamily.ofSymbol? token.text : Option AssignmentOperator) with
      | none => rfl
      | some operator => cases left <;> simp
    · simp [assigns]

theorem plain_chain (level : Level) (s : σ) : (chain level s).plain =
    (operand level s).plain.andThen fun left s₁ => (chainOnward level left s₁).plain := by
  rw [chain, Reading.plain_onward]

/-- What follows an operator of a level and the operand behind it. -/
def joined (level : Level) (left : Expr) (token : Token) (right : Expr) (s : σ) :
    Outcome σ Expr :=
  match level.join? token.text left right with
  | some whole => (chainOnward level whole s).plain
  | none => .error ⟨.unexpectedToken token token.kind, s⟩

theorem plain_chainOnward (level : Level) (left : Expr) (s : σ) :
    (chainOnward level left s).plain =
      if peekKind s = some level.operator then
        (eat level.operator s).plain.andThen fun token s₁ =>
          (operand level s₁).plain.andThen (joined level left token)
      else .ok (left, s) := by
  rw [chainOnward]
  split
  · simp only [Reading.plain_relax, Reading.plain_andThen, Reading.plain_onward]
    congr
    funext token s₁
    congr
    funext right s₂
    unfold joined
    cases level.join? token.text left right <;> rfl
  · rfl

theorem plain_operand (level : Level) (s : σ) : (operand level s).plain =
    match level.tighter? with
    | some tighter => (chain tighter s).plain
    | none => (unary s).plain := by
  rw [operand]
  split <;> rename_i next <;> simp only [next]

/-- The operand behind an operator that stands before it. -/
def signedBy (token : Token) (s : σ) : Outcome σ Expr :=
  match OperatorFamily.ofSymbol? token.text with
  | some operator => (unary s).plain.map (.unary operator)
  | none => .error ⟨.unexpectedToken token token.kind, s⟩

theorem plain_unary (s : σ) : (unary s).plain =
    match peekKind s with
    | some .additive => (signed .additive s).plain
    | some .logicalNot => (signed .logicalNot s).plain
    | _ => (primary s).plain := by
  rw [unary]
  split <;> simp_all

theorem plain_signed (kind : TokenKind) (s : σ) :
    (signed kind s).plain = (eat kind s).plain.andThen signedBy := by
  rw [signed, Reading.plain_andThen]
  congr
  funext token s₁
  unfold signedBy
  cases (OperatorFamily.ofSymbol? token.text : Option UnaryOperator) <;> simp

theorem plain_literal (s : σ) : (literal s).plain =
    match peekKind s with
    | some .number => (eat .number s).plain.andThen numberValue
    | some .string => (eat .string s).plain.map fun token => .string token.content
    | some .kwTrue => (eat .kwTrue s).plain.map fun _ => .boolean true
    | some .kwFalse => (eat .kwFalse s).plain.map fun _ => .boolean false
    | some .kwNull => (eat .kwNull s).plain.map fun _ => .null
    | some _ => .error ⟨.notLiteral (((peek s).map Token.text).getD ""), s⟩
    | none => .error ⟨.notLiteral "end of input", s⟩ := by
  unfold literal
  generalize peekKind s = ahead
  split
  · simp only [Reading.plain_onward]
    congr
    funext token s₁
    unfold numberValue
    cases Number.ofNumeral? token.text <;> rfl
  all_goals simp_all

theorem plain_primary (s : σ) : (primary s).plain =
    match peekKind s with
    | some .leftParen =>
      (eat .leftParen s).plain.andThen fun _ s₁ =>
        (assignment s₁).plain.andThen fun inner s₂ =>
          (eat .rightParen s₂).plain.map fun _ => inner
    | some kind =>
      if kind.isLiteral then (literal s).plain else (identifier s).plain.map .identifier
    | none => (identifier s).plain.map .identifier := by
  rw [primary]
  split
  · simp_all
  · split <;> simp_all
  · simp_all

/-! ### Statements -/

theorem plain_declaration (s : σ) : (declaration s).plain =
    (identifier s).plain.andThen fun name s₁ =>
      if peekKind s₁ = some .semicolon ∨ peekKind s₁ = some .comma then .ok (⟨name, none⟩, s₁)
      else
        (eat .simpleAssignment s₁).plain.andThen fun _ s₂ =>
          (assignment s₂).plain.map fun value => ⟨name, some value⟩ := by
  unfold declaration
  rw [Reading.plain_onward]
  congr
  funext name s₁
  split <;> simp

theorem plain_declarationsOnward (s : σ) : (declarationsOnward s).plain =
    if peekKind s = some .comma then
      (eat .comma s).plain.andThen fun _ s₁ =>
        (declaration s₁).plain.andThen fun first s₂ =>
          (declarationsOnward s₂).plain.map (first :: ·)
    else .ok ([], s) := by
  rw [declarationsOnward]
  split <;> simp

theorem plain_declarations (s : σ) : (declarations s).plain =
    (declaration s).plain.andThen fun first s₁ =>
      (declarationsOnward s₁).plain.map (first :: ·) := by
  simp [declarations]

theorem plain_intDeclarations (s : σ) : (intDeclarations s).plain =
    (eat .kwInt s).plain.andThen fun _ s₁ => (declarations s₁).plain := by
  simp [intDeclarations]

theorem plain_condition (s : σ) : (condition s).plain =
    (eat .leftParen s).plain.andThen fun _ s₁ =>
      (assignment s₁).plain.andThen fun test s₂ =>
        (eat .rightParen s₂).plain.map fun _ => test := by
  simp [condition]

theorem plain_forInit (s : σ) : (forInit s).plain =
    if peekKind s = some .kwInt then (intDeclarations s).plain.map .declarations
    else (assignment s).plain.map .expression := by
  unfold forInit
  split <;> simp

theorem plain_forHead (s : σ) : (forHead s).plain =
    (eat .kwFor s).plain.andThen fun _ s₁ =>
      (eat .leftParen s₁).plain.andThen fun _ s₂ =>
        (unlessNext .semicolon forInit s₂).plain.andThen fun init s₃ =>
          (eat .semicolon s₃).plain.andThen fun _ s₄ =>
            (unlessNext .semicolon assignment s₄).plain.andThen fun test s₅ =>
              (eat .semicolon s₅).plain.andThen fun _ s₆ =>
                (unlessNext .rightParen assignment s₆).plain.andThen fun update s₇ =>
                  (eat .rightParen s₇).plain.map fun _ => (init, test, update) := by
  simp [forHead]

theorem plain_expressionStatement (s : σ) : (expressionStatement s).plain =
    (assignment s).plain.andThen fun value s₁ =>
      (eat .semicolon s₁).plain.map fun _ => .expression value := by
  simp [expressionStatement]

theorem plain_declarationStatement (s : σ) : (declarationStatement s).plain =
    (intDeclarations s).plain.andThen fun list s₁ =>
      (eat .semicolon s₁).plain.map fun _ => .declaration list := by
  simp [declarationStatement]

theorem plain_statement (s : σ) : (statement s).plain =
    match peekKind s with
    | some .semicolon => (eat .semicolon s).plain.map fun _ => .empty
    | some .leftBrace => (block s).plain.map .block
    | some .kwInt => (declarationStatement s).plain
    | some .kwIf => (ifStatement s).plain
    | some .kwWhile => (whileStatement s).plain
    | some .kwDo => (doStatement s).plain
    | some .kwFor => (forStatement s).plain
    | _ => (expressionStatement s).plain := by
  rw [statement]
  split <;> simp_all

theorem plain_ifStatement (s : σ) : (ifStatement s).plain =
    (eat .kwIf s).plain.andThen fun _ s₁ =>
      (condition s₁).plain.andThen fun test s₂ =>
        (block s₂).plain.andThen fun consequent s₃ =>
          if peekKind s₃ = some .kwElse then
            (eat .kwElse s₃).plain.andThen fun _ s₄ =>
              (block s₄).plain.map fun alternate =>
                .ifElse test (.block consequent) (some (.block alternate))
          else .ok (.ifElse test (.block consequent) none, s₃) := by
  rw [ifStatement]
  simp only [Reading.plain_andThen, Reading.plain_onward]
  congr
  funext _ s₁
  congr
  funext test s₂
  congr
  funext consequent s₃
  split <;> simp

theorem plain_whileStatement (s : σ) : (whileStatement s).plain =
    (eat .kwWhile s).plain.andThen fun _ s₁ =>
      (condition s₁).plain.andThen fun test s₂ =>
        (block s₂).plain.map fun body => .whileLoop test (.block body) := by
  rw [whileStatement]
  simp

theorem plain_doStatement (s : σ) : (doStatement s).plain =
    (eat .kwDo s).plain.andThen fun _ s₁ =>
      (block s₁).plain.andThen fun body s₂ =>
        (eat .kwWhile s₂).plain.andThen fun _ s₃ =>
          (condition s₃).plain.map fun test => .doWhile (.block body) test := by
  rw [doStatement]
  simp

theorem plain_forStatement (s : σ) : (forStatement s).plain =
    (forHead s).plain.andThen fun head s₁ =>
      (block s₁).plain.map fun body =>
        .forLoop head.1 head.2.1 head.2.2 (.block body) := by
  rw [forStatement]
  simp

theorem plain_block (s : σ) : (block s).plain =
    (eat .leftBrace s).plain.andThen fun _ s₁ =>
      if peekKind s₁ = some .rightBrace ∨ peekKind s₁ = none then
        (eat .rightBrace s₁).plain.map fun _ => []
      else
        (statements (some .rightBrace) s₁).plain.andThen fun body s₂ =>
          (eat .rightBrace s₂).plain.map fun _ => body := by
  rw [block]
  simp only [Reading.plain_andThen]
  congr
  funext _ s₁
  split <;> simp

theorem plain_statements (stop : Option TokenKind) (s : σ) : (statements stop s).plain =
    (statement s).plain.andThen fun first s₁ =>
      (statementsOnward stop s₁).plain.map (first :: ·) := by
  rw [statements]
  simp

theorem plain_statementsOnward (stop : Option TokenKind) (s : σ) :
    (statementsOnward stop s).plain =
      if peekKind s = none ∨ peekKind s = stop then .ok ([], s) else (statements stop s).plain := by
  rw [statementsOnward]
  cases ahead : peekKind s with
  | none => simp
  | some kind =>
    simp only [reduceCtorEq, false_or]
    split <;> simp

/-- Statements are read up to the token that stops them or the end of the source. -/
theorem peekKind_statementsOnward (stop : Option TokenKind) (s : σ) {list : List Stmt} {rest : σ}
    (read : (statementsOnward stop s).plain = .ok (list, rest)) :
    peekKind rest = none ∨ peekKind rest = stop := by
  rw [plain_statementsOnward] at read
  split at read
  · rename_i ends
    cases read
    exact ends
  · rw [plain_statements] at read
    obtain ⟨first, s₁, one, read⟩ := Outcome.andThen_eq_ok.mp read
    have := Reading.size_lt_of_plain one
    obtain ⟨others, read, -⟩ := Outcome.map_eq_ok.mp read
    exact peekKind_statementsOnward stop s₁ read
termination_by size s

theorem plain_program (s : σ) : (program s).plain = (statements none s).plain.map Program.mk := by
  simp [program]

/-- A program is read to the end of its source. -/
theorem peekKind_of_outcome_program {s : σ} {whole : Program}
    (read : (program s).outcome = .ok whole) : peekKind (program s).rest = none := by
  rw [Reading.outcome_eq_result, plain_program] at read
  rw [Reading.rest_eq_plain_rest, plain_program]
  cases all : (statements none s).plain with
  | error failure => simp [all, Outcome.result] at read
  | ok result =>
    obtain ⟨body, rest⟩ := result
    rw [plain_statements] at all
    obtain ⟨first, s₁, -, all⟩ := Outcome.andThen_eq_ok.mp all
    obtain ⟨others, more, -⟩ := Outcome.map_eq_ok.mp all
    simpa [Outcome.rest] using peekKind_statementsOnward none s₁ more

end Grammar
end ScriptTree
