import ScriptTree.Proofs.Grammar.Plain

/-! The productions as scripts. A script looks at the next token, takes tokens, calls productions
and ends in a value or an error; it holds no state of a source and calls productions by name alone.
Every production does what its script says, so that its calls can be followed. -/

namespace ScriptTree

open TokenSource

/-! ### Productions -/

/-- The productions of the grammar with their parameters. -/
inductive Production where
  | identifier
  | literal
  | assignment
  | chain (level : Level)
  | chainOnward (level : Level) (left : Expr)
  | operand (level : Level)
  | unary
  | signed (kind : TokenKind)
  | primary
  | declaration
  | declarationsOnward
  | declarations
  | intDeclarations
  | condition
  | forInit
  | forHead
  | expressionStatement
  | declarationStatement
  | statement
  | ifStatement
  | whileStatement
  | doStatement
  | forStatement
  | block
  | statements (stop : Option TokenKind)
  | statementsOnward (stop : Option TokenKind)
  | program
deriving DecidableEq

namespace Production

/-- What a production reads. -/
abbrev Value : Production → Type
  | identifier => String
  | literal | assignment | chain _ | chainOnward _ _ | operand _ | unary | signed _ | primary
  | condition => Expr
  | declaration => Declaration
  | declarationsOnward | declarations | intDeclarations => List Declaration
  | forInit => ForInit
  | forHead => Option ForInit × Option Expr × Option Expr
  | expressionStatement | declarationStatement | statement | ifStatement | whileStatement
  | doStatement | forStatement => Stmt
  | block | statements _ | statementsOnward _ => List Stmt
  | program => Program

/-- The productions that go on with a list or a chain, and may find that it ends here. -/
def isOnward : Production → Bool
  | chainOnward _ _ | declarationsOnward | statementsOnward _ => true
  | _ => false

/-- What each production reads from a source in a state. -/
abbrev Reader (σ : Type) :=
  (production : Production) → σ → Outcome σ production.Value

variable {σ : Type} [TokenSource σ]

/-- What the productions of the parser read. -/
def read : Reader σ
  | identifier, s => (Grammar.identifier s).plain
  | literal, s => (Grammar.literal s).plain
  | assignment, s => (Grammar.assignment s).plain
  | chain level, s => (Grammar.chain level s).plain
  | chainOnward level left, s => (Grammar.chainOnward level left s).plain
  | operand level, s => (Grammar.operand level s).plain
  | unary, s => (Grammar.unary s).plain
  | signed kind, s => (Grammar.signed kind s).plain
  | primary, s => (Grammar.primary s).plain
  | declaration, s => (Grammar.declaration s).plain
  | declarationsOnward, s => (Grammar.declarationsOnward s).plain
  | declarations, s => (Grammar.declarations s).plain
  | intDeclarations, s => (Grammar.intDeclarations s).plain
  | condition, s => (Grammar.condition s).plain
  | forInit, s => (Grammar.forInit s).plain
  | forHead, s => (Grammar.forHead s).plain
  | expressionStatement, s => (Grammar.expressionStatement s).plain
  | declarationStatement, s => (Grammar.declarationStatement s).plain
  | statement, s => (Grammar.statement s).plain
  | ifStatement, s => (Grammar.ifStatement s).plain
  | whileStatement, s => (Grammar.whileStatement s).plain
  | doStatement, s => (Grammar.doStatement s).plain
  | forStatement, s => (Grammar.forStatement s).plain
  | block, s => (Grammar.block s).plain
  | statements stop, s => (Grammar.statements stop s).plain
  | statementsOnward stop, s => (Grammar.statementsOnward stop s).plain
  | program, s => (Grammar.program s).plain

end Production

/-! ### Scripts -/

/-- What is done to read a value, one step after the other. -/
inductive Script (α : Type) where
  | done (value : α)
  | fail (error : ParseError)
  /-- Looks at the next token without taking it. -/
  | look (next : Option Token → Script α)
  /-- Takes the next token if it has a kind. -/
  | take (kind : TokenKind) (next : Token → Script α)
  | call (production : Production) (next : production.Value → Script α)

namespace Script

variable {σ α : Type} [TokenSource σ]

/-- The outcome of a script where calls are answered by `answer`. -/
def run (answer : Production.Reader σ) : Script α → σ → Outcome σ α
  | done value, s => .ok (value, s)
  | fail error, s => .error ⟨error, s⟩
  | look next, s => (next (peek s)).run answer s
  | take kind next, s =>
    (eat kind s).plain.andThen fun token rest => (next token).run answer rest
  | call production next, s =>
    (answer production s).andThen fun value rest => (next value).run answer rest

/-- Looks at the kind of the next token. -/
def ahead (next : Option TokenKind → Script α) : Script α :=
  look fun token => next (token.map Token.kind)

/-- Takes a token and ends. -/
def last (kind : TokenKind) (value : Token → α) : Script α :=
  take kind fun token => done (value token)

/-- Calls a production and ends. -/
def tail (production : Production) (value : production.Value → α) : Script α :=
  call production fun part => done (value part)

/-- Calls a production for a clause that may be missing, unless the token behind it comes next. -/
def clause (stop : TokenKind) (production : Production)
    (next : Option production.Value → Script α) : Script α :=
  ahead fun kind =>
    if kind = some stop then next none else call production fun value => next (some value)

/-- The error for a token whose text does not fit its kind. -/
def misfit (token : Token) : Script α :=
  fail (.unexpectedToken token token.kind)

/-! What follows once a numeral or an operator is taken. -/

def ofNumeral (token : Token) : Script Expr :=
  match Number.ofNumeral? token.text with
  | some value => done (.number value)
  | none => misfit token

def assign (left : Expr) (token : Token) : Script Expr :=
  match OperatorFamily.ofSymbol? token.text with
  | none => misfit token
  | some operator =>
    match left with
    | .identifier target => tail .assignment (.assignment operator target)
    | other => fail (.invalidTarget other.kindName)

def join (level : Level) (left : Expr) (token : Token) (right : Expr) : Script Expr :=
  match level.join? token.text left right with
  | some whole => call (.chainOnward level whole) done
  | none => misfit token

def sign (token : Token) : Script Expr :=
  match OperatorFamily.ofSymbol? token.text with
  | some operator => tail .unary (.unary operator)
  | none => misfit token

end Script

open Script

/-- What a production does. -/
def Production.script : (production : Production) → Script production.Value
  | identifier => last .identifier Token.text
  | literal => ahead fun kind =>
    match kind with
    | some .number => take .number ofNumeral
    | some .string => last .string fun token => .string token.content
    | some .kwTrue => last .kwTrue fun _ => .boolean true
    | some .kwFalse => last .kwFalse fun _ => .boolean false
    | some .kwNull => last .kwNull fun _ => .null
    | some _ => look fun token => fail (.notLiteral ((token.map Token.text).getD ""))
    | none => fail (.notLiteral "end of input")
  | assignment => call (chain .or) fun left => ahead fun kind =>
    match kind with
    | none => done left
    | some kind => if kind.isAssignment then take kind (assign left) else done left
  | chain level => call (operand level) fun left => call (chainOnward level left) done
  | chainOnward level left => ahead fun kind =>
    if kind = some level.operator then
      take level.operator fun token => call (operand level) (join level left token)
    else done left
  | operand level =>
    match level.tighter? with
    | some tighter => call (chain tighter) done
    | none => call unary done
  | unary => ahead fun kind =>
    match kind with
    | some .additive => call (signed .additive) done
    | some .logicalNot => call (signed .logicalNot) done
    | _ => call primary done
  | signed kind => take kind sign
  | primary => ahead fun kind =>
    match kind with
    | some .leftParen =>
      take .leftParen fun _ => call assignment fun inner => last .rightParen fun _ => inner
    | some kind => if kind.isLiteral then call literal done else tail identifier .identifier
    | none => tail identifier .identifier
  | declaration => call identifier fun name => ahead fun kind =>
    if kind = some .semicolon ∨ kind = some .comma then done ⟨name, none⟩
    else take .simpleAssignment fun _ => tail assignment fun value => ⟨name, some value⟩
  | declarationsOnward => ahead fun kind =>
    if kind = some .comma then
      take .comma fun _ => call declaration fun first => tail declarationsOnward (first :: ·)
    else done []
  | declarations => call declaration fun first => tail declarationsOnward (first :: ·)
  | intDeclarations => take .kwInt fun _ => call declarations done
  | condition =>
    take .leftParen fun _ => call assignment fun test => last .rightParen fun _ => test
  | forInit => ahead fun kind =>
    if kind = some .kwInt then tail intDeclarations .declarations else tail assignment .expression
  | forHead =>
    take .kwFor fun _ => take .leftParen fun _ =>
      clause .semicolon forInit fun init => take .semicolon fun _ =>
        clause .semicolon assignment fun test => take .semicolon fun _ =>
          clause .rightParen assignment fun update =>
            last .rightParen fun _ => (init, test, update)
  | expressionStatement => call assignment fun value => last .semicolon fun _ => .expression value
  | declarationStatement =>
    call intDeclarations fun list => last .semicolon fun _ => .declaration list
  | statement => ahead fun kind =>
    match kind with
    | some .semicolon => last .semicolon fun _ => .empty
    | some .leftBrace => tail block .block
    | some .kwInt => call declarationStatement done
    | some .kwIf => call ifStatement done
    | some .kwWhile => call whileStatement done
    | some .kwDo => call doStatement done
    | some .kwFor => call forStatement done
    | _ => call expressionStatement done
  | ifStatement =>
    take .kwIf fun _ => call condition fun test => call block fun consequent => ahead fun kind =>
      if kind = some .kwElse then
        take .kwElse fun _ => tail block fun alternate =>
          .ifElse test (.block consequent) (some (.block alternate))
      else done (.ifElse test (.block consequent) none)
  | whileStatement =>
    take .kwWhile fun _ => call condition fun test => tail block fun body =>
      .whileLoop test (.block body)
  | doStatement =>
    take .kwDo fun _ => call block fun body => take .kwWhile fun _ => tail condition fun test =>
      .doWhile (.block body) test
  | forStatement =>
    call forHead fun head => tail block fun body =>
      .forLoop head.1 head.2.1 head.2.2 (.block body)
  | block => take .leftBrace fun _ => ahead fun kind =>
    if kind = some .rightBrace ∨ kind = none then last .rightBrace fun _ => []
    else call (statements (some .rightBrace)) fun body => last .rightBrace fun _ => body
  | statements stop => call statement fun first => tail (statementsOnward stop) (first :: ·)
  | statementsOnward stop => ahead fun kind =>
    if kind = none ∨ kind = stop then done [] else call (statements stop) done
  | program => tail (statements none) Program.mk

/-! ### Productions follow their scripts -/

theorem Outcome.andThen_congr {σ α β : Type} {outcome : Outcome σ α}
    {next next' : α → σ → Outcome σ β} (same : ∀ value rest, next value rest = next' value rest) :
    outcome.andThen next = outcome.andThen next' := by
  rw [funext fun value => funext (same value)]

namespace Script

variable {σ α : Type} [TokenSource σ] {answer : Production.Reader σ} {s : σ}

theorem run_ahead (next : Option TokenKind → Script α) :
    (ahead next).run answer s = (next (peekKind s)).run answer s := rfl

theorem run_ite (condition : Prop) [Decidable condition] (script script' : Script α) :
    (if condition then script else script').run answer s =
      if condition then script.run answer s else script'.run answer s := by
  split <;> rfl

end Script

namespace Production

variable {σ : Type} [TokenSource σ] {s : σ}

theorem run_clause {α : Type} {stop : TokenKind} (production : Production)
    (reader : (s : σ) → Reading σ (size s) production.Value)
    (same : production.read s = (reader s).plain)
    (next : Option production.Value → Script α) :
    (clause stop production next).run read s =
      (unlessNext stop reader s).plain.andThen fun value rest => (next value).run read rest := by
  rw [Grammar.plain_unlessNext, clause, run_ahead]
  split
  · rfl
  · rw [run, same]
    cases (reader s).plain <;> rfl

/-- A production that ends in another one. -/
theorem become (production : Production) (s : σ) :
    (call production done).run read s = production.read s := by
  rw [run]
  cases production.read s <;> rfl

theorem run_ofNumeral (token : Token) :
    (ofNumeral token).run read s = Grammar.numberValue token s := by
  rw [ofNumeral, Grammar.numberValue]
  cases Number.ofNumeral? token.text <;> rfl

theorem run_assign (left : Expr) (token : Token) :
    (assign left token).run read s = Grammar.assigned left token s := by
  rw [assign, Grammar.assigned]
  cases (OperatorFamily.ofSymbol? token.text : Option AssignmentOperator) with
  | none => rfl
  | some operator => cases left <;> rfl

theorem run_join (level : Level) (left : Expr) (token : Token) (right : Expr) :
    (join level left token right).run read s = Grammar.joined level left token right s := by
  rw [join, Grammar.joined]
  cases level.join? token.text left right with
  | none => rfl
  | some whole => exact become (.chainOnward level whole) s

theorem run_sign (token : Token) : (sign token).run read s = Grammar.signedBy token s := by
  rw [sign, Grammar.signedBy]
  cases (OperatorFamily.ofSymbol? token.text : Option UnaryOperator) <;> rfl

/-- Every production does what its script says. -/
theorem read_eq_run (production : Production) (s : σ) :
    production.read s = production.script.run read s := by
  cases production with
  | identifier => exact Grammar.plain_identifier s
  | literal =>
    rw [read, Grammar.plain_literal, script, run_ahead]
    cases peekKind s with
    | none => rfl
    | some kind =>
      cases kind with
      | number => exact Outcome.andThen_congr fun token rest => (run_ofNumeral token).symm
      | _ => rfl
  | assignment =>
    refine (Grammar.plain_assignment s).trans (Outcome.andThen_congr fun left s₁ => ?_)
    rw [run_ahead]
    cases peekKind s₁ with
    | none => rfl
    | some kind =>
      simp only [run_ite]
      split
      · exact Outcome.andThen_congr fun token s₂ => (run_assign left token).symm
      · rfl
  | chain level =>
    refine (Grammar.plain_chain level s).trans (Outcome.andThen_congr fun left s₁ => ?_)
    exact (become (chainOnward level left) s₁).symm
  | chainOnward level left =>
    rw [read, Grammar.plain_chainOnward, script, run_ahead, run_ite]
    split
    · exact Outcome.andThen_congr fun token s₁ =>
        Outcome.andThen_congr fun right s₂ => (run_join level left token right).symm
    · rfl
  | operand level =>
    rw [read, Grammar.plain_operand, script]
    cases level.tighter? with
    | none => exact (become unary s).symm
    | some tighter => exact (become (chain tighter) s).symm
  | unary =>
    rw [read, Grammar.plain_unary, script, run_ahead]
    cases peekKind s with
    | none => exact (become primary s).symm
    | some kind =>
      cases kind with
      | additive => exact (become (signed .additive) s).symm
      | logicalNot => exact (become (signed .logicalNot) s).symm
      | _ => exact (become primary s).symm
  | signed kind =>
    exact (Grammar.plain_signed kind s).trans
      (Outcome.andThen_congr fun token s₁ => (run_sign token).symm)
  | primary =>
    rw [read, Grammar.plain_primary, script, run_ahead]
    cases peekKind s with
    | none => rfl
    | some kind =>
      cases kind with
      | leftParen => rfl
      | number | string | kwTrue | kwFalse | kwNull => exact (become literal s).symm
      | _ => rfl
  | declaration =>
    refine (Grammar.plain_declaration s).trans (Outcome.andThen_congr fun name s₁ => ?_)
    rw [run_ahead, run_ite]
    rfl
  | declarationsOnward =>
    rw [read, Grammar.plain_declarationsOnward, script, run_ahead, run_ite]
    rfl
  | declarations => exact Grammar.plain_declarations s
  | intDeclarations =>
    refine (Grammar.plain_intDeclarations s).trans (Outcome.andThen_congr fun _ s₁ => ?_)
    exact (become declarations s₁).symm
  | condition => exact Grammar.plain_condition s
  | forInit =>
    rw [read, Grammar.plain_forInit, script, run_ahead, run_ite]
    rfl
  | forHead =>
    refine (Grammar.plain_forHead s).trans (Outcome.andThen_congr fun _ s₁ => ?_)
    refine Outcome.andThen_congr fun _ s₂ => ?_
    refine (Outcome.andThen_congr fun init s₃ => ?_).trans
      (run_clause forInit Grammar.forInit rfl _).symm
    refine Outcome.andThen_congr fun _ s₄ => ?_
    refine (Outcome.andThen_congr fun test s₅ => ?_).trans
      (run_clause assignment Grammar.assignment rfl _).symm
    refine Outcome.andThen_congr fun _ s₆ => ?_
    refine (Outcome.andThen_congr fun update s₇ => ?_).trans
      (run_clause assignment Grammar.assignment rfl _).symm
    rfl
  | expressionStatement => exact Grammar.plain_expressionStatement s
  | declarationStatement => exact Grammar.plain_declarationStatement s
  | statement =>
    rw [read, Grammar.plain_statement, script, run_ahead]
    cases peekKind s with
    | none => exact (become expressionStatement s).symm
    | some kind =>
      cases kind with
      | semicolon | leftBrace => rfl
      | kwInt => exact (become declarationStatement s).symm
      | kwIf => exact (become ifStatement s).symm
      | kwWhile => exact (become whileStatement s).symm
      | kwDo => exact (become doStatement s).symm
      | kwFor => exact (become forStatement s).symm
      | _ => exact (become expressionStatement s).symm
  | ifStatement =>
    refine (Grammar.plain_ifStatement s).trans (Outcome.andThen_congr fun _ s₁ => ?_)
    refine Outcome.andThen_congr fun test s₂ => Outcome.andThen_congr fun consequent s₃ => ?_
    rw [run_ahead, run_ite]
    rfl
  | whileStatement => exact Grammar.plain_whileStatement s
  | doStatement => exact Grammar.plain_doStatement s
  | forStatement => exact Grammar.plain_forStatement s
  | block =>
    refine (Grammar.plain_block s).trans (Outcome.andThen_congr fun _ s₁ => ?_)
    rw [run_ahead, run_ite]
    rfl
  | statements stop => exact Grammar.plain_statements stop s
  | statementsOnward stop =>
    rw [read, Grammar.plain_statementsOnward, script, run_ahead, run_ite, become]
    rfl
  | program => exact Grammar.plain_program s

end Production

end ScriptTree
