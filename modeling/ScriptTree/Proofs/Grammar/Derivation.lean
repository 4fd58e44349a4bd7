import ScriptTree.Grammar.Parser
import ScriptTree.Proofs.Token.Spelling

/-! The grammar of the language as a relation between lists of tokens and trees. It says nothing
about how a list is read; the tree of what stands before an assignment operator is a name. Which
tokens spell the operators, and how tightly these bind, is stated here anew, and agrees with what
decides it where lists are read. -/

namespace ScriptTree

open TokenKind (token)

/-! ### Operators -/

/-- An operator between two operands. -/
inductive Connective where
  | binary (operator : BinaryOperator)
  | logical (operator : LogicalOperator)
deriving DecidableEq, Repr

namespace Connective

/-- The level to which an operator belongs. -/
def level : Connective → Level
  | logical .or => .or
  | logical .and => .and
  | binary .eq | binary .ne => .equality
  | binary .lt | binary .le | binary .gt | binary .ge => .relational
  | binary .add | binary .sub => .additive
  | binary .mul | binary .div => .multiplicative

/-- The symbol of an operator. -/
def symbol : Connective → String
  | binary operator => OperatorFamily.symbol operator
  | logical operator => OperatorFamily.symbol operator

/-- The token that spells an operator. -/
def token : Connective → Token
  | logical .or => ⟨.logicalOr, "||"⟩
  | logical .and => ⟨.logicalAnd, "&&"⟩
  | binary .eq => ⟨.equality, "=="⟩
  | binary .ne => ⟨.equality, "!="⟩
  | binary .lt => ⟨.relational, "<"⟩
  | binary .le => ⟨.relational, "<="⟩
  | binary .gt => ⟨.relational, ">"⟩
  | binary .ge => ⟨.relational, ">="⟩
  | binary .add => ⟨.additive, "+"⟩
  | binary .sub => ⟨.additive, "-"⟩
  | binary .mul => ⟨.multiplicative, "*"⟩
  | binary .div => ⟨.multiplicative, "/"⟩

/-- The token is one of those that the level takes, and its text is the symbol of the operator. -/
theorem token_eq (operator : Connective) :
    operator.token = ⟨operator.level.operator, operator.symbol⟩ := by
  obtain operator | operator := operator <;> cases operator <;> rfl

/-- The tree with an operator at its root. -/
def join : Connective → Expr → Expr → Expr
  | binary operator, left, right => .binary operator left right
  | logical operator, left, right => .logical operator left right

end Connective

@[inherit_doc Connective.token]
def AssignmentOperator.token : AssignmentOperator → Token
  | assign => ⟨.simpleAssignment, "="⟩
  | addAssign => ⟨.compoundAssignment, "+="⟩
  | subAssign => ⟨.compoundAssignment, "-="⟩
  | mulAssign => ⟨.compoundAssignment, "*="⟩
  | divAssign => ⟨.compoundAssignment, "/="⟩

theorem AssignmentOperator.text_token (operator : AssignmentOperator) :
    operator.token.text = OperatorFamily.symbol operator := by
  cases operator <;> rfl

@[inherit_doc Connective.token]
def UnaryOperator.token : UnaryOperator → Token
  | plus => ⟨.additive, "+"⟩
  | neg => ⟨.additive, "-"⟩
  | not => ⟨.logicalNot, "!"⟩

theorem UnaryOperator.text_token (operator : UnaryOperator) :
    operator.token.text = OperatorFamily.symbol operator := by
  cases operator <;> rfl

/-! ### Expressions -/

/-- The productions for expressions, the loosest first. -/
inductive ExprClass where
  | assignment
  | level (level : Level)
  | unary
  | primary
deriving DecidableEq, Repr

/-- The production for the operands of a level. -/
def Level.operandClass : Level → ExprClass
  | or => .level and
  | and => .level equality
  | equality => .level relational
  | relational => .level additive
  | additive => .level multiplicative
  | multiplicative => .unary

/-- The operands of a level are read as such of the next tighter one. -/
theorem Level.operandClass_eq (level : Level) :
    level.operandClass = (level.tighter?.map ExprClass.level).getD .unary := by
  cases level <;> rfl

/-- A literal and its tree. The text of a string has the same quote at both ends. -/
inductive DerivesLiteral : Token → Expr → Prop where
  | number {text : String} {value : Number} : Number.ofNumeral? text = some value →
      DerivesLiteral ⟨.number, text⟩ (.number value)
  | string {text : String} {quote : Char} {content : List Char} : quote ∈ ['"', '\''] →
      text.toList = quote :: content ++ [quote] →
      DerivesLiteral ⟨.string, text⟩ (.string (String.ofList content))
  | boolean_true : DerivesLiteral (token .kwTrue) (.boolean true)
  | boolean_false : DerivesLiteral (token .kwFalse) (.boolean false)
  | null : DerivesLiteral (token .kwNull) .null

/-- The tokens of an expression and its tree. Parentheses leave no trace in the tree. -/
inductive DerivesExpr : ExprClass → List Token → Expr → Prop where
  | chain {ts : List Token} {value : Expr} : DerivesExpr (.level .or) ts value →
      DerivesExpr .assignment ts value
  | assign (operator : AssignmentOperator) {target : String} {ts us : List Token} {right : Expr} :
      DerivesExpr (.level .or) ts (.identifier target) → DerivesExpr .assignment us right →
      DerivesExpr .assignment (ts ++ operator.token :: us) (.assignment operator target right)
  | operand {level : Level} {ts : List Token} {value : Expr} :
      DerivesExpr level.operandClass ts value → DerivesExpr (.level level) ts value
  | join (operator : Connective) {level : Level} {ts us : List Token} {left right : Expr} :
      operator.level = level → DerivesExpr (.level level) ts left →
      DerivesExpr level.operandClass us right →
      DerivesExpr (.level level) (ts ++ operator.token :: us) (operator.join left right)
  | signed (operator : UnaryOperator) {ts : List Token} {value : Expr} :
      DerivesExpr .unary ts value →
      DerivesExpr .unary (operator.token :: ts) (.unary operator value)
  | primary {ts : List Token} {value : Expr} : DerivesExpr .primary ts value →
      DerivesExpr .unary ts value
  | literal {t : Token} {value : Expr} : DerivesLiteral t value → DerivesExpr .primary [t] value
  | name (text : String) : DerivesExpr .primary [⟨.identifier, text⟩] (.identifier text)
  | parentheses {ts : List Token} {value : Expr} : DerivesExpr .assignment ts value →
      DerivesExpr .primary (token .leftParen :: (ts ++ [token .rightParen])) value

namespace ExprClass

/-- How tightly a production binds. -/
def precedence : ExprClass → Nat
  | assignment => 0
  | level .or => 1
  | level .and => 2
  | level .equality => 3
  | level .relational => 4
  | level .additive => 5
  | level .multiplicative => 6
  | unary => 7
  | primary => 8

/-- The next looser production, of which every expression of the production is one. -/
def looser : ExprClass → ExprClass
  | .assignment => .assignment
  | .level .or => .assignment
  | .level .and => .level .or
  | .level .equality => .level .and
  | .level .relational => .level .equality
  | .level .additive => .level .relational
  | .level .multiplicative => .level .additive
  | .unary => .level .multiplicative
  | .primary => .unary

/-- The fewer levels are read from here to the tightest, the tighter a level binds. -/
theorem precedence_level (strength : Level) :
    (level strength).precedence = 7 - strength.height := by
  cases strength <;> rfl

theorem precedence_looser {production : ExprClass} (tight : 0 < production.precedence) :
    production.looser.precedence + 1 = production.precedence := by
  cases production with
  | assignment => cases tight
  | level level => cases level <;> rfl
  | unary | primary => rfl

theorem precedence_injective {first second : ExprClass}
    (same : first.precedence = second.precedence) : first = second := by
  cases first with
  | level level => cases level <;> cases second with
    | level other => cases other <;> first | rfl | cases same
    | assignment | unary | primary => cases same
  | assignment | unary | primary =>
    cases second with
    | level other => cases other <;> cases same
    | assignment | unary | primary => first | rfl | cases same

end ExprClass

theorem DerivesExpr.looser {production : ExprClass} {ts : List Token} {value : Expr}
    (derived : DerivesExpr production ts value) : DerivesExpr production.looser ts value := by
  cases production with
  | assignment => exact derived
  | level level =>
    cases level with
    | or => exact .chain derived
    | and | equality | relational | additive | multiplicative => exact .operand derived
  | unary => exact .operand derived
  | primary => exact .primary derived

theorem DerivesExpr.widen {production wider : ExprClass} {ts : List Token} {value : Expr}
    (derived : DerivesExpr production ts value) (loose : wider.precedence ≤ production.precedence) :
    DerivesExpr wider ts value := by
  by_cases same : wider.precedence = production.precedence
  · rwa [ExprClass.precedence_injective same]
  · have step := ExprClass.precedence_looser (show 0 < production.precedence by omega)
    exact derived.looser.widen (by omega)
termination_by production.precedence

/-! ### Statements -/

/-- A name and its initial value. -/
inductive DerivesDeclaration : List Token → Declaration → Prop where
  | bare (name : String) : DerivesDeclaration [⟨.identifier, name⟩] ⟨name, none⟩
  | initialized (name : String) {ts : List Token} {value : Expr} :
      DerivesExpr .assignment ts value →
      DerivesDeclaration (⟨.identifier, name⟩ :: token .simpleAssignment :: ts) ⟨name, some value⟩

/-- Declarations with commas between them. -/
inductive DerivesDeclarations : List Token → List Declaration → Prop where
  | last {ts : List Token} {declaration : Declaration} :
      DerivesDeclaration ts declaration → DerivesDeclarations ts [declaration]
  | more {ts us : List Token} {declaration : Declaration} {others : List Declaration} :
      DerivesDeclaration ts declaration → DerivesDeclarations us others →
      DerivesDeclarations (ts ++ token .comma :: us) (declaration :: others)

/-- The first clause of a `for` loop. -/
inductive DerivesForInit : List Token → ForInit → Prop where
  | declarations {ts : List Token} {list : List Declaration} : DerivesDeclarations ts list →
      DerivesForInit (token .kwInt :: ts) (.declarations list)
  | expression {ts : List Token} {value : Expr} : DerivesExpr .assignment ts value →
      DerivesForInit ts (.expression value)

/-- A clause that may be missing. -/
inductive DerivesOption {α : Type} (Derives : List Token → α → Prop) :
    List Token → Option α → Prop where
  | absent : DerivesOption Derives [] none
  | present {ts : List Token} {value : α} : Derives ts value →
      DerivesOption Derives ts (some value)

mutual

/-- A statement. The body of a branch or a loop is a block. -/
inductive DerivesStmt : List Token → Stmt → Prop where
  | expression {ts : List Token} {value : Expr} : DerivesExpr .assignment ts value →
      DerivesStmt (ts ++ [token .semicolon]) (.expression value)
  | empty : DerivesStmt [token .semicolon] .empty
  | block {ts : List Token} {body : List Stmt} : DerivesBlock ts body →
      DerivesStmt ts (.block body)
  | declaration {ts : List Token} {list : List Declaration} : DerivesDeclarations ts list →
      DerivesStmt (token .kwInt :: (ts ++ [token .semicolon])) (.declaration list)
  | ifThen {ts us : List Token} {test : Expr} {body : List Stmt} :
      DerivesExpr .assignment ts test → DerivesBlock us body →
      DerivesStmt (token .kwIf :: token .leftParen :: (ts ++ token .rightParen :: us))
        (.ifElse test (.block body) none)
  | ifElse {ts us vs : List Token} {test : Expr} {body alternate : List Stmt} :
      DerivesExpr .assignment ts test → DerivesBlock us body → DerivesBlock vs alternate →
      DerivesStmt (token .kwIf :: token .leftParen ::
          (ts ++ token .rightParen :: (us ++ token .kwElse :: vs)))
        (.ifElse test (.block body) (some (.block alternate)))
  | whileLoop {ts us : List Token} {test : Expr} {body : List Stmt} :
      DerivesExpr .assignment ts test → DerivesBlock us body →
      DerivesStmt (token .kwWhile :: token .leftParen :: (ts ++ token .rightParen :: us))
        (.whileLoop test (.block body))
  | doWhile {ts us : List Token} {test : Expr} {body : List Stmt} :
      DerivesBlock us body → DerivesExpr .assignment ts test →
      DerivesStmt (token .kwDo ::
          (us ++ token .kwWhile :: token .leftParen :: (ts ++ [token .rightParen])))
        (.doWhile (.block body) test)
  | forLoop {is ts us vs : List Token} {init : Option ForInit} {test update : Option Expr}
      {body : List Stmt} : DerivesOption DerivesForInit is init →
      DerivesOption (DerivesExpr .assignment) ts test →
      DerivesOption (DerivesExpr .assignment) us update → DerivesBlock vs body →
      DerivesStmt (token .kwFor :: token .leftParen :: (is ++ token .semicolon ::
          (ts ++ token .semicolon :: (us ++ token .rightParen :: vs))))
        (.forLoop init test update (.block body))

/-- Statements in braces, or none. -/
inductive DerivesBlock : List Token → List Stmt → Prop where
  | empty : DerivesBlock [token .leftBrace, token .rightBrace] []
  | full {ts : List Token} {body : List Stmt} : DerivesStmts ts body →
      DerivesBlock (token .leftBrace :: (ts ++ [token .rightBrace])) body

/-- One or more statements. -/
inductive DerivesStmts : List Token → List Stmt → Prop where
  | last {ts : List Token} {stmt : Stmt} : DerivesStmt ts stmt → DerivesStmts ts [stmt]
  | more {ts us : List Token} {stmt : Stmt} {others : List Stmt} :
      DerivesStmt ts stmt → DerivesStmts us others → DerivesStmts (ts ++ us) (stmt :: others)

end

/-- The tokens of a program and its tree. -/
def Derives (tokens : List Token) (program : Program) : Prop :=
  DerivesStmts tokens program.body

/-! ### First tokens -/

namespace TokenKind

/-- Whether an expression can begin with a token of this kind. -/
def startsExpr : TokenKind → Bool
  | identifier | leftParen | additive | logicalNot => true
  | kind => kind.isLiteral

/-- Whether a statement can begin with a token of this kind. -/
def startsStmt : TokenKind → Bool
  | semicolon | leftBrace | kwInt | kwIf | kwWhile | kwDo | kwFor => true
  | kind => kind.startsExpr

theorem startsStmt_of_startsExpr {kind : TokenKind} (starts : kind.startsExpr = true) :
    kind.startsStmt = true := by
  cases kind <;> first | rfl | exact starts

end TokenKind

theorem DerivesLiteral.isLiteral {t : Token} {value : Expr} (derived : DerivesLiteral t value) :
    t.kind.isLiteral = true := by
  cases derived <;> rfl

theorem DerivesExpr.first {production : ExprClass} {ts : List Token} {value : Expr}
    (derived : DerivesExpr production ts value) :
    ∃ t us, ts = t :: us ∧ t.kind.startsExpr = true := by
  induction derived with
  | chain _ ih | operand _ ih | primary _ ih => exact ih
  | assign operator _ _ ih | join operator _ _ _ ih =>
    obtain ⟨t, us, rfl, starts⟩ := ih
    exact ⟨t, _, rfl, starts⟩
  | signed operator =>
    refine ⟨_, _, rfl, ?_⟩
    cases operator <;> rfl
  | literal derived =>
    cases derived <;> exact ⟨_, _, rfl, rfl⟩
  | name | parentheses => exact ⟨_, _, rfl, rfl⟩

theorem DerivesBlock.first {ts : List Token} {body : List Stmt} (derived : DerivesBlock ts body) :
    ∃ us, ts = token .leftBrace :: us := by
  cases derived <;> exact ⟨_, rfl⟩

theorem DerivesStmt.first {ts : List Token} {stmt : Stmt} (derived : DerivesStmt ts stmt) :
    ∃ t us, ts = t :: us ∧ t.kind.startsStmt = true := by
  cases derived with
  | expression derived =>
    obtain ⟨t, us, rfl, starts⟩ := derived.first
    exact ⟨t, _, rfl, TokenKind.startsStmt_of_startsExpr starts⟩
  | block derived =>
    obtain ⟨us, rfl⟩ := derived.first
    exact ⟨_, us, rfl, rfl⟩
  | empty | declaration | ifThen | ifElse | whileLoop | doWhile | forLoop => exact ⟨_, _, rfl, rfl⟩

theorem DerivesStmts.first {ts : List Token} {list : List Stmt} (derived : DerivesStmts ts list) :
    ∃ t us, ts = t :: us ∧ t.kind.startsStmt = true := by
  cases derived with
  | last derived => exact derived.first
  | more derived =>
    obtain ⟨t, us, rfl, starts⟩ := derived.first
    exact ⟨t, _, rfl, starts⟩

end ScriptTree
