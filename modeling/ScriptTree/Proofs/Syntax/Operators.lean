import ScriptTree.Proofs.Grammar.Recognition

/-! The operators of a tree. In the order of the source, their symbols are the texts of the operator
tokens: no operator is lost, made up or misread. -/

namespace ScriptTree

open TokenKind (token)

/-! ### Symbols -/

/-- The symbols of the operators of an expression in the order of the source. -/
def Expr.symbols : Expr → List String
  | number _ | string _ | boolean _ | null | identifier _ => []
  | assignment operator _ right => OperatorFamily.symbol operator :: right.symbols
  | binary operator left right => left.symbols ++ OperatorFamily.symbol operator :: right.symbols
  | logical operator left right => left.symbols ++ OperatorFamily.symbol operator :: right.symbols
  | unary operator argument => OperatorFamily.symbol operator :: argument.symbols

/-- The symbols of a declaration; an initial value stands behind an equals sign. -/
def Declaration.symbols (declaration : Declaration) : List String :=
  match declaration.initializer with
  | some value => "=" :: value.symbols
  | none => []

def ForInit.symbols : ForInit → List String
  | declarations list => list.flatMap Declaration.symbols
  | expression value => value.symbols

/-- The symbols of a clause that may be missing. -/
def clauseSymbols {α : Type} (symbols : α → List String) (clause : Option α) : List String :=
  clause.elim [] symbols

mutual

def Stmt.symbols : Stmt → List String
  | expression value => value.symbols
  | empty => []
  | block body => Stmt.listSymbols body
  | declaration list => list.flatMap Declaration.symbols
  | ifElse test consequent alternate =>
    test.symbols ++ consequent.symbols ++ Stmt.optionSymbols alternate
  | whileLoop test consequent => test.symbols ++ consequent.symbols
  | doWhile body test => body.symbols ++ test.symbols
  | forLoop init test update body =>
    clauseSymbols ForInit.symbols init ++ clauseSymbols Expr.symbols test ++
      clauseSymbols Expr.symbols update ++ body.symbols

def Stmt.listSymbols : List Stmt → List String
  | [] => []
  | first :: others => first.symbols ++ Stmt.listSymbols others

def Stmt.optionSymbols : Option Stmt → List String
  | none => []
  | some stmt => stmt.symbols

end

def Program.symbols (program : Program) : List String :=
  Stmt.listSymbols program.body

/-! ### Operator tokens -/

/-- Whether tokens of a kind are operators. -/
def TokenKind.isOperator : TokenKind → Bool
  | logicalNot => true
  | kind => kind.continuesExpr

/-- The texts of the operators among some tokens. -/
def operatorTexts (tokens : List Token) : List String :=
  (tokens.filter fun t => t.kind.isOperator).map Token.text

@[simp] theorem operatorTexts_nil : operatorTexts [] = [] := rfl

@[simp] theorem operatorTexts_append (ts us : List Token) :
    operatorTexts (ts ++ us) = operatorTexts ts ++ operatorTexts us := by
  simp [operatorTexts]

theorem operatorTexts_cons {t : Token} (operator : t.kind.isOperator = true) (ts : List Token) :
    operatorTexts (t :: ts) = t.text :: operatorTexts ts := by
  simp [operatorTexts, operator]

/-- Tokens of the other kinds leave no symbol. -/
theorem operatorTexts_cons_other {t : Token} (other : t.kind.isOperator = false)
    (ts : List Token) : operatorTexts (t :: ts) = operatorTexts ts := by
  simp [operatorTexts, other]

theorem Connective.operatorTexts_token (operator : Connective) (ts : List Token) :
    operatorTexts (operator.token :: ts) = operator.symbol :: operatorTexts ts := by
  rw [operator.token_eq]
  refine operatorTexts_cons ?_ ts
  cases operator.level <;> rfl

theorem AssignmentOperator.operatorTexts_token (operator : AssignmentOperator) (ts : List Token) :
    operatorTexts (operator.token :: ts) = OperatorFamily.symbol operator :: operatorTexts ts := by
  cases operator <;> exact operatorTexts_cons rfl ts

theorem UnaryOperator.operatorTexts_token (operator : UnaryOperator) (ts : List Token) :
    operatorTexts (operator.token :: ts) = OperatorFamily.symbol operator :: operatorTexts ts := by
  cases operator <;> exact operatorTexts_cons rfl ts

/-! ### Trees -/

theorem DerivesExpr.symbols {production : ExprClass} {ts : List Token} {value : Expr}
    (derived : DerivesExpr production ts value) : operatorTexts ts = value.symbols := by
  induction derived with
  | chain _ ih | operand _ ih | primary _ ih => exact ih
  | assign operator _ _ left_ih right_ih =>
    rw [operatorTexts_append, left_ih, operator.operatorTexts_token, right_ih]
    rfl
  | join operator _ _ _ left_ih right_ih =>
    rw [operatorTexts_append, left_ih, operator.operatorTexts_token, right_ih]
    cases operator <;> rfl
  | signed operator _ ih =>
    rw [operator.operatorTexts_token, ih]
    rfl
  | literal derived => cases derived <;> rfl
  | name text => rfl
  | parentheses _ ih =>
    rw [operatorTexts_cons_other rfl, operatorTexts_append, ih]
    exact List.append_nil _

theorem DerivesDeclaration.symbols {ts : List Token} {declaration : Declaration}
    (derived : DerivesDeclaration ts declaration) : operatorTexts ts = declaration.symbols := by
  cases derived with
  | bare text => rfl
  | initialized text derived =>
    rw [operatorTexts_cons_other rfl, operatorTexts_cons rfl, derived.symbols]
    rfl

theorem DerivesDeclarations.symbols {ts : List Token} {list : List Declaration}
    (derived : DerivesDeclarations ts list) :
    operatorTexts ts = list.flatMap Declaration.symbols := by
  induction derived with
  | last derived =>
    rw [derived.symbols]
    exact (List.append_nil _).symm
  | more derived _ ih =>
    rw [operatorTexts_append, derived.symbols, operatorTexts_cons_other rfl, ih]
    rfl

theorem DerivesForInit.symbols {ts : List Token} {init : ForInit}
    (derived : DerivesForInit ts init) : operatorTexts ts = init.symbols := by
  cases derived with
  | declarations derived => exact derived.symbols
  | expression derived => exact DerivesExpr.symbols derived

theorem DerivesOption.symbols {α : Type} {Derives : List Token → α → Prop} {ts : List Token}
    {clause : Option α} {symbols : α → List String} (derived : DerivesOption Derives ts clause)
    (each : ∀ us value, Derives us value → operatorTexts us = symbols value) :
    operatorTexts ts = clauseSymbols symbols clause := by
  cases derived with
  | absent => rfl
  | present derived => exact each _ _ derived

mutual

theorem DerivesStmt.symbols {ts : List Token} {stmt : Stmt} (derived : DerivesStmt ts stmt) :
    operatorTexts ts = stmt.symbols := by
  cases derived with
  | expression derived =>
    rw [operatorTexts_append, derived.symbols]
    exact List.append_nil _
  | empty => rfl
  | block derived => exact derived.symbols
  | declaration derived =>
    rw [operatorTexts_cons_other rfl, operatorTexts_append, derived.symbols]
    exact List.append_nil _
  | ifThen test body =>
    rw [operatorTexts_cons_other rfl, operatorTexts_cons_other rfl, operatorTexts_append,
      test.symbols, operatorTexts_cons_other rfl, body.symbols]
    exact (List.append_nil _).symm
  | ifElse test body alternate =>
    rw [operatorTexts_cons_other rfl, operatorTexts_cons_other rfl, operatorTexts_append,
      test.symbols, operatorTexts_cons_other rfl, operatorTexts_append, body.symbols,
      operatorTexts_cons_other rfl, alternate.symbols, ← List.append_assoc]
    rfl
  | whileLoop test body =>
    rw [operatorTexts_cons_other rfl, operatorTexts_cons_other rfl, operatorTexts_append,
      test.symbols, operatorTexts_cons_other rfl, body.symbols]
    rfl
  | doWhile body test =>
    rw [operatorTexts_cons_other rfl, operatorTexts_append, body.symbols,
      operatorTexts_cons_other rfl, operatorTexts_cons_other rfl, operatorTexts_append,
      test.symbols, operatorTexts_cons_other rfl, operatorTexts_nil, List.append_nil]
    rfl
  | forLoop init test update body =>
    rw [operatorTexts_cons_other rfl, operatorTexts_cons_other rfl, operatorTexts_append,
      init.symbols fun _ _ => DerivesForInit.symbols, operatorTexts_cons_other rfl,
      operatorTexts_append, test.symbols fun _ _ => DerivesExpr.symbols,
      operatorTexts_cons_other rfl, operatorTexts_append,
      update.symbols fun _ _ => DerivesExpr.symbols, operatorTexts_cons_other rfl, body.symbols,
      ← List.append_assoc, ← List.append_assoc]
    rfl
termination_by (sizeOf stmt, 0)

theorem DerivesBlock.symbols {ts : List Token} {body : List Stmt}
    (derived : DerivesBlock ts body) : operatorTexts ts = Stmt.listSymbols body := by
  cases derived with
  | empty => rfl
  | full derived =>
    rw [operatorTexts_cons_other rfl, operatorTexts_append, derived.symbols]
    exact List.append_nil _
termination_by (sizeOf body, 1)
decreasing_by
  subst_vars
  exact Prod.Lex.right _ (by decide)

theorem DerivesStmts.symbols {ts : List Token} {list : List Stmt}
    (derived : DerivesStmts ts list) : operatorTexts ts = Stmt.listSymbols list := by
  cases derived with
  | last derived =>
    rw [derived.symbols]
    exact (List.append_nil _).symm
  | more first others =>
    rw [operatorTexts_append, first.symbols, others.symbols]
    rfl
termination_by (sizeOf list, 0)

end

/-- The symbols of a tree are the texts of the operators of its source. -/
theorem symbols_of_parse {source : String} {program : Program}
    (read : parse source = .ok program) : operatorTexts (lex source).1 = program.symbols := by
  obtain ⟨tokens, lexed, formed⟩ := exists_lex_of_parse read
  have derived : DerivesStmts tokens program.body :=
    derives_of_parseTokens (allSpelled_of_lex lexed) formed
  rw [lexed]
  exact derived.symbols

end ScriptTree
