import ScriptTree.Proofs.Grammar.Derivation
import ScriptTree.Proofs.Grammar.Plain

/-! What the grammar derives, the productions read. Each production decides by the next token alone,
so behind a derived list there must be no token that would carry the production on: behind an
expression no operator, and behind an `if` statement no `else`. -/

namespace ScriptTree

open TokenKind (token)

/-! ### What may follow -/

/-- Whether a token of this kind can carry an expression on. -/
def TokenKind.continuesExpr : TokenKind → Bool
  | simpleAssignment | compoundAssignment | equality | additive | multiplicative | relational
  | logicalAnd | logicalOr => true
  | _ => false

theorem Level.continuesExpr_operator (level : Level) : level.operator.continuesExpr = true := by
  cases level <;> rfl

theorem TokenKind.continuesExpr_of_isAssignment {kind : TokenKind}
    (assigns : kind.isAssignment = true) : kind.continuesExpr = true := by
  cases kind <;> first | rfl | cases assigns

/-- Tokens that do not carry on an expression in front of them. -/
def Closing (k : List Token) : Prop :=
  ∀ kind ∈ peekKind k, kind.continuesExpr = false

theorem Closing.cons {t : Token} (closes : t.kind.continuesExpr = false) (k : List Token) :
    Closing (t :: k) := by
  rintro kind ⟨⟩
  exact closes

/-- Tokens that do not begin with an operator tighter than a level. -/
def Level.Binds (level : Level) (k : List Token) : Prop :=
  ∀ tighter : Level, tighter.height < level.height → peekKind k ≠ some tighter.operator

theorem Level.Binds.tighter {level tighter : Level} {k : List Token} (binds : level.Binds k)
    (next : level.tighter? = some tighter) : tighter.Binds k :=
  fun other less => binds other (Nat.lt_trans less (height_tighter next))

theorem Closing.ne_operator {k : List Token} (closing : Closing k) (level : Level) :
    peekKind k ≠ some level.operator := by
  intro ahead
  have := closing _ ahead
  rw [level.continuesExpr_operator] at this
  cases this

theorem Closing.binds {k : List Token} (closing : Closing k) (level : Level) : level.Binds k :=
  fun tighter _ => closing.ne_operator tighter

/-- Operators belong to one level. -/
theorem Level.operator_injective {first second : Level}
    (same : first.operator = second.operator) : first = second := by
  cases first <;> cases second <;> first | rfl | cases same

theorem DerivesExpr.peekKind_ne {production : ExprClass} {ts : List Token} {value : Expr}
    (derived : DerivesExpr production ts value) {kind : TokenKind}
    (other : kind.startsExpr = false) (k : List Token) : peekKind (ts ++ k) ≠ some kind := by
  obtain ⟨t, us, rfl, starts⟩ := derived.first
  rintro ⟨⟩
  exact absurd (starts.symm.trans other) (by decide)

theorem DerivesStmts.peekKind_append {ts : List Token} {list : List Stmt}
    (derived : DerivesStmts ts list) (k : List Token) :
    ∃ kind, peekKind (ts ++ k) = some kind ∧ kind.startsStmt = true := by
  obtain ⟨t, us, rfl, starts⟩ := derived.first
  exact ⟨t.kind, rfl, starts⟩

theorem DerivesStmts.peekKind_ne {ts : List Token} {list : List Stmt}
    (derived : DerivesStmts ts list) {kind : TokenKind} (other : kind.startsStmt = false)
    (k : List Token) : peekKind (ts ++ k) ≠ some kind := by
  obtain ⟨first, ahead, starts⟩ := derived.peekKind_append k
  rw [ahead]
  rintro ⟨⟩
  exact absurd (starts.symm.trans other) (by decide)

/-! ### Operators -/

theorem Connective.join?_symbol (operator : Connective) (left right : Expr) :
    operator.level.join? operator.symbol left right = some (operator.join left right) := by
  cases operator with
  | binary operator => cases operator <;> rfl
  | logical operator => cases operator <;> rfl

theorem AssignmentOperator.ofSymbol?_token (operator : AssignmentOperator) :
    OperatorFamily.ofSymbol? operator.token.text = some operator := by
  rw [operator.text_token, OperatorFamily.ofSymbol?_symbol]

theorem AssignmentOperator.isAssignment_token (operator : AssignmentOperator) :
    operator.token.kind.isAssignment = true := by
  cases operator <;> rfl

theorem UnaryOperator.ofSymbol?_token (operator : UnaryOperator) :
    OperatorFamily.ofSymbol? operator.token.text = some operator := by
  rw [operator.text_token, OperatorFamily.ofSymbol?_symbol]

namespace Grammar

/-! ### Expressions -/

/-- What completeness says of each production for expressions. The operators of a level are joined
from the left, so behind the first operands of a chain the rest of the chain may stand. -/
def Reads : ExprClass → List Token → Expr → Prop
  | .assignment, ts, value => ∀ k, Closing k → (assignment (ts ++ k)).plain = .ok (value, k)
  | .level level, ts, value => ∀ k, level.Binds k →
      (chain level (ts ++ k)).plain = (chainOnward level value k).plain
  | .unary, ts, value => ∀ k, (unary (ts ++ k)).plain = .ok (value, k)
  | .primary, ts, value => ∀ k, (primary (ts ++ k)).plain = .ok (value, k)

theorem plain_chainOnward_stop {level : Level} {k : List Token}
    (stop : peekKind k ≠ some level.operator) (left : Expr) :
    (chainOnward level left k).plain = .ok (left, k) := by
  rw [plain_chainOnward, if_neg stop]

theorem operand_of_reads {level : Level} {ts k : List Token} {value : Expr}
    (reads : Reads level.operandClass ts value) (binds : level.Binds k) :
    (operand level (ts ++ k)).plain = .ok (value, k) := by
  rw [plain_operand]
  rw [Level.operandClass_eq] at reads
  cases next : level.tighter? with
  | none =>
    rw [next] at reads
    exact reads k
  | some tighter =>
    rw [next] at reads
    show (chain tighter (ts ++ k)).plain = _
    rw [reads k (binds.tighter next)]
    exact plain_chainOnward_stop (binds tighter (Level.height_tighter next)) value

namespace Reads

variable {ts us : List Token}

theorem chain {value : Expr} (ih : Reads (.level .or) ts value) : Reads .assignment ts value := by
  intro k closing
  rw [plain_assignment, ih k (closing.binds .or),
    plain_chainOnward_stop (closing.ne_operator .or), Outcome.andThen_ok]
  cases ahead : peekKind k with
  | none => rfl
  | some kind =>
    have no_assignment : kind.isAssignment = false := by
      apply Bool.eq_false_iff.mpr
      intro assigns
      have := closing kind ahead
      rw [TokenKind.continuesExpr_of_isAssignment assigns] at this
      cases this
    simp only [no_assignment, Bool.false_eq_true, if_false]

theorem assign (operator : AssignmentOperator) {target : String} {right : Expr}
    (left_ih : Reads (.level .or) ts (.identifier target)) (right_ih : Reads .assignment us right) :
    Reads .assignment (ts ++ operator.token :: us) (.assignment operator target right) := by
  intro k closing
  have assigns := operator.isAssignment_token
  have no_operator (level : Level) :
      peekKind (operator.token :: (us ++ k)) ≠ some level.operator := by
    intro same
    rw [Option.some.inj same] at assigns
    cases level <;> cases assigns
  rw [List.append_assoc, List.cons_append, plain_assignment,
    left_ih _ fun tighter _ => no_operator tighter, plain_chainOnward_stop (no_operator .or),
    Outcome.andThen_ok]
  simp only [peekKind_cons, assigns, if_true, plain_eat_cons_self, Outcome.andThen_ok, assigned,
    operator.ofSymbol?_token, right_ih k closing, Outcome.map_ok]

theorem operand {level : Level} {value : Expr} (ih : Reads level.operandClass ts value) :
    Reads (.level level) ts value := by
  intro k binds
  rw [plain_chain, operand_of_reads ih binds, Outcome.andThen_ok]

theorem join (operator : Connective) {level : Level} {left right : Expr}
    (same : operator.level = level) (left_ih : Reads (.level level) ts left)
    (right_ih : Reads level.operandClass us right) :
    Reads (.level level) (ts ++ operator.token :: us) (operator.join left right) := by
  intro k binds
  subst same
  have kind : operator.token.kind = operator.level.operator := by rw [operator.token_eq]
  have left_binds : operator.level.Binds (operator.token :: (us ++ k)) := by
    intro tighter less same
    rw [Level.operator_injective (kind.symm.trans (Option.some.inj same))] at less
    exact absurd less (Nat.lt_irrefl _)
  rw [List.append_assoc, List.cons_append, left_ih _ left_binds, plain_chainOnward, ← kind,
    if_pos (peekKind_cons _ _), plain_eat_cons_self, Outcome.andThen_ok,
    operand_of_reads right_ih binds, Outcome.andThen_ok]
  simp only [joined, operator.token_eq, operator.join?_symbol]

theorem signed (operator : UnaryOperator) {value : Expr} (ih : Reads .unary ts value) :
    Reads .unary (operator.token :: ts) (.unary operator value) := by
  intro k
  have read : (Grammar.signed operator.token.kind (operator.token :: (ts ++ k))).plain =
      .ok (.unary operator value, k) := by
    rw [plain_signed, plain_eat_cons_self, Outcome.andThen_ok]
    simp only [signedBy, operator.ofSymbol?_token, ih k, Outcome.map_ok]
  rw [List.cons_append, plain_unary]
  cases operator <;> exact read

theorem primary {value : Expr} (derived : DerivesExpr .primary ts value)
    (ih : Reads .primary ts value) : Reads .unary ts value := by
  intro k
  rw [plain_unary]
  cases derived with
  | literal derived => cases derived <;> exact ih k
  | name | parentheses => exact ih k

theorem literal {t : Token} {value : Expr} (derived : DerivesLiteral t value) :
    Reads .primary [t] value := by
  intro k
  cases derived with
  | number numeral =>
    simp [plain_primary, TokenKind.isLiteral, plain_literal, plain_eat_cons, numberValue, numeral]
  | string _ shape =>
    simp [plain_primary, TokenKind.isLiteral, plain_literal, plain_eat_cons,
      Token.content_of_quoted shape]
  | boolean_true | boolean_false | null =>
    simp [plain_primary, TokenKind.isLiteral, plain_literal, plain_eat_cons]

theorem name (text : String) : Reads .primary [⟨.identifier, text⟩] (.identifier text) := by
  intro k
  simp [plain_primary, plain_identifier, plain_eat_cons, TokenKind.isLiteral]

theorem parentheses {value : Expr} (ih : Reads .assignment ts value) :
    Reads .primary (token .leftParen :: (ts ++ [token .rightParen])) value := by
  intro k
  have closing : Closing (token .rightParen :: k) := Closing.cons rfl k
  rw [List.cons_append, List.append_assoc, List.singleton_append, plain_primary]
  simp only [peekKind_cons, TokenKind.token_kind]
  simp [plain_eat_cons, ih _ closing]

end Reads

theorem reads_of_derives {production : ExprClass} {ts : List Token} {value : Expr}
    (derived : DerivesExpr production ts value) : Reads production ts value := by
  induction derived with
  | chain _ ih => exact ih.chain
  | assign operator _ _ left_ih right_ih => exact left_ih.assign operator right_ih
  | operand _ ih => exact ih.operand
  | join operator same _ _ left_ih right_ih => exact left_ih.join operator same right_ih
  | signed operator _ ih => exact ih.signed operator
  | primary derived ih => exact ih.primary derived
  | literal derived => exact Reads.literal derived
  | name text => exact Reads.name text
  | parentheses _ ih => exact ih.parentheses

theorem assignment_of_derives {ts k : List Token} {value : Expr}
    (derived : DerivesExpr .assignment ts value) (closing : Closing k) :
    (assignment (ts ++ k)).plain = .ok (value, k) :=
  reads_of_derives derived k closing

/-! ### Clauses -/

@[simp] theorem plain_eat_token (kind : TokenKind) (k : List Token) :
    (eat kind (token kind :: k)).plain = .ok (token kind, k) :=
  plain_eat_cons_self (token kind) k

theorem condition_of_derives {ts : List Token} {test : Expr}
    (derived : DerivesExpr .assignment ts test) (k : List Token) :
    (condition (token .leftParen :: (ts ++ token .rightParen :: k))).plain = .ok (test, k) := by
  have read := assignment_of_derives derived (Closing.cons (t := token .rightParen) rfl k)
  simp [plain_condition, read]

theorem declaration_of_derives {ts k : List Token} {one : Declaration}
    (derived : DerivesDeclaration ts one)
    (ends : peekKind k = some .semicolon ∨ peekKind k = some .comma) :
    (declaration (ts ++ k)).plain = .ok (one, k) := by
  have closing : Closing k := by
    intro kind ahead
    obtain same | same := ends <;> cases same.symm.trans ahead <;> rfl
  cases derived with
  | bare name => simp [plain_declaration, plain_identifier, plain_eat_cons, ends]
  | initialized name derived =>
    have read := assignment_of_derives derived closing
    simp [plain_declaration, plain_identifier, plain_eat_cons, read]

theorem plain_declarationsOnward_comma (k : List Token) :
    (declarationsOnward (token .comma :: k)).plain = (declarations k).plain := by
  rw [plain_declarationsOnward, plain_declarations]
  simp

theorem declarations_of_derives {ts k : List Token} {list : List Declaration}
    (derived : DerivesDeclarations ts list) (ends : peekKind k = some .semicolon) :
    (declarations (ts ++ k)).plain = .ok (list, k) := by
  induction derived with
  | last derived =>
    rw [plain_declarations, declaration_of_derives derived (Or.inl ends), Outcome.andThen_ok,
      plain_declarationsOnward, if_neg (by simp [ends])]
    rfl
  | more derived _ ih =>
    rw [List.append_assoc, List.cons_append, plain_declarations,
      declaration_of_derives derived (Or.inr rfl), Outcome.andThen_ok,
      plain_declarationsOnward_comma, ih]
    rfl

theorem forInit_of_derives {ts k : List Token} {init : ForInit} (derived : DerivesForInit ts init)
    (ends : peekKind k = some .semicolon) : (forInit (ts ++ k)).plain = .ok (init, k) := by
  cases derived with
  | declarations derived =>
    simp [plain_forInit, plain_intDeclarations, declarations_of_derives derived ends]
  | expression derived =>
    have closing : Closing k := by
      intro kind ahead
      cases ends.symm.trans ahead
      rfl
    rw [plain_forInit, if_neg (derived.peekKind_ne rfl k), assignment_of_derives derived closing]
    rfl

theorem init_of_derives {ts k : List Token} {init : Option ForInit}
    (derived : DerivesOption DerivesForInit ts init) (ends : peekKind k = some .semicolon) :
    (unlessNext .semicolon forInit (ts ++ k)).plain = .ok (init, k) := by
  rw [plain_unlessNext]
  cases derived with
  | absent => rw [List.nil_append, if_pos ends]
  | present derived =>
    have goes_on : peekKind (ts ++ k) ≠ some .semicolon := by
      cases derived with
      | declarations => simp
      | expression derived => exact derived.peekKind_ne rfl k
    rw [if_neg goes_on, forInit_of_derives derived ends, Outcome.map_ok]

theorem clause_of_derives {ts k : List Token} {clause : Option Expr} {stop : TokenKind}
    (derived : DerivesOption (DerivesExpr .assignment) ts clause) (ends : peekKind k = some stop)
    (other : stop.startsExpr = false) (closes : stop.continuesExpr = false) :
    (unlessNext stop assignment (ts ++ k)).plain = .ok (clause, k) := by
  rw [plain_unlessNext]
  cases derived with
  | absent => rw [List.nil_append, if_pos ends]
  | present derived =>
    have closing : Closing k := by
      intro kind ahead
      cases ends.symm.trans ahead
      exact closes
    rw [if_neg (derived.peekKind_ne other k), assignment_of_derives derived closing,
      Outcome.map_ok]

theorem forHead_of_derives {is ts us : List Token} {init : Option ForInit}
    {test update : Option Expr} (init_derived : DerivesOption DerivesForInit is init)
    (test_derived : DerivesOption (DerivesExpr .assignment) ts test)
    (update_derived : DerivesOption (DerivesExpr .assignment) us update) (k : List Token) :
    (forHead (token .kwFor :: token .leftParen :: (is ++ token .semicolon ::
      (ts ++ token .semicolon :: (us ++ token .rightParen :: k))))).plain =
      .ok ((init, test, update), k) := by
  have first (k : List Token) := init_of_derives (k := token .semicolon :: k) init_derived rfl
  have second (k : List Token) : (unlessNext .semicolon assignment _).plain = _ :=
    clause_of_derives (k := token .semicolon :: k) test_derived rfl rfl rfl
  have third : (unlessNext .rightParen assignment _).plain = _ :=
    clause_of_derives (k := token .rightParen :: k) update_derived rfl rfl rfl
  simp [plain_forHead, first, second, third]

/-! ### Statements -/

mutual

theorem statement_of_derives {ts : List Token} {stmt : Stmt} (derived : DerivesStmt ts stmt)
    (k : List Token) (no_else : peekKind k ≠ some .kwElse) :
    (statement (ts ++ k)).plain = .ok (stmt, k) := by
  cases derived with
  | @expression ts value derived =>
    have read := assignment_of_derives derived (Closing.cons (t := token .semicolon) rfl k)
    obtain ⟨t, us, rfl, starts⟩ := derived.first
    have expression : (expressionStatement (t :: us ++ [token .semicolon] ++ k)).plain =
        .ok (.expression value, k) := by
      rw [plain_expressionStatement, List.append_assoc, List.singleton_append, read]
      simp
    rw [plain_statement]
    simp only [List.cons_append, peekKind_cons] at expression ⊢
    split <;> first
      | exact expression
      | (rename_i same
         rw [Option.some.inj same] at starts
         cases starts)
  | empty => simp [plain_statement]
  | block derived =>
    have read := block_of_derives derived k
    obtain ⟨us, shape⟩ := derived.first
    rw [shape, List.cons_append] at read ⊢
    rw [plain_statement]
    exact congrArg (Outcome.map Stmt.block) read
  | declaration derived =>
    have read := declarations_of_derives (k := token .semicolon :: k) derived rfl
    simp [plain_statement, plain_declarationStatement, plain_intDeclarations, read]
  | ifThen test_derived derived =>
    have read := block_of_derives derived k
    have test := condition_of_derives test_derived
    simp [plain_statement, plain_ifStatement, test, read, no_else]
  | ifElse test_derived derived other_derived =>
    have read := block_of_derives derived
    have other := block_of_derives other_derived k
    have test := condition_of_derives test_derived
    simp [plain_statement, plain_ifStatement, test, read, other]
  | whileLoop test_derived derived =>
    have read := block_of_derives derived k
    have test := condition_of_derives test_derived
    simp [plain_statement, plain_whileStatement, test, read]
  | doWhile derived test_derived =>
    have read := block_of_derives derived
    have test := condition_of_derives test_derived k
    simp [plain_statement, plain_doStatement, test, read]
  | @forLoop is ts us vs _ _ _ _ init test update derived =>
    have read := block_of_derives derived k
    have head := forHead_of_derives init test update (vs ++ k)
    rw [List.cons_append, List.cons_append, List.append_assoc, List.cons_append,
      List.append_assoc, List.cons_append, List.append_assoc, List.cons_append, plain_statement]
    simp [plain_forStatement, head, read]
termination_by (sizeOf stmt, 0)

theorem block_of_derives {ts : List Token} {body : List Stmt} (derived : DerivesBlock ts body)
    (k : List Token) : (block (ts ++ k)).plain = .ok (body, k) := by
  cases derived with
  | empty => simp [plain_block]
  | full derived =>
    have read := statements_of_derives derived (.some .rightBrace) (token .rightBrace :: k)
      (by rintro _ ⟨⟩; rfl) (Or.inr rfl)
    obtain ⟨kind, ahead, starts⟩ := derived.peekKind_append (token .rightBrace :: k)
    have goes_on : ¬(kind = .rightBrace) := by
      rintro rfl
      cases starts
    simp [plain_block, ahead, goes_on, read]
termination_by (sizeOf body, 1)
decreasing_by
  subst_vars
  exact Prod.Lex.right _ (by decide)

theorem statements_of_derives {ts : List Token} {list : List Stmt}
    (derived : DerivesStmts ts list) (stop : Option TokenKind) (k : List Token)
    (brace : ∀ kind ∈ stop, kind = .rightBrace)
    (ends : peekKind k = none ∨ peekKind k = stop) :
    (statements stop (ts ++ k)).plain = .ok (list, k) := by
  cases derived with
  | last derived =>
    have no_else : peekKind k ≠ some .kwElse := by
      intro ahead
      obtain ended | stopped := ends
      · cases ended.symm.trans ahead
      · cases brace .kwElse (stopped.symm.trans ahead)
    have read := statement_of_derives derived k no_else
    rw [plain_statements, read, Outcome.andThen_ok, plain_statementsOnward, if_pos ends]
    rfl
  | @more ts us stmt others derived others_derived =>
    have rest := statements_of_derives others_derived stop k brace ends
    obtain ⟨kind, ahead, starts⟩ := others_derived.peekKind_append k
    have no_else : peekKind (us ++ k) ≠ some .kwElse := others_derived.peekKind_ne rfl k
    have goes_on : ¬(peekKind (us ++ k) = none ∨ peekKind (us ++ k) = stop) := by
      rw [ahead]
      rintro (ended | stopped)
      · cases ended
      · rw [brace kind stopped.symm] at starts
        cases starts
    have read := statement_of_derives derived (us ++ k) no_else
    rw [List.append_assoc, plain_statements, read, Outcome.andThen_ok, plain_statementsOnward,
      if_neg goes_on, rest]
    rfl
termination_by (sizeOf list, 0)

end

/-- The productions read every program that the grammar derives. -/
theorem parseTokens_of_derives {ts : List Token} {whole : Program} (derived : Derives ts whole) :
    parseTokens ts = .ok whole := by
  have read := statements_of_derives derived none [] (by simp) (Or.inl rfl)
  rw [List.append_nil] at read
  rw [parseTokens, Reading.outcome_eq_result, plain_program, read]
  rfl

end Grammar
end ScriptTree
