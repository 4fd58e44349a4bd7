import ScriptTree.Proofs.Grammar.Recognition
import ScriptTree.Proofs.Number.Rounding
import ScriptTree.Proofs.Syntax.WellFormed

/-! Printing programs with as few parentheses as the precedence of the operators allows. What is
printed is read back. -/

namespace ScriptTree

open TokenKind (token)

/-- How a printer writes numbers and strings. -/
structure Spelling where
  numeral : Number → String
  quote : String → Char

/-- Numbers are written as digits that denote them, strings in quotes that they do not contain. -/
structure Spelling.Fits (spelling : Spelling) : Prop where
  numeral {value : Number} : value.IsLiteral →
    Number.ofNumeral? (spelling.numeral value) = some value
  quote {text : String} : IsQuotable text →
    spelling.quote text ∈ ['"', '\''] ∧ spelling.quote text ∉ text.toList

def Spelling.quoted (spelling : Spelling) (text : String) : Token :=
  ⟨.string, String.ofList (spelling.quote text :: text.toList ++ [spelling.quote text])⟩

namespace Spelling

variable {spelling : Spelling}

theorem Fits.numeral_proper (fits : spelling.Fits) {value : Number} (literal : value.IsLiteral) :
    (⟨.number, spelling.numeral value⟩ : Token).Proper := by
  have denotes := fits.numeral literal
  refine ⟨?_, nofun⟩
  simp only [Number.ofNumeral?] at denotes
  split at denotes
  case isTrue digits => exact digits
  case isFalse => cases denotes

theorem toList_quoted (spelling : Spelling) (text : String) :
    (spelling.quoted text).text.toList =
      spelling.quote text :: text.toList ++ [spelling.quote text] :=
  String.toList_ofList

theorem Fits.quoted_proper (fits : spelling.Fits) {text : String} (quotable : IsQuotable text) :
    (spelling.quoted text).Proper := by
  obtain ⟨quote, free⟩ := fits.quote quotable
  exact ⟨⟨spelling.quote text, quote, text.toList, free, spelling.toList_quoted text⟩, nofun⟩

/-- Numbers with all their digits, or with more than any finite one has, and double quotes where the
text allows them. -/
def plain : Spelling where
  numeral
    | .finite value => Number.plain (.finite value)
    | .infinite => toString (Nat.pow 10 309)
  quote text := if '"' ∈ text.toList then '\'' else '"'

theorem plain_fits : plain.Fits where
  numeral := by
    rintro (value | _) ⟨numeral, denotes⟩
    · exact Number.ofNumeral?_plain denotes
    · exact (Number.ofNumeral?_toString _).trans
        (congrArg some (show Number.nearest (Nat.pow 10 309) = .infinite by decide +kernel))
  quote := by
    intro text quotable
    simp only [plain]
    split
    case isTrue double => exact ⟨by simp, quotable.resolve_left (absurd double)⟩
    case isFalse single => exact ⟨by simp, single⟩

end Spelling

/-! ### Expressions -/

theorem proper_of_few {kind : TokenKind} {text : String} (few : kind ∉ TokenKind.varied)
    (listed : text ∈ kind.texts) : (⟨kind, text⟩ : Token).Proper := by
  refine ⟨(TokenKind.spells_iff few).mpr listed, ?_⟩
  rintro rfl
  exact absurd (by decide) few

theorem Connective.token_proper (operator : Connective) : operator.token.Proper := by
  rcases operator with operator | operator <;> cases operator <;>
    exact proper_of_few (by decide) (by decide)

theorem AssignmentOperator.token_proper (operator : AssignmentOperator) :
    operator.token.Proper := by
  cases operator <;> exact proper_of_few (by decide) (by decide)

theorem UnaryOperator.token_proper (operator : UnaryOperator) : operator.token.Proper := by
  cases operator <;> exact proper_of_few (by decide) (by decide)

namespace Expr

/-- The tightest production for an expression without parentheses around it. -/
def production : Expr → ExprClass
  | assignment .. => .assignment
  | binary operator .. => .level (Connective.binary operator).level
  | logical operator .. => .level (Connective.logical operator).level
  | unary .. => .unary
  | number _ | string _ | boolean _ | null | identifier _ => .primary

/-- Puts an expression in parentheses where it binds looser than its place requires. -/
def enclose (place : ExprClass) (value : Expr) (ts : List Token) : List Token :=
  if value.production.precedence < place.precedence then
    token .leftParen :: (ts ++ [token .rightParen])
  else ts

/-- Puts an operator between two operands. The left one may be of the precedence of the operator,
the right one has to be of a higher one. -/
def joinTokens (operator : Connective) (left right : Expr) (ts us : List Token) : List Token :=
  enclose (.level operator.level) left ts ++
    operator.token :: enclose operator.level.operandClass right us

def tokens (spelling : Spelling) : Expr → List Token
  | number value => [⟨.number, spelling.numeral value⟩]
  | string text => [spelling.quoted text]
  | boolean true => [token .kwTrue]
  | boolean false => [token .kwFalse]
  | null => [token .kwNull]
  | identifier name => [⟨.identifier, name⟩]
  | assignment operator target right =>
    ⟨.identifier, target⟩ :: operator.token :: right.tokens spelling
  | binary operator left right =>
    joinTokens (.binary operator) left right (left.tokens spelling) (right.tokens spelling)
  | logical operator left right =>
    joinTokens (.logical operator) left right (left.tokens spelling) (right.tokens spelling)
  | unary operator argument =>
    operator.token :: enclose .unary argument (argument.tokens spelling)

theorem precedence_le (place : ExprClass) : place.precedence ≤ ExprClass.primary.precedence := by
  cases place with
  | level strength => cases strength <;> decide
  | assignment | unary | primary => decide

/-- With its parentheses, an expression can stand in its place. -/
theorem derives_enclose (place : ExprClass) {value : Expr} {ts : List Token}
    (derived : DerivesExpr value.production ts value) :
    DerivesExpr place (enclose place value ts) value := by
  unfold enclose
  split
  case isTrue looser =>
    have whole : DerivesExpr .assignment ts value := derived.widen (Nat.zero_le _)
    exact (DerivesExpr.parentheses whole).widen (precedence_le place)
  case isFalse tight => exact derived.widen (Nat.not_lt.mp tight)

theorem derives_joinTokens (operator : Connective) {left right : Expr} {ts us : List Token}
    (derived : DerivesExpr left.production ts left)
    (derived' : DerivesExpr right.production us right) :
    DerivesExpr (.level operator.level) (joinTokens operator left right ts us)
      (operator.join left right) :=
  .join operator rfl (derives_enclose _ derived) (derives_enclose _ derived')

theorem enclose_proper (place : ExprClass) (value : Expr) {ts : List Token}
    (proper : ∀ t ∈ ts, t.Proper) : ∀ t ∈ enclose place value ts, t.Proper := by
  unfold enclose
  split
  · simpa [or_imp, forall_and] using proper
  · exact proper

theorem joinTokens_proper (operator : Connective) (left right : Expr) {ts us : List Token}
    (proper : ∀ t ∈ ts, t.Proper) (proper' : ∀ t ∈ us, t.Proper) :
    ∀ t ∈ joinTokens operator left right ts us, t.Proper := by
  rw [joinTokens, List.forall_mem_append, List.forall_mem_cons]
  constructor
  · exact enclose_proper _ left proper
  · exact ⟨operator.token_proper, enclose_proper _ right proper'⟩

variable {spelling : Spelling}

theorem derives_tokens (fits : spelling.Fits) {value : Expr} (good : value.WellFormed) :
    DerivesExpr value.production (value.tokens spelling) value := by
  induction value with
  | number value => exact .literal (.number (fits.numeral good))
  | string text =>
    have derived := DerivesLiteral.string (fits.quote good).1 (spelling.toList_quoted text)
    rw [String.ofList_toList] at derived
    exact .literal derived
  | boolean value =>
    cases value
    · exact .literal .boolean_false
    · exact .literal .boolean_true
  | null => exact .literal .null
  | identifier name => exact .name name
  | assignment operator target right ih =>
    have name : DerivesExpr (.level .or) [⟨.identifier, target⟩] (.identifier target) :=
      (DerivesExpr.name target).widen (by decide)
    exact .assign operator name ((ih good.2).widen (Nat.zero_le _))
  | binary operator left right ihl ihr =>
    exact derives_joinTokens (.binary operator) (ihl good.1) (ihr good.2)
  | logical operator left right ihl ihr =>
    exact derives_joinTokens (.logical operator) (ihl good.1) (ihr good.2)
  | unary operator argument ih => exact .signed operator (derives_enclose .unary (ih good))

/-- A whole expression needs no parentheses. -/
theorem derives_whole (fits : spelling.Fits) {value : Expr} (good : value.WellFormed) :
    DerivesExpr .assignment (value.tokens spelling) value :=
  (derives_tokens fits good).widen (Nat.zero_le _)

theorem tokens_proper (fits : spelling.Fits) {value : Expr} (good : value.WellFormed) :
    ∀ t ∈ value.tokens spelling, t.Proper := by
  induction value with
  | number value => exact List.forall_mem_singleton.mpr (fits.numeral_proper good)
  | string text => exact List.forall_mem_singleton.mpr (fits.quoted_proper good)
  | boolean value =>
    cases value <;> exact List.forall_mem_singleton.mpr (TokenKind.token_proper _)
  | null => exact List.forall_mem_singleton.mpr (TokenKind.token_proper _)
  | identifier name => exact List.forall_mem_singleton.mpr (isName_iff_proper.mp good)
  | assignment operator target right ih =>
    obtain ⟨name, good⟩ := good
    exact List.forall_mem_cons.mpr ⟨isName_iff_proper.mp name,
      List.forall_mem_cons.mpr ⟨operator.token_proper, ih good⟩⟩
  | binary operator left right ihl ihr =>
    exact joinTokens_proper (.binary operator) left right (ihl good.1) (ihr good.2)
  | logical operator left right ihl ihr =>
    exact joinTokens_proper (.logical operator) left right (ihl good.1) (ihr good.2)
  | unary operator argument ih =>
    exact List.forall_mem_cons.mpr ⟨operator.token_proper, enclose_proper _ argument (ih good)⟩

end Expr

/-! ### Statements -/

def Declaration.tokens (spelling : Spelling) (declaration : Declaration) : List Token :=
  match declaration.initializer with
  | none => [⟨.identifier, declaration.name⟩]
  | some value =>
    ⟨.identifier, declaration.name⟩ :: token .simpleAssignment :: value.tokens spelling

def Declaration.listTokens (spelling : Spelling) : List Declaration → List Token
  | [] => []
  | [declaration] => declaration.tokens spelling
  | declaration :: others =>
    declaration.tokens spelling ++ token .comma :: listTokens spelling others

def ForInit.tokens (spelling : Spelling) : ForInit → List Token
  | declarations list => token .kwInt :: Declaration.listTokens spelling list
  | expression value => value.tokens spelling

/-- The tokens of a clause, and none where it is missing. -/
def clauseTokens {α : Type} (tokens : α → List Token) (clause : Option α) : List Token :=
  clause.elim [] tokens

namespace Stmt

mutual

/-- The tokens of a statement. No semicolon stands behind a loop whose condition comes last. -/
def tokens (spelling : Spelling) : Stmt → List Token
  | expression value => value.tokens spelling ++ [token .semicolon]
  | empty => [token .semicolon]
  | block body => token .leftBrace :: (listTokens spelling body ++ [token .rightBrace])
  | declaration list =>
    token .kwInt :: (Declaration.listTokens spelling list ++ [token .semicolon])
  | ifElse test consequent alternate =>
    token .kwIf :: token .leftParen :: (test.tokens spelling ++ token .rightParen ::
      (consequent.tokens spelling ++ elseTokens spelling alternate))
  | whileLoop test consequent =>
    token .kwWhile :: token .leftParen :: (test.tokens spelling ++ token .rightParen ::
      consequent.tokens spelling)
  | doWhile body test =>
    token .kwDo :: (body.tokens spelling ++ token .kwWhile :: token .leftParen ::
      (test.tokens spelling ++ [token .rightParen]))
  | forLoop init test update body =>
    token .kwFor :: token .leftParen ::
      (clauseTokens (ForInit.tokens spelling) init ++ token .semicolon ::
        (clauseTokens (Expr.tokens spelling) test ++ token .semicolon ::
          (clauseTokens (Expr.tokens spelling) update ++ token .rightParen ::
            body.tokens spelling)))

def listTokens (spelling : Spelling) : List Stmt → List Token
  | [] => []
  | first :: others => first.tokens spelling ++ listTokens spelling others

def elseTokens (spelling : Spelling) : Option Stmt → List Token
  | none => []
  | some alternate => token .kwElse :: alternate.tokens spelling

end

end Stmt

theorem DerivesStmt.exists_body {ts : List Token} {stmt : Stmt} (derived : DerivesStmt ts stmt)
    (isBlock : stmt.IsBlock) : ∃ body, stmt = .block body ∧ DerivesBlock ts body := by
  cases derived with
  | block inner => exact ⟨_, rfl, inner⟩
  | expression | empty | declaration | ifThen | ifElse | whileLoop | doWhile | forLoop =>
    exact isBlock.elim

section Derivation

variable {spelling : Spelling}

theorem Declaration.derives_tokens (fits : spelling.Fits) {declaration : Declaration}
    (good : declaration.WellFormed) :
    DerivesDeclaration (declaration.tokens spelling) declaration := by
  obtain ⟨name, initializer⟩ := declaration
  cases initializer with
  | none => exact .bare name
  | some value =>
    exact .initialized name (Expr.derives_whole fits (good.2 value rfl))

theorem Declaration.derives_listTokens (fits : spelling.Fits) {list : List Declaration}
    (nonempty : list ≠ []) (good : ∀ declaration ∈ list, declaration.WellFormed) :
    DerivesDeclarations (Declaration.listTokens spelling list) list := by
  induction list with
  | nil => exact absurd rfl nonempty
  | cons declaration others ih =>
    obtain ⟨first, good⟩ := List.forall_mem_cons.mp good
    cases others with
    | nil => exact .last (Declaration.derives_tokens fits first)
    | cons next others =>
      exact .more (Declaration.derives_tokens fits first) (ih (List.cons_ne_nil _ _) good)

theorem ForInit.derives_tokens (fits : spelling.Fits) {init : ForInit} (good : init.WellFormed) :
    DerivesForInit (init.tokens spelling) init := by
  cases init with
  | declarations list => exact .declarations (Declaration.derives_listTokens fits good.1 good.2)
  | expression value => exact .expression (Expr.derives_whole fits good)

theorem derives_clauseTokens {α : Type} {tokens : α → List Token}
    {Derives : List Token → α → Prop} {clause : Option α}
    (derived : ∀ value ∈ clause, Derives (tokens value) value) :
    DerivesOption Derives (clauseTokens tokens clause) clause := by
  cases clause with
  | none => exact .absent
  | some value => exact .present (derived value rfl)

mutual

theorem Stmt.derives_tokens (fits : spelling.Fits) : {stmt : Stmt} → stmt.WellFormed →
    DerivesStmt (stmt.tokens spelling) stmt
  | .expression value, good => .expression (Expr.derives_whole fits good)
  | .empty, _ => .empty
  | .block [], _ => .block .empty
  | .block (first :: others), good =>
    .block (.full (Stmt.derives_listTokens fits (List.cons_ne_nil first others) good))
  | .declaration list, good => .declaration (Declaration.derives_listTokens fits good.1 good.2)
  | .ifElse test consequent none, ⟨goodTest, isBlock, good, _⟩ => by
    obtain ⟨body, rfl, derived⟩ := (Stmt.derives_tokens fits good).exists_body isBlock
    simp only [Stmt.tokens, Stmt.elseTokens, List.append_nil]
    exact .ifThen (Expr.derives_whole fits goodTest) derived
  | .ifElse test consequent (some alternate), ⟨goodTest, isBlock, good, isBlock', good'⟩ => by
    obtain ⟨body, rfl, derived⟩ := (Stmt.derives_tokens fits good).exists_body isBlock
    obtain ⟨other, rfl, derived'⟩ := (Stmt.derives_tokens fits good').exists_body isBlock'
    exact .ifElse (Expr.derives_whole fits goodTest) derived derived'
  | .whileLoop test consequent, ⟨goodTest, isBlock, good⟩ => by
    obtain ⟨body, rfl, derived⟩ := (Stmt.derives_tokens fits good).exists_body isBlock
    exact .whileLoop (Expr.derives_whole fits goodTest) derived
  | .doWhile body test, ⟨isBlock, good, goodTest⟩ => by
    obtain ⟨inner, rfl, derived⟩ := (Stmt.derives_tokens fits good).exists_body isBlock
    exact .doWhile derived (Expr.derives_whole fits goodTest)
  | .forLoop init test update body, ⟨goodInit, goodTest, goodUpdate, isBlock, good⟩ => by
    obtain ⟨inner, rfl, derived⟩ := (Stmt.derives_tokens fits good).exists_body isBlock
    refine .forLoop (derives_clauseTokens fun clause present => ?_)
      (derives_clauseTokens fun clause present => ?_)
      (derives_clauseTokens fun clause present => ?_) derived
    · exact ForInit.derives_tokens fits (goodInit clause present)
    · exact Expr.derives_whole fits (goodTest clause present)
    · exact Expr.derives_whole fits (goodUpdate clause present)

theorem Stmt.derives_listTokens (fits : spelling.Fits) : {list : List Stmt} → list ≠ [] →
    Stmt.ListWellFormed list → DerivesStmts (Stmt.listTokens spelling list) list
  | [], nonempty, _ => absurd rfl nonempty
  | [stmt], _, good => by
    simp only [Stmt.listTokens, List.append_nil]
    exact .last (Stmt.derives_tokens fits good.1)
  | stmt :: next :: others, _, good =>
    .more (Stmt.derives_tokens fits good.1)
      (Stmt.derives_listTokens fits (List.cons_ne_nil next others) good.2)

end

/-! ### The printed tokens -/

theorem Declaration.tokens_proper (fits : spelling.Fits) {declaration : Declaration}
    (good : declaration.WellFormed) : ∀ t ∈ declaration.tokens spelling, t.Proper := by
  obtain ⟨name, initializer⟩ := declaration
  have first := isName_iff_proper.mp good.1
  cases initializer with
  | none => exact List.forall_mem_singleton.mpr first
  | some value =>
    exact List.forall_mem_cons.mpr ⟨first, List.forall_mem_cons.mpr
      ⟨TokenKind.token_proper _, Expr.tokens_proper fits (good.2 value rfl)⟩⟩

theorem Declaration.listTokens_proper (fits : spelling.Fits) {list : List Declaration}
    (good : ∀ declaration ∈ list, declaration.WellFormed) :
    ∀ t ∈ Declaration.listTokens spelling list, t.Proper := by
  induction list with
  | nil => exact nofun
  | cons declaration others ih =>
    obtain ⟨first, good⟩ := List.forall_mem_cons.mp good
    cases others with
    | nil => exact Declaration.tokens_proper fits first
    | cons next others =>
      exact List.forall_mem_append.mpr ⟨Declaration.tokens_proper fits first,
        List.forall_mem_cons.mpr ⟨TokenKind.token_proper _, ih good⟩⟩

theorem ForInit.tokens_proper (fits : spelling.Fits) {init : ForInit} (good : init.WellFormed) :
    ∀ t ∈ init.tokens spelling, t.Proper := by
  cases init with
  | declarations list =>
    exact List.forall_mem_cons.mpr
      ⟨TokenKind.token_proper _, Declaration.listTokens_proper fits good.2⟩
  | expression value => exact Expr.tokens_proper fits good

theorem clauseTokens_proper {α : Type} {tokens : α → List Token} {clause : Option α}
    (proper : ∀ value ∈ clause, ∀ t ∈ tokens value, t.Proper) :
    ∀ t ∈ clauseTokens tokens clause, t.Proper := by
  cases clause with
  | none => exact nofun
  | some value => exact proper value rfl

mutual

theorem Stmt.tokens_proper (fits : spelling.Fits) : (stmt : Stmt) → stmt.WellFormed →
    ∀ t ∈ stmt.tokens spelling, t.Proper
  | .expression value, good => by
    simpa [Stmt.tokens, or_imp, forall_and] using Expr.tokens_proper fits good
  | .empty, _ => by simp [Stmt.tokens]
  | .block body, good => by
    simpa [Stmt.tokens, or_imp, forall_and] using Stmt.listTokens_proper fits body good
  | .declaration list, good => by
    simpa [Stmt.tokens, or_imp, forall_and] using Declaration.listTokens_proper fits good.2
  | .ifElse test consequent alternate, ⟨goodTest, _, good, good'⟩ => by
    have first := Expr.tokens_proper fits goodTest
    have second := Stmt.tokens_proper fits consequent good
    have third := Stmt.elseTokens_proper fits alternate good'
    simpa [Stmt.tokens, or_imp, forall_and] using ⟨first, second, third⟩
  | .whileLoop test consequent, ⟨goodTest, _, good⟩ => by
    have first := Expr.tokens_proper fits goodTest
    have second := Stmt.tokens_proper fits consequent good
    simpa [Stmt.tokens, or_imp, forall_and] using ⟨first, second⟩
  | .doWhile body test, ⟨_, good, goodTest⟩ => by
    have first := Stmt.tokens_proper fits body good
    have second := Expr.tokens_proper fits goodTest
    simpa [Stmt.tokens, or_imp, forall_and] using ⟨first, second⟩
  | .forLoop init test update body, ⟨goodInit, goodTest, goodUpdate, _, good⟩ => by
    have first := clauseTokens_proper fun clause listed =>
      ForInit.tokens_proper fits (goodInit clause listed)
    have second := clauseTokens_proper fun clause listed =>
      Expr.tokens_proper fits (goodTest clause listed)
    have third := clauseTokens_proper fun clause listed =>
      Expr.tokens_proper fits (goodUpdate clause listed)
    have last := Stmt.tokens_proper fits body good
    simpa [Stmt.tokens, or_imp, forall_and] using ⟨first, second, third, last⟩

theorem Stmt.listTokens_proper (fits : spelling.Fits) : (list : List Stmt) →
    Stmt.ListWellFormed list → ∀ t ∈ Stmt.listTokens spelling list, t.Proper
  | [], _ => nofun
  | first :: others, good => List.forall_mem_append.mpr
    ⟨Stmt.tokens_proper fits first good.1, Stmt.listTokens_proper fits others good.2⟩

theorem Stmt.elseTokens_proper (fits : spelling.Fits) : (alternate : Option Stmt) →
    Stmt.OptionWellFormed alternate → ∀ t ∈ Stmt.elseTokens spelling alternate, t.Proper
  | none, _ => nofun
  | some alternate, good => List.forall_mem_cons.mpr
    ⟨TokenKind.token_proper _, Stmt.tokens_proper fits alternate good.2⟩

end

end Derivation

/-- The text of a program, with a space between any two tokens. -/
def Program.print (spelling : Spelling) (program : Program) : String :=
  spaced (Stmt.listTokens spelling program.body)

/-- What is printed for a well formed program is read as this program. -/
theorem parse_print {spelling : Spelling} (fits : spelling.Fits) {program : Program}
    (good : program.WellFormed) : parse (program.print spelling) = .ok program := by
  have lexed : lex (program.print spelling) = (Stmt.listTokens spelling program.body, none) :=
    lex_spaced (Stmt.listTokens_proper fits program.body good.2)
  have derived : Derives (Stmt.listTokens spelling program.body) program :=
    Stmt.derives_listTokens fits good.1 good.2
  rw [parse_of_lex_ok lexed]
  exact Grammar.parseTokens_of_derives derived

/-- A difference on the right needs its parentheses, and the product beside it needs none. -/
theorem parse_print_difference :
    let factors : Expr := .binary .mul (.identifier "b") (.number (.finite 2))
    let value : Expr := .binary .sub (.identifier "a") (.binary .sub factors (.string "'"))
    Program.print .plain ⟨[.expression value]⟩ = "a - ( b * 2 - \"'\" ) ;" ∧
      parse (Program.print .plain ⟨[.expression value]⟩) = .ok ⟨[.expression value]⟩ := by
  intro factors value
  have name (c : Char) (letter : c.isAlpha = true)
      (free : String.singleton c ∉ reservedWords) : IsName (String.singleton c) :=
    ⟨⟨c, [], by simp, Or.inl letter, nofun⟩, free⟩
  have good : value.WellFormed :=
    ⟨name 'a' (by decide) (by decide), ⟨name 'b' (by decide) (by decide), "2", by decide +kernel⟩,
      Or.inl (by decide)⟩
  exact ⟨by decide +kernel, parse_print Spelling.plain_fits ⟨List.cons_ne_nil _ _, good, trivial⟩⟩

end ScriptTree
