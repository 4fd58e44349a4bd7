import Mathlib.Data.List.Forall2
import ScriptTree.Proofs.Grammar.Recognition

/-! Names and strings mean nothing to the parser. Where other names and other strings stand in the
same places, in whichever quotes, the same productions read both sources, and they end in trees that
differ in these names and strings alone or in the same error at the same place. -/

namespace ScriptTree

open TokenSource Grammar

/-- Other texts for names and for the contents of strings. -/
structure Renaming where
  name : String → String
  content : String → String

variable (ρ : Renaming)

/-! ### Trees and tokens -/

def Expr.rename : Expr → Expr
  | number value => number value
  | string value => string (ρ.content value)
  | boolean value => boolean value
  | null => null
  | identifier name => identifier (ρ.name name)
  | assignment operator target right => assignment operator (ρ.name target) right.rename
  | binary operator left right => binary operator left.rename right.rename
  | logical operator left right => logical operator left.rename right.rename
  | unary operator argument => unary operator argument.rename

def Declaration.rename (declaration : Declaration) : Declaration :=
  ⟨ρ.name declaration.name, declaration.initializer.map (Expr.rename ρ)⟩

def ForInit.rename : ForInit → ForInit
  | declarations list => declarations (list.map (Declaration.rename ρ))
  | expression value => expression (value.rename ρ)

mutual

def Stmt.rename : Stmt → Stmt
  | expression value => expression (value.rename ρ)
  | empty => empty
  | block body => block (Stmt.listRename body)
  | declaration list => declaration (list.map (Declaration.rename ρ))
  | ifElse test consequent alternate =>
    ifElse (test.rename ρ) consequent.rename (Stmt.optionRename alternate)
  | whileLoop test consequent => whileLoop (test.rename ρ) consequent.rename
  | doWhile body test => doWhile body.rename (test.rename ρ)
  | forLoop init test update body =>
    forLoop (init.map (ForInit.rename ρ)) (test.map (Expr.rename ρ)) (update.map (Expr.rename ρ))
      body.rename

def Stmt.listRename : List Stmt → List Stmt
  | [] => []
  | first :: others => first.rename :: Stmt.listRename others

def Stmt.optionRename : Option Stmt → Option Stmt
  | none => none
  | some stmt => some stmt.rename

end

def Program.rename (program : Program) : Program :=
  ⟨Stmt.listRename ρ program.body⟩

/-- Whether a token can stand for another: a name for the name that it is changed to, a string for
one with the changed content, in quotes of either style, and any other token for itself. -/
def Renaming.Turns (token token' : Token) : Prop :=
  token'.kind = token.kind ∧
    match token.kind with
    | .identifier => token'.text = ρ.name token.text
    | .string => token'.content = ρ.content token.content
    | _ => token'.text = token.text

/-- Token by token. -/
abbrev Renaming.TurnsAll (tokens tokens' : List Token) : Prop :=
  List.Forall₂ ρ.Turns tokens tokens'

variable {ρ} {tokens tokens' : List Token} {α β : Type}

theorem Renaming.Turns.name {token token' : Token} (turns : ρ.Turns token token')
    (kind : token.kind = .identifier) : token'.text = ρ.name token.text := by
  obtain ⟨_, text⟩ := turns
  simpa [kind] using text

theorem Renaming.Turns.content {token token' : Token} (turns : ρ.Turns token token')
    (kind : token.kind = .string) : token'.content = ρ.content token.content := by
  obtain ⟨_, text⟩ := turns
  simpa [kind] using text

theorem Renaming.Turns.same {token token' : Token} (turns : ρ.Turns token token')
    (name : token.kind ≠ .identifier) (string : token.kind ≠ .string) : token' = token := by
  obtain ⟨kind, text⟩ := turns
  obtain ⟨kind₁, text₁⟩ := token
  obtain ⟨kind₂, text₂⟩ := token'
  obtain rfl : kind₂ = kind₁ := kind
  split at text <;> simp_all

theorem Renaming.TurnsAll.peekKind (turned : ρ.TurnsAll tokens tokens') :
    peekKind tokens' = peekKind tokens := by
  cases turned with
  | nil => rfl
  | cons first _ => exact congrArg some first.1

/-! ### Two readings side by side -/

/-- Two readings that go the same way: to related values, or to the same error at the same place.
Which token is refused follows from the place. -/
inductive Paired (ρ : Renaming) (R : α → α → Prop) :
    Outcome (List Token) α → Outcome (List Token) α → Prop where
  | ok {value value' : α} {rest rest' : List Token} : R value value' → ρ.TurnsAll rest rest' →
      Paired ρ R (.ok (value, rest)) (.ok (value', rest'))
  | ended {expected : TokenKind} : Paired ρ R (.error ⟨.unexpectedEnd expected, []⟩)
      (.error ⟨.unexpectedEnd expected, []⟩)
  | unexpected {found found' : Token} {expected : TokenKind} {rest rest' : List Token} :
      ρ.TurnsAll rest rest' → Paired ρ R (.error ⟨.unexpectedToken found expected, rest⟩)
        (.error ⟨.unexpectedToken found' expected, rest'⟩)
  | invalid {target : String} {rest rest' : List Token} : ρ.TurnsAll rest rest' →
      Paired ρ R (.error ⟨.invalidTarget target, rest⟩) (.error ⟨.invalidTarget target, rest'⟩)

namespace Paired

variable {R R' : α → α → Prop} {S : β → β → Prop} {outcome outcome' : Outcome (List Token) α}

/-- Both go on from where they are. -/
theorem bind {next next' : α → List Token → Outcome (List Token) β}
    (paired : Paired ρ R outcome outcome')
    (further : ∀ value value' rest rest', outcome = .ok (value, rest) → R value value' →
      ρ.TurnsAll rest rest' → Paired ρ S (next value rest) (next' value' rest')) :
    Paired ρ S (outcome.andThen next) (outcome'.andThen next') := by
  cases paired with
  | ok related turned => exact further _ _ _ _ rfl related turned
  | ended => exact .ended
  | unexpected turned => exact .unexpected turned
  | invalid turned => exact .invalid turned

/-- Behind a reading, less is left of the first source. -/
theorem andThen {bound : Nat} {reading : Reading (List Token) bound α}
    {next next' : α → List Token → Outcome (List Token) β}
    (paired : Paired ρ R reading.plain outcome')
    (further : ∀ value value' rest rest', size rest < bound → R value value' →
      ρ.TurnsAll rest rest' → Paired ρ S (next value rest) (next' value' rest')) :
    Paired ρ S (reading.plain.andThen next) (outcome'.andThen next') :=
  paired.bind fun _ _ _ _ read => further _ _ _ _ (Reading.size_lt_of_plain read)

theorem map {f f' : α → β} (paired : Paired ρ R outcome outcome')
    (related : ∀ value value', R value value' → S (f value) (f' value')) :
    Paired ρ S (outcome.map f) (outcome'.map f') :=
  paired.bind fun _ _ _ _ _ relation turned => .ok (related _ _ relation) turned

theorem mono (paired : Paired ρ R outcome outcome')
    (related : ∀ value value', R value value' → R' value value') :
    Paired ρ R' outcome outcome' := by
  cases paired with
  | ok relation turned => exact .ok (related _ _ relation) turned
  | ended => exact .ended
  | unexpected turned => exact .unexpected turned
  | invalid turned => exact .invalid turned

end Paired

/-- Two readings that go the same way, where a function takes the first value to the second. -/
abbrev PairedBy (ρ : Renaming) (f : α → α) :
    Outcome (List Token) α → Outcome (List Token) α → Prop :=
  Paired ρ fun value value' => value' = f value

/-! ### Single tokens -/

theorem paired_eat (turned : ρ.TurnsAll tokens tokens') (kind : TokenKind) :
    Paired ρ (fun token token' => ρ.Turns token token' ∧ token.kind = kind)
      (eat kind tokens).plain (eat kind tokens').plain := by
  cases turned with
  | nil =>
    rw [plain_eat_nil]
    exact .ended
  | cons first others =>
    rw [plain_eat_cons, plain_eat_cons, first.1]
    split
    · rename_i expected
      exact .ok ⟨first, expected⟩ others
    · exact .unexpected (.cons first others)

/-- A token that is neither a name nor a string is the same in both. -/
theorem paired_eat_same {kind : TokenKind} (name : kind ≠ .identifier) (string : kind ≠ .string)
    (turned : ρ.TurnsAll tokens tokens') :
    Paired ρ Eq (eat kind tokens).plain (eat kind tokens').plain := by
  refine (paired_eat turned kind).mono fun token token' related => ?_
  obtain ⟨turns, rfl⟩ := related
  exact (turns.same name string).symm

theorem paired_identifier (turned : ρ.TurnsAll tokens tokens') :
    PairedBy ρ ρ.name (identifier tokens).plain (identifier tokens').plain := by
  rw [plain_identifier, plain_identifier]
  exact (paired_eat turned .identifier).map fun token token' related => related.1.name related.2

theorem paired_unlessNext {read : (tokens : List Token) → Reading (List Token) (size tokens) α}
    {f : α → α} (turned : ρ.TurnsAll tokens tokens') (stop : TokenKind)
    (paired : PairedBy ρ f (read tokens).plain (read tokens').plain) :
    PairedBy ρ (Option.map f) (unlessNext stop read tokens).plain
      (unlessNext stop read tokens').plain := by
  rw [plain_unlessNext, plain_unlessNext, turned.peekKind]
  split
  · exact .ok rfl turned
  · exact paired.map fun value value' related => congrArg some related

theorem paired_numberValue (token : Token) (turned : ρ.TurnsAll tokens tokens') :
    PairedBy ρ (Expr.rename ρ) (numberValue token tokens) (numberValue token tokens') := by
  rw [numberValue, numberValue]
  cases Number.ofNumeral? token.text with
  | some value => exact .ok rfl turned
  | none => exact .unexpected turned

theorem paired_literal {kind : TokenKind} (turned : ρ.TurnsAll tokens tokens')
    (next : peekKind tokens = some kind) (isLiteral : kind.isLiteral = true) :
    PairedBy ρ (Expr.rename ρ) (literal tokens).plain (literal tokens').plain := by
  rw [plain_literal, plain_literal, turned.peekKind, next]
  cases kind <;> try cases isLiteral
  case number =>
    refine (paired_eat_same (by decide) (by decide) turned).andThen
      fun token token' rest rest' _ same turned => ?_
    subst same
    exact paired_numberValue token turned
  case string =>
    refine (paired_eat turned .string).map fun token token' related => ?_
    exact congrArg Expr.string (related.1.content related.2)
  case kwTrue => exact (paired_eat turned .kwTrue).map fun _ _ _ => rfl
  case kwFalse => exact (paired_eat turned .kwFalse).map fun _ _ _ => rfl
  case kwNull => exact (paired_eat turned .kwNull).map fun _ _ _ => rfl

/-! ### Expressions -/

theorem Level.join?_rename (level : Level) (symbol : String) (left right : Expr) :
    level.join? symbol (left.rename ρ) (right.rename ρ) =
      (level.join? symbol left right).map (Expr.rename ρ) := by
  cases level <;> simp [Level.join?, Function.comp_def, Expr.rename]

mutual

theorem paired_assignment {tokens tokens' : List Token} (turned : ρ.TurnsAll tokens tokens') :
    PairedBy ρ (Expr.rename ρ) (assignment tokens).plain (assignment tokens').plain := by
  rw [plain_assignment, plain_assignment]
  refine (paired_chain .or turned).andThen fun left left' rest rest' smaller same turned => ?_
  subst same
  rw [turned.peekKind]
  cases next : peekKind rest with
  | none => exact .ok rfl turned
  | some kind =>
    by_cases assigns : kind.isAssignment = true
    · simp only [assigns, if_true]
      have name : kind ≠ .identifier := by
        rintro rfl
        cases assigns
      have string : kind ≠ .string := by
        rintro rfl
        cases assigns
      refine (paired_eat_same name string turned).andThen
        fun token token' rest rest' smaller₂ same turned => ?_
      subst same
      rw [assigned, assigned]
      cases (OperatorFamily.ofSymbol? token.text : Option AssignmentOperator) with
      | none => exact .unexpected turned
      | some operator =>
        cases left with
        | identifier target =>
          exact (paired_assignment turned).map fun value value' same => congrArg _ same
        | _ => exact .invalid turned
    · simp only [assigns]
      exact .ok rfl turned
termination_by 16 * size tokens + 14
decreasing_by
  · exact Nat.add_lt_add_left (by decide : 2 * Level.or.height + 1 < 14) _
  · omega

theorem paired_chain (level : Level) {tokens tokens' : List Token}
    (turned : ρ.TurnsAll tokens tokens') :
    PairedBy ρ (Expr.rename ρ) (chain level tokens).plain (chain level tokens').plain := by
  rw [plain_chain, plain_chain]
  refine (paired_operand level turned).andThen fun left left' rest rest' smaller same turned => ?_
  subst same
  exact paired_chainOnward level left turned
termination_by 16 * size tokens + 2 * level.height + 1

theorem paired_chainOnward (level : Level) (left : Expr) {tokens tokens' : List Token}
    (turned : ρ.TurnsAll tokens tokens') :
    PairedBy ρ (Expr.rename ρ) (chainOnward level left tokens).plain
      (chainOnward level (left.rename ρ) tokens').plain := by
  rw [plain_chainOnward, plain_chainOnward, turned.peekKind]
  split
  · have name : level.operator ≠ .identifier := by cases level <;> decide
    have string : level.operator ≠ .string := by cases level <;> decide
    refine (paired_eat_same name string turned).andThen
      fun token token' rest rest' smaller₁ same turned => ?_
    subst same
    refine (paired_operand level turned).andThen
      fun right right' rest rest' smaller₂ same turned => ?_
    subst same
    rw [joined, joined, Level.join?_rename]
    cases level.join? token.text left right with
    | none => exact .unexpected turned
    | some whole => exact paired_chainOnward level whole turned
  · exact .ok rfl turned
termination_by 16 * size tokens
decreasing_by
  · have := level.height_le
    omega
  · omega

theorem paired_operand (level : Level) {tokens tokens' : List Token}
    (turned : ρ.TurnsAll tokens tokens') :
    PairedBy ρ (Expr.rename ρ) (operand level tokens).plain (operand level tokens').plain := by
  rw [plain_operand, plain_operand]
  cases next : level.tighter? with
  | some tighter =>
    have := Level.height_tighter next
    exact paired_chain tighter turned
  | none =>
    have := level.height_pos
    exact paired_unary turned
termination_by 16 * size tokens + 2 * level.height

theorem paired_unary {tokens tokens' : List Token} (turned : ρ.TurnsAll tokens tokens') :
    PairedBy ρ (Expr.rename ρ) (unary tokens).plain (unary tokens').plain := by
  rw [plain_unary, plain_unary, turned.peekKind]
  split
  · exact paired_signed (by decide) (by decide) turned
  · exact paired_signed (by decide) (by decide) turned
  · exact paired_primary turned
termination_by 16 * size tokens + 1

theorem paired_signed {kind : TokenKind} (name : kind ≠ .identifier) (string : kind ≠ .string)
    {tokens tokens' : List Token} (turned : ρ.TurnsAll tokens tokens') :
    PairedBy ρ (Expr.rename ρ) (signed kind tokens).plain (signed kind tokens').plain := by
  rw [plain_signed, plain_signed]
  refine (paired_eat_same name string turned).andThen
    fun token token' rest rest' smaller same turned => ?_
  subst same
  rw [signedBy, signedBy]
  cases (OperatorFamily.ofSymbol? token.text : Option UnaryOperator) with
  | none => exact .unexpected turned
  | some operator => exact (paired_unary turned).map fun value value' same => congrArg _ same
termination_by 16 * size tokens

theorem paired_primary {tokens tokens' : List Token} (turned : ρ.TurnsAll tokens tokens') :
    PairedBy ρ (Expr.rename ρ) (primary tokens).plain (primary tokens').plain := by
  have named : PairedBy ρ (Expr.rename ρ)
      ((identifier tokens).plain.map .identifier) ((identifier tokens').plain.map .identifier) :=
    (paired_identifier turned).map fun value value' same => congrArg _ same
  rw [plain_primary, plain_primary, turned.peekKind]
  split
  · refine (paired_eat turned .leftParen).andThen fun _ _ rest rest' smaller₁ _ turned => ?_
    refine (paired_assignment turned).andThen
      fun inner inner' rest rest' smaller₂ same turned => ?_
    exact (paired_eat turned .rightParen).map fun _ _ _ => same
  · rename_i kind _ next
    split
    · rename_i isLiteral
      exact paired_literal turned next isLiteral
    · exact named
  · exact named
termination_by 16 * size tokens

end

/-! ### Statements -/

theorem paired_declaration (turned : ρ.TurnsAll tokens tokens') :
    PairedBy ρ (Declaration.rename ρ) (declaration tokens).plain (declaration tokens').plain := by
  rw [plain_declaration, plain_declaration]
  refine (paired_identifier turned).andThen fun name name' rest rest' _ same turned => ?_
  subst same
  rw [turned.peekKind]
  split
  · exact .ok rfl turned
  · refine (paired_eat turned .simpleAssignment).andThen fun _ _ rest rest' _ _ turned => ?_
    refine (paired_assignment turned).map fun value value' same => ?_
    exact congrArg (fun value => (⟨_, some value⟩ : Declaration)) same

theorem paired_declarationsOnward {tokens tokens' : List Token}
    (turned : ρ.TurnsAll tokens tokens') :
    PairedBy ρ (List.map (Declaration.rename ρ)) (declarationsOnward tokens).plain
      (declarationsOnward tokens').plain := by
  rw [plain_declarationsOnward tokens, plain_declarationsOnward tokens', turned.peekKind]
  split
  · refine (paired_eat turned .comma).andThen fun _ _ rest rest' smaller _ turned => ?_
    refine (paired_declaration turned).andThen
      fun first first' rest rest' smaller₂ same turned => ?_
    exact (paired_declarationsOnward turned).map fun _ _ others => congrArg₂ List.cons same others
  · exact .ok rfl turned
termination_by size tokens

theorem paired_declarations (turned : ρ.TurnsAll tokens tokens') :
    PairedBy ρ (List.map (Declaration.rename ρ)) (declarations tokens).plain
      (declarations tokens').plain := by
  rw [plain_declarations, plain_declarations]
  refine (paired_declaration turned).andThen fun first first' rest rest' _ same turned => ?_
  exact (paired_declarationsOnward turned).map fun _ _ others => congrArg₂ List.cons same others

theorem paired_intDeclarations (turned : ρ.TurnsAll tokens tokens') :
    PairedBy ρ (List.map (Declaration.rename ρ)) (intDeclarations tokens).plain
      (intDeclarations tokens').plain := by
  rw [plain_intDeclarations, plain_intDeclarations]
  exact (paired_eat turned .kwInt).andThen fun _ _ _ _ _ _ turned => paired_declarations turned

theorem paired_condition (turned : ρ.TurnsAll tokens tokens') :
    PairedBy ρ (Expr.rename ρ) (condition tokens).plain (condition tokens').plain := by
  rw [plain_condition, plain_condition]
  refine (paired_eat turned .leftParen).andThen fun _ _ _ _ _ _ turned => ?_
  refine (paired_assignment turned).andThen fun test test' _ _ _ same turned => ?_
  exact (paired_eat turned .rightParen).map fun _ _ _ => same

theorem paired_forInit (turned : ρ.TurnsAll tokens tokens') :
    PairedBy ρ (ForInit.rename ρ) (forInit tokens).plain (forInit tokens').plain := by
  rw [plain_forInit, plain_forInit, turned.peekKind]
  split
  · exact (paired_intDeclarations turned).map fun _ _ same => congrArg ForInit.declarations same
  · exact (paired_assignment turned).map fun _ _ same => congrArg ForInit.expression same

/-- The head of a loop with other names and strings. -/
def renameHead (ρ : Renaming) (head : Option ForInit × Option Expr × Option Expr) :
    Option ForInit × Option Expr × Option Expr :=
  (head.1.map (ForInit.rename ρ), head.2.1.map (Expr.rename ρ), head.2.2.map (Expr.rename ρ))

theorem paired_forHead (turned : ρ.TurnsAll tokens tokens') :
    PairedBy ρ (renameHead ρ) (forHead tokens).plain (forHead tokens').plain := by
  rw [plain_forHead, plain_forHead]
  refine (paired_eat turned .kwFor).andThen fun _ _ _ _ _ _ turned => ?_
  refine (paired_eat turned .leftParen).andThen fun _ _ _ _ _ _ turned => ?_
  refine (paired_unlessNext turned .semicolon (paired_forInit turned)).andThen
    fun init init' _ _ _ sameInit turned => ?_
  refine (paired_eat turned .semicolon).andThen fun _ _ _ _ _ _ turned => ?_
  refine (paired_unlessNext turned .semicolon (paired_assignment turned)).andThen
    fun test test' _ _ _ sameTest turned => ?_
  refine (paired_eat turned .semicolon).andThen fun _ _ _ _ _ _ turned => ?_
  refine (paired_unlessNext turned .rightParen (paired_assignment turned)).andThen
    fun update update' _ _ _ sameUpdate turned => ?_
  refine (paired_eat turned .rightParen).map fun _ _ _ => ?_
  rw [sameInit, sameTest, sameUpdate]
  rfl

theorem paired_expressionStatement (turned : ρ.TurnsAll tokens tokens') :
    PairedBy ρ (Stmt.rename ρ) (expressionStatement tokens).plain
      (expressionStatement tokens').plain := by
  rw [plain_expressionStatement, plain_expressionStatement]
  refine (paired_assignment turned).andThen fun value value' _ _ _ same turned => ?_
  subst same
  exact (paired_eat turned .semicolon).map fun _ _ _ => by rw [Stmt.rename]

theorem paired_declarationStatement (turned : ρ.TurnsAll tokens tokens') :
    PairedBy ρ (Stmt.rename ρ) (declarationStatement tokens).plain
      (declarationStatement tokens').plain := by
  rw [plain_declarationStatement, plain_declarationStatement]
  refine (paired_intDeclarations turned).andThen fun list list' _ _ _ same turned => ?_
  subst same
  exact (paired_eat turned .semicolon).map fun _ _ _ => by rw [Stmt.rename]

mutual

theorem paired_statement {tokens tokens' : List Token} (turned : ρ.TurnsAll tokens tokens') :
    PairedBy ρ (Stmt.rename ρ) (statement tokens).plain (statement tokens').plain := by
  rw [plain_statement, plain_statement, turned.peekKind]
  split
  · exact (paired_eat turned .semicolon).map fun _ _ _ => by rw [Stmt.rename]
  · exact (paired_block turned).map fun body body' same => by rw [same, Stmt.rename]
  · exact paired_declarationStatement turned
  · exact paired_ifStatement turned
  · exact paired_whileStatement turned
  · exact paired_doStatement turned
  · exact paired_forStatement turned
  · exact paired_expressionStatement turned
termination_by 4 * size tokens + 1

theorem paired_ifStatement {tokens tokens' : List Token} (turned : ρ.TurnsAll tokens tokens') :
    PairedBy ρ (Stmt.rename ρ) (ifStatement tokens).plain (ifStatement tokens').plain := by
  rw [plain_ifStatement, plain_ifStatement]
  refine (paired_eat turned .kwIf).andThen fun _ _ _ _ smaller₁ _ turned => ?_
  refine (paired_condition turned).andThen fun test test' _ _ smaller₂ sameTest turned => ?_
  refine (paired_block turned).andThen fun body body' _ _ smaller₃ sameBody turned => ?_
  subst sameTest sameBody
  rw [turned.peekKind]
  split
  · refine (paired_eat turned .kwElse).andThen fun _ _ _ _ smaller₄ _ turned => ?_
    refine (paired_block turned).map fun other other' same => ?_
    rw [same]
    simp only [Stmt.rename, Stmt.optionRename]
  · exact .ok (by simp only [Stmt.rename, Stmt.optionRename]) turned
termination_by 4 * size tokens

theorem paired_whileStatement {tokens tokens' : List Token} (turned : ρ.TurnsAll tokens tokens') :
    PairedBy ρ (Stmt.rename ρ) (whileStatement tokens).plain (whileStatement tokens').plain := by
  rw [plain_whileStatement, plain_whileStatement]
  refine (paired_eat turned .kwWhile).andThen fun _ _ _ _ smaller₁ _ turned => ?_
  refine (paired_condition turned).andThen fun test test' _ _ smaller₂ sameTest turned => ?_
  refine (paired_block turned).map fun body body' sameBody => ?_
  rw [sameTest, sameBody]
  simp only [Stmt.rename]
termination_by 4 * size tokens

theorem paired_doStatement {tokens tokens' : List Token} (turned : ρ.TurnsAll tokens tokens') :
    PairedBy ρ (Stmt.rename ρ) (doStatement tokens).plain (doStatement tokens').plain := by
  rw [plain_doStatement, plain_doStatement]
  refine (paired_eat turned .kwDo).andThen fun _ _ _ _ smaller₁ _ turned => ?_
  refine (paired_block turned).andThen fun body body' _ _ smaller₂ sameBody turned => ?_
  refine (paired_eat turned .kwWhile).andThen fun _ _ _ _ smaller₃ _ turned => ?_
  refine (paired_condition turned).map fun test test' sameTest => ?_
  rw [sameTest, sameBody]
  simp only [Stmt.rename]
termination_by 4 * size tokens

theorem paired_forStatement {tokens tokens' : List Token} (turned : ρ.TurnsAll tokens tokens') :
    PairedBy ρ (Stmt.rename ρ) (forStatement tokens).plain (forStatement tokens').plain := by
  rw [plain_forStatement, plain_forStatement]
  refine (paired_forHead turned).andThen fun head head' _ _ smaller sameHead turned => ?_
  refine (paired_block turned).map fun body body' sameBody => ?_
  rw [sameHead, sameBody]
  simp only [Stmt.rename, renameHead]
termination_by 4 * size tokens

theorem paired_block {tokens tokens' : List Token} (turned : ρ.TurnsAll tokens tokens') :
    PairedBy ρ (Stmt.listRename ρ) (block tokens).plain (block tokens').plain := by
  rw [plain_block, plain_block]
  refine (paired_eat turned .leftBrace).andThen fun _ _ _ _ smaller₁ _ turned => ?_
  rw [turned.peekKind]
  split
  · exact (paired_eat turned .rightBrace).map fun _ _ _ => by rw [Stmt.listRename]
  · refine (paired_statements (some .rightBrace) turned).andThen
      fun body body' _ _ smaller₂ same turned => ?_
    exact (paired_eat turned .rightBrace).map fun _ _ _ => same
termination_by 4 * size tokens

theorem paired_statements (stop : Option TokenKind) {tokens tokens' : List Token}
    (turned : ρ.TurnsAll tokens tokens') :
    PairedBy ρ (Stmt.listRename ρ) (statements stop tokens).plain
      (statements stop tokens').plain := by
  rw [plain_statements, plain_statements]
  refine (paired_statement turned).andThen fun first first' _ _ smaller same turned => ?_
  refine (paired_statementsOnward stop turned).map fun others others' same' => ?_
  rw [same, same', Stmt.listRename]
termination_by 4 * size tokens + 2

theorem paired_statementsOnward (stop : Option TokenKind) {tokens tokens' : List Token}
    (turned : ρ.TurnsAll tokens tokens') :
    PairedBy ρ (Stmt.listRename ρ) (statementsOnward stop tokens).plain
      (statementsOnward stop tokens').plain := by
  rw [plain_statementsOnward, plain_statementsOnward, turned.peekKind]
  split
  · exact .ok (by rw [Stmt.listRename]) turned
  · exact paired_statements stop turned
termination_by 4 * size tokens + 3

end

theorem paired_program (turned : ρ.TurnsAll tokens tokens') :
    PairedBy ρ (Program.rename ρ) (program tokens).plain (program tokens').plain := by
  rw [plain_program, plain_program]
  exact (paired_statements none turned).map fun _ _ same => congrArg Program.mk same

/-! ### Sources -/

/-- A token that is not expected is the first that is left. -/
theorem refused_is_next {found : Token} {expected : TokenKind} {rest : List Token}
    (spelled : AllSpelled tokens)
    (failed : (program tokens).plain = .error ⟨.unexpectedToken found expected, rest⟩) :
    ∃ before behind, tokens = before ++ found :: behind ∧ rest = found :: behind := by
  cases explains_program spelled with
  | ok c r value parts _ steady =>
    rw [parts, steady r rfl] at failed
    cases failed
  | unexpected c r other kind parts _ steady =>
    rw [parts, steady r] at failed
    cases failed
    exact ⟨c, r, parts, rfl⟩
  | ended kind _ refused =>
    rw [refused] at failed
    cases failed
  | invalid c r operator target parts _ _ steady =>
    rw [parts, steady r] at failed
    cases failed

/-- Take two sources without lexical errors whose tokens are the same but for names and strings,
which are changed by two functions, in quotes of either style. Either both have trees, and these
differ in the names and strings alone, or both end in the same error; if it is about a token, these
are the tokens at one place, the one in front of which the reading ends. -/
theorem parse_rename (ρ : Renaming) {source source' : String} {tokens tokens' : List Token}
    (lexed : lex source = (tokens, none)) (lexed' : lex source' = (tokens', none))
    (turned : List.Forall₂ ρ.Turns tokens tokens') :
    ((∃ whole, parse source = .ok whole) ↔ ∃ whole, parse source' = .ok whole) ∧
    (∀ whole, parse source = .ok whole → parse source' = .ok (whole.rename ρ)) ∧
    ∀ error, parse source = .error error →
      match error with
      | .unexpectedToken found expected => ∃ place found', ρ.Turns found found' ∧
          tokens[place]? = some found ∧ tokens'[place]? = some found' ∧
          (program tokens).rest = tokens.drop place ∧
          parse source' = .error (.unexpectedToken found' expected)
      | other => parse source' = .error other := by
  have spelled := allSpelled_of_lex lexed
  have spelled' := allSpelled_of_lex lexed'
  rw [parse_of_lex_ok lexed, parse_of_lex_ok lexed', parseTokens_eq, parseTokens_eq,
    Reading.rest_eq_plain_rest]
  have paired := paired_program turned
  generalize left : (program tokens).plain = outcome at paired ⊢
  generalize right : (program tokens').plain = outcome' at paired ⊢
  cases paired with
  | ok same _ =>
    refine ⟨⟨fun _ => ⟨_, rfl⟩, fun _ => ⟨_, rfl⟩⟩, ?_, nofun⟩
    rintro _ ⟨⟩
    exact congrArg Except.ok same
  | ended =>
    refine ⟨⟨nofun, nofun⟩, nofun, ?_⟩
    rintro _ ⟨⟩
    rfl
  | invalid _ =>
    refine ⟨⟨nofun, nofun⟩, nofun, ?_⟩
    rintro _ ⟨⟩
    rfl
  | unexpected behindTurned =>
    refine ⟨⟨nofun, nofun⟩, nofun, ?_⟩
    rintro _ ⟨⟩
    obtain ⟨before, behind, rfl, rfl⟩ := refused_is_next spelled left
    obtain ⟨before', behind', rfl, rfl⟩ := refused_is_next spelled' right
    -- Equally many tokens are left of equally many, so that both readings end at one place.
    have equal : before'.length = before.length := by
      have whole := turned.length_eq
      have ends := behindTurned.length_eq
      simp only [List.length_append] at whole
      omega
    obtain ⟨first, _⟩ := List.forall₂_cons.mp behindTurned
    refine ⟨before.length, _, first, ?_, ?_, ?_, rfl⟩
    · simp
    · simp [← equal]
    · simp [Outcome.rest]

/-- Two names become one, and a string takes the other quotes and what looks like a comment. -/
theorem parse_rename_quotes :
    parse "a = b + 'x';" =
      .ok ⟨[.expression (.assignment .assign "a" (.binary .add (.identifier "b") (.string "x")))]⟩ ∧
    parse "k = k + \"it's // k\";" = .ok ⟨[.expression
      (.assignment .assign "k" (.binary .add (.identifier "k") (.string "it's // k")))]⟩ := by
  have lexed : lex "a = b + 'x';" = ([⟨.identifier, "a"⟩, ⟨.simpleAssignment, "="⟩,
      ⟨.identifier, "b"⟩, ⟨.additive, "+"⟩, ⟨.string, "'x'"⟩, ⟨.semicolon, ";"⟩], none) := by
    decide +kernel
  have lexed' : lex "k = k + \"it's // k\";" = ([⟨.identifier, "k"⟩, ⟨.simpleAssignment, "="⟩,
      ⟨.identifier, "k"⟩, ⟨.additive, "+"⟩, ⟨.string, "\"it's // k\""⟩, ⟨.semicolon, ";"⟩],
      none) := by
    decide +kernel
  have parsed : parse "a = b + 'x';" = .ok ⟨[.expression
      (.assignment .assign "a" (.binary .add (.identifier "b") (.string "x")))]⟩ := by
    decide +kernel
  refine ⟨parsed, ?_⟩
  refine (parse_rename ⟨fun _ => "k", fun _ => "it's // k"⟩ lexed lexed' ?_).2.1 _ parsed
  refine .cons ⟨rfl, rfl⟩ (.cons ⟨rfl, rfl⟩ (.cons ⟨rfl, rfl⟩ (.cons ⟨rfl, rfl⟩ ?_)))
  exact .cons ⟨rfl, by decide +kernel⟩ (.cons ⟨rfl, rfl⟩ .nil)

end ScriptTree
