import ScriptTree.Grammar.Expr

/-!
Reading statements. The body of a branch or a loop is always a block in braces. A production for a
statement either moves on in the source or calls one of lower rank, and there are four ranks.
-/

namespace ScriptTree.Grammar

open TokenSource

variable {σ : Type} [TokenSource σ]

/-- Reads a name and its initial value; where neither `;` nor `,` follows, a value has to. -/
def declaration (s : σ) : Reading σ (size s) Declaration :=
  (identifier s).onward fun name s₁ _ =>
    if peekKind s₁ = some .semicolon ∨ peekKind s₁ = some .comma then .done ⟨name, none⟩ s₁
    else
      Reading.relax <| (eat .simpleAssignment s₁).andThen fun _ s₂ _ =>
        (assignment s₂).map fun value => ⟨name, some value⟩

/-- Reads the declarations that follow the first, each after a comma. -/
def declarationsOnward (s : σ) : Reading σ (size s + 1) (List Declaration) :=
  if peekKind s = some .comma then
    Reading.relax <| (eat .comma s).andThen fun _ s₁ _ =>
      (declaration s₁).onward fun first s₂ _ => (declarationsOnward s₂).map (first :: ·)
  else .done [] s
termination_by size s

/-- Reads declarations with commas between them. -/
def declarations (s : σ) : Reading σ (size s) (List Declaration) :=
  (declaration s).onward fun first s₁ _ => (declarationsOnward s₁).map (first :: ·)

def intDeclarations (s : σ) : Reading σ (size s) (List Declaration) :=
  (eat .kwInt s).andThen fun _ s₁ _ => declarations s₁

/-- Reads a condition in parentheses. -/
def condition (s : σ) : Reading σ (size s) Expr :=
  (eat .leftParen s).andThen fun _ s₁ _ =>
    (assignment s₁).andThen fun test s₂ _ => (eat .rightParen s₂).map fun _ => test

def forInit (s : σ) : Reading σ (size s) ForInit :=
  if peekKind s = some .kwInt then (intDeclarations s).map .declarations
  else (assignment s).map .expression

/-- Reads the head of a `for` loop; each of the three clauses may be missing. -/
def forHead (s : σ) : Reading σ (size s) (Option ForInit × Option Expr × Option Expr) :=
  (eat .kwFor s).andThen fun _ s₁ _ =>
    (eat .leftParen s₁).onward fun _ s₂ _ =>
      (unlessNext .semicolon forInit s₂).andThen fun init s₃ _ =>
        (eat .semicolon s₃).onward fun _ s₄ _ =>
          (unlessNext .semicolon assignment s₄).andThen fun test s₅ _ =>
            (eat .semicolon s₅).onward fun _ s₆ _ =>
              (unlessNext .rightParen assignment s₆).andThen fun update s₇ _ =>
                (eat .rightParen s₇).map fun _ => (init, test, update)

def expressionStatement (s : σ) : Reading σ (size s) Stmt :=
  (assignment s).andThen fun value s₁ _ => (eat .semicolon s₁).map fun _ => .expression value

def declarationStatement (s : σ) : Reading σ (size s) Stmt :=
  (intDeclarations s).andThen fun list s₁ _ => (eat .semicolon s₁).map fun _ => .declaration list

mutual

/-- Reads a statement, which its first token announces. -/
def statement (s : σ) : Reading σ (size s) Stmt :=
  match peekKind s with
  | some .semicolon => (eat .semicolon s).map fun _ => .empty
  | some .leftBrace => (block s).map .block
  | some .kwInt => declarationStatement s
  | some .kwIf => ifStatement s
  | some .kwWhile => whileStatement s
  | some .kwDo => doStatement s
  | some .kwFor => forStatement s
  | _ => expressionStatement s
termination_by 4 * size s + 1

/-- Reads a branch, with or without an alternative. -/
def ifStatement (s : σ) : Reading σ (size s) Stmt :=
  (eat .kwIf s).andThen fun _ s₁ _ =>
    (condition s₁).andThen fun test s₂ _ =>
      (block s₂).onward fun consequent s₃ _ =>
        if peekKind s₃ = some .kwElse then
          Reading.relax <| (eat .kwElse s₃).andThen fun _ s₄ _ =>
            (block s₄).map fun alternate =>
              .ifElse test (.block consequent) (some (.block alternate))
        else .done (.ifElse test (.block consequent) none) s₃
termination_by 4 * size s

/-- Reads a loop whose condition stands before its body. -/
def whileStatement (s : σ) : Reading σ (size s) Stmt :=
  (eat .kwWhile s).andThen fun _ s₁ _ =>
    (condition s₁).andThen fun test s₂ _ =>
      (block s₂).map fun body => .whileLoop test (.block body)
termination_by 4 * size s

/-- Reads a loop whose condition stands behind its body; no semicolon ends it. -/
def doStatement (s : σ) : Reading σ (size s) Stmt :=
  (eat .kwDo s).andThen fun _ s₁ _ =>
    (block s₁).andThen fun body s₂ _ =>
      (eat .kwWhile s₂).andThen fun _ s₃ _ =>
        (condition s₃).map fun test => .doWhile (.block body) test
termination_by 4 * size s

/-- Reads a loop with a head of three clauses. -/
def forStatement (s : σ) : Reading σ (size s) Stmt :=
  (forHead s).andThen fun head s₁ _ =>
    (block s₁).map fun body => .forLoop head.1 head.2.1 head.2.2 (.block body)
termination_by 4 * size s

/-- Reads a block. At the end of the source the missing brace is reported, not a statement. -/
def block (s : σ) : Reading σ (size s) (List Stmt) :=
  (eat .leftBrace s).andThen fun _ s₁ _ =>
    if peekKind s₁ = some .rightBrace ∨ peekKind s₁ = none then
      (eat .rightBrace s₁).map fun _ => []
    else
      (statements (some .rightBrace) s₁).andThen fun body s₂ _ =>
        (eat .rightBrace s₂).map fun _ => body
termination_by 4 * size s

/-- Reads one or more statements, up to a token of a kind or the end of the source. -/
def statements (stop : Option TokenKind) (s : σ) : Reading σ (size s) (List Stmt) :=
  (statement s).onward fun first s₁ _ => (statementsOnward stop s₁).map (first :: ·)
termination_by 4 * size s + 2

def statementsOnward (stop : Option TokenKind) (s : σ) : Reading σ (size s + 1) (List Stmt) :=
  match peekKind s with
  | none => .done [] s
  | some kind => if some kind = stop then .done [] s else (statements stop s).relax
termination_by 4 * size s + 3

end

/-- Reads statements to the end of the source. -/
def program (s : σ) : Reading σ (size s) Program :=
  (statements none s).map Program.mk

end ScriptTree.Grammar
