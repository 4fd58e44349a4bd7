import ScriptTree.Grammar.Reading
import ScriptTree.Syntax.Basic

/-!
Reading expressions. Assignment binds loosest and to the right; below it are six levels of
operators that bind to the left, then operators before an operand, then literals, names and
parentheses. Each production either moves on in the source or calls one of lower rank, and fewer
than sixteen ranks stand between two moves.
-/

namespace ScriptTree

/-- The levels of operators that bind to the left, the loosest first. -/
inductive Level where
  | or
  | and
  | equality
  | relational
  | additive
  | multiplicative
deriving DecidableEq, Repr

namespace Level

/-- The kind of the operators of a level. -/
def operator : Level → TokenKind
  | or => .logicalOr
  | and => .logicalAnd
  | equality => .equality
  | relational => .relational
  | additive => .additive
  | multiplicative => .multiplicative

/-- The next tighter level, to which the operands belong. -/
def tighter? : Level → Option Level
  | or => some and
  | and => some equality
  | equality => some relational
  | relational => some additive
  | additive => some multiplicative
  | multiplicative => none

/-- The number of levels from here to the tightest. -/
def height : Level → Nat
  | or => 6
  | and => 5
  | equality => 4
  | relational => 3
  | additive => 2
  | multiplicative => 1

theorem height_pos (level : Level) : 0 < level.height := by
  cases level <;> decide

theorem height_le (level : Level) : level.height ≤ 6 := by
  cases level <;> decide

theorem height_tighter {level tighter : Level} (next : level.tighter? = some tighter) :
    tighter.height < level.height := by
  cases level <;> simp only [tighter?, Option.some.injEq, reduceCtorEq] at next <;>
    subst next <;> decide

/-- Joins two operands by the operator that a symbol spells. -/
def join? : Level → String → Expr → Expr → Option Expr
  | or, symbol, left, right | and, symbol, left, right =>
    (OperatorFamily.ofSymbol? symbol).map fun operator => .logical operator left right
  | _, symbol, left, right =>
    (OperatorFamily.ofSymbol? symbol).map fun operator => .binary operator left right

end Level

namespace Grammar

open TokenSource

variable {σ : Type} [TokenSource σ]

/-- The error for a token whose text does not fit its kind. -/
def misfit {bound : Nat} {α : Type} (token : Token) (s : σ) : Reading σ bound α :=
  .error ⟨.unexpectedToken token token.kind, s⟩

def identifier (s : σ) : Reading σ (size s) String :=
  (eat .identifier s).map Token.text

def literal (s : σ) : Reading σ (size s) Expr :=
  match peekKind s with
  | some .number =>
    (eat .number s).onward fun token rest _ =>
      match Number.ofNumeral? token.text with
      | some value => .done (.number value) rest
      | none => misfit token rest
  | some .string => (eat .string s).map fun token => .string token.content
  | some .kwTrue => (eat .kwTrue s).map fun _ => .boolean true
  | some .kwFalse => (eat .kwFalse s).map fun _ => .boolean false
  | some .kwNull => (eat .kwNull s).map fun _ => .null
  | some _ => .error ⟨.notLiteral (((peek s).map Token.text).getD ""), s⟩
  | none => .error ⟨.notLiteral "end of input", s⟩

mutual

def assignment (s : σ) : Reading σ (size s) Expr :=
  (chain .or s).onward fun left s₁ _ =>
    match peekKind s₁ with
    | none => .done left s₁
    | some kind =>
      if kind.isAssignment then
        Reading.relax <| (eat kind s₁).andThen fun token s₂ _ =>
          match OperatorFamily.ofSymbol? token.text with
          | none => misfit token s₂
          | some operator =>
            match left with
            | .identifier target => (assignment s₂).map (.assignment operator target)
            | other => .error ⟨.invalidTarget other.kindName, s₂⟩
      else .done left s₁
termination_by 16 * size s + 14
decreasing_by
  · exact Nat.add_lt_add_left (by decide : 2 * Level.or.height + 1 < 14) _
  · omega

/-- Reads operands of a level, joined from the left. -/
def chain (level : Level) (s : σ) : Reading σ (size s) Expr :=
  (operand level s).onward fun left s₁ _ => chainOnward level left s₁
termination_by 16 * size s + 2 * level.height + 1

/-- Reads the operators and operands that follow the first operand. -/
def chainOnward (level : Level) (left : Expr) (s : σ) : Reading σ (size s + 1) Expr :=
  if peekKind s = some level.operator then
    Reading.relax <| (eat level.operator s).andThen fun token s₁ _ =>
      (operand level s₁).onward fun right s₂ _ =>
        match level.join? token.text left right with
        | some joined => chainOnward level joined s₂
        | none => misfit token s₂
  else .done left s
termination_by 16 * size s
decreasing_by
  · have := level.height_le
    omega
  · omega

def operand (level : Level) (s : σ) : Reading σ (size s) Expr :=
  match next : level.tighter? with
  | some tighter =>
    have := Level.height_tighter next
    chain tighter s
  | none =>
    have := level.height_pos
    unary s
termination_by 16 * size s + 2 * level.height

/-- Reads an operand with the operators that stand before it. -/
def unary (s : σ) : Reading σ (size s) Expr :=
  match peekKind s with
  | some .additive => signed .additive s
  | some .logicalNot => signed .logicalNot s
  | _ => primary s
termination_by 16 * size s + 1

/-- Reads an operator of a kind and the operand behind it. -/
def signed (kind : TokenKind) (s : σ) : Reading σ (size s) Expr :=
  (eat kind s).andThen fun token s₁ _ =>
    match OperatorFamily.ofSymbol? token.text with
    | some operator => (unary s₁).map (.unary operator)
    | none => misfit token s₁
termination_by 16 * size s

/-- Reads a literal, a name or an expression in parentheses. -/
def primary (s : σ) : Reading σ (size s) Expr :=
  match peekKind s with
  | some .leftParen =>
    (eat .leftParen s).andThen fun _ s₁ _ =>
      (assignment s₁).andThen fun inner s₂ _ => (eat .rightParen s₂).map fun _ => inner
  | some kind =>
    if kind.isLiteral then literal s else (identifier s).map .identifier
  | none => (identifier s).map .identifier
termination_by 16 * size s

end

end Grammar
end ScriptTree
