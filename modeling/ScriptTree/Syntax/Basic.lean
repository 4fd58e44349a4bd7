import ScriptTree.Number.Basic
import ScriptTree.Syntax.Operator

/-! Syntax trees of the language. -/

namespace ScriptTree

/-- Expressions. The target of an assignment is a name. -/
inductive Expr where
  | number (value : Number)
  | string (value : String)
  | boolean (value : Bool)
  | null
  | identifier (name : String)
  | assignment (operator : AssignmentOperator) (target : String) (right : Expr)
  | binary (operator : BinaryOperator) (left right : Expr)
  | logical (operator : LogicalOperator) (left right : Expr)
  | unary (operator : UnaryOperator) (argument : Expr)
deriving DecidableEq, Repr

/-- One name of a declaration, with its initial value if it has one. -/
structure Declaration where
  name : String
  initializer : Option Expr
deriving DecidableEq, Repr

inductive ForInit where
  | declarations (list : List Declaration)
  | expression (value : Expr)
deriving DecidableEq, Repr

inductive Stmt where
  | expression (value : Expr)
  | empty
  | block (body : List Stmt)
  | declaration (list : List Declaration)
  | ifElse (test : Expr) (consequent : Stmt) (alternate : Option Stmt)
  | whileLoop (test : Expr) (consequent : Stmt)
  | doWhile (body : Stmt) (test : Expr)
  | forLoop (init : Option ForInit) (test update : Option Expr) (body : Stmt)
deriving Repr

mutual

def Stmt.same : Stmt → Stmt → Bool
  | expression value, expression value' => value = value'
  | empty, empty => true
  | block body, block body' => Stmt.listSame body body'
  | declaration list, declaration list' => list = list'
  | ifElse test consequent alternate, ifElse test' consequent' alternate' =>
    test = test' && consequent.same consequent' && Stmt.optionSame alternate alternate'
  | whileLoop test consequent, whileLoop test' consequent' =>
    test = test' && consequent.same consequent'
  | doWhile body test, doWhile body' test' => body.same body' && test = test'
  | forLoop init test update body, forLoop init' test' update' body' =>
    init = init' && test = test' && update = update' && body.same body'
  | _, _ => false

def Stmt.listSame : List Stmt → List Stmt → Bool
  | [], [] => true
  | first :: others, first' :: others' => first.same first' && Stmt.listSame others others'
  | _, _ => false

def Stmt.optionSame : Option Stmt → Option Stmt → Bool
  | none, none => true
  | some stmt, some stmt' => stmt.same stmt'
  | _, _ => false

end

mutual

theorem Stmt.same_iff (first second : Stmt) : first.same second = true ↔ first = second := by
  cases first <;> cases second <;>
    simp [Stmt.same, Stmt.same_iff, Stmt.listSame_iff, Stmt.optionSame_iff, and_assoc]

theorem Stmt.listSame_iff (first second : List Stmt) :
    Stmt.listSame first second = true ↔ first = second := by
  cases first <;> cases second <;> simp [Stmt.listSame, Stmt.same_iff, Stmt.listSame_iff]

theorem Stmt.optionSame_iff (first second : Option Stmt) :
    Stmt.optionSame first second = true ↔ first = second := by
  cases first <;> cases second <;> simp [Stmt.optionSame, Stmt.same_iff]

end

instance : DecidableEq Stmt := fun first second =>
  decidable_of_iff (first.same second = true) (Stmt.same_iff first second)

structure Program where
  body : List Stmt
deriving DecidableEq, Repr

/-- The names of the kinds of nodes, as outlines and messages spell them. -/
def Expr.kindName : Expr → String
  | number _ => "NumericLiteral"
  | string _ => "StringLiteral"
  | boolean _ => "BooleanLiteral"
  | null => "NullLiteral"
  | identifier _ => "Identifier"
  | assignment .. => "AssignmentExpression"
  | binary .. => "BinaryExpression"
  | logical .. => "LogicalExpression"
  | unary .. => "UnaryExpression"

@[inherit_doc Expr.kindName]
def Stmt.kindName : Stmt → String
  | expression _ => "ExpressionStatement"
  | empty => "EmptyStatement"
  | block _ => "BlockStatement"
  | declaration _ => "VariableDeclarationStatement"
  | ifElse .. => "IfStatement"
  | whileLoop .. => "WhileStatement"
  | doWhile .. => "DoWhileStatement"
  | forLoop .. => "ForStatement"

end ScriptTree
