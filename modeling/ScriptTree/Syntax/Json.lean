import ScriptTree.Json.Basic
import ScriptTree.Syntax.Basic

/-!
Syntax trees as JSON. Every node is an object whose first member, `type`, names its kind; what is
missing is `null`. The labels are those by which messages and outlines name the kinds.
-/

namespace ScriptTree

namespace Json

/-- The object of a node of a kind. -/
def node (kind : String) (members : List (String × Json)) : Json :=
  .object (("type", .string kind) :: members)

def optional {α : Type} (toJson : α → Json) : Option α → Json
  | none => .null
  | some part => toJson part

def operator {ω : Type} [OperatorFamily ω] (value : ω) : Json :=
  .string (OperatorFamily.symbol value)

def nameNode (name : String) : Json :=
  node "Identifier" [("name", .string name)]

end Json

open Json (node optional operator nameNode)

def Expr.toJson : Expr → Json
  | number value => node "NumericLiteral" [("value", .number value)]
  | string value => node "StringLiteral" [("value", .string value)]
  | boolean value => node "BooleanLiteral" [("value", .boolean value)]
  | null => node "NullLiteral" []
  | identifier name => nameNode name
  | assignment op target right =>
    node "AssignmentExpression"
      [("operator", operator op), ("left", nameNode target), ("right", right.toJson)]
  | binary op left right =>
    node "BinaryExpression"
      [("operator", operator op), ("left", left.toJson), ("right", right.toJson)]
  | logical op left right =>
    node "LogicalExpression"
      [("operator", operator op), ("left", left.toJson), ("right", right.toJson)]
  | unary op argument =>
    node "UnaryExpression" [("operator", operator op), ("argument", argument.toJson)]

def Declaration.toJson (declaration : Declaration) : Json :=
  node "VariableDeclaration"
    [("id", nameNode declaration.name),
     ("initializer", optional Expr.toJson declaration.initializer)]

/-- Declarations as JSON, in a statement of their own or in the head of a loop. -/
def Declaration.listToJson (list : List Declaration) : Json :=
  node "VariableDeclarationStatement" [("declarations", .array (list.map toJson))]

def ForInit.toJson : ForInit → Json
  | declarations list => Declaration.listToJson list
  | expression value => value.toJson

mutual

def Stmt.toJson : Stmt → Json
  | expression value => node "ExpressionStatement" [("expression", value.toJson)]
  | empty => node "EmptyStatement" []
  | block body => node "BlockStatement" [("body", .array (Stmt.listToJson body))]
  | declaration list => Declaration.listToJson list
  | ifElse test consequent alternate =>
    node "IfStatement"
      [("test", test.toJson), ("consequent", consequent.toJson),
       ("alternate", Stmt.optionToJson alternate)]
  | whileLoop test consequent =>
    node "WhileStatement" [("test", test.toJson), ("consequent", consequent.toJson)]
  | doWhile body test => node "DoWhileStatement" [("body", body.toJson), ("test", test.toJson)]
  | forLoop init test update body =>
    node "ForStatement"
      [("init", optional ForInit.toJson init), ("test", optional Expr.toJson test),
       ("update", optional Expr.toJson update), ("body", body.toJson)]

def Stmt.listToJson : List Stmt → List Json
  | [] => []
  | first :: others => first.toJson :: Stmt.listToJson others

def Stmt.optionToJson : Option Stmt → Json
  | none => .null
  | some stmt => stmt.toJson

end

/-- The object of an expression is labelled by its kind. -/
theorem Expr.toJson_labelled (expr : Expr) :
    ∃ members, expr.toJson = node expr.kindName members := by
  cases expr <;> exact ⟨_, rfl⟩

@[inherit_doc Expr.toJson_labelled]
theorem Stmt.toJson_labelled (stmt : Stmt) :
    ∃ members, stmt.toJson = node stmt.kindName members := by
  cases stmt <;> exact ⟨_, rfl⟩

def Program.toJson (program : Program) : Json :=
  node "Program" [("body", .array (Stmt.listToJson program.body))]

end ScriptTree
