import ScriptTree.Dump.Basic
import ScriptTree.Syntax.Basic

/-! Syntax trees as dumps: every node with its name and all of its parts. -/

namespace ScriptTree

namespace Dump

def optional {α : Type} (toDump : α → Dump) : Option α → Dump
  | none => .atom "None"
  | some part => .wrap "Some" (toDump part)

def operator {ω : Type} [OperatorFamily ω] (value : ω) : Dump :=
  .atom (OperatorFamily.name value)

def nameRecord (name : String) : Dump :=
  .record "Identifier" [("name", .atom (Text.quoted name))]

end Dump

open Dump (optional operator nameRecord)

def Expr.toDump : Expr → Dump
  | number value => .record "NumericLiteral" [("value", .atom (value.write Dump.numberStyle))]
  | string value => .record "StringLiteral" [("value", .atom (Text.quoted value))]
  | boolean value => .record "BooleanLiteral" [("value", .atom (toString value))]
  | null => .atom "NullLiteral"
  | .identifier name => .wrap "Identifier" (nameRecord name)
  | assignment op target right =>
    .record "Assignment"
      [("operator", operator op), ("left", nameRecord target), ("right", right.toDump)]
  | binary op left right =>
    .record "Binary"
      [("operator", operator op), ("left", left.toDump), ("right", right.toDump)]
  | logical op left right =>
    .record "Logical"
      [("operator", operator op), ("left", left.toDump), ("right", right.toDump)]
  | unary op argument =>
    .record "Unary" [("operator", operator op), ("argument", argument.toDump)]

def Declaration.toDump (declaration : Declaration) : Dump :=
  .record "VariableDeclaration"
    [("id", nameRecord declaration.name),
     ("initializer", optional Expr.toDump declaration.initializer)]

/-- Declarations as a dump, in a statement of their own or in the head of a loop. -/
def Declaration.listToDump (list : List Declaration) : Dump :=
  .record "VariableDeclaration" [("declarations", .list (list.map toDump))]

def ForInit.toDump : ForInit → Dump
  | declarations list => Declaration.listToDump list
  | expression value => .wrap "Expression" value.toDump

mutual

def Stmt.toDump : Stmt → Dump
  | expression value => .record "Expression" [("expression", value.toDump)]
  | empty => .atom "Empty"
  | block body => .record "Block" [("body", .list (Stmt.listToDump body))]
  | declaration list => Declaration.listToDump list
  | ifElse test consequent alternate =>
    .record "If"
      [("test", test.toDump), ("consequent", consequent.toDump),
       ("alternate", Stmt.optionToDump alternate)]
  | whileLoop test consequent =>
    .record "While" [("test", test.toDump), ("consequent", consequent.toDump)]
  | doWhile body test => .record "DoWhile" [("body", body.toDump), ("test", test.toDump)]
  | forLoop init test update body =>
    .record "For"
      [("init", optional ForInit.toDump init), ("test", optional Expr.toDump test),
       ("update", optional Expr.toDump update), ("body", body.toDump)]

def Stmt.listToDump : List Stmt → List Dump
  | [] => []
  | first :: others => first.toDump :: Stmt.listToDump others

def Stmt.optionToDump : Option Stmt → Dump
  | none => .atom "None"
  | some stmt => .wrap "Some" stmt.toDump

end

def Program.toDump (program : Program) : Dump :=
  .record "Program" [("body", .list (Stmt.listToDump program.body))]

end ScriptTree
