import ScriptTree.Number.Text
import ScriptTree.Syntax.Basic
import ScriptTree.Text.Quoted

/-!
Outlines: a syntax tree reduced to what a reader is shown. Every node has a kind, the field of its
parent that holds it unless it stands in a list, and perhaps a detail such as a name or a value.
-/

namespace ScriptTree

/-- A node with the nodes below it. -/
inductive Outline where
  | node (field : Option String) (kind : String) (detail : Option String)
    (children : List Outline)

/-- The detail of an expression: its value, its name or its operator. -/
def Expr.detail? : Expr → Option String
  | number value => some value.plain
  | string value => some (Text.quoted value)
  | boolean value => some (toString value)
  | null => none
  | identifier name => some name
  | assignment operator _ _ => some (OperatorFamily.symbol operator)
  | binary operator _ _ => some (OperatorFamily.symbol operator)
  | logical operator _ _ => some (OperatorFamily.symbol operator)
  | unary operator _ => some (OperatorFamily.symbol operator)

def Expr.outline (field : Option String) (expr : Expr) : Outline :=
  .node field expr.kindName expr.detail? <|
    match expr with
    | .assignment _ target right =>
      [.node (some "left") "Identifier" (some target) [], right.outline (some "right")]
    | .binary _ left right => [left.outline (some "left"), right.outline (some "right")]
    | .logical _ left right => [left.outline (some "left"), right.outline (some "right")]
    | .unary _ argument => [argument.outline (some "argument")]
    | _ => []

def Expr.optionOutline (field : String) (expr : Option Expr) : List Outline :=
  expr.toList.map (Expr.outline (some field))

def Declaration.outline (declaration : Declaration) : Outline :=
  .node none "VariableDeclaration" (some declaration.name)
    (Expr.optionOutline "initializer" declaration.initializer)

def ForInit.outline : ForInit → Outline
  | declarations list =>
    .node (some "init") "VariableDeclarationStatement" none (list.map Declaration.outline)
  | expression value => value.outline (some "init")

mutual

def Stmt.outline (field : Option String) (stmt : Stmt) : Outline :=
  .node field stmt.kindName none <|
    match stmt with
    | .expression value => [value.outline (some "expression")]
    | .empty => []
    | .block body => Stmt.listOutline body
    | .declaration list => list.map Declaration.outline
    | .ifElse test consequent alternate =>
      test.outline (some "test") :: consequent.outline (some "consequent") ::
        Stmt.optionOutline "alternate" alternate
    | .whileLoop test consequent =>
      [test.outline (some "test"), consequent.outline (some "consequent")]
    | .doWhile body test => [body.outline (some "body"), test.outline (some "test")]
    | .forLoop init test update body =>
      init.toList.map ForInit.outline ++ Expr.optionOutline "test" test ++
        Expr.optionOutline "update" update ++ [body.outline (some "body")]

def Stmt.listOutline : List Stmt → List Outline
  | [] => []
  | first :: others => first.outline none :: Stmt.listOutline others

def Stmt.optionOutline (field : String) : Option Stmt → List Outline
  | none => []
  | some stmt => [stmt.outline (some field)]

end

def Program.outline (program : Program) : Outline :=
  .node none "Program" none (Stmt.listOutline program.body)

end ScriptTree
