import ScriptTree.Outline.Row
import ScriptTree.Syntax.Json

/-! The outline of a program and its JSON show one tree. A walk over the JSON meets the objects that
name a kind in the order of the rows, each as deep, under the key that is the field of the row and
with its kind; the name of a declaration, which an outline shows as a detail, is left out. -/

namespace ScriptTree

/-- Where a node stands and what it is: how many nodes are around it, the field that holds it unless
it stands in a list, and its kind. -/
structure NodePlace where
  depth : Nat
  field : Option String
  kind : String
deriving DecidableEq, Repr

def Row.place (row : Row) : NodePlace :=
  ⟨row.depth, row.field, row.kind⟩

namespace Json

/-- The kind of the node that an object under a key is, if it is one. -/
def nodeKind? (key : Option String) (members : List (String × Json)) : Option String :=
  match members.lookup "type" with
  | some (string kind) => if key = some "id" then none else some kind
  | _ => none

mutual

/-- The nodes within a value that stands under a key, parents first. -/
def nodes (depth : Nat) (key : Option String) : Json → List NodePlace
  | object members =>
    match nodeKind? key members with
    | some kind => ⟨depth, key, kind⟩ :: memberNodes (depth + 1) members
    | none => memberNodes depth members
  | array items => itemNodes depth items
  | null | boolean _ | number _ | string _ => []

def itemNodes (depth : Nat) : List Json → List NodePlace
  | [] => []
  | item :: items => item.nodes depth none ++ itemNodes depth items

def memberNodes (depth : Nat) : List (String × Json) → List NodePlace
  | [] => []
  | (key, value) :: members => value.nodes depth (some key) ++ memberNodes depth members

end

theorem nodes_node {field : Option String} (shown : field ≠ some "id") (depth : Nat)
    (kind : String) (members : List (String × Json)) :
    (node kind members).nodes depth field =
      ⟨depth, field, kind⟩ :: memberNodes (depth + 1) members := by
  simp [node, nodes, nodeKind?, memberNodes, shown]

/-- The object of a declared name is no node, and there is none in it. -/
theorem nodes_nameNode_id (depth : Nat) (name : String) :
    (nameNode name).nodes depth (some "id") = [] := by
  simp [nameNode, node, nodes, nodeKind?, memberNodes]

end Json

open Json (nodes itemNodes memberNodes nodes_node nodes_nameNode_id)

/-- The places of rows, for nodes one below the other. -/
def Outline.places (depth : Nat) (outlines : List Outline) : List NodePlace :=
  (Outline.listRows depth outlines).map Row.place

namespace Outline

@[simp] theorem places_nil (depth : Nat) : places depth [] = [] := rfl

@[simp] theorem places_cons (depth : Nat) (first : Outline) (others : List Outline) :
    places depth (first :: others) = (first.rows depth).map Row.place ++ places depth others := by
  rw [places, listRows, List.map_append, places]

@[simp] theorem places_append (depth : Nat) (before behind : List Outline) :
    places depth (before ++ behind) = places depth before ++ places depth behind := by
  induction before with
  | nil => rfl
  | cons first others ih =>
    rw [List.cons_append, places_cons, places_cons, ih, List.append_assoc]

@[simp] theorem place_rows_node (depth : Nat) (field : Option String) (kind : String)
    (detail : Option String) (children : List Outline) :
    ((node field kind detail children).rows depth).map Row.place =
      ⟨depth, field, kind⟩ :: places (depth + 1) children :=
  rfl

end Outline

open Outline (places)

theorem Expr.nodes_toJson (expr : Expr) {field : Option String} (shown : field ≠ some "id")
    (depth : Nat) :
    expr.toJson.nodes depth field = ((expr.outline field).rows depth).map Row.place := by
  induction expr generalizing field depth with
  | number | string | boolean | null | identifier =>
    simp [Expr.toJson, Expr.outline, Expr.kindName, Json.nameNode, nodes_node shown, memberNodes,
      nodes]
  | assignment operator target right ih =>
    simp [Expr.toJson, Expr.outline, Expr.kindName, nodes_node shown, memberNodes, nodes,
      Json.operator, Json.nameNode, nodes_node, ih]
  | binary operator left right left_ih right_ih | logical operator left right left_ih right_ih =>
    simp [Expr.toJson, Expr.outline, Expr.kindName, nodes_node shown, memberNodes, nodes,
      Json.operator, left_ih, right_ih]
  | unary operator argument ih =>
    simp [Expr.toJson, Expr.outline, Expr.kindName, nodes_node shown, memberNodes, nodes,
      Json.operator, ih]

theorem Expr.nodes_optional (expr : Option Expr) {field : String} (shown : field ≠ "id")
    (depth : Nat) : (Json.optional Expr.toJson expr).nodes depth (some field) =
      places depth (Expr.optionOutline field expr) := by
  cases expr with
  | none => rfl
  | some expr => simp [Json.optional, Expr.optionOutline, Expr.nodes_toJson, shown]

theorem Declaration.nodes_toJson (declaration : Declaration) (depth : Nat) :
    declaration.toJson.nodes depth none = (declaration.outline.rows depth).map Row.place := by
  simp [Declaration.toJson, Declaration.outline, nodes_node, memberNodes, nodes_nameNode_id,
    Expr.nodes_optional]

theorem Declaration.itemNodes_map (list : List Declaration) (depth : Nat) :
    itemNodes depth (list.map Declaration.toJson) =
      places depth (list.map Declaration.outline) := by
  induction list with
  | nil => rfl
  | cons first others ih => simp [itemNodes, Declaration.nodes_toJson, ih]

theorem Declaration.nodes_listToJson (list : List Declaration) {field : Option String}
    (shown : field ≠ some "id") (depth : Nat) : (listToJson list).nodes depth field =
      ⟨depth, field, "VariableDeclarationStatement"⟩ ::
        places (depth + 1) (list.map Declaration.outline) := by
  simp [listToJson, nodes_node shown, memberNodes, nodes, Declaration.itemNodes_map]

theorem ForInit.nodes_optional (init : Option ForInit) (depth : Nat) :
    (Json.optional ForInit.toJson init).nodes depth (some "init") =
      places depth (init.toList.map ForInit.outline) := by
  match init with
  | none => rfl
  | some (.declarations list) =>
    simp [Json.optional, ForInit.toJson, ForInit.outline, Declaration.nodes_listToJson]
  | some (.expression value) =>
    simp [Json.optional, ForInit.toJson, ForInit.outline, Expr.nodes_toJson]

mutual

theorem Stmt.nodes_toJson (stmt : Stmt) {field : Option String} (shown : field ≠ some "id")
    (depth : Nat) :
    stmt.toJson.nodes depth field = ((stmt.outline field).rows depth).map Row.place := by
  cases stmt with
  | expression value =>
    simp [Stmt.toJson, Stmt.outline, Stmt.kindName, nodes_node shown, memberNodes,
      Expr.nodes_toJson]
  | empty => simp [Stmt.toJson, Stmt.outline, Stmt.kindName, nodes_node shown, memberNodes]
  | block body =>
    simp [Stmt.toJson, Stmt.outline, Stmt.kindName, nodes_node shown, memberNodes, nodes,
      Stmt.itemNodes_listToJson]
  | declaration list =>
    simp [Stmt.toJson, Stmt.outline, Stmt.kindName, Declaration.nodes_listToJson list shown]
  | ifElse test consequent alternate =>
    simp [Stmt.toJson, Stmt.outline, Stmt.kindName, nodes_node shown, memberNodes,
      Expr.nodes_toJson, Stmt.nodes_toJson consequent, Stmt.nodes_optionToJson alternate]
  | whileLoop test consequent =>
    simp [Stmt.toJson, Stmt.outline, Stmt.kindName, nodes_node shown, memberNodes,
      Expr.nodes_toJson, Stmt.nodes_toJson consequent]
  | doWhile body test =>
    simp [Stmt.toJson, Stmt.outline, Stmt.kindName, nodes_node shown, memberNodes,
      Expr.nodes_toJson, Stmt.nodes_toJson body]
  | forLoop init test update body =>
    simp [Stmt.toJson, Stmt.outline, Stmt.kindName, nodes_node shown, memberNodes,
      ForInit.nodes_optional, Expr.nodes_optional, Stmt.nodes_toJson body]

theorem Stmt.itemNodes_listToJson (list : List Stmt) (depth : Nat) :
    itemNodes depth (Stmt.listToJson list) = places depth (Stmt.listOutline list) := by
  cases list with
  | nil => rfl
  | cons first others =>
    simp [Stmt.listToJson, Stmt.listOutline, itemNodes, Stmt.nodes_toJson first,
      Stmt.itemNodes_listToJson others]

theorem Stmt.nodes_optionToJson (alternate : Option Stmt) (depth : Nat) :
    (Stmt.optionToJson alternate).nodes depth (some "alternate") =
      places depth (Stmt.optionOutline "alternate" alternate) := by
  cases alternate with
  | none => rfl
  | some stmt => simp [Stmt.optionToJson, Stmt.optionOutline, Stmt.nodes_toJson stmt]

end

/-- A walk over the JSON of a program, parsed or not, meets what the rows of its outline show. -/
theorem nodes_toJson_eq_rows (program : Program) :
    program.toJson.nodes 0 none = program.rows.map Row.place := by
  simp [Program.toJson, Program.rows, Program.outline, nodes_node, memberNodes, nodes,
    Stmt.itemNodes_listToJson]

end ScriptTree
