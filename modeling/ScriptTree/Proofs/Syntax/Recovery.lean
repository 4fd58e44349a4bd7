import ScriptTree.Proofs.Json.Text
import ScriptTree.Proofs.Syntax.Parsed
import ScriptTree.Syntax.Json

/-! A tree can be recovered from its JSON. What the text of the JSON tells of a value is enough to
tell the trees of the language apart, and their numbers are stored as they are, so that no two trees
that sources denote are written alike. -/

namespace ScriptTree

/-! ### Contents of nodes -/

namespace Json

@[simp] theorem content_node (kind : String) (members : List (String × Json)) :
    (node kind members).content = node kind (memberContents members) :=
  rfl

@[simp] theorem node_inj {kind kind' : String} {members members' : List (String × Json)} :
    node kind members = node kind' members' ↔ kind = kind' ∧ members = members' := by
  simp [node]

@[simp] theorem node_ne_null (kind : String) (members : List (String × Json)) :
    node kind members ≠ null :=
  nofun

@[simp] theorem memberContents_nil : memberContents [] = [] := rfl

@[simp] theorem memberContents_cons (key : String) (value : Json)
    (members : List (String × Json)) :
    memberContents ((key, value) :: members) = (key, value.content) :: memberContents members :=
  rfl

theorem itemContents_eq_map (items : List Json) : itemContents items = items.map content := by
  induction items with
  | nil => rfl
  | cons item items ih => rw [itemContents, ih, List.map_cons]

@[simp] theorem content_operator_inj {ω : Type} [OperatorFamily ω] {first second : ω} :
    (operator first).content = (operator second).content ↔ first = second := by
  simp only [operator, content, string.injEq]
  exact ⟨OperatorFamily.symbol_injective, congrArg _⟩

@[simp] theorem content_nameNode (name : String) :
    (nameNode name).content = node "Identifier" [("name", .string name)] :=
  rfl

theorem eq_of_content_optional_eq {α : Type} {toJson : α → Json}
    (present : ∀ part, (toJson part).content ≠ null)
    (injective : ∀ {part part'}, (toJson part).content = (toJson part').content → part = part')
    {part part' : Option α}
    (same : (optional toJson part).content = (optional toJson part').content) : part = part' := by
  match part, part' with
  | none, none => rfl
  | none, some part => exact absurd same.symm (present part)
  | some part, none => exact absurd same (present part)
  | some part, some part' => exact congrArg some (injective same)

end Json

open Json (content itemContents eq_of_content_optional_eq)

theorem Expr.content_toJson_ne_null (expr : Expr) : expr.toJson.content ≠ .null := by
  obtain ⟨members, labelled⟩ := expr.toJson_labelled
  rw [labelled]
  exact Json.node_ne_null _ _

/-- An expression is known from its JSON. Only an infinite number is written as `null`. -/
theorem Expr.eq_of_content_eq {first second : Expr}
    (same : first.toJson.content = second.toJson.content) : first = second := by
  induction first generalizing second with
  | number value =>
    cases second with
    | number value' => cases value <;> cases value' <;> simp_all [toJson, content]
    -- Here and below, an expression of another form would be of another kind.
    | _ => simp [toJson] at same
  | string value =>
    cases second with
    | string value' => simpa [toJson, content] using same
    | _ => simp [toJson] at same
  | boolean value =>
    cases second with
    | boolean value' => simpa [toJson, content] using same
    | _ => simp [toJson] at same
  | null =>
    cases second with
    | null => rfl
    | _ => simp [toJson] at same
  | identifier name =>
    cases second with
    | identifier name' => simpa [toJson, content] using same
    | _ => simp [toJson] at same
  | assignment operator target right ih =>
    cases second with
    | assignment operator' target' right' =>
      obtain ⟨rfl, rfl, right⟩ : _ ∧ _ ∧ _ := by simpa [toJson] using same
      rw [ih right]
    | _ => simp [toJson] at same
  | binary operator left right left_ih right_ih =>
    cases second with
    | binary operator' left' right' =>
      obtain ⟨rfl, left, right⟩ : _ ∧ _ ∧ _ := by simpa [toJson] using same
      rw [left_ih left, right_ih right]
    | _ => simp [toJson] at same
  | logical operator left right left_ih right_ih =>
    cases second with
    | logical operator' left' right' =>
      obtain ⟨rfl, left, right⟩ : _ ∧ _ ∧ _ := by simpa [toJson] using same
      rw [left_ih left, right_ih right]
    | _ => simp [toJson] at same
  | unary operator argument ih =>
    cases second with
    | unary operator' argument' =>
      obtain ⟨rfl, argument⟩ : _ ∧ _ := by simpa [toJson] using same
      rw [ih argument]
    | _ => simp [toJson] at same

theorem Expr.eq_of_content_optional_eq {first second : Option Expr}
    (same : (Json.optional toJson first).content = (Json.optional toJson second).content) :
    first = second :=
  Json.eq_of_content_optional_eq content_toJson_ne_null eq_of_content_eq same

namespace Declaration

theorem eq_of_content_eq {first second : Declaration}
    (same : first.toJson.content = second.toJson.content) : first = second := by
  obtain ⟨name, initializer⟩ := first
  obtain ⟨name', initializer'⟩ := second
  obtain ⟨rfl, initial⟩ : _ ∧ _ := by simpa [toJson] using same
  rw [Expr.eq_of_content_optional_eq initial]

theorem eq_of_content_listToJson_eq {first second : List Declaration}
    (same : (listToJson first).content = (listToJson second).content) : first = second := by
  have items : first.map (content ∘ toJson) = second.map (content ∘ toJson) := by
    simpa [listToJson, content, Json.itemContents_eq_map] using same
  exact (List.map_inj_right fun _ _ => eq_of_content_eq).mp items

end Declaration

namespace ForInit

theorem content_toJson_ne_null (init : ForInit) : init.toJson.content ≠ .null := by
  cases init with
  | declarations list => exact Json.node_ne_null _ _
  | expression value => exact value.content_toJson_ne_null

theorem eq_of_content_eq {first second : ForInit}
    (same : first.toJson.content = second.toJson.content) : first = second := by
  match first, second with
  | declarations list, declarations list' =>
    exact congrArg declarations (Declaration.eq_of_content_listToJson_eq same)
  | expression value, expression value' => exact congrArg expression (Expr.eq_of_content_eq same)
  | declarations list, expression value =>
    cases value <;> simp [toJson, Declaration.listToJson, Expr.toJson] at same
  | expression value, declarations list =>
    cases value <;> simp [toJson, Declaration.listToJson, Expr.toJson] at same

end ForInit

theorem ForInit.eq_of_content_optional_eq {first second : Option ForInit}
    (same : (Json.optional toJson first).content = (Json.optional toJson second).content) :
    first = second :=
  Json.eq_of_content_optional_eq content_toJson_ne_null eq_of_content_eq same

namespace Stmt

theorem content_toJson_ne_null (stmt : Stmt) : stmt.toJson.content ≠ .null := by
  obtain ⟨members, labelled⟩ := stmt.toJson_labelled
  rw [labelled]
  exact Json.node_ne_null _ _

mutual

theorem eq_of_content_eq (first second : Stmt)
    (same : first.toJson.content = second.toJson.content) : first = second := by
  cases first with
  | expression value =>
    cases second with
    | expression value' =>
      have value : value.toJson.content = value'.toJson.content := by simpa [toJson] using same
      rw [Expr.eq_of_content_eq value]
    | _ => simp [toJson, Declaration.listToJson] at same
  | empty =>
    cases second with
    | empty => rfl
    | _ => simp [toJson, Declaration.listToJson] at same
  | block body =>
    cases second with
    | block body' =>
      have items : itemContents (listToJson body) = itemContents (listToJson body') := by
        simpa [toJson, content] using same
      rw [eq_of_itemContents_eq body body' items]
    | _ => simp [toJson, Declaration.listToJson] at same
  | declaration list =>
    cases second with
    | declaration list' => exact congrArg declaration (Declaration.eq_of_content_listToJson_eq same)
    | _ => simp [toJson, Declaration.listToJson] at same
  | ifElse test consequent alternate =>
    cases second with
    | ifElse test' consequent' alternate' =>
      obtain ⟨test, consequents, alternates⟩ : _ ∧ _ ∧ _ := by simpa [toJson] using same
      rw [Expr.eq_of_content_eq test, eq_of_content_eq consequent consequent' consequents,
        eq_of_content_optionToJson_eq alternate alternate' alternates]
    | _ => simp [toJson, Declaration.listToJson] at same
  | whileLoop test consequent =>
    cases second with
    | whileLoop test' consequent' =>
      obtain ⟨test, consequents⟩ : _ ∧ _ := by simpa [toJson] using same
      rw [Expr.eq_of_content_eq test, eq_of_content_eq consequent consequent' consequents]
    | _ => simp [toJson, Declaration.listToJson] at same
  | doWhile body test =>
    cases second with
    | doWhile body' test' =>
      obtain ⟨bodies, test⟩ : _ ∧ _ := by simpa [toJson] using same
      rw [Expr.eq_of_content_eq test, eq_of_content_eq body body' bodies]
    | _ => simp [toJson, Declaration.listToJson] at same
  | forLoop init test update body =>
    cases second with
    | forLoop init' test' update' body' =>
      obtain ⟨init, test, update, bodies⟩ : _ ∧ _ ∧ _ ∧ _ := by simpa [toJson] using same
      rw [ForInit.eq_of_content_optional_eq init,
        Expr.eq_of_content_optional_eq test, Expr.eq_of_content_optional_eq update,
        eq_of_content_eq body body' bodies]
    | _ => simp [toJson, Declaration.listToJson] at same

theorem eq_of_itemContents_eq (first second : List Stmt)
    (same : itemContents (listToJson first) = itemContents (listToJson second)) :
    first = second := by
  match first, second with
  | [], [] => rfl
  | [], _ :: _ => cases same
  | _ :: _, [] => cases same
  | stmt :: others, stmt' :: others' =>
    obtain ⟨head, tail⟩ := List.cons.inj same
    rw [eq_of_content_eq stmt stmt' head, eq_of_itemContents_eq others others' tail]

theorem eq_of_content_optionToJson_eq (first second : Option Stmt)
    (same : (optionToJson first).content = (optionToJson second).content) : first = second := by
  match first, second with
  | none, none => rfl
  | none, some stmt => exact absurd same.symm stmt.content_toJson_ne_null
  | some stmt, none => exact absurd same stmt.content_toJson_ne_null
  | some stmt, some stmt' => exact congrArg some (eq_of_content_eq stmt stmt' same)

end

end Stmt

/-! ### Stored numbers -/

namespace Json

@[simp] theorem membersStored_nil : MembersStored [] := trivial

@[simp] theorem membersStored_cons {key : String} {value : Json}
    {members : List (String × Json)} :
    MembersStored ((key, value) :: members) ↔ value.Stored ∧ MembersStored members :=
  Iff.rfl

@[simp] theorem stored_string (text : String) : (string text).Stored := trivial

@[simp] theorem stored_node {kind : String} {members : List (String × Json)} :
    (node kind members).Stored ↔ MembersStored members := by
  simp [node, Stored]

@[simp] theorem stored_operator {ω : Type} [OperatorFamily ω] (value : ω) :
    (operator value).Stored :=
  trivial

@[simp] theorem stored_nameNode (name : String) : (nameNode name).Stored := by
  simp [nameNode]

theorem stored_optional {α : Type} {toJson : α → Json} {part : Option α}
    (stored : ∀ present ∈ part, (toJson present).Stored) : (optional toJson part).Stored := by
  cases part with
  | none => exact trivial
  | some present => exact stored present rfl

theorem itemsStored_iff {items : List Json} : ItemsStored items ↔ ∀ item ∈ items, item.Stored := by
  induction items with
  | nil => simp [ItemsStored]
  | cons item items ih => simp [ItemsStored, ih]

end Json

open Json (Stored ItemsStored stored_optional)

theorem Number.IsLiteral.stored {value : Number} (literal : value.IsLiteral) :
    (Json.number value).Stored := by
  obtain ⟨numeral, denoted⟩ := literal
  cases value with
  | finite value => exact nearest_of_ofNumeral? denoted
  | infinite => exact trivial

theorem Expr.WellFormed.stored {value : Expr} (good : value.WellFormed) :
    value.toJson.Stored := by
  induction value with
  | number value => simpa [toJson] using Number.IsLiteral.stored good
  | string | boolean | null | identifier => simp [toJson, Stored]
  | assignment operator target right ih => simpa [toJson] using ih good.2
  | binary operator left right left_ih right_ih | logical operator left right left_ih right_ih =>
    simpa [toJson] using And.intro (left_ih good.1) (right_ih good.2)
  | unary operator argument ih => simpa [toJson] using ih good

theorem Expr.stored_optional {clause : Option Expr} (good : ∀ value ∈ clause, value.WellFormed) :
    (Json.optional toJson clause).Stored :=
  Json.stored_optional fun value present => (good value present).stored

namespace Declaration

theorem WellFormed.stored {declaration : Declaration} (good : declaration.WellFormed) :
    declaration.toJson.Stored := by
  simpa [toJson] using Expr.stored_optional good.2

theorem stored_listToJson {list : List Declaration}
    (good : ∀ declaration ∈ list, declaration.WellFormed) : (listToJson list).Stored := by
  have items : ItemsStored (list.map toJson) := by
    refine Json.itemsStored_iff.mpr (List.forall_mem_map.mpr fun declaration listed => ?_)
    exact (good declaration listed).stored
  simpa [listToJson, Stored] using items

end Declaration

theorem ForInit.WellFormed.stored {init : ForInit} (good : init.WellFormed) :
    init.toJson.Stored := by
  cases init with
  | declarations list => exact Declaration.stored_listToJson good.2
  | expression value => exact Expr.WellFormed.stored good

namespace Stmt

mutual

theorem stored_toJson (stmt : Stmt) (good : stmt.WellFormed) : stmt.toJson.Stored := by
  cases stmt with
  | expression value => simpa [toJson] using Expr.WellFormed.stored good
  | empty => simp [toJson]
  | block body => simpa [toJson, Stored] using itemsStored_listToJson body good
  | declaration list => exact Declaration.stored_listToJson good.2
  | ifElse test consequent alternate =>
    obtain ⟨test, -, controlled, rest⟩ := good
    simpa [toJson] using ⟨test.stored, stored_toJson consequent controlled,
      stored_optionToJson alternate rest⟩
  | whileLoop test consequent =>
    obtain ⟨test, -, controlled⟩ := good
    simpa [toJson] using And.intro test.stored (stored_toJson consequent controlled)
  | doWhile body test =>
    obtain ⟨-, controlled, test⟩ := good
    simpa [toJson] using And.intro (stored_toJson body controlled) test.stored
  | forLoop init test update body =>
    obtain ⟨init, test, update, -, controlled⟩ := good
    have head := stored_optional fun clause present => (init clause present).stored
    simpa [toJson] using ⟨head, Expr.stored_optional test, Expr.stored_optional update,
      stored_toJson body controlled⟩

theorem itemsStored_listToJson (list : List Stmt) (good : ListWellFormed list) :
    ItemsStored (listToJson list) := by
  cases list with
  | nil => exact trivial
  | cons first others =>
    exact ⟨stored_toJson first good.1, itemsStored_listToJson others good.2⟩

theorem stored_optionToJson (alternate : Option Stmt) (good : OptionWellFormed alternate) :
    (optionToJson alternate).Stored := by
  cases alternate with
  | none => exact trivial
  | some stmt => exact stored_toJson stmt good.2

end

end Stmt

/-! ### Programs -/

namespace Program

theorem eq_of_content_eq {first second : Program}
    (same : first.toJson.content = second.toJson.content) : first = second := by
  obtain ⟨body⟩ := first
  obtain ⟨body'⟩ := second
  have items : itemContents (Stmt.listToJson body) = itemContents (Stmt.listToJson body') := by
    simpa [toJson, content] using same
  rw [Stmt.eq_of_itemContents_eq body body' items]

theorem stored_toJson {program : Program} (good : Stmt.ListWellFormed program.body) :
    program.toJson.Stored := by
  simpa [toJson, Stored] using Stmt.itemsStored_listToJson program.body good

end Program

theorem stored_of_parse {source : String} {program : Program}
    (read : parse source = .ok program) : program.toJson.Stored := by
  obtain ⟨tokens, derived, proper⟩ := exists_derivation_of_parse read
  exact Program.stored_toJson (derived.wellFormed proper)

/-- Sources whose trees have the same JSON on one line have the same tree. -/
theorem program_eq_of_compact_eq {first second : String} {program program' : Program}
    (read : parse first = .ok program) (read' : parse second = .ok program')
    (same : program.toJson.compact = program'.toJson.compact) : program = program' :=
  Program.eq_of_content_eq <|
    Json.content_eq_of_compact_eq (stored_of_parse read) (stored_of_parse read') same

/-- One string between other quotes and other blanks, which holds marks of JSON. -/
theorem program_eq_of_compact_eq_quotes :
    ∃ program program' : Program, parse "s = ' ]\x7d, ';" = .ok program ∧
      parse " s=\" ]\x7d, \" ;" = .ok program' ∧
      program.toJson.compact = program'.toJson.compact ∧ program = program' := by
  let program : Program := ⟨[.expression (.assignment .assign "s" (.string " ]\x7d, "))]⟩
  have read : parse "s = ' ]\x7d, ';" = .ok program := by decide +kernel
  have read' : parse " s=\" ]\x7d, \" ;" = .ok program := by decide +kernel
  exact ⟨program, program, read, read', rfl, program_eq_of_compact_eq read read' rfl⟩

end ScriptTree
