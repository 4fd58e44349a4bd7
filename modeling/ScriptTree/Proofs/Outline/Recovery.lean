import ScriptTree.Outline.Basic
import ScriptTree.Proofs.Outline.Text
import ScriptTree.Proofs.Syntax.Recovery

/-! A tree can be recovered from its outline in text. The rows of a well formed tree are legible,
and an outline tells the tree: kinds tell the forms apart, details tell names, values and operators,
and the fields of its children tell which clauses of a loop are there. -/

namespace ScriptTree

/-! ### Details -/

theorem IsName.inline {name : String} (isName : IsName name) : IsInline name := by
  obtain ⟨⟨first, more, chars, letter, others⟩, -⟩ := isName
  rw [IsInline, chars, List.mem_cons, not_or]
  constructor
  · rintro rfl
    exact absurd letter (by decide)
  · exact fun listed => absurd (others _ listed) (by decide)

namespace Number

theorem inline_plain (value : Number) : IsInline value.plain := by
  cases value with
  | finite value =>
    rw [plain, IsInline, toList_toString]
    exact fun listed => absurd (isDigit_of_mem listed) (by decide)
  | infinite => decide

theorem plain_finite_ne_infinite (value : Nat) : plain (finite value) ≠ plain infinite := by
  intro same
  have letter : 'i' ∈ Nat.toDigits 10 (shortest value) := by
    rw [← toList_toString, ← plain, same]
    decide
  exact absurd (isDigit_of_mem letter) (by decide)

/-- A number that digits denote is known from the digits that are written for it. -/
theorem plain_injective {value value' : Number} (literal : value.IsLiteral)
    (literal' : value'.IsLiteral) (same : value.plain = value'.plain) : value = value' := by
  match value, value' with
  | finite m, finite n =>
    rw [plain, plain, ← String.toList_inj, toList_toString, toList_toString] at same
    exact congrArg finite
      (shortest_injective literal.stored literal'.stored (toDigits_injective same))
  | finite m, infinite => exact absurd same (plain_finite_ne_infinite m)
  | infinite, finite n => exact absurd same.symm (plain_finite_ne_infinite n)
  | infinite, infinite => rfl

end Number

theorem Expr.inline_detail? {value : Expr} (good : value.WellFormed) :
    ∀ detail ∈ value.detail?, IsInline detail := by
  cases value with
  | number value =>
    rintro _ ⟨⟩
    exact value.inline_plain
  | string text =>
    rintro _ ⟨⟩
    exact Text.not_mem_quoted text
  | boolean value =>
    rintro _ ⟨⟩
    cases value <;> decide
  | null => nofun
  | identifier name =>
    rintro _ ⟨⟩
    exact IsName.inline good
  | assignment operator | binary operator | logical operator | unary operator =>
    rintro _ ⟨⟩
    cases operator <;> decide

/-! ### Legible outlines -/

namespace Outline

/-- An outline with legible rows only. -/
def Legible (outline : Outline) : Prop :=
  ∀ depth, ∀ row ∈ outline.rows depth, row.Legible

theorem legible_of_mem_listRows {outlines : List Outline}
    (legible : ∀ outline ∈ outlines, outline.Legible) {depth : Nat} :
    ∀ row ∈ listRows depth outlines, row.Legible := by
  induction outlines with
  | nil => nofun
  | cons first others ih =>
    obtain ⟨head, tail⟩ := List.forall_mem_cons.mp legible
    exact List.forall_mem_append.mpr ⟨head depth, ih tail⟩

theorem legible_node {field : Option String} {kind : String} {detail : Option String}
    {children : List Outline} (word : ∀ text ∈ field, IsWord text) (isKind : IsWord kind)
    (inline : ∀ text ∈ detail, IsInline text) (below : ∀ child ∈ children, child.Legible) :
    (node field kind detail children).Legible := by
  intro depth
  exact List.forall_mem_cons.mpr ⟨⟨word, isKind, inline⟩, legible_of_mem_listRows below⟩

end Outline

open OperatorFamily (symbol_injective)
open Outline (legible_node)
open List (forall_mem_append forall_mem_cons forall_mem_singleton)

theorem Expr.isWord_kindName (value : Expr) : IsWord value.kindName := by
  cases value <;> (rw [kindName]; decide)

theorem Expr.WellFormed.legible_node {value : Expr} (good : value.WellFormed)
    {field : Option String} (word : ∀ text ∈ field, IsWord text) {children : List Outline}
    (below : ∀ child ∈ children, child.Legible) :
    (Outline.node field value.kindName value.detail? children).Legible :=
  Outline.legible_node word value.isWord_kindName (inline_detail? good) below

theorem Expr.WellFormed.legible {value : Expr} (good : value.WellFormed) {field : Option String}
    (word : ∀ text ∈ field, IsWord text) : (value.outline field).Legible := by
  induction value generalizing field with
  | number | string | boolean | null | identifier => exact good.legible_node word nofun
  | assignment operator target right ih =>
    have left : (Outline.node (some "left") "Identifier" (some target) []).Legible :=
      Outline.legible_node (by decide) (by decide) (by simpa using good.1.inline) nofun
    exact good.legible_node word
      (forall_mem_cons.mpr ⟨left, forall_mem_singleton.mpr (ih good.2 (by decide))⟩)
  | binary operator left right left_ih right_ih | logical operator left right left_ih right_ih =>
    exact good.legible_node word (forall_mem_cons.mpr
      ⟨left_ih good.1 (by decide), forall_mem_singleton.mpr (right_ih good.2 (by decide))⟩)
  | unary operator argument ih =>
    exact good.legible_node word (forall_mem_singleton.mpr (ih good (by decide)))

theorem Expr.legible_of_mem_optionOutline {clause : Option Expr}
    (good : ∀ value ∈ clause, value.WellFormed) {field : String} (word : IsWord field) :
    ∀ outline ∈ optionOutline field clause, outline.Legible := by
  cases clause with
  | none => nofun
  | some value =>
    exact forall_mem_singleton.mpr ((good value rfl).legible (by simpa using word))

theorem Declaration.WellFormed.legible {declaration : Declaration}
    (good : declaration.WellFormed) : declaration.outline.Legible :=
  legible_node nofun (by decide) (by simpa using good.1.inline)
    (Expr.legible_of_mem_optionOutline good.2 (by decide))

theorem Declaration.legible_of_mem_map {list : List Declaration}
    (good : ∀ declaration ∈ list, declaration.WellFormed) :
    ∀ child ∈ list.map outline, child.Legible :=
  List.forall_mem_map.mpr fun declaration listed => (good declaration listed).legible

theorem ForInit.WellFormed.legible {init : ForInit} (good : init.WellFormed) :
    init.outline.Legible := by
  cases init with
  | declarations list =>
    exact legible_node (by decide) (by decide) nofun (Declaration.legible_of_mem_map good.2)
  | expression value => exact Expr.WellFormed.legible good (by decide)

namespace Stmt

theorem isWord_kindName (stmt : Stmt) : IsWord stmt.kindName := by
  cases stmt <;> (rw [kindName]; decide)

theorem legible_of_children (stmt : Stmt) {field : Option String}
    (word : ∀ text ∈ field, IsWord text) {children : List Outline}
    (below : ∀ child ∈ children, child.Legible) :
    (Outline.node field stmt.kindName none children).Legible :=
  legible_node word stmt.isWord_kindName nofun below

mutual

theorem legible_outline (stmt : Stmt) (good : stmt.WellFormed) {field : Option String}
    (word : ∀ text ∈ field, IsWord text) : (stmt.outline field).Legible := by
  unfold outline
  refine legible_of_children stmt word ?_
  cases stmt with
  | expression value =>
    exact forall_mem_singleton.mpr (Expr.WellFormed.legible good (by decide))
  | empty => nofun
  | block body => exact legible_of_mem_listOutline body good
  | declaration list => exact Declaration.legible_of_mem_map good.2
  | ifElse test consequent alternate =>
    obtain ⟨test, -, controlled, rest⟩ := good
    exact forall_mem_cons.mpr ⟨test.legible (by decide),
      forall_mem_cons.mpr ⟨legible_outline consequent controlled (by decide),
        legible_of_mem_optionOutline alternate rest (by decide)⟩⟩
  | whileLoop test consequent =>
    obtain ⟨test, -, controlled⟩ := good
    exact forall_mem_cons.mpr ⟨test.legible (by decide),
      forall_mem_singleton.mpr (legible_outline consequent controlled (by decide))⟩
  | doWhile body test =>
    obtain ⟨-, controlled, test⟩ := good
    exact forall_mem_cons.mpr ⟨legible_outline body controlled (by decide),
      forall_mem_singleton.mpr (test.legible (by decide))⟩
  | forLoop init? test? update? body =>
    obtain ⟨init, test, update, -, controlled⟩ := good
    have head : ∀ outline ∈ init?.toList.map ForInit.outline, outline.Legible :=
      List.forall_mem_map.mpr fun clause listed =>
        (init clause (Option.mem_toList.mp listed)).legible
    exact forall_mem_append.mpr ⟨forall_mem_append.mpr
      ⟨forall_mem_append.mpr ⟨head, Expr.legible_of_mem_optionOutline test (by decide)⟩,
        Expr.legible_of_mem_optionOutline update (by decide)⟩,
      forall_mem_singleton.mpr (legible_outline body controlled (by decide))⟩

theorem legible_of_mem_listOutline (list : List Stmt) (good : ListWellFormed list) :
    ∀ outline ∈ listOutline list, outline.Legible := by
  cases list with
  | nil => nofun
  | cons first others =>
    exact forall_mem_cons.mpr ⟨legible_outline first good.1 nofun,
      legible_of_mem_listOutline others good.2⟩

theorem legible_of_mem_optionOutline (alternate : Option Stmt) (good : OptionWellFormed alternate)
    {field : String} (word : IsWord field) :
    ∀ outline ∈ optionOutline field alternate, outline.Legible := by
  cases alternate with
  | none => nofun
  | some stmt => exact forall_mem_singleton.mpr (legible_outline stmt good.2 (by simpa using word))

end

end Stmt

/-! ### Trees of outlines -/

namespace Expr

/-- An expression of which all numbers have literals is known from its outline. -/
theorem eq_of_outline_eq {first second : Expr} {field : Option String} (good : first.WellFormed)
    (good' : second.WellFormed) (same : first.outline field = second.outline field) :
    first = second := by
  induction first generalizing second field with
  | number value =>
    cases second with
    | number value' =>
      have plain : value.plain = value'.plain := by simpa [outline, detail?, kindName] using same
      rw [Number.plain_injective good good' plain]
    -- Here and below, an expression of another form would be of another kind.
    | _ => simp [outline, kindName] at same
  | string text =>
    cases second with
    | string text' =>
      have quoted : Text.quoted text = Text.quoted text' := by
        simpa [outline, detail?, kindName] using same
      rw [Text.quoted_injective quoted]
    | _ => simp [outline, kindName] at same
  | boolean value =>
    cases second with
    | boolean value' =>
      have text : toString value = toString value' := by
        simpa [outline, detail?, kindName] using same
      cases value <;> cases value' <;> first | rfl | exact absurd text (by decide)
    | _ => simp [outline, kindName] at same
  | null =>
    cases second with
    | null => rfl
    | _ => simp [outline, kindName] at same
  | identifier name =>
    cases second with
    | identifier name' => simpa [outline, detail?, kindName] using same
    | _ => simp [outline, kindName] at same
  | assignment operator target right ih =>
    cases second with
    | assignment operator' target' right' =>
      obtain ⟨symbol, rfl, value⟩ : _ ∧ _ ∧ _ := by
        simpa [outline, detail?, kindName] using same
      rw [symbol_injective symbol, ih good.2 good'.2 value]
    | _ => simp [outline, kindName] at same
  | binary operator left right left_ih right_ih =>
    cases second with
    | binary operator' left' right' =>
      obtain ⟨symbol, before, behind⟩ : _ ∧ _ ∧ _ := by
        simpa [outline, detail?, kindName] using same
      rw [symbol_injective symbol, left_ih good.1 good'.1 before, right_ih good.2 good'.2 behind]
    | _ => simp [outline, kindName] at same
  | logical operator left right left_ih right_ih =>
    cases second with
    | logical operator' left' right' =>
      obtain ⟨symbol, before, behind⟩ : _ ∧ _ ∧ _ := by
        simpa [outline, detail?, kindName] using same
      rw [symbol_injective symbol, left_ih good.1 good'.1 before, right_ih good.2 good'.2 behind]
    | _ => simp [outline, kindName] at same
  | unary operator argument ih =>
    cases second with
    | unary operator' argument' =>
      obtain ⟨symbol, value⟩ : _ ∧ _ := by simpa [outline, detail?, kindName] using same
      have operand : argument'.WellFormed := good'
      rw [symbol_injective symbol, ih good operand value]
    | _ => simp [outline, kindName] at same

end Expr

namespace Outline

/-- The field that holds a node, unless it stands in a list. -/
def field : Outline → Option String
  | node field _ _ _ => field

/-- Outlines of which a field holds none. -/
def Without (name : String) (outlines : List Outline) : Prop :=
  ∀ outline ∈ outlines, outline.field ≠ some name

/-- A clause that may be missing is told by its field, if nothing behind it has the same. -/
theorem eq_of_clause_append_eq {α : Type} {toOutline : α → Outline} {name : String}
    (held : ∀ clause, (toOutline clause).field = some name) {clause clause' : Option α}
    (injective : ∀ part ∈ clause, ∀ part' ∈ clause', toOutline part = toOutline part' →
      part = part')
    {rest rest' : List Outline} (without : Without name rest) (without' : Without name rest')
    (same : clause.toList.map toOutline ++ rest = clause'.toList.map toOutline ++ rest') :
    clause = clause' ∧ rest = rest' := by
  match clause, clause' with
  | none, none => exact ⟨rfl, same⟩
  | none, some part' =>
    have begins : rest = toOutline part' :: rest' := same
    exact absurd (held part') (without _ (begins ▸ List.mem_cons_self))
  | some part, none =>
    have begins : rest' = toOutline part :: rest := same.symm
    exact absurd (held part) (without' _ (begins ▸ List.mem_cons_self))
  | some part, some part' =>
    obtain ⟨outlines, behind⟩ := List.cons.inj same
    exact ⟨congrArg some (injective part rfl part' rfl outlines), behind⟩

end Outline

open Outline (Without)

namespace Expr

theorem field_outline (value : Expr) (field : Option String) :
    (value.outline field).field = field := by
  unfold outline
  rfl

theorem without_append {field other : String} (different : other ≠ field) (clause : Option Expr)
    {rest : List Outline} (without : Without field rest) :
    Without field (optionOutline other clause ++ rest) := by
  refine forall_mem_append.mpr ⟨List.forall_mem_map.mpr fun value _ => ?_, without⟩
  rw [field_outline]
  exact fun same => different (Option.some.inj same)

theorem eq_of_optionOutline_append_eq {field : String} {clause clause' : Option Expr}
    (good : ∀ value ∈ clause, value.WellFormed) (good' : ∀ value ∈ clause', value.WellFormed)
    {rest rest' : List Outline} (without : Without field rest) (without' : Without field rest')
    (same : optionOutline field clause ++ rest = optionOutline field clause' ++ rest') :
    clause = clause' ∧ rest = rest' :=
  Outline.eq_of_clause_append_eq (fun value => value.field_outline (some field))
    (fun value present value' present' =>
      eq_of_outline_eq (good value present) (good' value' present'))
    without without' same

theorem eq_of_optionOutline_eq {field : String} {clause clause' : Option Expr}
    (good : ∀ value ∈ clause, value.WellFormed) (good' : ∀ value ∈ clause', value.WellFormed)
    (same : optionOutline field clause = optionOutline field clause') : clause = clause' := by
  have nothing : Without field [] := nofun
  exact (eq_of_optionOutline_append_eq good good' nothing nothing (by rw [same])).1

end Expr

namespace Declaration

theorem eq_of_outline_eq {first second : Declaration} (good : first.WellFormed)
    (good' : second.WellFormed) (same : first.outline = second.outline) : first = second := by
  obtain ⟨name, initializer⟩ := first
  obtain ⟨name', initializer'⟩ := second
  obtain ⟨rfl, clauses⟩ : _ ∧ _ := by simpa [outline] using same
  exact congrArg (mk name) (Expr.eq_of_optionOutline_eq good.2 good'.2 clauses)

theorem eq_of_map_outline_eq {first second : List Declaration}
    (good : ∀ declaration ∈ first, declaration.WellFormed)
    (good' : ∀ declaration ∈ second, declaration.WellFormed)
    (same : first.map outline = second.map outline) : first = second := by
  induction first generalizing second with
  | nil => exact (List.map_eq_nil_iff.mp same.symm).symm
  | cons head tail ih =>
    cases second with
    | nil => cases same
    | cons head' tail' =>
      obtain ⟨heads, tails⟩ := List.cons.inj same
      obtain ⟨before, behind⟩ := forall_mem_cons.mp good
      obtain ⟨before', behind'⟩ := forall_mem_cons.mp good'
      rw [eq_of_outline_eq before before' heads, ih behind behind' tails]

end Declaration

namespace ForInit

theorem field_outline (init : ForInit) : init.outline.field = some "init" := by
  cases init with
  | declarations list => rfl
  | expression value => exact value.field_outline _

theorem eq_of_outline_eq {first second : ForInit} (good : first.WellFormed)
    (good' : second.WellFormed) (same : first.outline = second.outline) : first = second := by
  match first, second with
  | declarations list, declarations list' =>
    have outlines : list.map Declaration.outline = list'.map Declaration.outline := by
      simpa [outline] using same
    rw [Declaration.eq_of_map_outline_eq good.2 good'.2 outlines]
  | expression value, expression value' =>
    exact congrArg expression (Expr.eq_of_outline_eq good good' same)
  | declarations list, expression value =>
    cases value <;> simp [outline, Expr.outline, Expr.kindName] at same
  | expression value, declarations list =>
    cases value <;> simp [outline, Expr.outline, Expr.kindName] at same

end ForInit

namespace Stmt

theorem field_outline (stmt : Stmt) (field : Option String) :
    (stmt.outline field).field = field := by
  cases stmt <;> rfl

/-- The clauses in the head of a loop and its body are told by their fields. -/
theorem clauses_eq_of_outline_eq {init init' : Option ForInit}
    {test test' update update' : Option Expr} {body body' : Stmt} {field : Option String}
    (good : (forLoop init test update body).WellFormed)
    (good' : (forLoop init' test' update' body').WellFormed)
    (same : (forLoop init test update body).outline field =
      (forLoop init' test' update' body').outline field) :
    init = init' ∧ test = test' ∧ update = update' ∧
      body.outline (some "body") = body'.outline (some "body") := by
  obtain ⟨goodInit, goodTest, goodUpdate, -⟩ := good
  obtain ⟨goodInit', goodTest', goodUpdate', -⟩ := good'
  have last (body : Stmt) {name : String} (other : "body" ≠ name) :
      Without name [body.outline (some "body")] := by
    refine forall_mem_singleton.mpr ?_
    rw [field_outline]
    exact fun named => other (Option.some.inj named)
  have behindTest (update : Option Expr) (body : Stmt) {name : String} (other : "update" ≠ name)
      (other' : "body" ≠ name) :
      Without name (Expr.optionOutline "update" update ++ [body.outline (some "body")]) :=
    Expr.without_append other update (last body other')
  simp only [outline, kindName, Outline.node.injEq, true_and, List.append_assoc] at same
  -- From the front, each clause is told by its field from all that follows it.
  obtain ⟨inits, tests⟩ := Outline.eq_of_clause_append_eq ForInit.field_outline
    (fun clause present clause' present' =>
      ForInit.eq_of_outline_eq (goodInit clause present) (goodInit' clause' present'))
    (Expr.without_append (by decide) test (behindTest update body (by decide) (by decide)))
    (Expr.without_append (by decide) test' (behindTest update' body' (by decide) (by decide))) same
  obtain ⟨tests, updates⟩ := Expr.eq_of_optionOutline_append_eq goodTest goodTest'
    (behindTest update body (by decide) (by decide))
    (behindTest update' body' (by decide) (by decide)) tests
  obtain ⟨updates, bodies⟩ := Expr.eq_of_optionOutline_append_eq goodUpdate goodUpdate'
    (last body (by decide)) (last body' (by decide)) updates
  exact ⟨inits, tests, updates, (List.cons.inj bodies).1⟩

mutual

theorem eq_of_outline_eq (first second : Stmt) {field : Option String} (good : first.WellFormed)
    (good' : second.WellFormed) (same : first.outline field = second.outline field) :
    first = second := by
  cases first with
  | expression value =>
    cases second with
    | expression value' =>
      have values : value.outline (some "expression") = value'.outline (some "expression") := by
        simpa [outline, kindName] using same
      rw [Expr.eq_of_outline_eq good good' values]
    | _ => simp [outline, kindName] at same
  | empty =>
    cases second with
    | empty => rfl
    | _ => simp [outline, kindName] at same
  | block body =>
    cases second with
    | block body' =>
      have bodies : listOutline body = listOutline body' := by simpa [outline, kindName] using same
      rw [eq_of_listOutline_eq body body' good good' bodies]
    | _ => simp [outline, kindName] at same
  | declaration list =>
    cases second with
    | declaration list' =>
      have lists : list.map Declaration.outline = list'.map Declaration.outline := by
        simpa [outline, kindName] using same
      rw [Declaration.eq_of_map_outline_eq good.2 good'.2 lists]
    | _ => simp [outline, kindName] at same
  | ifElse test consequent alternate =>
    cases second with
    | ifElse test' consequent' alternate' =>
      obtain ⟨tests, consequents, alternates⟩ : _ ∧ _ ∧ _ := by simpa [outline, kindName] using same
      obtain ⟨test, -, controlled, rest⟩ := good
      obtain ⟨test', -, controlled', rest'⟩ := good'
      rw [Expr.eq_of_outline_eq test test' tests,
        eq_of_outline_eq consequent consequent' controlled controlled' consequents,
        eq_of_optionOutline_eq alternate alternate' rest rest' alternates]
    | _ => simp [outline, kindName] at same
  | whileLoop test consequent =>
    cases second with
    | whileLoop test' consequent' =>
      obtain ⟨tests, consequents⟩ : _ ∧ _ := by simpa [outline, kindName] using same
      obtain ⟨test, -, controlled⟩ := good
      obtain ⟨test', -, controlled'⟩ := good'
      rw [Expr.eq_of_outline_eq test test' tests,
        eq_of_outline_eq consequent consequent' controlled controlled' consequents]
    | _ => simp [outline, kindName] at same
  | doWhile body test =>
    cases second with
    | doWhile body' test' =>
      obtain ⟨bodies, tests⟩ : _ ∧ _ := by simpa [outline, kindName] using same
      obtain ⟨-, controlled, test⟩ := good
      obtain ⟨-, controlled', test'⟩ := good'
      rw [Expr.eq_of_outline_eq test test' tests,
        eq_of_outline_eq body body' controlled controlled' bodies]
    | _ => simp [outline, kindName] at same
  | forLoop init test update body =>
    cases second with
    | forLoop init' test' update' body' =>
      obtain ⟨rfl, rfl, rfl, bodies⟩ := clauses_eq_of_outline_eq good good' same
      obtain ⟨-, -, -, -, controlled⟩ := good
      obtain ⟨-, -, -, -, controlled'⟩ := good'
      rw [eq_of_outline_eq body body' controlled controlled' bodies]
    | _ => simp [outline, kindName] at same

theorem eq_of_listOutline_eq (first second : List Stmt) (good : ListWellFormed first)
    (good' : ListWellFormed second) (same : listOutline first = listOutline second) :
    first = second := by
  match first, second with
  | [], [] => rfl
  | [], stmt :: others => cases same
  | stmt :: others, [] => cases same
  | stmt :: others, stmt' :: others' =>
    obtain ⟨head, tail⟩ := List.cons.inj same
    rw [eq_of_outline_eq stmt stmt' good.1 good'.1 head,
      eq_of_listOutline_eq others others' good.2 good'.2 tail]

theorem eq_of_optionOutline_eq {field : String} (first second : Option Stmt)
    (good : OptionWellFormed first) (good' : OptionWellFormed second)
    (same : optionOutline field first = optionOutline field second) : first = second := by
  match first, second with
  | none, none => rfl
  | none, some stmt => cases same
  | some stmt, none => cases same
  | some stmt, some stmt' =>
    exact congrArg some (eq_of_outline_eq stmt stmt' good.2 good'.2 (List.cons.inj same).1)

end

end Stmt

/-! ### Programs -/

namespace Program

theorem eq_of_outline_eq {first second : Program} (good : Stmt.ListWellFormed first.body)
    (good' : Stmt.ListWellFormed second.body) (same : first.outline = second.outline) :
    first = second := by
  obtain ⟨body⟩ := first
  obtain ⟨body'⟩ := second
  have bodies : Stmt.listOutline body = Stmt.listOutline body' := by simpa [outline] using same
  rw [Stmt.eq_of_listOutline_eq body body' good good' bodies]

theorem legible_outline {program : Program} (good : Stmt.ListWellFormed program.body) :
    program.outline.Legible :=
  legible_node nofun (by decide) nofun (Stmt.legible_of_mem_listOutline program.body good)

end Program

/-- The text of an outline is its rows, each in a line of its own, and sources whose trees have the
same text have the same tree. -/
theorem treeText_faithful {first second : String} {program program' : Program}
    (read : parse first = .ok program) (read' : parse second = .ok program') :
    (program.treeText = program'.treeText → program = program') ∧
      ∃ lines : List String, lines.length = program.rows.length ∧
        (∀ line ∈ lines, '\n' ∉ line.toList) ∧
        program.treeText = String.join (lines.map (· ++ "\n")) := by
  obtain ⟨tokens, derived, proper⟩ := exists_derivation_of_parse read
  obtain ⟨tokens', derived', proper'⟩ := exists_derivation_of_parse read'
  have good : Stmt.ListWellFormed program.body := derived.wellFormed proper
  have good' : Stmt.ListWellFormed program'.body := derived'.wellFormed proper'
  have legible : ∀ row ∈ program.rows, row.Legible := Program.legible_outline good 0
  have legible' : ∀ row ∈ program'.rows, row.Legible := Program.legible_outline good' 0
  constructor
  · exact fun same =>
      Program.eq_of_outline_eq good good' (Outline.eq_of_join_rows_eq legible legible' same)
  · refine ⟨program.rows.map Row.text, List.length_map _, ?_, ?_⟩
    · exact List.forall_mem_map.mpr fun row listed => (legible row listed).inline
    · rw [← map_line]
      rfl

/-- One clause in the head of a loop, in two places. -/
theorem treeText_faithful_clauses :
    let body : Stmt := .block []
    let program : Program := ⟨[.forLoop none (some (.identifier "a")) none body]⟩
    let program' : Program := ⟨[.forLoop none none (some (.identifier "a")) body]⟩
    parse "for (; a; ) \x7b \x7d" = .ok program ∧ parse "for (; ; a) \x7b \x7d" = .ok program' ∧
      program.treeText ≠ program'.treeText ∧
      ∃ lines : List String, lines.length = program.rows.length ∧
        (∀ line ∈ lines, '\n' ∉ line.toList) ∧
        program.treeText = String.join (lines.map (· ++ "\n")) := by
  intro body program program'
  have read : parse "for (; a; ) \x7b \x7d" = .ok program := by decide +kernel
  have read' : parse "for (; ; a) \x7b \x7d" = .ok program' := by decide +kernel
  have different : program ≠ program' := by decide
  obtain ⟨told, lines⟩ := treeText_faithful read read'
  exact ⟨read, read', fun same => different (told same), lines⟩

end ScriptTree
