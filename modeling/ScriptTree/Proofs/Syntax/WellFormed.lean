import ScriptTree.Proofs.Token.Spelling
import ScriptTree.Syntax.Basic

/-! The trees that a source can denote: bodies are blocks, lists of declarations are not empty,
names are names of the language, and every number and every string has a literal. -/

namespace ScriptTree

/-- The words that are no names. -/
def reservedWords : List String :=
  ["int", "if", "else", "true", "false", "null", "while", "do", "for"]

/-- Letters, digits and underscores, with no digit in front, that form no keyword. -/
def IsName (name : String) : Prop :=
  (∃ first more, name.toList = first :: more ∧ (first.isAlpha ∨ first = '_') ∧
    ∀ c ∈ more, c.isAlphanum ∨ c = '_') ∧ name ∉ reservedWords

theorem not_reserved_iff {name : String} :
    name ∉ reservedWords ↔ ∀ word ∈ TokenKind.keywords, name ∉ word.texts := by
  simp [reservedWords, TokenKind.keywords, TokenKind.texts]

theorem name_and_not_digit_iff {c : Char} :
    CharClass.name.contains c = true ∧ c.isDigit = false ↔ c.isAlpha = true ∨ c = '_' := by
  simp only [CharClass.contains, Char.isAlphanum, Bool.or_eq_true, beq_iff_eq]
  constructor
  · rintro ⟨(letter | digit) | rfl, no_digit⟩
    · exact Or.inl letter
    · exact absurd (digit.symm.trans no_digit) (by decide)
    · exact Or.inr rfl
  · rintro (letter | rfl)
    · exact ⟨Or.inl (Or.inl letter), Text.isDigit_of_isAlpha letter⟩
    · exact ⟨Or.inr rfl, by decide⟩

theorem spells_identifier_iff {name : String} : TokenKind.identifier.Spells name ↔
    ∃ first more, name.toList = first :: more ∧ (first.isAlpha ∨ first = '_') ∧
      ∀ c ∈ more, c.isAlphanum ∨ c = '_' := by
  simp only [TokenKind.Spells]
  cases name.toList with
  | nil => simp
  | cons first more =>
    have start := @name_and_not_digit_iff first
    constructor
    · rintro ⟨-, all, no_digit⟩
      simp only [List.all_cons, Bool.and_eq_true, List.all_eq_true] at all
      exact ⟨first, more, rfl, start.mp ⟨all.1, no_digit first rfl⟩,
        fun c listed => by simpa [CharClass.contains] using all.2 c listed⟩
    · rintro ⟨_, _, ⟨⟩, letter, all⟩
      obtain ⟨named, no_digit⟩ := start.mpr letter
      refine ⟨List.cons_ne_nil _ _, ?_, ?_⟩
      · simp only [List.all_cons, named, Bool.true_and, List.all_eq_true]
        intro c listed
        simpa [CharClass.contains] using all c listed
      · rintro _ ⟨⟩
        exact no_digit

/-- The names of the language are the texts of the proper tokens for names. -/
theorem isName_iff_proper {name : String} :
    IsName name ↔ (⟨.identifier, name⟩ : Token).Proper := by
  constructor
  · rintro ⟨letters, free⟩
    exact ⟨spells_identifier_iff.mpr letters, fun _ => not_reserved_iff.mp free⟩
  · rintro ⟨spelled, free⟩
    exact ⟨spells_identifier_iff.mp spelled, not_reserved_iff.mpr (free rfl)⟩

/-- A number that some row of digits denotes. -/
def Number.IsLiteral (value : Number) : Prop :=
  ∃ numeral, Number.ofNumeral? numeral = some value

/-- A text that lacks one of the two quotes. -/
def IsQuotable (text : String) : Prop :=
  '"' ∉ text.toList ∨ '\'' ∉ text.toList

namespace Expr

def WellFormed : Expr → Prop
  | number value => value.IsLiteral
  | string text => IsQuotable text
  | boolean _ | null => True
  | identifier name => IsName name
  | assignment _ target right => IsName target ∧ right.WellFormed
  | binary _ left right | logical _ left right => left.WellFormed ∧ right.WellFormed
  | unary _ argument => argument.WellFormed

end Expr

def Declaration.WellFormed (declaration : Declaration) : Prop :=
  IsName declaration.name ∧ ∀ value ∈ declaration.initializer, value.WellFormed

def ForInit.WellFormed : ForInit → Prop
  | declarations list => list ≠ [] ∧ ∀ declaration ∈ list, declaration.WellFormed
  | expression value => value.WellFormed

namespace Stmt

def IsBlock : Stmt → Prop
  | block _ => True
  | _ => False

mutual

def WellFormed : Stmt → Prop
  | expression value => value.WellFormed
  | empty => True
  | block body => ListWellFormed body
  | declaration list => list ≠ [] ∧ ∀ declaration ∈ list, declaration.WellFormed
  | ifElse test consequent alternate =>
    test.WellFormed ∧ consequent.IsBlock ∧ consequent.WellFormed ∧ OptionWellFormed alternate
  | whileLoop test consequent => test.WellFormed ∧ consequent.IsBlock ∧ consequent.WellFormed
  | doWhile body test => body.IsBlock ∧ body.WellFormed ∧ test.WellFormed
  | forLoop init test update body =>
    (∀ clause ∈ init, clause.WellFormed) ∧ (∀ clause ∈ test, clause.WellFormed) ∧
      (∀ clause ∈ update, clause.WellFormed) ∧ body.IsBlock ∧ body.WellFormed

def ListWellFormed : List Stmt → Prop
  | [] => True
  | first :: others => first.WellFormed ∧ ListWellFormed others

/-- A missing alternative, or a well formed block. -/
def OptionWellFormed : Option Stmt → Prop
  | none => True
  | some alternate => alternate.IsBlock ∧ alternate.WellFormed

end

end Stmt

def Program.WellFormed (program : Program) : Prop :=
  program.body ≠ [] ∧ Stmt.ListWellFormed program.body

end ScriptTree
