import ScriptTree.Token.Rule

/-! The texts that tokens of each kind can have. A token is proper if its text is one of its kind
and it is no name that is spelled like a keyword. -/

namespace ScriptTree

namespace Text

theorem isAlpha_iff {c : Char} : c.isAlpha = true ↔
    65 ≤ c.toNat ∧ c.toNat ≤ 90 ∨ 97 ≤ c.toNat ∧ c.toNat ≤ 122 := by
  have shape : c.isAlpha = (decide (c.val ≥ 'A'.val ∧ c.val ≤ 'Z'.val) ||
      decide (c.val ≥ 'a'.val) && decide (c.val ≤ 'z'.val)) := rfl
  simp only [shape, Bool.or_eq_true, Bool.and_eq_true, decide_eq_true_eq, ge_iff_le,
    UInt32.le_iff_toNat_le]
  exact Iff.rfl

theorem isDigit_iff {c : Char} : c.isDigit = true ↔ 48 ≤ c.toNat ∧ c.toNat ≤ 57 :=
  Char.isDigit_iff_toNat

theorem isDigit_of_isAlpha {c : Char} (letter : c.isAlpha = true) : c.isDigit = false := by
  have range := isAlpha_iff.mp letter
  rw [Bool.eq_false_iff, ne_eq, isDigit_iff]
  omega

end Text

namespace TokenKind

/-- The texts of a kind, or one of them where there is no listing them all. -/
def texts : TokenKind → List String
  | leftBrace => ["\x7b"]
  | rightBrace => ["\x7d"]
  | leftParen => ["("]
  | rightParen => [")"]
  | semicolon => [";"]
  | comma => [","]
  | kwInt => ["int"]
  | kwIf => ["if"]
  | kwElse => ["else"]
  | kwTrue => ["true"]
  | kwFalse => ["false"]
  | kwNull => ["null"]
  | kwWhile => ["while"]
  | kwDo => ["do"]
  | kwFor => ["for"]
  | number => ["0"]
  | string => ["''"]
  | identifier => ["x"]
  | equality => ["==", "!="]
  | simpleAssignment => ["="]
  | compoundAssignment => ["+=", "-=", "*=", "/="]
  | additive => ["+", "-"]
  | multiplicative => ["*", "/"]
  | relational => ["<", "<=", ">", ">="]
  | logicalAnd => ["&&"]
  | logicalOr => ["||"]
  | logicalNot => ["!"]

/-- A token of a kind: the only one where the kind has one text. -/
def token (kind : TokenKind) : Token :=
  ⟨kind, kind.texts.headD ""⟩

@[simp] theorem token_kind (kind : TokenKind) : kind.token.kind = kind := rfl

/-- Whether a text is one of a kind. -/
def Spells : TokenKind → String → Prop
  | number, text => text.toList ≠ [] ∧ text.toList.all CharClass.digit.contains
  | string, text => ∃ quote ∈ ['"', '\''], ∃ content : List Char,
      quote ∉ content ∧ text.toList = quote :: content ++ [quote]
  | identifier, text => text.toList ≠ [] ∧ text.toList.all CharClass.name.contains ∧
      ∀ c ∈ text.toList.head?, c.isDigit = false
  | kind, text => text ∈ kind.texts

/-- The kinds with more texts than can be listed. -/
def varied : List TokenKind :=
  [number, string, identifier]

/-- The kinds of the words that are no names. -/
def keywords : List TokenKind :=
  [kwInt, kwIf, kwElse, kwTrue, kwFalse, kwNull, kwWhile, kwDo, kwFor]

end TokenKind

/-- Whether a kind has a single text. -/
def TokenKind.isFixed (kind : TokenKind) : Bool :=
  kind ∉ varied && kind.texts.length == 1

theorem TokenKind.spells_iff {kind : TokenKind} {text : String} (few : kind ∉ varied) :
    kind.Spells text ↔ text ∈ kind.texts := by
  cases kind <;> first
    | exact absurd (by decide) few
    | rfl

/-- A quote is a single byte, no part of a name and no beginning of a comment. -/
theorem of_mem_quotes (quote : Char) (mark : quote ∈ ['"', '\'']) :
    quote.utf8Size = 1 ∧ CharClass.name.contains quote = false ∧ quote ≠ '/' := by
  simp only [List.mem_cons, List.not_mem_nil, or_false] at mark
  rcases mark with rfl | rfl <;> decide

namespace Token

/-- A token whose text is one of its kind. -/
def Spelled (token : Token) : Prop :=
  token.kind.Spells token.text

/-- A token that stands in some source without lexical errors: its text is one of its kind, and a
name is no keyword. -/
structure Proper (token : Token) : Prop where
  spelled : token.Spelled
  no_keyword : token.kind = .identifier → ∀ word ∈ TokenKind.keywords, token.text ∉ word.texts

/-- What stands between the quotes of a string is its content. -/
theorem content_of_quoted {text : String} {quote : Char} {content : List Char}
    (shape : text.toList = quote :: content ++ [quote]) (kind : TokenKind) :
    Token.content ⟨kind, text⟩ = String.ofList content := by
  simp [Token.content, shape]

/-- A token of a kind with a single text is the token of this kind. -/
theorem Spelled.eq_token {t : Token} (spelled : t.Spelled) (fixed : t.kind.isFixed = true) :
    t = t.kind.token := by
  obtain ⟨kind, text⟩ := t
  simp only [TokenKind.isFixed, Bool.and_eq_true, decide_eq_true_eq, beq_iff_eq] at fixed
  have listed := (TokenKind.spells_iff fixed.1).mp spelled
  obtain ⟨only, shape⟩ := List.length_eq_one_iff.mp fixed.2
  simp only [shape, List.mem_singleton] at listed
  simp [TokenKind.token, shape, listed]

end Token

@[simp] theorem TokenKind.token_proper (kind : TokenKind) : kind.token.Proper := by
  constructor
  · cases kind <;> simp [Token.Spelled, Spells, token, texts, CharClass.contains]
  · intro same
    cases same
    decide

end ScriptTree
