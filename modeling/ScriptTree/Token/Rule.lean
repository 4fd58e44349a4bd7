import ScriptTree.Text.Blank
import ScriptTree.Text.Word
import ScriptTree.Token.Basic

/-!
Lexical rules. A rule pairs a pattern with the kind of token it produces, or with none for text
that separates tokens. The rules are ordered and the first whose pattern matches decides: keywords
stand before names, numbers before names, and longer operators before their own first character.
-/

namespace ScriptTree

/-- The classes of characters that repeat within a token or a gap. -/
inductive CharClass where
  | blank
  | digit
  | name
deriving DecidableEq, Repr

/-- Names and digits are ASCII; blanks are all blank characters. -/
def CharClass.contains : CharClass → Char → Bool
  | blank, c => Text.isBlank c
  | digit, c => c.isDigit
  | name, c => c.isAlphanum || c == '_'

/-- Whether an operator is completed by `=`. -/
inductive EqualsSign where
  | absent
  | required
  | optional
deriving DecidableEq, Repr

/-- What a rule looks for at the start of the text. Every pattern takes at least one character. -/
inductive Pattern where
  /-- The longest run of characters of a class. -/
  | run (chars : CharClass)
  /-- Two slashes and the rest of the line. -/
  | comment
  /-- A fixed text. -/
  | exactly (first : Char) (more : List Char)
  /-- A fixed text that no word character follows. -/
  | keyword (first : Char) (more : List Char)
  /-- One of the listed characters, and an equals sign or not. -/
  | operator (first : List Char) (equals : EqualsSign)
  /-- Everything from a quote to the next one. -/
  | quoted (quote : Char)
deriving DecidableEq, Repr

namespace Pattern

def strip? : List Char → List Char → Option (List Char)
  | [], cs => some cs
  | _ :: _, [] => none
  | w :: ws, c :: cs => if w = c then strip? ws cs else none

def wordEnds : List Char → Bool
  | [] => true
  | c :: _ => !Text.isWordChar c

/-- Divides the text into what the pattern takes and the rest, or fails if it does not match. -/
def split? : Pattern → List Char → Option (List Char × List Char)
  | run chars, cs =>
    match cs.takeWhile chars.contains with
    | [] => none
    | lexeme => some (lexeme, cs.dropWhile chars.contains)
  | comment, '/' :: '/' :: cs =>
    some ('/' :: '/' :: cs.takeWhile (· != '\n'), cs.dropWhile (· != '\n'))
  | comment, _ => none
  | exactly first more, cs => (strip? (first :: more) cs).map fun rest => (first :: more, rest)
  | keyword first more, cs =>
    match strip? (first :: more) cs with
    | some rest => if wordEnds rest then some (first :: more, rest) else none
    | none => none
  | operator _ _, [] => none
  | operator first equals, c :: cs =>
    if first.contains c then
      match equals, cs with
      | .absent, _ => some ([c], cs)
      | .required, '=' :: rest => some ([c, '='], rest)
      | .required, _ => none
      | .optional, '=' :: rest => some ([c, '='], rest)
      | .optional, _ => some ([c], cs)
    else none
  | quoted _, [] => none
  | quoted quote, c :: cs =>
    if c = quote then
      match cs.dropWhile (· != quote) with
      | [] => none
      | close :: rest => some (c :: cs.takeWhile (· != quote) ++ [close], rest)
    else none

theorem strip?_eq_some {word cs rest : List Char} :
    strip? word cs = some rest ↔ cs = word ++ rest := by
  induction word generalizing cs with
  | nil => simp [strip?, eq_comm]
  | cons w ws ih =>
    cases cs with
    | nil => simp [strip?]
    | cons c cs =>
      by_cases same : w = c
      · simp [strip?, same, ih]
      · simp [strip?, same, Ne.symm same]

/-- What a pattern takes and what it leaves are the text, in this order. -/
theorem split?_append {pattern : Pattern} {cs lexeme rest : List Char}
    (found : pattern.split? cs = some (lexeme, rest)) : lexeme ++ rest = cs := by
  unfold split? at found
  split at found <;> try contradiction
  · split at found <;> cases found
    exact List.takeWhile_append_dropWhile
  · cases found
    simp [List.takeWhile_append_dropWhile]
  · simp only [Option.map_eq_some_iff, strip?_eq_some, Prod.mk.injEq] at found
    obtain ⟨_, rfl, rfl, rfl⟩ := found
    rfl
  · split at found <;> try contradiction
    rename_i stripped
    split at found <;> cases found
    exact (strip?_eq_some.mp stripped).symm
  · split at found <;> try contradiction
    split at found <;> cases found <;> rfl
  · split at found <;> try contradiction
    split at found <;> cases found
    rename_i dropped
    simp [← dropped, List.takeWhile_append_dropWhile]

/-- A pattern takes at least one character. -/
theorem split?_ne_nil {pattern : Pattern} {cs lexeme rest : List Char}
    (found : pattern.split? cs = some (lexeme, rest)) : lexeme ≠ [] := by
  unfold split? at found
  split at found <;> try contradiction
  · split at found <;> cases found
    assumption
  · cases found
    simp
  · simp only [Option.map_eq_some_iff, Prod.mk.injEq] at found
    obtain ⟨_, _, rfl, _⟩ := found
    simp
  · split at found <;> try contradiction
    split at found <;> cases found
    simp
  · split at found <;> try contradiction
    split at found <;> cases found <;> simp
  · split at found <;> try contradiction
    split at found <;> cases found
    simp

theorem length_lt_of_split? {pattern : Pattern} {cs lexeme rest : List Char}
    (found : pattern.split? cs = some (lexeme, rest)) : rest.length < cs.length := by
  have parts := split?_append found
  have taken := List.length_pos_iff.mpr (split?_ne_nil found)
  simp [← parts]
  omega

end Pattern

/-- A pattern and the kind of token it produces; text of a rule without a kind is skipped. -/
structure Rule where
  pattern : Pattern
  kind : Option TokenKind
deriving DecidableEq, Repr

/-- The lexical rules in the order in which they are tried. -/
def rules : List Rule :=
  [⟨.run .blank, none⟩,
   ⟨.comment, none⟩,
   ⟨.exactly ';' [], some .semicolon⟩,
   ⟨.exactly '{' [], some .leftBrace⟩,
   ⟨.exactly '}' [], some .rightBrace⟩,
   ⟨.exactly '(' [], some .leftParen⟩,
   ⟨.exactly ')' [], some .rightParen⟩,
   ⟨.exactly ',' [], some .comma⟩,
   ⟨.keyword 'i' ['n', 't'], some .kwInt⟩,
   ⟨.keyword 'i' ['f'], some .kwIf⟩,
   ⟨.keyword 'e' ['l', 's', 'e'], some .kwElse⟩,
   ⟨.keyword 't' ['r', 'u', 'e'], some .kwTrue⟩,
   ⟨.keyword 'f' ['a', 'l', 's', 'e'], some .kwFalse⟩,
   ⟨.keyword 'n' ['u', 'l', 'l'], some .kwNull⟩,
   ⟨.keyword 'w' ['h', 'i', 'l', 'e'], some .kwWhile⟩,
   ⟨.keyword 'd' ['o'], some .kwDo⟩,
   ⟨.keyword 'f' ['o', 'r'], some .kwFor⟩,
   ⟨.run .digit, some .number⟩,
   ⟨.run .name, some .identifier⟩,
   ⟨.operator ['=', '!'] .required, some .equality⟩,
   ⟨.exactly '=' [], some .simpleAssignment⟩,
   ⟨.operator ['*', '/', '+', '-'] .required, some .compoundAssignment⟩,
   ⟨.operator ['+', '-'] .absent, some .additive⟩,
   ⟨.operator ['*', '/'] .absent, some .multiplicative⟩,
   ⟨.operator ['<', '>'] .optional, some .relational⟩,
   ⟨.exactly '&' ['&'], some .logicalAnd⟩,
   ⟨.exactly '|' ['|'], some .logicalOr⟩,
   ⟨.exactly '!' [], some .logicalNot⟩,
   ⟨.quoted '"', some .string⟩,
   ⟨.quoted '\'', some .string⟩]

/-- What a rule found: the kind it produces, the text it took and the text it left. -/
structure Match where
  kind : Option TokenKind
  lexeme : List Char
  rest : List Char
deriving DecidableEq, Repr

def Rule.match? (rule : Rule) (cs : List Char) : Option Match :=
  (rule.pattern.split? cs).map fun (lexeme, rest) => ⟨rule.kind, lexeme, rest⟩

/-- The match of the first rule that applies. -/
def firstMatch? (cs : List Char) : Option Match :=
  rules.findSome? fun rule => rule.match? cs

theorem Rule.split?_of_match? {rule : Rule} {cs : List Char} {found : Match}
    (matched : rule.match? cs = some found) :
    rule.pattern.split? cs = some (found.lexeme, found.rest) ∧ rule.kind = found.kind := by
  simp only [Rule.match?, Option.map_eq_some_iff] at matched
  obtain ⟨⟨lexeme, rest⟩, split, rfl⟩ := matched
  exact ⟨split, rfl⟩

theorem exists_rule_of_firstMatch? {cs : List Char} {found : Match}
    (matched : firstMatch? cs = some found) :
    ∃ rule ∈ rules, rule.match? cs = some found :=
  List.exists_of_findSome?_eq_some matched

/-- What a match takes and what it leaves are the text, in this order. -/
theorem firstMatch?_append {cs : List Char} {found : Match}
    (matched : firstMatch? cs = some found) : found.lexeme ++ found.rest = cs := by
  obtain ⟨rule, _, applied⟩ := exists_rule_of_firstMatch? matched
  exact Pattern.split?_append (Rule.split?_of_match? applied).1

/-- A match takes at least one character. -/
theorem firstMatch?_ne_nil {cs : List Char} {found : Match}
    (matched : firstMatch? cs = some found) : found.lexeme ≠ [] := by
  obtain ⟨rule, _, applied⟩ := exists_rule_of_firstMatch? matched
  exact Pattern.split?_ne_nil (Rule.split?_of_match? applied).1

theorem firstMatch?_length_lt {cs : List Char} {found : Match}
    (matched : firstMatch? cs = some found) : found.rest.length < cs.length := by
  obtain ⟨rule, _, applied⟩ := exists_rule_of_firstMatch? matched
  exact Pattern.length_lt_of_split? (Rule.split?_of_match? applied).1

end ScriptTree
