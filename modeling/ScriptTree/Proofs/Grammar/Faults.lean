import ScriptTree.Proofs.Grammar.Invariant
import ScriptTree.Proofs.Syntax.Operators
import ScriptTree.Proofs.Text.Slice

/-! Faults of a parser. Its productions have branches for tokens whose texts do not fit their kinds,
and no source leads to one of them: in every state of a parser the token ahead is one of the source,
and the text of such a token has a meaning for each production that takes it. -/

namespace ScriptTree

open Grammar TokenSource

/-! ### Names of operators -/

/-- Whether a text is read as an operator of a family whose symbol it is. -/
def Names (ω : Type) [OperatorFamily ω] (text : String) : Prop :=
  ∃ operator : ω, OperatorFamily.ofSymbol? text = some operator ∧
    OperatorFamily.symbol operator = text

/-- If a family has an operator for each text of some kinds, every token of these kinds is read as
one of them. -/
theorem Token.Spelled.names {ω : Type} [OperatorFamily ω] {t : Token}
    {kinds : List TokenKind} (spelled : t.Spelled) (kind : t.kind ∈ kinds)
    (known : ∀ kind ∈ kinds, kind ∉ TokenKind.varied ∧ ∀ text ∈ kind.texts,
      (OperatorFamily.ofSymbol? text : Option ω).isSome) : Names ω t.text := by
  obtain ⟨few, read⟩ := known t.kind kind
  obtain ⟨operator, read⟩ :=
    Option.isSome_iff_exists.mp (read t.text ((TokenKind.spells_iff few).mp spelled))
  exact ⟨operator, read, (OperatorFamily.ofSymbol?_eq_some ..).mp read⟩

/-! ### Meanings of tokens -/

/-- What the productions rely on when they have taken a token. -/
structure Token.HasMeaning (t : Token) : Prop where
  /-- The quotes of a string are single bytes, so what is between them can be cut out. -/
  string : t.kind = .string → 2 ≤ t.text.utf8ByteSize ∧
    (∃ quote : Char, quote.utf8Size = 1 ∧ t.text.toList.head? = some quote ∧
      t.text.toList.getLast? = some quote) ∧
    Text.slice? t.text 1 (t.text.utf8ByteSize - 1) = some t.content
  number : t.kind = .number → ∃ value, Number.ofNumeral? t.text = some value
  assignment : t.kind.isAssignment = true → Names AssignmentOperator t.text
  logical : t.kind ∈ [.logicalOr, .logicalAnd] → Names LogicalOperator t.text
  binary : t.kind ∈ [.equality, .relational, .additive, .multiplicative] →
    Names BinaryOperator t.text
  unary : t.kind ∈ [.additive, .logicalNot] → Names UnaryOperator t.text
  /-- Each level joins its operands by the operator. -/
  join : ∀ level : Level, t.kind = level.operator → ∃ operator : Connective,
    operator.symbol = t.text ∧ ∀ left right,
      level.join? t.text left right = some (operator.join left right)

namespace Token.Spelled

variable {t : Token}

theorem cut_string (spelled : t.Spelled) (kind : t.kind = .string) : 2 ≤ t.text.utf8ByteSize ∧
    (∃ quote : Char, quote.utf8Size = 1 ∧ t.text.toList.head? = some quote ∧
      t.text.toList.getLast? = some quote) ∧
    Text.slice? t.text 1 (t.text.utf8ByteSize - 1) = some t.content := by
  obtain ⟨_, text⟩ := t
  subst kind
  obtain ⟨quote, mark, content, -, shape⟩ := spelled
  have single : quote.utf8Size = 1 := (of_mem_quotes quote mark).1
  have size : text.utf8ByteSize = byteLength content + 2 := by
    rw [← byteLength_toList, shape, byteLength_append, byteLength, byteLength, byteLength, single]
    omega
  have inner : text.utf8ByteSize - 1 = byteLength ([quote] ++ content) := by
    rw [size, byteLength_append, byteLength, byteLength, single]
    omega
  have cut := Token.content_of_quoted shape .string
  refine ⟨by rw [size]; exact Nat.le_add_left .., ⟨quote, single, ?_, ?_⟩, ?_⟩
  · rw [shape]
    rfl
  · rw [shape, List.getLast?_concat]
  · have parts : text.toList = [quote] ++ content ++ [quote] := shape
    rw [inner, cut, ← Text.slice?_of_parts parts, byteLength, byteLength, single]

end Token.Spelled

/-- Every token whose text is one of its kind has a meaning wherever it is taken. -/
theorem Token.Spelled.hasMeaning {t : Token} (spelled : t.Spelled) : t.HasMeaning where
  string := spelled.cut_string
  number kind := by
    obtain ⟨_, text⟩ := t
    subst kind
    exact exists_numeral spelled
  assignment assigns := by
    have kind : t.kind ∈ [TokenKind.simpleAssignment, .compoundAssignment] := by
      revert assigns
      cases t.kind <;> simp [TokenKind.isAssignment]
    exact spelled.names kind (by decide)
  logical kind := spelled.names kind (by decide)
  binary kind := spelled.names kind (by decide)
  unary kind := spelled.names kind (by decide)
  join level kind := by
    obtain ⟨operator, rfl, rfl⟩ := Connective.exists_of_spelled spelled kind
    rw [operator.token_eq]
    exact ⟨operator, rfl, operator.join?_symbol⟩

/-! ### States of a parser -/

namespace Parser

variable {parser : Parser} {source : String} {cursor : Cursor}

/-- The states of a parser while it reads a source: it has moved on to the first token, or from a
token to the next. -/
inductive Reaches (parser : Parser) (source : String) : Cursor → Prop where
  | loaded {cursor : Cursor} : (parser.load source).refill = .ok cursor →
      Reaches parser source cursor
  | advanced {cursor next : Cursor} {token : Token} : Reaches parser source cursor →
      cursor.lookahead = some token → cursor.advance = .ok next → Reaches parser source next

namespace Reaches

/-- What a parser has in front of it is left of the tokens of its source. -/
theorem content_suffix (reached : parser.Reaches source cursor) :
    cursor.content.1 <:+ (lex source).1 := by
  induction reached with
  | loaded moved =>
    rw [Cursor.content_of_refill moved]
    exact List.suffix_refl _
  | @advanced cursor next token reached ahead moved ih =>
    rw [Cursor.content_of_refill moved]
    rw [Cursor.content, ahead] at ih
    exact (List.suffix_cons _ _).trans ih

theorem mem_lex (reached : parser.Reaches source cursor) {token : Token}
    (ahead : cursor.lookahead = some token) : token ∈ (lex source).1 := by
  refine reached.content_suffix.subset ?_
  rw [Cursor.content, ahead]
  exact List.mem_cons_self

end Reaches

/-- That a state is reached is kept as the parser moves on, and the token ahead is spelled. -/
def states (parser : Parser) (source : String) : Invariant Cursor where
  holds := parser.Reaches source
  spelled reached ahead := Scanner.spelled_of_mem_drain (.start source) _ (reached.mem_lex ahead)
  advance reached ahead moved := reached.advanced ahead moved

theorem isGenuine_of_parse {error : ParseError}
    (failed : (parser.parse source).1 = .error error) : error.IsGenuine := by
  unfold parse at failed
  split at failed
  · cases failed
    exact trivial
  · rename_i cursor moved
    have sound : (parser.states source).Sound (program cursor).plain :=
      sound_program (I := parser.states source) (.loaded moved)
    replace failed : (program cursor).outcome = .error error := failed
    rw [Reading.outcome_eq_result] at failed
    exact sound.isGenuine failed

/-- What a production takes in a state of a parser is a token of the source, and the parser is then
in a state behind it. -/
theorem Reaches.of_eat (reached : parser.Reaches source cursor) {kind : TokenKind}
    {parsed : Parsed Cursor (size cursor) Token} (taken : eat kind cursor = .ok parsed) :
    parsed.value ∈ (lex source).1 ∧ parsed.value.kind = kind ∧
      parser.Reaches source parsed.rest := by
  have read : (eat kind cursor).plain = .ok (parsed.value, parsed.rest) := by
    rw [taken, Reading.plain_ok]
  obtain ⟨ahead, moved, same, -⟩ := (parser.states source).of_eat reached read
  exact ⟨reached.mem_lex ahead, same, reached.advanced ahead moved⟩

/-- No source leads a parser to an internal error, whatever it has read before. It never reports a
token of the expected kind as unexpected or a literal that is none. The tokens that its productions
take are tokens of the source, and each has a meaning where it is taken. The operators of the tree
are spelled as they are in the source. -/
theorem parse_has_no_internal_error (parser : Parser) (source : String) :
    (∀ found expected, (parser.parse source).1 = .error (.unexpectedToken found expected) →
      found.kind ≠ expected) ∧
    (∀ found, (parser.parse source).1 ≠ .error (.notLiteral found)) ∧
    (∀ token ∈ (lex source).1, token.HasMeaning) ∧
    (∀ cursor kind parsed, parser.Reaches source cursor → eat kind cursor = .ok parsed →
      parsed.value ∈ (lex source).1 ∧ parsed.value.kind = kind ∧
        parser.Reaches source parsed.rest) ∧
    ∀ program, (parser.parse source).1 = .ok program →
      operatorTexts (lex source).1 = program.symbols := by
  refine ⟨?_, ?_, ?_, ?_, ?_⟩
  · intro found expected failed
    exact isGenuine_of_parse failed
  · intro found failed
    exact isGenuine_of_parse failed
  · intro token listed
    exact (Scanner.spelled_of_mem_drain (.start source) token listed).hasMeaning
  · intro cursor kind parsed reached taken
    exact reached.of_eat taken
  · intro program read
    exact symbols_of_parse ((parser.parse_eq_parse source).symm.trans read)

/-- Signs, comparisons and strings of both quotes, one with a character of two bytes. -/
theorem parse_has_no_internal_error_signs :
    let source := "int n = -1; n += 'ä' != \"\" && !n;"
    let program : Program := ⟨[.declaration [⟨"n", some (.unary .neg (.number (.finite 1)))⟩],
      .expression (.assignment .addAssign "n" (.logical .and
        (.binary .ne (.string "ä") (.string "")) (.unary .not (.identifier "n"))))]⟩
    (fresh.parse source).1 = .ok program ∧ program.symbols = ["=", "-", "+=", "!=", "&&", "!"] ∧
      Text.slice? "'ä'" 1 3 = some "ä" ∧ Names AssignmentOperator "+=" := by
  intro source program
  have read : (fresh.parse source).1 = .ok program := by decide +kernel
  have quoted : ⟨.string, "'ä'"⟩ ∈ (lex source).1 := by decide +kernel
  have assigns : ⟨.compoundAssignment, "+="⟩ ∈ (lex source).1 := by decide +kernel
  have texts : operatorTexts (lex source).1 = ["=", "-", "+=", "!=", "&&", "!"] := by
    decide +kernel
  obtain ⟨-, -, meaning, -, symbols⟩ := parse_has_no_internal_error fresh source
  exact ⟨read, (symbols program read).symm.trans texts, ((meaning _ quoted).string rfl).2.2,
    (meaning _ assigns).assignment rfl⟩

end Parser
end ScriptTree
