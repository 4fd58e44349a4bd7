import ScriptTree.Outline.Row
import ScriptTree.Proofs.Grammar.Recognition
import ScriptTree.Proofs.Number.Exact
import ScriptTree.Syntax.Json

/-! Numerals in a source. A row of digits in front of a semicolon is a program of one statement, and
a value of at most `2 ^ 53` is shown with the digits of the number that the numeral denotes. -/

namespace ScriptTree

open TokenKind (token)

/-- The program whose only statement is a number. -/
def Program.ofNumber (value : Number) : Program :=
  ⟨[.expression (.number value)]⟩

variable {numeral : String}

theorem lex_numeral (some : numeral.toList ≠ []) (all : numeral.toList.all Char.isDigit = true) :
    lex (numeral ++ ";") = ([⟨.number, numeral⟩, token .semicolon], none) := by
  have unread : (Scanner.start (numeral ++ ";")).rest = numeral.toList ++ [';'] := by
    simp [Scanner.start]
  have stop : ∀ c ∈ [';'].head?, CharClass.digit.contains c = false := by
    rintro _ ⟨⟩
    decide
  have matched := firstMatch?_digits some all stop
  have apart : Apart [] := by simp [Apart]
  rw [lex, Scanner.drain_token (unread ▸ matched) rfl,
    Scanner.drain_proper (TokenKind.token_proper .semicolon) apart rfl, Scanner.drain_nil rfl,
    String.ofList_toList]

theorem derives_number {value : Number} (denotes : Number.ofNumeral? numeral = some value) :
    Derives [⟨.number, numeral⟩, token .semicolon] (.ofNumber value) :=
  have literal : DerivesExpr .primary [⟨.number, numeral⟩] (.number value) :=
    .literal (.number denotes)
  .last (.expression (literal.widen (Nat.zero_le _)))

/-- A row of digits and a semicolon are a program, however many zeros stand in front. -/
theorem parse_digits (some : numeral.toList ≠ []) (all : numeral.toList.all Char.isDigit = true)
    (within : Nat.ofDigitChars 10 numeral.toList 0 ≤ 2 ^ 53) :
    parse (numeral ++ ";") =
      .ok (.ofNumber (.finite (Nat.ofDigitChars 10 numeral.toList 0))) := by
  rw [parse_of_lex_ok (lex_numeral some all)]
  exact Grammar.parseTokens_of_derives
    (derives_number (Number.ofNumeral?_of_digits some all within))

namespace Program

theorem rows_ofNumber (value : Number) : (ofNumber value).rows =
    [⟨0, none, "Program", none, true⟩,
     ⟨1, none, "ExpressionStatement", none, true⟩,
     ⟨2, some "expression", "NumericLiteral", some value.plain, false⟩] := rfl

theorem toJson_ofNumber (value : Number) : (ofNumber value).toJson =
    .object [("type", .string "Program"), ("body", .array
      [.object [("type", .string "ExpressionStatement"), ("expression",
        .object [("type", .string "NumericLiteral"), ("value", .number value)])]])] := rfl

theorem compact_ofNumber (value : Number) : (ofNumber value).toJson.compact =
    "\x7b\"type\":\"Program\",\"body\":[\x7b\"type\":\"ExpressionStatement\"," ++
      "\"expression\":\x7b\"type\":\"NumericLiteral\",\"value\":" ++
      value.write Json.numberStyle ++ "\x7d\x7d]\x7d" := by
  apply String.toList_inj.mp
  rw [Json.compact, String.toList_ofList, toJson_ofNumber]
  simp [Json.write, Json.writeItems, Json.writeMembers,
    Json.Layout.compact, Json.quote, Json.escapeChar]

theorem pretty_ofNumber (value : Number) : (ofNumber value).toJson.pretty =
    "\x7b\n  \"type\": \"Program\",\n  \"body\": [\n    \x7b\n" ++
      "      \"type\": \"ExpressionStatement\",\n      \"expression\": \x7b\n" ++
      "        \"type\": \"NumericLiteral\",\n        \"value\": " ++
      value.write Json.numberStyle ++ "\n      \x7d\n    \x7d\n  ]\n\x7d" := by
  apply String.toList_inj.mp
  rw [Json.pretty, String.toList_ofList, toJson_ofNumber]
  simp [Json.write, Json.writeItems, Json.writeMembers,
    Json.Layout.indented, Json.quote, Json.escapeChar]

end Program

/-- A numeral of a number up to `2 ^ 53` is shown exactly: without the zeros in front in the
outline, and with `.0` behind it in the JSON text. -/
theorem numeral_shown_exactly {n : Nat} (some : numeral ≠ "")
    (all : numeral.toList.all Char.isDigit = true)
    (denotes : Nat.ofDigitChars 10 numeral.toList 0 = n) (within : n ≤ 2 ^ 53) :
    ∃ program, parse (numeral ++ ";") = .ok program ∧
      program.rows =
        [⟨0, none, "Program", none, true⟩,
         ⟨1, none, "ExpressionStatement", none, true⟩,
         ⟨2, .some "expression", "NumericLiteral", .some (toString n), false⟩] ∧
      program.toJson.compact =
        "\x7b\"type\":\"Program\",\"body\":[\x7b\"type\":\"ExpressionStatement\"," ++
          "\"expression\":\x7b\"type\":\"NumericLiteral\",\"value\":" ++
          (toString n ++ ".0") ++ "\x7d\x7d]\x7d" ∧
      program.toJson.pretty =
        "\x7b\n  \"type\": \"Program\",\n  \"body\": [\n    \x7b\n" ++
          "      \"type\": \"ExpressionStatement\",\n      \"expression\": \x7b\n" ++
          "        \"type\": \"NumericLiteral\",\n        \"value\": " ++
          (toString n ++ ".0") ++ "\n      \x7d\n    \x7d\n  ]\n\x7d" := by
  subst denotes
  refine ⟨_, parse_digits (mt String.toList_eq_nil_iff.mp some) all within, ?_, ?_, ?_⟩
  · rw [Program.rows_ofNumber, Number.plain_of_exact within]
  · rw [Program.compact_ofNumber, Number.write_of_exact _ within]
  · rw [Program.pretty_ofNumber, Number.write_of_exact _ within]

/-- The largest of these numbers, with two zeros in front. -/
theorem numeral_shown_exactly_edge :
    ∃ program, parse "009007199254740992;" = .ok program ∧
      (program.rows.map Row.detail)[2]? = some (some "9007199254740992") ∧
      program.toJson.compact = "\x7b\"type\":\"Program\",\"body\":[\x7b\"type\":" ++
        "\"ExpressionStatement\",\"expression\":\x7b\"type\":\"NumericLiteral\"," ++
        "\"value\":9007199254740992.0\x7d\x7d]\x7d" := by
  have all : "009007199254740992".toList.all Char.isDigit = true := by decide +kernel
  have denotes : Nat.ofDigitChars 10 "009007199254740992".toList 0 = 2 ^ 53 := by
    decide +kernel
  obtain ⟨program, read, rows, compact, -⟩ :=
    numeral_shown_exactly (by decide) all denotes (Nat.le_refl _)
  refine ⟨program, read, ?_, ?_⟩
  · rw [rows]
    decide +kernel
  · rw [compact]
    decide +kernel

end ScriptTree
