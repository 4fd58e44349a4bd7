import ScriptTree.Proofs.Grammar.Recognition
import ScriptTree.Proofs.Token.Gap

/-! Layout. What stands between the tokens of a source plays no part as long as something does: the
same tokens with other blanks and comments between them are read back, and parsed alike. -/

namespace ScriptTree

/-- Blanks, and comments each with the line break that ends it. -/
inductive Gap : List Char → Prop where
  | nil : Gap []
  | blank {c : Char} {cs : List Char} : Text.isBlank c = true → Gap cs → Gap (c :: cs)
  | comment {line cs : List Char} : '\n' ∉ line → Gap cs →
      Gap ('/' :: '/' :: (line ++ '\n' :: cs))

/-- Tokens with a gap behind each. A gap begins with a blank, and only the last may be missing. -/
inductive Spread : List Token → List Char → Prop where
  | nil : Spread [] []
  | token {t : Token} {tokens : List Token} {gap cs : List Char} : Gap gap → Apart gap →
      (tokens ≠ [] → gap ≠ []) → Spread tokens cs →
      Spread (t :: tokens) (t.text.toList ++ (gap ++ cs))

/-- A text that consists of tokens and of gaps in front of them, between them and behind them. -/
def Layout (tokens : List Token) (text : String) : Prop :=
  ∃ gap cs, text.toList = gap ++ cs ∧ Gap gap ∧ Spread tokens cs

theorem Apart.append {gap cs : List Char} (apart : Apart gap) (behind : gap = [] → cs = []) :
    Apart (gap ++ cs) := by
  cases gap with
  | nil =>
    rw [behind rfl]
    exact apart
  | cons => exact apart

namespace Scanner

variable {scanner : Scanner}

theorem drain_gap {gap rest : List Char} (gapped : Gap gap)
    (unread : scanner.rest = gap ++ rest) :
    scanner.drain = (scanner.past ⟨none, gap, rest⟩).drain := by
  induction gapped generalizing scanner with
  | nil => rw [past_nil (show scanner.rest = rest from unread)]
  | blank blank _ ih =>
    rw [drain_blank unread blank, ih rfl, past_past]
    rfl
  | @comment line cs inside _ ih =>
    have break_behind : ∀ c ∈ ('\n' :: (cs ++ rest)).head?, c = '\n' := by simp
    have parts : scanner.rest = '/' :: '/' :: line ++ '\n' :: (cs ++ rest) := by
      simpa using unread
    rw [drain_skipped (.comment inside break_behind) parts, drain_blank rfl (by decide), ih rfl,
      past_past, past_past]
    simp

theorem drain_spread {tokens : List Token} {cs : List Char} (spread : Spread tokens cs)
    (proper : ∀ t ∈ tokens, t.Proper) (unread : scanner.rest = cs) :
    scanner.drain = (tokens, none) := by
  induction spread generalizing scanner with
  | nil => exact drain_nil unread
  | @token t tokens gap cs gapped apart separates spread ih =>
    obtain ⟨first, others⟩ := List.forall_mem_cons.mp proper
    have finished : gap = [] → cs = [] := by
      intro missing
      cases spread with
      | nil => rfl
      | token => exact absurd missing (separates (List.cons_ne_nil _ _))
    rw [drain_proper first (apart.append finished) unread, drain_gap gapped rfl, ih others rfl]

end Scanner

/-- A source without lexical errors can be laid out anew: the same tokens are read, and the result
of parsing is the same. -/
theorem parse_layout {source text : String} {tokens : List Token}
    (lexed : lex source = (tokens, none)) (layout : Layout tokens text) :
    lex text = (tokens, none) ∧ parse text = parse source := by
  obtain ⟨gap, cs, parts, gapped, spread⟩ := layout
  have anew : lex text = (tokens, none) := by
    rw [lex, Scanner.drain_gap gapped parts]
    exact Scanner.drain_spread spread (proper_of_lex lexed) rfl
  exact ⟨anew, (parse_of_lex_ok anew).trans (parse_of_lex_ok lexed).symm⟩

/-- A quotient that no comment may swallow, laid out with a comment on each side of the operator. -/
theorem parse_layout_quotient :
    lex "a/b" = ([⟨.identifier, "a"⟩, ⟨.multiplicative, "/"⟩, ⟨.identifier, "b"⟩], none) ∧
    lex "//\na\t// a\n/ //\n\nb" =
      ([⟨.identifier, "a"⟩, ⟨.multiplicative, "/"⟩, ⟨.identifier, "b"⟩], none) ∧
    parse "//\na\t// a\n/ //\n\nb" = parse "a/b" := by
  have lexed : lex "a/b" =
      ([⟨.identifier, "a"⟩, ⟨.multiplicative, "/"⟩, ⟨.identifier, "b"⟩], none) := by
    decide +kernel
  have before : Gap "//\n".toList := @Gap.comment [] _ (by decide) .nil
  have left : Gap "\t// a\n".toList :=
    .blank (by decide) (@Gap.comment [' ', 'a'] _ (by decide) .nil)
  have right : Gap " //\n\n".toList :=
    .blank (by decide) (@Gap.comment [] _ (by decide) (.blank (by decide) .nil))
  have spread : Spread [⟨.identifier, "a"⟩, ⟨.multiplicative, "/"⟩, ⟨.identifier, "b"⟩]
      "a\t// a\n/ //\n\nb".toList := by
    refine .token left (by rintro c ⟨⟩; decide) (by decide) ?_
    refine .token right (by rintro c ⟨⟩; decide) (by decide) ?_
    exact .token .nil nofun nofun .nil
  exact ⟨lexed, parse_layout lexed ⟨_, _, rfl, before, spread⟩⟩

end ScriptTree
