import ScriptTree.Proofs.Grammar.Recognition
import ScriptTree.Proofs.Syntax.WellFormed

/-! The trees that sources denote are well formed. Their names, strings and numbers are the texts of
tokens, and where a source has a tree, all its tokens are proper. -/

namespace ScriptTree

/-- The content of a string lacks the quote around it. -/
theorem isQuotable_content {text : String} {quote : Char} {content : List Char}
    (spelled : TokenKind.string.Spells text) (shape : text.toList = quote :: content ++ [quote]) :
    IsQuotable (String.ofList content) := by
  obtain ⟨_, mark, _, inside, shape'⟩ := spelled
  obtain ⟨rfl, behind⟩ := List.cons.inj (shape.symm.trans shape')
  obtain rfl := List.append_cancel_right behind
  rw [IsQuotable, String.toList_ofList]
  simp only [List.mem_cons, List.not_mem_nil, or_false] at mark
  obtain rfl | rfl := mark
  · exact Or.inl inside
  · exact Or.inr inside

theorem DerivesLiteral.wellFormed {t : Token} {value : Expr} (derived : DerivesLiteral t value)
    (proper : t.Proper) : value.WellFormed := by
  cases derived with
  | number numeral => exact ⟨_, numeral⟩
  | string _ shape => exact isQuotable_content proper.spelled shape
  | boolean_true | boolean_false | null => exact trivial

theorem DerivesExpr.wellFormed {production : ExprClass} {ts : List Token} {value : Expr}
    (derived : DerivesExpr production ts value) (proper : ∀ t ∈ ts, t.Proper) :
    value.WellFormed := by
  induction derived with
  | chain _ ih | operand _ ih | primary _ ih => exact ih proper
  | assign operator _ _ left_ih right_ih =>
    obtain ⟨before, behind⟩ := List.forall_mem_append.mp proper
    -- The target is a name, and this is all that its being well formed says.
    exact ⟨left_ih before, right_ih (List.forall_mem_cons.mp behind).2⟩
  | join operator _ _ _ left_ih right_ih =>
    obtain ⟨before, behind⟩ := List.forall_mem_append.mp proper
    have left := left_ih before
    have right := right_ih (List.forall_mem_cons.mp behind).2
    cases operator <;> exact ⟨left, right⟩
  | signed operator _ ih => exact ih (List.forall_mem_cons.mp proper).2
  | literal derived => exact derived.wellFormed (proper _ List.mem_cons_self)
  | name text => exact isName_iff_proper.mpr (proper _ List.mem_cons_self)
  | parentheses _ ih =>
    obtain ⟨-, inside⟩ := List.forall_mem_cons.mp proper
    exact ih (List.forall_mem_append.mp inside).1

/-! ### Clauses -/

theorem DerivesDeclaration.wellFormed {ts : List Token} {declaration : Declaration}
    (derived : DerivesDeclaration ts declaration) (proper : ∀ t ∈ ts, t.Proper) :
    declaration.WellFormed := by
  cases derived with
  | bare text => exact ⟨isName_iff_proper.mpr (proper _ List.mem_cons_self), nofun⟩
  | initialized text derived =>
    obtain ⟨first, others⟩ := List.forall_mem_cons.mp proper
    refine ⟨isName_iff_proper.mpr first, ?_⟩
    rintro _ ⟨⟩
    exact derived.wellFormed (List.forall_mem_cons.mp others).2

/-- There are declarations, and all of them are well formed. -/
theorem DerivesDeclarations.wellFormed {ts : List Token} {list : List Declaration}
    (derived : DerivesDeclarations ts list) (proper : ∀ t ∈ ts, t.Proper) :
    list ≠ [] ∧ ∀ declaration ∈ list, declaration.WellFormed := by
  induction derived with
  | last derived =>
    exact ⟨List.cons_ne_nil _ _, List.forall_mem_singleton.mpr (derived.wellFormed proper)⟩
  | more derived _ ih =>
    obtain ⟨before, behind⟩ := List.forall_mem_append.mp proper
    obtain ⟨-, others⟩ := ih (List.forall_mem_cons.mp behind).2
    exact ⟨List.cons_ne_nil _ _, List.forall_mem_cons.mpr ⟨derived.wellFormed before, others⟩⟩

theorem DerivesForInit.wellFormed {ts : List Token} {init : ForInit}
    (derived : DerivesForInit ts init) (proper : ∀ t ∈ ts, t.Proper) : init.WellFormed := by
  cases derived with
  | declarations derived => exact derived.wellFormed (List.forall_mem_cons.mp proper).2
  | expression derived => exact DerivesExpr.wellFormed derived proper

/-- What holds of every clause that a list derives holds of one that may be missing. -/
theorem DerivesOption.forall_mem {α : Type} {Derives : List Token → α → Prop} {ts : List Token}
    {clause : Option α} {p : α → Prop} (derived : DerivesOption Derives ts clause)
    (each : ∀ value, Derives ts value → p value) : ∀ value ∈ clause, p value := by
  cases derived with
  | absent => exact nofun
  | present derived =>
    rintro _ ⟨⟩
    exact each _ derived

/-! ### Statements -/

theorem DerivesStmts.ne_nil {ts : List Token} {list : List Stmt} (derived : DerivesStmts ts list) :
    list ≠ [] := by
  cases derived <;> exact List.cons_ne_nil _ _

mutual

theorem DerivesStmt.wellFormed {ts : List Token} {stmt : Stmt} (derived : DerivesStmt ts stmt)
    (proper : ∀ t ∈ ts, t.Proper) : stmt.WellFormed := by
  cases derived with
  | expression derived => exact derived.wellFormed (List.forall_mem_append.mp proper).1
  | empty => exact trivial
  | block derived => exact derived.wellFormed proper
  | declaration derived =>
    obtain ⟨-, others⟩ := List.forall_mem_cons.mp proper
    exact derived.wellFormed (List.forall_mem_append.mp others).1
  | ifThen test body =>
    simp only [List.forall_mem_cons, List.forall_mem_append] at proper
    obtain ⟨-, -, properTest, -, properBody⟩ := proper
    exact ⟨test.wellFormed properTest, trivial, body.wellFormed properBody, trivial⟩
  | ifElse test body alternate =>
    simp only [List.forall_mem_cons, List.forall_mem_append] at proper
    obtain ⟨-, -, properTest, -, properBody, -, properAlternate⟩ := proper
    exact ⟨test.wellFormed properTest, trivial, body.wellFormed properBody, trivial,
      alternate.wellFormed properAlternate⟩
  | whileLoop test body =>
    simp only [List.forall_mem_cons, List.forall_mem_append] at proper
    obtain ⟨-, -, properTest, -, properBody⟩ := proper
    exact ⟨test.wellFormed properTest, trivial, body.wellFormed properBody⟩
  | doWhile body test =>
    simp only [List.forall_mem_cons, List.forall_mem_append] at proper
    obtain ⟨-, properBody, -, -, properTest, -⟩ := proper
    exact ⟨trivial, body.wellFormed properBody, test.wellFormed properTest⟩
  | forLoop init test update body =>
    simp only [List.forall_mem_cons, List.forall_mem_append] at proper
    obtain ⟨-, -, properInit, -, properTest, -, properUpdate, -, properBody⟩ := proper
    exact ⟨init.forall_mem fun _ derived => derived.wellFormed properInit,
      test.forall_mem fun _ derived => derived.wellFormed properTest,
      update.forall_mem fun _ derived => derived.wellFormed properUpdate, trivial,
      body.wellFormed properBody⟩

theorem DerivesBlock.wellFormed {ts : List Token} {body : List Stmt}
    (derived : DerivesBlock ts body) (proper : ∀ t ∈ ts, t.Proper) :
    Stmt.ListWellFormed body := by
  cases derived with
  | empty => exact trivial
  | full derived =>
    obtain ⟨-, inside⟩ := List.forall_mem_cons.mp proper
    exact derived.wellFormed (List.forall_mem_append.mp inside).1

theorem DerivesStmts.wellFormed {ts : List Token} {list : List Stmt}
    (derived : DerivesStmts ts list) (proper : ∀ t ∈ ts, t.Proper) :
    Stmt.ListWellFormed list := by
  cases derived with
  | last derived => exact ⟨derived.wellFormed proper, trivial⟩
  | more first others =>
    obtain ⟨before, behind⟩ := List.forall_mem_append.mp proper
    exact ⟨first.wellFormed before, others.wellFormed behind⟩

end

/-- The statements of a source are derived from proper tokens. -/
theorem exists_derivation_of_parse {source : String} {program : Program}
    (read : parse source = .ok program) :
    ∃ tokens, DerivesStmts tokens program.body ∧ ∀ t ∈ tokens, t.Proper := by
  obtain ⟨tokens, lexed, formed⟩ := exists_lex_of_parse read
  exact ⟨tokens, derives_of_parseTokens (allSpelled_of_lex lexed) formed, proper_of_lex lexed⟩

/-- The tree of a source is well formed: it has statements, its branches and loops control blocks,
no list of declarations is empty, no name is a keyword, every string leaves one of the quotes to
stand around it, and every number is one that digits denote. -/
theorem wellFormed_of_parse {source : String} {program : Program}
    (read : parse source = .ok program) : program.WellFormed := by
  obtain ⟨tokens, lexed, formed⟩ := exists_lex_of_parse read
  have derived : DerivesStmts tokens program.body :=
    derives_of_parseTokens (allSpelled_of_lex lexed) formed
  exact ⟨derived.ne_nil, derived.wellFormed (proper_of_lex lexed)⟩

/-- A loop that declares a name, whose number has zeros in front and whose string holds a quote. -/
theorem wellFormed_of_parse_loop :
    let init : ForInit := .declarations [⟨"i", some (.number (.finite 7))⟩]
    let update : Expr := .assignment .assign "s" (.string "it's")
    let program : Program := ⟨[.forLoop (some init) none (some update) (.block [])]⟩
    parse "for (int i = 007; ; s = \"it's\") \x7b\x7d" = .ok program ∧ program.WellFormed := by
  intro init update program
  have read : parse "for (int i = 007; ; s = \"it's\") \x7b\x7d" = .ok program := by
    decide +kernel
  exact ⟨read, wellFormed_of_parse read⟩

end ScriptTree
