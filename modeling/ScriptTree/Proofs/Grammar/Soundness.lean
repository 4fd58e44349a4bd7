import ScriptTree.Proofs.Grammar.Completeness
import ScriptTree.Proofs.Grammar.Explanation

/-! The grammar explains what the productions do: what they read it derives, and where they stop
with an error, the tokens before it can be completed to a program with any token of the expected
kind. -/

namespace ScriptTree

open TokenKind (token)
open TokenSource

/-! ### Operators -/

theorem Connective.exists_of_text : ∀ level : Level, ∀ text ∈ level.operator.texts,
    ∃ operator ∈ ((OperatorFamily.ofSymbol? text).map Connective.binary).toList ++
      ((OperatorFamily.ofSymbol? text).map Connective.logical).toList,
      operator.level = level ∧ operator.token = ⟨level.operator, text⟩ := by
  intro level
  cases level <;> decide

theorem Connective.exists_of_spelled {t : Token} {level : Level} (spelled : t.Spelled)
    (kind : t.kind = level.operator) :
    ∃ operator : Connective, operator.level = level ∧ operator.token = t := by
  obtain ⟨_, text⟩ := t
  subst kind
  have few : level.operator ∉ TokenKind.varied := by
    cases level <;> decide
  obtain ⟨operator, -, same, shape⟩ :=
    exists_of_text level text ((TokenKind.spells_iff few).mp spelled)
  exact ⟨operator, same, shape⟩

theorem AssignmentOperator.token_of_text : ∀ kind ∈ TokenKind.all, kind.isAssignment = true →
    ∀ text ∈ kind.texts,
      (OperatorFamily.ofSymbol? text).map AssignmentOperator.token = some ⟨kind, text⟩ := by
  decide

theorem AssignmentOperator.exists_of_spelled {t : Token} (spelled : t.Spelled)
    (assigns : t.kind.isAssignment = true) :
    ∃ operator : AssignmentOperator, operator.token = t := by
  obtain ⟨kind, text⟩ := t
  have few : kind ∉ TokenKind.varied := by
    cases kind <;> first | decide | cases assigns
  obtain ⟨operator, -, shape⟩ := Option.map_eq_some_iff.mp
    (token_of_text kind (TokenKind.mem_all kind) assigns text
      ((TokenKind.spells_iff few).mp spelled))
  exact ⟨operator, shape⟩

theorem UnaryOperator.token_of_text : ∀ kind ∈ [TokenKind.additive, .logicalNot],
    ∀ text ∈ kind.texts,
      (OperatorFamily.ofSymbol? text).map UnaryOperator.token = some ⟨kind, text⟩ := by
  decide

theorem UnaryOperator.exists_of_spelled {t : Token} (spelled : t.Spelled)
    (sign : t.kind ∈ [TokenKind.additive, .logicalNot]) :
    ∃ operator : UnaryOperator, operator.token = t := by
  obtain ⟨kind, text⟩ := t
  have few : kind ∉ TokenKind.varied := by
    simp only [List.mem_cons, List.not_mem_nil, or_false] at sign
    rcases sign with rfl | rfl <;> decide
  obtain ⟨operator, -, shape⟩ := Option.map_eq_some_iff.mp
    (token_of_text kind sign text ((TokenKind.spells_iff few).mp spelled))
  exact ⟨operator, shape⟩

theorem exists_numeral {text : String} (spelled : TokenKind.number.Spells text) :
    ∃ value, Number.ofNumeral? text = some value :=
  ⟨_, if_pos spelled⟩

/-- A name is an expression of every production. -/
theorem DerivesExpr.sample (production : ExprClass) :
    DerivesExpr production [token .identifier] (.identifier "x") := by
  refine (DerivesExpr.name "x").widen ?_
  cases production with
  | level level => cases level <;> decide
  | assignment | unary | primary => decide

namespace Grammar

theorem peekKind_congr {s s' : List Token} (head : s'.head? = s.head?) :
    peekKind s' = peekKind s :=
  congrArg (Option.map Token.kind) head

/-! ### Expressions -/

theorem explains_identifier {s : List Token} (spelled : AllSpelled s) :
    Explains (fun ts name => ts = [⟨.identifier, name⟩]) (fun s => (identifier s).plain) s := by
  simp only [plain_identifier]
  apply (Explains.eat spelled .identifier).map
  rintro _ ⟨_, name⟩ ⟨rfl, rfl, -⟩
  rfl

theorem explains_numeral {s : List Token} (spelled : AllSpelled s) :
    Explains (DerivesExpr .primary) (fun s => (eat .number s).plain.andThen numberValue) s := by
  apply (Explains.eat spelled .number).andThen
  · rintro _ ⟨_, text⟩ ⟨rfl, rfl, spelled⟩
    obtain ⟨value, numeral⟩ := exists_numeral spelled
    exact .of_derives (.literal (.number numeral))
  · rintro _ ⟨_, text⟩ r - ⟨rfl, rfl, spelled⟩ -
    obtain ⟨value, numeral⟩ := exists_numeral spelled
    have derived : DerivesExpr .primary ([⟨.number, text⟩] ++ []) (.number value) :=
      .literal (.number numeral)
    exact (Explains.done derived r).congr fun s' _ => by simp only [numberValue, numeral]

theorem explains_literal {s : List Token} (spelled : AllSpelled s) {kind : TokenKind}
    (ahead : peekKind s = some kind) (isLiteral : kind.isLiteral = true) :
    Explains (DerivesExpr .primary) (fun s => (literal s).plain) s := by
  have decides (s' : List Token) (head : s'.head? = s.head?) : peekKind s' = some kind :=
    (peekKind_congr head).trans ahead
  cases kind <;> try contradiction
  case number =>
    exact (explains_numeral spelled).congr fun s' head => by rw [plain_literal, decides s' head]
  case string =>
    have explained : Explains (DerivesExpr .primary)
        (fun s => (eat .string s).plain.map fun token => .string token.content) s := by
      apply (Explains.eat spelled .string).map
      rintro _ ⟨_, text⟩ ⟨rfl, rfl, quote, mark, content, -, shape⟩
      rw [Token.content_of_quoted shape]
      exact .literal (.string mark shape)
    exact explained.congr fun s' head => by rw [plain_literal, decides s' head]
  case kwTrue =>
    exact (Explains.eat_map spelled rfl (.literal .boolean_true)).congr
      fun s' head => by rw [plain_literal, decides s' head]
  case kwFalse =>
    exact (Explains.eat_map spelled rfl (.literal .boolean_false)).congr
      fun s' head => by rw [plain_literal, decides s' head]
  case kwNull =>
    exact (Explains.eat_map spelled rfl (.literal .null)).congr
      fun s' head => by rw [plain_literal, decides s' head]

/-- The operator is taken before it shows that its target is no name. -/
theorem explains_badTarget {D : List Token → Expr → Prop} {s : List Token} {left : Expr}
    {kind : TokenKind} (spelled : AllSpelled s) (ahead : peekKind s = some kind)
    (assigns : kind.isAssignment = true) (bad : ∀ name, left ≠ .identifier name)
    (viable : Completable D []) :
    Explains D (fun s => (eat kind s).plain.andThen (assigned left)) s := by
  cases s with
  | nil => cases ahead
  | cons t r =>
    cases ahead
    obtain ⟨operator, rfl⟩ :=
      AssignmentOperator.exists_of_spelled (spelled t List.mem_cons_self) assigns
    refine .invalid [] r operator.token left.kindName rfl assigns viable fun r' => ?_
    rw [List.nil_append, plain_eat_cons_self, Outcome.andThen_ok]
    simp only [assigned, operator.ofSymbol?_token]

mutual

theorem explains_assignment (s : List Token) (spelled : AllSpelled s) :
    Explains (DerivesExpr .assignment) (fun s => (assignment s).plain) s := by
  simp only [plain_assignment]
  refine (explains_chain .or s spelled).andThen
    (fun c left derived => .of_derives (.chain derived)) ?_
  intro c left s₁ parts derived read
  have smaller := Reading.size_lt_of_plain read
  have spelled₁ := spelled.rest parts
  have alone : DerivesExpr .assignment (c ++ []) left := by
    rw [List.append_nil]
    exact .chain derived
  cases ahead : peekKind s₁ with
  | none =>
    exact (Explains.done alone s₁).congr fun s' head => by rw [peekKind_congr head, ahead]
  | some kind =>
    by_cases assigns : kind.isAssignment = true
    · have explained : Explains (After c (DerivesExpr .assignment))
          (fun s => (eat kind s).plain.andThen (assigned left)) s₁ := by
        cases left with
        | identifier target =>
          apply (Explains.eat spelled₁ kind).andThen
          · rintro _ t ⟨rfl, rfl, spelled⟩
            obtain ⟨operator, rfl⟩ := AssignmentOperator.exists_of_spelled spelled assigns
            exact .of_kinds [.identifier] (.assign operator derived (.sample .assignment))
          · rintro _ t s₂ parts ⟨rfl, rfl, spelled'⟩ read
            have smaller₂ := Reading.size_lt_of_plain read
            obtain ⟨operator, rfl⟩ := AssignmentOperator.exists_of_spelled spelled' assigns
            have rest : Explains (After [operator.token] (After c (DerivesExpr .assignment)))
                (fun s => (assignment s).plain.map (.assignment operator target)) s₂ :=
              (explains_assignment s₂ (spelled₁.rest parts)).map
                fun d right derived' => .assign operator derived derived'
            exact rest.congr fun s' _ => by simp only [assigned, operator.ofSymbol?_token]
        | _ =>
          refine explains_badTarget spelled₁ ahead assigns ?_ (.of_derives alone)
          intro name same
          cases same
      exact explained.congr fun s' head => by
        rw [peekKind_congr head, ahead]
        simp only [assigns, if_true]
    · exact (Explains.done alone s₁).congr fun s' head => by
        rw [peekKind_congr head, ahead]
        simp only [assigns, Bool.false_eq_true, if_false]
termination_by 16 * size s + 14
decreasing_by
  · exact Nat.add_lt_add_left (by decide : 2 * Level.or.height + 1 < 14) _
  · omega

theorem explains_chain (level : Level) (s : List Token) (spelled : AllSpelled s) :
    Explains (DerivesExpr (.level level)) (fun s => (chain level s).plain) s := by
  simp only [plain_chain]
  refine (explains_operand level s spelled).andThen
    (fun c left derived => .of_derives (.operand derived)) ?_
  intro c left s₁ parts derived read
  have smaller := Reading.size_lt_of_plain read
  exact explains_chainOnward level c left s₁ (.operand derived) (spelled.rest parts)
termination_by 16 * size s + 2 * level.height + 1

theorem explains_chainOnward (level : Level) (c : List Token) (left : Expr) (s : List Token)
    (derived : DerivesExpr (.level level) c left) (spelled : AllSpelled s) :
    Explains (After c (DerivesExpr (.level level))) (fun s => (chainOnward level left s).plain)
      s := by
  by_cases more : peekKind s = some level.operator
  · have explained : Explains (After c (DerivesExpr (.level level)))
        (fun s => (eat level.operator s).plain.andThen fun token s₁ =>
          (operand level s₁).plain.andThen (joined level left token)) s := by
      apply (Explains.eat spelled level.operator).andThen
      · rintro _ t ⟨rfl, kind, spelled⟩
        obtain ⟨operator, same, rfl⟩ := Connective.exists_of_spelled spelled kind
        have whole := DerivesExpr.join operator same derived (.sample level.operandClass)
        exact .of_kinds [.identifier] (by simpa [After] using whole)
      · rintro _ t s₁ parts ⟨rfl, kind, spelled'⟩ read
        have smaller := Reading.size_lt_of_plain read
        have spelled₁ := spelled.rest parts
        obtain ⟨operator, same, rfl⟩ := Connective.exists_of_spelled spelled' kind
        apply (explains_operand level s₁ spelled₁).andThen
        · intro us right derived'
          have whole := DerivesExpr.join operator same derived derived'
          exact .of_derives (by simpa [After] using whole)
        · intro us right s₂ parts derived' read
          have smaller₂ := Reading.size_lt_of_plain read
          have spelled₂ := spelled₁.rest parts
          have whole := DerivesExpr.join operator same derived derived'
          have rest := (explains_chainOnward level _ _ s₂ whole spelled₂).imp
            fun d value derived => show After us (After [operator.token] (After c _)) d value by
              simpa [After] using derived
          subst same
          exact rest.congr fun s' _ => by
            simp only [joined, operator.token_eq, operator.join?_symbol]
    exact explained.congr fun s' head => by
      rw [plain_chainOnward, if_pos ((peekKind_congr head).trans more)]
  · have alone : After c (DerivesExpr (.level level)) [] left := by
      simpa [After] using derived
    exact (Explains.done alone s).congr fun s' head => by
      rw [plain_chainOnward, if_neg (by rwa [peekKind_congr head])]
termination_by 16 * size s
decreasing_by
  · have := level.height_le
    omega
  · omega

theorem explains_operand (level : Level) (s : List Token) (spelled : AllSpelled s) :
    Explains (DerivesExpr level.operandClass) (fun s => (operand level s).plain) s := by
  simp only [plain_operand]
  rw [Level.operandClass_eq]
  cases next : level.tighter? with
  | none =>
    have := level.height_pos
    exact explains_unary s spelled
  | some tighter =>
    have := Level.height_tighter next
    exact explains_chain tighter s spelled
termination_by 16 * size s + 2 * level.height

theorem explains_unary (s : List Token) (spelled : AllSpelled s) :
    Explains (DerivesExpr .unary) (fun s => (unary s).plain) s := by
  have decides (s' : List Token) (head : s'.head? = s.head?) : peekKind s' = peekKind s :=
    peekKind_congr head
  by_cases additive : peekKind s = some .additive
  · exact (explains_signed .additive (by decide) s spelled).congr fun s' head => by
      rw [plain_unary, decides s' head, additive]
  · by_cases negation : peekKind s = some .logicalNot
    · exact (explains_signed .logicalNot (by decide) s spelled).congr fun s' head => by
        rw [plain_unary, decides s' head, negation]
    · have explained : Explains (DerivesExpr .unary) (fun s => (primary s).plain) s :=
        (explains_primary s spelled).imp fun c value derived => .primary derived
      exact explained.congr fun s' head => by
        rw [plain_unary, decides s' head]
        split <;> first | contradiction | rfl
termination_by 16 * size s + 1

theorem explains_signed (kind : TokenKind) (sign : kind ∈ [TokenKind.additive, .logicalNot])
    (s : List Token) (spelled : AllSpelled s) :
    Explains (DerivesExpr .unary) (fun s => (signed kind s).plain) s := by
  simp only [plain_signed]
  apply (Explains.eat spelled kind).andThen
  · rintro _ t ⟨rfl, rfl, spelled⟩
    obtain ⟨operator, rfl⟩ := UnaryOperator.exists_of_spelled spelled sign
    exact .of_kinds [.identifier] (.signed operator (.sample .unary))
  · rintro _ t s₁ parts ⟨rfl, rfl, spelled'⟩ read
    have smaller := Reading.size_lt_of_plain read
    obtain ⟨operator, rfl⟩ := UnaryOperator.exists_of_spelled spelled' sign
    have explained : Explains (After [operator.token] (DerivesExpr .unary))
        (fun s => (unary s).plain.map (.unary operator)) s₁ :=
      (explains_unary s₁ (spelled.rest parts)).map fun c value derived => .signed operator derived
    exact explained.congr fun s' _ => by simp only [signedBy, operator.ofSymbol?_token]
termination_by 16 * size s

theorem explains_primary (s : List Token) (spelled : AllSpelled s) :
    Explains (DerivesExpr .primary) (fun s => (primary s).plain) s := by
  have decides (s' : List Token) (head : s'.head? = s.head?) : peekKind s' = peekKind s :=
    peekKind_congr head
  have named : Explains (DerivesExpr .primary)
      (fun s => (identifier s).plain.map .identifier) s := by
    apply (explains_identifier spelled).map
    rintro _ name rfl
    exact .name name
  cases ahead : peekKind s with
  | none =>
    exact named.congr fun s' head => by rw [plain_primary, decides s' head, ahead]
  | some kind =>
    by_cases opens : kind = .leftParen
    · subst opens
      have explained : Explains (DerivesExpr .primary)
          (fun s => (eat .leftParen s).plain.andThen fun _ s₁ =>
            (assignment s₁).plain.andThen fun inner s₂ =>
              (eat .rightParen s₂).plain.map fun _ => inner) s := by
        refine Explains.eat_andThen spelled rfl ?_ fun s₁ spelled₁ smaller => ?_
        · exact .of_kinds [.identifier, .rightParen] (.parentheses (.sample .assignment))
        apply (explains_assignment s₁ spelled₁).andThen
        · intro c inner derived
          exact .of_kinds [.rightParen] (.parentheses derived)
        · intro c inner s₂ parts derived read
          exact Explains.eat_map (spelled₁.rest parts) rfl (.parentheses derived)
      exact explained.congr fun s' head => by rw [plain_primary, decides s' head, ahead]
    · by_cases isLiteral : kind.isLiteral = true
      · exact (explains_literal spelled ahead isLiteral).congr fun s' head => by
          rw [plain_primary, decides s' head, ahead]
          simp only [isLiteral, if_true]
      · exact named.congr fun s' head => by
          rw [plain_primary, decides s' head, ahead]
          simp only [isLiteral, Bool.false_eq_true, if_false]
termination_by 16 * size s

end

/-! ### Clauses -/

/-- An expression in parentheses. -/
def DerivesCondition (ts : List Token) (test : Expr) : Prop :=
  ∃ us, ts = token .leftParen :: (us ++ [token .rightParen]) ∧ DerivesExpr .assignment us test

theorem explains_condition {s : List Token} (spelled : AllSpelled s) :
    Explains DerivesCondition (fun s => (condition s).plain) s := by
  simp only [plain_condition]
  refine Explains.eat_andThen spelled rfl ?_ fun s₁ spelled₁ _ => ?_
  · exact .of_kinds [.identifier, .rightParen] ⟨[token .identifier], rfl, .sample .assignment⟩
  apply (explains_assignment s₁ spelled₁).andThen
  · intro c test derived
    exact .of_kinds [.rightParen] ⟨c, rfl, derived⟩
  · intro c test s₂ parts derived _
    exact Explains.eat_map (spelled₁.rest parts) rfl ⟨c, rfl, derived⟩

theorem explains_declaration {s : List Token} (spelled : AllSpelled s) :
    Explains DerivesDeclaration (fun s => (declaration s).plain) s := by
  simp only [plain_declaration]
  apply (explains_identifier spelled).andThen
  · rintro _ name rfl
    exact .of_derives (.bare name)
  · rintro _ name s₁ parts rfl _
    have spelled₁ := spelled.rest parts
    by_cases separated : peekKind s₁ = some .semicolon ∨ peekKind s₁ = some .comma
    · exact (Explains.done (.bare name) s₁).congr fun s' head => by
        rw [peekKind_congr head, if_pos separated]
    · have explained : Explains (After [⟨.identifier, name⟩] DerivesDeclaration)
          (fun s₁ => (eat .simpleAssignment s₁).plain.andThen fun _ s₂ =>
            (assignment s₂).plain.map fun value => ⟨name, some value⟩) s₁ := by
        refine Explains.eat_andThen spelled₁ rfl ?_ fun s₂ spelled₂ _ => ?_
        · exact .of_kinds [.identifier] (.initialized name (.sample .assignment))
        · exact (explains_assignment s₂ spelled₂).map
            fun c value derived => .initialized name derived
      exact explained.congr fun s' head => by rw [peekKind_congr head, if_neg separated]

/-- Further declarations, each after a comma. -/
def DerivesOnward (ts : List Token) (list : List Declaration) : Prop :=
  (ts = [] ∧ list = []) ∨ ∃ us, ts = token .comma :: us ∧ DerivesDeclarations us list

mutual

theorem explains_declarations (s : List Token) (spelled : AllSpelled s) :
    Explains DerivesDeclarations (fun s => (declarations s).plain) s := by
  simp only [plain_declarations]
  refine (explains_declaration spelled).andThen (fun c first derived => .of_derives (.last derived))
    ?_
  intro c first s₁ parts derived read
  have smaller := Reading.size_lt_of_plain read
  apply (explains_declarationsOnward s₁ (spelled.rest parts)).map
  rintro _ _ (⟨rfl, rfl⟩ | ⟨us, rfl, others⟩)
  · show DerivesDeclarations (c ++ []) [first]
    rw [List.append_nil]
    exact .last derived
  · exact .more derived others
termination_by 2 * size s

theorem explains_declarationsOnward (s : List Token) (spelled : AllSpelled s) :
    Explains DerivesOnward (fun s => (declarationsOnward s).plain) s := by
  by_cases comma : peekKind s = some .comma
  · have explained : Explains DerivesOnward
        (fun s => (eat .comma s).plain.andThen fun _ s₁ => (declarations s₁).plain) s := by
      refine Explains.eat_andThen spelled rfl ?_ fun s₁ spelled₁ smaller => ?_
      · exact .of_kinds [.identifier] (Or.inr ⟨_, rfl, .last (.bare "x")⟩)
      · exact (explains_declarations s₁ spelled₁).imp
          fun us list derived => Or.inr ⟨us, rfl, derived⟩
    simp only [plain_declarations] at explained
    exact explained.congr fun s' head => by
      rw [plain_declarationsOnward, if_pos ((peekKind_congr head).trans comma)]
  · exact (Explains.done (Or.inl ⟨rfl, rfl⟩) s).congr fun s' head => by
      rw [plain_declarationsOnward, if_neg (by rwa [peekKind_congr head])]
termination_by 2 * size s + 1

end

/-- The keyword `int` and declarations. -/
def DerivesInt (ts : List Token) (list : List Declaration) : Prop :=
  ∃ us, ts = token .kwInt :: us ∧ DerivesDeclarations us list

theorem explains_intDeclarations {s : List Token} (spelled : AllSpelled s) :
    Explains DerivesInt (fun s => (intDeclarations s).plain) s := by
  simp only [plain_intDeclarations]
  refine Explains.eat_andThen spelled rfl ?_ fun s₁ spelled₁ _ => ?_
  · exact .of_kinds [.identifier] ⟨_, rfl, .last (.bare "x")⟩
  · exact (explains_declarations s₁ spelled₁).imp fun us list derived => ⟨us, rfl, derived⟩

theorem explains_forInit {s : List Token} (spelled : AllSpelled s) :
    Explains DerivesForInit (fun s => (forInit s).plain) s := by
  by_cases declares : peekKind s = some .kwInt
  · have explained : Explains DerivesForInit
        (fun s => (intDeclarations s).plain.map .declarations) s := by
      apply (explains_intDeclarations spelled).map
      rintro _ list ⟨us, rfl, derived⟩
      exact .declarations derived
    exact explained.congr fun s' head => by
      rw [plain_forInit, if_pos ((peekKind_congr head).trans declares)]
  · have explained : Explains DerivesForInit (fun s => (assignment s).plain.map .expression) s :=
      (explains_assignment s spelled).map fun c value derived => .expression derived
    exact explained.congr fun s' head => by
      rw [plain_forInit, if_neg (by rwa [peekKind_congr head])]

theorem explains_unlessNext {α : Type} {D : List Token → α → Prop} {s : List Token}
    {read : (s : List Token) → Reading (List Token) (size s) α} (stop : TokenKind)
    (explained : Explains D (fun s => (read s).plain) s) :
    Explains (DerivesOption D) (fun s => (unlessNext stop read s).plain) s := by
  by_cases stops : peekKind s = some stop
  · exact (Explains.done .absent s).congr fun s' head => by
      rw [plain_unlessNext, if_pos ((peekKind_congr head).trans stops)]
  · have present : Explains (DerivesOption D) (fun s => (read s).plain.map some) s :=
      explained.map fun c value derived => .present derived
    exact present.congr fun s' head => by
      rw [plain_unlessNext, if_neg (by rwa [peekKind_congr head])]

/-- The head of a `for` loop. -/
inductive DerivesForHead (ws : List Token) : Option ForInit × Option Expr × Option Expr → Prop where
  | clauses {is ts us : List Token} {init : Option ForInit} {test update : Option Expr}
      (parts : ws = token .kwFor :: token .leftParen :: (is ++ token .semicolon ::
        (ts ++ token .semicolon :: (us ++ [token .rightParen]))))
      (init_derived : DerivesOption DerivesForInit is init)
      (test_derived : DerivesOption (DerivesExpr .assignment) ts test)
      (update_derived : DerivesOption (DerivesExpr .assignment) us update) :
      DerivesForHead ws (init, test, update)

theorem explains_forHead {s : List Token} (spelled : AllSpelled s) :
    Explains DerivesForHead (fun s => (forHead s).plain) s := by
  simp only [plain_forHead]
  refine Explains.eat_andThen spelled rfl ?_ fun s₁ spelled₁ _ => ?_
  · exact .of_kinds [.leftParen, .semicolon, .semicolon, .rightParen]
      (.clauses rfl .absent .absent .absent)
  refine Explains.eat_andThen spelled₁ rfl ?_ fun s₂ spelled₂ _ => ?_
  · exact .of_kinds [.semicolon, .semicolon, .rightParen]
      (.clauses rfl .absent .absent .absent)
  apply (explains_unlessNext .semicolon (explains_forInit spelled₂)).andThen
  · intro is init init_derived
    exact .of_kinds [.semicolon, .semicolon, .rightParen]
      (.clauses rfl init_derived .absent .absent)
  intro is init s₃ parts init_derived _
  have spelled₃ := spelled₂.rest parts
  refine Explains.eat_andThen spelled₃ rfl ?_ fun s₄ spelled₄ _ => ?_
  · exact .of_kinds [.semicolon, .rightParen]
      (.clauses (by simp) init_derived .absent .absent)
  apply (explains_unlessNext .semicolon (explains_assignment s₄ spelled₄)).andThen
  · intro ts test test_derived
    exact .of_kinds [.semicolon, .rightParen]
      (.clauses (by simp) init_derived test_derived .absent)
  intro ts test s₅ parts test_derived _
  have spelled₅ := spelled₄.rest parts
  refine Explains.eat_andThen spelled₅ rfl ?_ fun s₆ spelled₆ _ => ?_
  · exact .of_kinds [.rightParen] (.clauses (by simp) init_derived test_derived .absent)
  apply (explains_unlessNext .rightParen (explains_assignment s₆ spelled₆)).andThen
  · intro us update update_derived
    exact .of_kinds [.rightParen] (.clauses (by simp) init_derived test_derived update_derived)
  intro us update s₇ parts update_derived _
  exact Explains.eat_map (spelled₆.rest parts) rfl
    (.clauses (by simp) init_derived test_derived update_derived)

/-! ### Statements -/

theorem explains_expressionStatement {s : List Token} (spelled : AllSpelled s) :
    Explains DerivesStmt (fun s => (expressionStatement s).plain) s := by
  simp only [plain_expressionStatement]
  apply (explains_assignment s spelled).andThen
  · intro c value derived
    exact .of_kinds [.semicolon] (.expression derived)
  · intro c value s₁ parts derived _
    exact Explains.eat_map (spelled.rest parts) rfl (.expression derived)

theorem explains_declarationStatement {s : List Token} (spelled : AllSpelled s) :
    Explains DerivesStmt (fun s => (declarationStatement s).plain) s := by
  simp only [plain_declarationStatement]
  apply (explains_intDeclarations spelled).andThen
  · rintro _ list ⟨us, rfl, derived⟩
    exact .of_kinds [.semicolon] (.declaration derived)
  · rintro _ list s₁ parts ⟨us, rfl, derived⟩ _
    exact Explains.eat_map (spelled.rest parts) rfl (.declaration derived)

/-- No statements, or some. -/
def DerivesRest (ts : List Token) (list : List Stmt) : Prop :=
  (ts = [] ∧ list = []) ∨ DerivesStmts ts list

mutual

theorem explains_statement (s : List Token) (spelled : AllSpelled s) :
    Explains DerivesStmt (fun s => (statement s).plain) s := by
  have decides (s' : List Token) (head : s'.head? = s.head?) : peekKind s' = peekKind s :=
    peekKind_congr head
  have expression := explains_expressionStatement spelled
  cases ahead : peekKind s with
  | none => exact expression.congr fun s' head => by rw [plain_statement, decides s' head, ahead]
  | some kind =>
    cases kind with
    | semicolon =>
      exact (Explains.eat_map spelled rfl .empty).congr fun s' head => by
        rw [plain_statement, decides s' head, ahead]
    | leftBrace =>
      have explained : Explains DerivesStmt (fun s => (block s).plain.map .block) s :=
        (explains_block s spelled).map fun c body derived => .block derived
      exact explained.congr fun s' head => by rw [plain_statement, decides s' head, ahead]
    | kwInt =>
      exact (explains_declarationStatement spelled).congr fun s' head => by
        rw [plain_statement, decides s' head, ahead]
    | kwIf =>
      exact (explains_ifStatement s spelled).congr fun s' head => by
        rw [plain_statement, decides s' head, ahead]
    | kwWhile =>
      exact (explains_whileStatement s spelled).congr fun s' head => by
        rw [plain_statement, decides s' head, ahead]
    | kwDo =>
      exact (explains_doStatement s spelled).congr fun s' head => by
        rw [plain_statement, decides s' head, ahead]
    | kwFor =>
      exact (explains_forStatement s spelled).congr fun s' head => by
        rw [plain_statement, decides s' head, ahead]
    | _ => exact expression.congr fun s' head => by rw [plain_statement, decides s' head, ahead]
termination_by 4 * size s + 1

theorem explains_ifStatement (s : List Token) (spelled : AllSpelled s) :
    Explains DerivesStmt (fun s => (ifStatement s).plain) s := by
  simp only [plain_ifStatement]
  refine Explains.eat_andThen spelled rfl ?_ fun s₁ spelled₁ smaller₁ => ?_
  · exact .of_kinds [.leftParen, .identifier, .rightParen, .leftBrace, .rightBrace]
      (.ifThen (.sample .assignment) .empty)
  apply (explains_condition spelled₁).andThen
  · rintro _ test ⟨ts, rfl, test_derived⟩
    exact .of_kinds [.leftBrace, .rightBrace]
      (by simpa [After] using DerivesStmt.ifThen test_derived .empty)
  rintro _ test s₂ parts ⟨ts, rfl, test_derived⟩ read
  have smaller₂ := Reading.size_lt_of_plain read
  have spelled₂ := spelled₁.rest parts
  apply (explains_block s₂ spelled₂).andThen
  · intro us body derived
    exact .of_derives (by simpa [After] using DerivesStmt.ifThen test_derived derived)
  intro us body s₃ parts derived read
  have smaller₃ := Reading.size_lt_of_plain read
  have spelled₃ := spelled₂.rest parts
  by_cases alternates : peekKind s₃ = some .kwElse
  · have explained : Explains (After us (After (token .leftParen :: (ts ++ [token .rightParen]))
        (After [token .kwIf] DerivesStmt))) (fun s => (eat .kwElse s).plain.andThen fun _ s₄ =>
          (block s₄).plain.map fun alternate =>
            .ifElse test (.block body) (some (.block alternate))) s₃ := by
      refine Explains.eat_andThen spelled₃ rfl ?_ fun s₄ spelled₄ smaller₄ => ?_
      · exact .of_kinds [.leftBrace, .rightBrace]
          (by simpa [After] using DerivesStmt.ifElse test_derived derived .empty)
      apply (explains_block s₄ spelled₄).map
      intro vs alternate alternate_derived
      simpa [After] using DerivesStmt.ifElse test_derived derived alternate_derived
    exact explained.congr fun s' head => by rw [peekKind_congr head, if_pos alternates]
  · have alone : DerivesStmt ([token .kwIf] ++ (token .leftParen :: (ts ++ [token .rightParen]) ++
        (us ++ []))) (.ifElse test (.block body) none) := by
      simpa using DerivesStmt.ifThen test_derived derived
    exact (Explains.done alone s₃).congr fun s' head => by
      rw [peekKind_congr head, if_neg alternates]
termination_by 4 * size s

theorem explains_whileStatement (s : List Token) (spelled : AllSpelled s) :
    Explains DerivesStmt (fun s => (whileStatement s).plain) s := by
  simp only [plain_whileStatement]
  refine Explains.eat_andThen spelled rfl ?_ fun s₁ spelled₁ smaller₁ => ?_
  · exact .of_kinds [.leftParen, .identifier, .rightParen, .leftBrace, .rightBrace]
      (.whileLoop (.sample .assignment) .empty)
  apply (explains_condition spelled₁).andThen
  · rintro _ test ⟨ts, rfl, test_derived⟩
    exact .of_kinds [.leftBrace, .rightBrace]
      (by simpa [After] using DerivesStmt.whileLoop test_derived .empty)
  rintro _ test s₂ parts ⟨ts, rfl, test_derived⟩ read
  have smaller₂ := Reading.size_lt_of_plain read
  apply (explains_block s₂ (spelled₁.rest parts)).map
  intro us body derived
  simpa [After] using DerivesStmt.whileLoop test_derived derived
termination_by 4 * size s

theorem explains_doStatement (s : List Token) (spelled : AllSpelled s) :
    Explains DerivesStmt (fun s => (doStatement s).plain) s := by
  simp only [plain_doStatement]
  refine Explains.eat_andThen spelled rfl ?_ fun s₁ spelled₁ smaller₁ => ?_
  · exact .of_kinds [.leftBrace, .rightBrace, .kwWhile, .leftParen, .identifier, .rightParen]
      (.doWhile .empty (.sample .assignment))
  apply (explains_block s₁ spelled₁).andThen
  · intro us body derived
    exact .of_kinds [.kwWhile, .leftParen, .identifier, .rightParen]
      (.doWhile derived (.sample .assignment))
  intro us body s₂ parts derived _
  have spelled₂ := spelled₁.rest parts
  refine Explains.eat_andThen spelled₂ rfl ?_ fun s₃ spelled₃ _ => ?_
  · exact .of_kinds [.leftParen, .identifier, .rightParen]
      (by simpa [After] using DerivesStmt.doWhile derived (.sample .assignment))
  apply (explains_condition spelled₃).map
  rintro _ test ⟨ts, rfl, test_derived⟩
  simpa [After] using DerivesStmt.doWhile derived test_derived
termination_by 4 * size s

theorem explains_forStatement (s : List Token) (spelled : AllSpelled s) :
    Explains DerivesStmt (fun s => (forStatement s).plain) s := by
  simp only [plain_forStatement]
  apply (explains_forHead spelled).andThen
  · rintro _ _ ⟨rfl, init, test, update⟩
    exact .of_kinds [.leftBrace, .rightBrace]
      (by simpa using DerivesStmt.forLoop init test update .empty)
  rintro _ _ s₁ parts ⟨rfl, init, test, update⟩ read
  have smaller := Reading.size_lt_of_plain read
  apply (explains_block s₁ (spelled.rest parts)).map
  intro us body derived
  simpa [After] using DerivesStmt.forLoop init test update derived
termination_by 4 * size s

theorem explains_block (s : List Token) (spelled : AllSpelled s) :
    Explains DerivesBlock (fun s => (block s).plain) s := by
  simp only [plain_block]
  refine Explains.eat_andThen spelled rfl ?_ fun s₁ spelled₁ smaller₁ => ?_
  · exact .of_kinds [.rightBrace] .empty
  by_cases ends : peekKind s₁ = some .rightBrace ∨ peekKind s₁ = none
  · have explained : Explains (After [token .leftBrace] DerivesBlock)
        (fun s => (eat .rightBrace s).plain.map fun _ => []) s₁ :=
      Explains.eat_map spelled₁ rfl .empty
    exact explained.congr fun s' head => by rw [peekKind_congr head, if_pos ends]
  · have explained : Explains (After [token .leftBrace] DerivesBlock)
        (fun s => (statements (some .rightBrace) s).plain.andThen fun body s₂ =>
          (eat .rightBrace s₂).plain.map fun _ => body) s₁ := by
      apply (explains_statements (some .rightBrace) s₁ spelled₁).andThen
      · intro ts body derived
        exact .of_kinds [.rightBrace] (.full derived)
      · intro ts body s₂ parts derived _
        exact Explains.eat_map (spelled₁.rest parts) rfl (.full derived)
    exact explained.congr fun s' head => by rw [peekKind_congr head, if_neg ends]
termination_by 4 * size s

theorem explains_statements (stop : Option TokenKind) (s : List Token) (spelled : AllSpelled s) :
    Explains DerivesStmts (fun s => (statements stop s).plain) s := by
  simp only [plain_statements]
  refine (explains_statement s spelled).andThen (fun c first derived => .of_derives (.last derived))
    ?_
  intro c first s₁ parts derived read
  have smaller := Reading.size_lt_of_plain read
  apply (explains_statementsOnward stop s₁ (spelled.rest parts)).map
  rintro _ _ (⟨rfl, rfl⟩ | others)
  · show DerivesStmts (c ++ []) [first]
    rw [List.append_nil]
    exact .last derived
  · exact .more derived others
termination_by 4 * size s + 2

theorem explains_statementsOnward (stop : Option TokenKind) (s : List Token)
    (spelled : AllSpelled s) :
    Explains DerivesRest (fun s => (statementsOnward stop s).plain) s := by
  by_cases ends : peekKind s = none ∨ peekKind s = stop
  · exact (Explains.done (Or.inl ⟨rfl, rfl⟩) s).congr fun s' head => by
      rw [plain_statementsOnward, peekKind_congr head, if_pos ends]
  · have explained : Explains DerivesRest (fun s => (statements stop s).plain) s :=
      (explains_statements stop s spelled).imp fun c list derived => Or.inr derived
    exact explained.congr fun s' head => by
      rw [plain_statementsOnward, peekKind_congr head, if_neg ends]
termination_by 4 * size s + 3

end

theorem explains_program {s : List Token} (spelled : AllSpelled s) :
    Explains Derives (fun s => (program s).plain) s := by
  simp only [plain_program]
  exact (explains_statements none s spelled).map fun c body derived => derived

end Grammar
end ScriptTree
