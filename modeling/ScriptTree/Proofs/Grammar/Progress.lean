import Mathlib.Logic.Relation
import ScriptTree.Proofs.Grammar.OnDemand
import ScriptTree.Proofs.Grammar.Script

/-! Progress. A production that succeeds has taken a token, and a production that calls itself, in a
loop or through others, has taken one before. The measure is the number of tokens that are left and,
among calls without a token between them, the rank of the production. -/

namespace ScriptTree

open TokenSource

/-! ### Calls -/

section Calls

variable {σ α : Type} [TokenSource σ] {answer : Production.Reader σ}

/-- What is left of a script, and the state then, at some point of a run. -/
inductive Script.Reaches (answer : Production.Reader σ) :
    Script α → σ → Script α → σ → Prop where
  | here (script : Script α) (s : σ) : Reaches answer script s script s
  | look {next : Option Token → Script α} {s rest : σ} {goal : Script α} :
      Reaches answer (next (peek s)) s goal rest → Reaches answer (.look next) s goal rest
  | take {kind : TokenKind} {next : Token → Script α} {s s' rest : σ} {token : Token}
      {goal : Script α} : (eat kind s).plain = .ok (token, s') →
      Reaches answer (next token) s' goal rest → Reaches answer (.take kind next) s goal rest
  | call {production : Production} {next : production.Value → Script α} {s s' rest : σ}
      {value : production.Value} {goal : Script α} : answer production s = .ok (value, s') →
      Reaches answer (next value) s' goal rest → Reaches answer (.call production next) s goal rest

theorem Script.reaches_of_run {script : Script α} {s rest : σ} {value : α}
    (read : script.run answer s = .ok (value, rest)) :
    script.Reaches answer s (.done value) rest := by
  induction script generalizing s with
  | done _ =>
    cases read
    exact .here _ _
  | fail _ => cases read
  | look next ih => exact .look (ih _ read)
  | take kind next ih =>
    obtain ⟨token, s', taken, read⟩ := Outcome.andThen_eq_ok.mp read
    exact .take taken (ih token read)
  | call production next ih =>
    obtain ⟨part, s', answered, read⟩ := Outcome.andThen_eq_ok.mp read
    exact .call answered (ih part read)

/-- The outcome of a script depends on the answers to its calls alone. -/
theorem Script.run_congr {answer' : Production.Reader σ} {script : Script α} {s : σ}
    (same : ∀ production next s', script.Reaches answer s (.call production next) s' →
      answer production s' = answer' production s') :
    script.run answer s = script.run answer' s := by
  induction script generalizing s with
  | done _ | fail _ => rfl
  | look next ih => exact ih _ fun production next s' later => same production next s' (.look later)
  | take kind next ih =>
    rw [run, run]
    cases taken : (eat kind s).plain with
    | error failure => rfl
    | ok result =>
      exact ih _ fun production next s' later => same production next s' (.take taken later)
  | call production next ih =>
    rw [run, run, ← same production next s (.here _ _)]
    cases answered : answer production s with
    | error failure => rfl
    | ok result =>
      exact ih _ fun production next s' later => same production next s' (.call answered later)

/-- One production in a state calls another one in a state. -/
def Production.Calls (caller callee : Production × σ) : Prop :=
  ∃ next, caller.1.script.Reaches read caller.2 (.call callee.1 next) callee.2

end Calls

/-! ### Calls before a token is taken -/

/-- The productions that a script may call before it takes a token. -/
def Script.Leads {α : Type} (callee : Production) : Script α → Prop
  | done _ | fail _ | take _ _ => False
  | look next => ∃ token, (next token).Leads callee
  | call production _ => production = callee

/-- Whether a script begins by taking a token or calling a production that takes one. -/
def Script.Consumes {α : Type} : Script α → Prop
  | done _ => False
  | fail _ | take _ _ => True
  | look next => ∀ token, (next token).Consumes
  | call production _ => production.isOnward = false

namespace Production

/-- A bound on the calls that follow one inside the other before a token is taken. -/
def rank : Production → Nat
  | identifier | literal | chainOnward _ _ | signed _ | declarationsOnward | intDeclarations
  | condition | forHead | ifStatement | whileStatement | doStatement | block => 0
  | primary | declaration | declarationStatement | forStatement => 1
  | unary | declarations => 2
  | operand level => 2 * level.height + 1
  | chain level => 2 * level.height + 2
  | assignment => 15
  | forInit | expressionStatement => 16
  | statement => 17
  | statements _ => 18
  | statementsOnward _ | program => 19

/-- Apart from the productions that go on with a list or a chain, none is done with nothing. -/
theorem consumes_script {production : Production} (whole : production.isOnward = false) :
    production.script.Consumes := by
  cases production with
  | chainOnward level left => cases whole
  | declarationsOnward => cases whole
  | statementsOnward stop => cases whole
  | operand level => cases level <;> rfl
  | literal =>
    intro token
    dsimp only
    split <;> first | trivial | exact fun _ => trivial
  | primary =>
    intro token
    dsimp only
    split
    · trivial
    · split <;> rfl
    · rfl
  | unary | forInit | statement =>
    intro token
    dsimp only
    split <;> trivial
  | _ => trivial

/-- Where no token is taken, the rank falls from call to call. -/
theorem of_leads {production callee : Production} (leads : production.script.Leads callee) :
    callee.isOnward = false ∧ callee.rank < production.rank := by
  cases production with
  | operand level => cases level <;> cases leads <;> exact ⟨rfl, by decide⟩
  | chain level | statements stop =>
    cases leads
    exact ⟨rfl, Nat.lt_succ_self _⟩
  | primary =>
    obtain ⟨token, leads⟩ := leads
    dsimp only at leads
    split at leads
    · cases leads
    · split at leads <;> cases leads <;> exact ⟨rfl, by decide⟩
    · cases leads
      exact ⟨rfl, by decide⟩
  | literal =>
    obtain ⟨token, leads⟩ := leads
    dsimp only at leads
    split at leads <;> try exact False.elim leads
    obtain ⟨_, impossible⟩ := leads
    exact False.elim impossible
  | chainOnward level left | declarationsOnward =>
    obtain ⟨token, leads⟩ := leads
    dsimp only at leads
    split at leads <;> cases leads
  | statementsOnward stop =>
    obtain ⟨token, leads⟩ := leads
    dsimp only at leads
    split at leads <;> cases leads
    exact ⟨rfl, Nat.lt_succ_self _⟩
  | unary | forInit | statement =>
    obtain ⟨token, leads⟩ := leads
    dsimp only at leads
    split at leads <;> cases leads <;> exact ⟨rfl, by decide⟩
  | _ => cases leads <;> exact ⟨rfl, by decide⟩

end Production

/-! ### Tokens taken -/

namespace Unfolding

variable {σ α : Type} [TokenSource σ] (U : Unfolding σ)

/-- The number of tokens that are left. -/
def count (s : σ) : Nat :=
  (U.content s).1.length

/-- From one state to another these tokens are taken, one after the other. -/
def Takes (s : σ) (taken : List Token) (rest : σ) : Prop :=
  (U.content s).1 = taken ++ (U.content rest).1

/-- If a production succeeds it takes tokens, and at least one unless it goes on with a list or a
chain. -/
def Advances (production : Production) (s : σ) : Prop :=
  ∀ value rest, production.read s = .ok (value, rest) →
    ∃ taken, U.Takes s taken rest ∧ (production.isOnward = false → taken ≠ [])

variable {U} {s s' rest : σ} {taken taken' : List Token}

theorem Takes.trans (first : U.Takes s taken s') (second : U.Takes s' taken' rest) :
    U.Takes s (taken ++ taken') rest := by
  rw [Takes, first, second, List.append_assoc]

theorem Takes.count_eq (takes : U.Takes s taken rest) :
    U.count s = taken.length + U.count rest := by
  rw [count, takes, List.length_append, count]

theorem Takes.count_lt (takes : U.Takes s taken rest) (some : taken ≠ []) :
    U.count rest < U.count s := by
  have length := List.length_pos_iff.mpr some
  have total := takes.count_eq
  omega

theorem takes_of_eat {kind : TokenKind} {token : Token}
    (read : (eat kind s).plain = .ok (token, rest)) : U.Takes s [token] rest := by
  obtain ⟨ahead, -, moved⟩ := Grammar.plain_eat_eq_ok.mp read
  rw [U.peek_eq] at ahead
  cases content : U.content s with
  | mk tokens fault =>
    cases tokens with
    | nil => simp [content] at ahead
    | cons first tokens =>
      rw [content] at ahead
      cases ahead
      rw [Takes, content, U.content_of_advance content moved]
      rfl

open Production

/-- Where all calls advance, so does a script. -/
theorem exists_takes_of_reaches {script goal : Script α} {s rest : σ}
    (advance : ∀ production s', U.count s' ≤ U.count s → U.Advances production s')
    (reached : script.Reaches read s goal rest) : ∃ taken, U.Takes s taken rest := by
  induction reached with
  | here script s => exact ⟨[], rfl⟩
  | look _ ih => exact ih advance
  | take read _ ih =>
    have first := takes_of_eat (U := U) read
    have fewer := first.count_eq
    obtain ⟨taken, takes⟩ := ih fun production s' within => advance production s' (by omega)
    exact ⟨_, first.trans takes⟩
  | call answered _ ih =>
    obtain ⟨taken, first, -⟩ := advance _ _ (Nat.le_refl _) _ _ answered
    have fewer := first.count_eq
    obtain ⟨taken, takes⟩ := ih fun production s' within => advance production s' (by omega)
    exact ⟨_, first.trans takes⟩

/-- From a state behind taken tokens, a script leads to states behind taken tokens. -/
theorem Takes.further {script goal : Script α} (first : U.Takes s taken s') (some : taken ≠ [])
    (later : ∀ production s', U.count s' < U.count s → U.Advances production s')
    (behind : script.Reaches read s' goal rest) :
    ∃ taken, taken ≠ [] ∧ U.Takes s taken rest := by
  have fewer := first.count_lt some
  obtain ⟨taken', takes⟩ := exists_takes_of_reaches
    (fun production s' within => later production s' (by omega)) behind
  exact ⟨_, List.append_ne_nil_of_left_ne_nil some _, first.trans takes⟩

/-- A script that has taken nothing is still in its state, and what it may call next it could have
called from the start. -/
theorem takes_of_reaches {script goal : Script α} {s rest : σ}
    (leads : ∀ callee, script.Leads callee → callee.isOnward = false ∧ U.Advances callee s)
    (later : ∀ production s', U.count s' < U.count s → U.Advances production s')
    (reached : script.Reaches read s goal rest) :
    ∃ taken, U.Takes s taken rest ∧ (taken = [] → rest = s ∧
      (script.Consumes → goal.Consumes) ∧ ∀ callee, goal.Leads callee → script.Leads callee) := by
  induction reached with
  | here script s => exact ⟨[], rfl, fun _ => ⟨rfl, id, fun _ => id⟩⟩
  | look _ ih =>
    obtain ⟨taken, takes, still⟩ := ih (fun callee first => leads callee ⟨_, first⟩) later
    refine ⟨taken, takes, fun empty => ?_⟩
    obtain ⟨same, consumes, still⟩ := still empty
    exact ⟨same, fun always => consumes (always _), fun callee first => ⟨_, still callee first⟩⟩
  | take read behind _ =>
    obtain ⟨taken, some, takes⟩ :=
      (takes_of_eat read).further (List.cons_ne_nil _ _) later behind
    exact ⟨taken, takes, fun empty => absurd empty some⟩
  | call answered behind _ =>
    -- The first production that is called takes a token, and all else stands behind this one.
    obtain ⟨whole, advance⟩ := leads _ rfl
    obtain ⟨taken, first, some⟩ := advance _ _ answered
    obtain ⟨taken', some', takes⟩ := first.further (some whole) later behind
    exact ⟨taken', takes, fun empty => absurd empty some'⟩

/-- Every production advances: by induction on the number of tokens that are left, and among the
calls before the first token on the rank. -/
theorem advances (U : Unfolding σ) (production : Production) (s : σ) : U.Advances production s := by
  intro value rest read
  rw [read_eq_run] at read
  have leads : ∀ callee, production.script.Leads callee →
      callee.isOnward = false ∧ U.Advances callee s := fun callee first =>
    have := of_leads first
    ⟨this.1, U.advances callee s⟩
  obtain ⟨taken, takes, still⟩ := takes_of_reaches leads
    (fun other s' _ => U.advances other s') (Script.reaches_of_run read)
  exact ⟨taken, takes, fun whole empty => (still empty).2.1 (consumes_script whole)⟩
termination_by (U.count s, production.rank)

variable {caller callee : Production × σ}

theorem takes_of_calls (U : Unfolding σ) (calls : Calls caller callee) :
    ∃ taken, U.Takes caller.2 taken callee.2 ∧
      (taken = [] → callee.2 = caller.2 ∧ callee.1.rank < caller.1.rank) := by
  obtain ⟨next, reached⟩ := calls
  obtain ⟨taken, takes, still⟩ := takes_of_reaches (U := U)
    (fun callee first => ⟨(of_leads first).1, U.advances callee _⟩)
    (fun production s' _ => U.advances production s') reached
  refine ⟨taken, takes, fun empty => ?_⟩
  obtain ⟨same, -, still⟩ := still empty
  exact ⟨same, (of_leads (still callee.1 rfl)).2⟩

theorem takes_of_callChain (U : Unfolding σ) (chain : Relation.TransGen Calls caller callee) :
    ∃ taken, U.Takes caller.2 taken callee.2 ∧
      (taken = [] → callee.1.rank < caller.1.rank) := by
  induction chain with
  | single calls =>
    obtain ⟨taken, takes, falls⟩ := U.takes_of_calls calls
    exact ⟨taken, takes, fun empty => (falls empty).2⟩
  | tail _ calls ih =>
    obtain ⟨taken, takes, falls⟩ := ih
    obtain ⟨taken', takes', falls'⟩ := U.takes_of_calls calls
    refine ⟨_, takes.trans takes', fun empty => ?_⟩
    obtain ⟨none, none'⟩ := List.append_eq_nil_iff.mp empty
    exact Nat.lt_trans (falls' none').2 (falls none)

/-- What falls from call to call: the tokens that are left or, where none is taken, the rank. -/
def measure (U : Unfolding σ) (call : Production × σ) : Nat × Nat :=
  (U.count call.2, call.1.rank)

theorem measure_lt_of_calls (U : Unfolding σ) (calls : Calls caller callee) :
    Prod.Lex (· < ·) (· < ·) (U.measure callee) (U.measure caller) := by
  obtain ⟨taken, takes, falls⟩ := U.takes_of_calls calls
  by_cases empty : taken = []
  · obtain ⟨same, lower⟩ := falls empty
    rw [measure, measure, same]
    exact .right _ lower
  · exact .left _ _ (takes.count_lt empty)

/-- No chain of calls goes on forever. -/
theorem wellFounded_calls (U : Unfolding σ) :
    WellFounded fun callee caller : Production × σ => Calls caller callee :=
  Subrelation.wf (fun calls => U.measure_lt_of_calls calls)
    (InvImage.wf U.measure WellFoundedRelation.wf)

/-- Nothing else than the productions can follow their scripts. -/
theorem eq_read (U : Unfolding σ) {answer : Production.Reader σ}
    (follows : ∀ production s, answer production s = production.script.run answer s) :
    answer = Production.read := by
  have same (call : Production × σ) : answer call.1 call.2 = call.1.read call.2 := by
    induction call using U.wellFounded_calls.induction with
    | _ call ih =>
      -- Both run the same script, and the answers to its calls agree by induction.
      rw [follows, read_eq_run]
      exact (Script.run_congr fun production next s' reached =>
        (ih (production, s') ⟨next, reached⟩).symm).symm
  funext production s
  exact same (production, s)

end Unfolding

namespace Production

/-- The same production once more, whatever operands a chain has joined in between. -/
inductive Again : Production → Production → Prop where
  | same (production : Production) : Again production production
  | chain (level : Level) (left left' : Expr) :
      Again (chainOnward level left) (chainOnward level left')

theorem Again.rank_eq {production production' : Production} (again : production.Again production') :
    production.rank = production'.rank := by
  cases again <;> rfl

/-- Productions make progress from every state of the source. One that succeeds has taken tokens,
and at least one unless it only goes on with a list or a chain; a call is made behind a token or has
a lower rank; a production that is called again, in a loop or through others, has taken a token in
between. Therefore no chain of calls goes on forever, and the scripts of the productions, by which
a source is parsed, determine what they read. -/
theorem productions_progress :
    (∀ (production : Production) (s rest : Cursor) (value : production.Value),
      production.read s = .ok (value, rest) →
        ∃ taken, s.content.1 = taken ++ rest.content.1 ∧
          (production.isOnward = false → taken ≠ [])) ∧
    (∀ caller callee : Production × Cursor, Calls caller callee →
      ∃ taken, caller.2.content.1 = taken ++ callee.2.content.1 ∧
        (taken = [] → callee.2 = caller.2 ∧ callee.1.rank < caller.1.rank)) ∧
    (∀ caller callee : Production × Cursor, Relation.TransGen Calls caller callee →
      caller.1.Again callee.1 →
        ∃ taken, caller.2.content.1 = taken ++ callee.2.content.1 ∧ taken ≠ []) ∧
    WellFounded (fun callee caller : Production × Cursor => Calls caller callee) ∧
    (∀ answer : Reader Cursor,
      (∀ production s, answer production s = production.script.run answer s) ↔ answer = read) ∧
    ∀ (parser : Parser) (source : String) (cursor : Cursor),
      (parser.load source).refill = .ok cursor →
        (parser.parse source).1 = (program.read cursor).result := by
  refine ⟨fun production s rest value => Cursor.unfolding.advances production s value rest,
    fun caller callee => Cursor.unfolding.takes_of_calls, fun caller callee chain again => ?_,
    Cursor.unfolding.wellFounded_calls, fun answer => ⟨Cursor.unfolding.eq_read, ?_⟩,
    fun parser source cursor moved => ?_⟩
  · obtain ⟨taken, takes, falls⟩ := Cursor.unfolding.takes_of_callChain chain
    refine ⟨taken, takes, fun empty => ?_⟩
    have lower := falls empty
    rw [again.rank_eq] at lower
    exact Nat.lt_irrefl _ lower
  · rintro rfl
    exact read_eq_run
  · simp only [Parser.parse, moved]
    exact Reading.outcome_eq_result _

/-- In `--x;` the operand of a sign has a sign, and in `a+b+c;` a sum is added to. -/
theorem productions_progress_signs :
    (let s : Cursor := ⟨some ⟨.additive, "-"⟩, ⟨['-', 'x', ';'], 1, false⟩⟩
     let s' : Cursor := ⟨some ⟨.additive, "-"⟩, ⟨['x', ';'], 2, false⟩⟩
     let rest : Cursor := ⟨some ⟨.semicolon, ";"⟩, ⟨[], 4, false⟩⟩
     (Parser.fresh.parse "--x;").1 = (program.read s).result ∧
     unary.read s = .ok (.unary .neg (.unary .neg (.identifier "x")), rest) ∧
     (∃ taken, s.content.1 = taken ++ rest.content.1 ∧ taken ≠ []) ∧
     Relation.TransGen Calls (unary, s) (unary, s') ∧
     ∃ taken, s.content.1 = taken ++ s'.content.1 ∧ taken ≠ []) ∧
    (let s : Cursor := ⟨some ⟨.additive, "+"⟩, ⟨['b', '+', 'c', ';'], 2, false⟩⟩
     let s' : Cursor := ⟨some ⟨.additive, "+"⟩, ⟨['c', ';'], 4, false⟩⟩
     let sum : Expr := .binary .add (.identifier "a") (.identifier "b")
     Calls (chainOnward .additive (.identifier "a"), s) (chainOnward .additive sum, s') ∧
     ∃ taken, s.content.1 = taken ++ s'.content.1 ∧ taken ≠ []) := by
  refine ⟨?_, ?_⟩
  · intro s s' rest
    have loaded : (Parser.fresh.load "--x;").refill = .ok s := by decide +kernel
    have read : unary.read s = .ok (.unary .neg (.unary .neg (.identifier "x")), rest) := by
      decide +kernel
    have sign : Calls (unary, s) (signed .additive, s) := ⟨_, .look (.here _ _)⟩
    have taken : (eat .additive s).plain = .ok (⟨.additive, "-"⟩, s') := by decide +kernel
    have operand : Calls (signed .additive, s) (unary, s') := ⟨_, .take taken (.here _ _)⟩
    have chain : Relation.TransGen Calls (unary, s) (unary, s') := .tail (.single sign) operand
    obtain ⟨tokens, split, some⟩ := productions_progress.1 _ _ _ _ read
    exact ⟨productions_progress.2.2.2.2.2 _ _ _ loaded, read, ⟨tokens, split, some rfl⟩, chain,
      productions_progress.2.2.1 _ _ chain (.same _)⟩
  · intro s s' sum
    have taken : (eat .additive s).plain = .ok (⟨.additive, "+"⟩,
        ⟨some ⟨.identifier, "b"⟩, ⟨['+', 'c', ';'], 3, false⟩⟩) := by decide +kernel
    have read : (operand .additive).read (σ := Cursor)
        ⟨some ⟨.identifier, "b"⟩, ⟨['+', 'c', ';'], 3, false⟩⟩ = .ok (.identifier "b", s') := by
      decide +kernel
    have again : Calls (chainOnward .additive (.identifier "a"), s)
        (chainOnward .additive sum, s') :=
      ⟨_, .look (.take taken (.call read (.here _ _)))⟩
    exact ⟨again, productions_progress.2.2.1 _ _ (.single again) (.chain ..)⟩

end Production

end ScriptTree
