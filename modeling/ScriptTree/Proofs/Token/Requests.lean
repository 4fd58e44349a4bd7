import ScriptTree.Proofs.Token.Partition

/-! Asking a scanner in both ways. Whatever was asked before, a scanner gives the tokens of its
source one after the other, and the two ways of asking differ only behind the last token in front
of a lexical error: `next` reports the error each time, `pull` once. -/

namespace ScriptTree.Scanner

/-- The two ways to ask for a token. -/
inductive Request where
  | next
  | pull
deriving DecidableEq, Repr

/-- What a scanner gives when it is asked: a token, a lexical error or nothing. -/
def ask (scanner : Scanner) : Request → Option (Except LexError Token) × Scanner
  | .next =>
    match scanner.next with
    | (.ok token, after) => (token.map .ok, after)
    | (.error error, after) => (some (.error error), after)
  | .pull => scanner.pull

/-- What a scanner gives when it is asked one time after the other. -/
def answers (scanner : Scanner) : List Request → List (Option (Except LexError Token))
  | [] => []
  | request :: requests => (scanner.ask request).1 :: (scanner.ask request).2.answers requests

/-- The state of a scanner after some requests. -/
def afterAll (scanner : Scanner) : List Request → Scanner
  | [] => scanner
  | request :: requests => (scanner.ask request).2.afterAll requests

theorem afterAll_append (scanner : Scanner) (requests more : List Request) :
    scanner.afterAll (requests ++ more) = (scanner.afterAll requests).afterAll more := by
  induction requests generalizing scanner with
  | nil => rfl
  | cons request requests ih => exact ih _

/-! ### Where a reading ends -/

/-- In front of a character that starts no token. -/
def Stuck (scanner : Scanner) (error : LexError) : Prop :=
  ∃ c cs, scanner.rest = c :: cs ∧ firstMatch? (c :: cs) = none ∧ error = ⟨c, scanner.cursor⟩

/-- Where a scanner is after a reading: at the end of its text, in front of the character that is
no token, or anywhere behind a token. -/
def Rests (scanner : Scanner) : Except LexError (Option Token) → Prop
  | .ok none => scanner.rest = []
  | .ok (some _) => True
  | .error error => scanner.Stuck error

variable {scanner : Scanner} {error : LexError} {token : Token} {tokens : List Token}
  {fault : Option LexError} {request : Request} {requests : List Request}

theorem rests_next (scanner : Scanner) :
    scanner.next.2.Rests scanner.next.1 ∧ scanner.next.2.halted = scanner.halted := by
  induction scanner using match_induction with
  | finished scanner unread =>
    rw [next_nil unread]
    exact ⟨unread, rfl⟩
  | stuck scanner c cs unread stuck =>
    rw [next_stuck unread stuck]
    exact ⟨⟨c, cs, unread, stuck, rfl⟩, rfl⟩
  | past scanner found matched ih =>
    rw [next_of_match matched]
    cases found.kind with
    | none => exact ih
    | some kind => exact ⟨trivial, rfl⟩

/-- What is left to read says how the next reading ends. -/
theorem next_of_drain (scanner : Scanner) :
    match scanner.drain with
    | (token :: tokens, fault) => ∃ after, scanner.next = (.ok (some token), after) ∧
        after.halted = scanner.halted ∧ after.drain = (tokens, fault)
    | ([], none) => ∃ after, scanner.next = (.ok none, after) ∧ after.drain = ([], none)
    | ([], some error) => ∃ after, scanner.next = (.error error, after) ∧
        after.halted = scanner.halted ∧ after.Stuck error := by
  obtain ⟨place, same⟩ := rests_next scanner
  match read : scanner.next with
  | (.ok none, after) =>
    rw [read] at place
    rw [drain_of_next_none read]
    exact ⟨after, rfl, drain_nil place⟩
  | (.ok (some token), after) =>
    rw [read] at same
    rw [drain_of_next_token read]
    exact ⟨after, rfl, same, rfl⟩
  | (.error error, after) =>
    rw [read] at place same
    rw [drain_of_next_error read]
    exact ⟨after, rfl, same, place⟩

namespace Stuck

theorem next (stuck : scanner.Stuck error) : scanner.next = (.error error, scanner) := by
  obtain ⟨c, cs, unread, none, rfl⟩ := stuck
  exact next_stuck unread none

theorem drain (stuck : scanner.Stuck error) : scanner.drain = ([], some error) :=
  drain_of_next_error stuck.next

theorem halt (stuck : scanner.Stuck error) : Stuck { scanner with halted := true } error :=
  stuck

/-- From there a scanner does not move. -/
theorem ask (stuck : scanner.Stuck error) (request : Request) :
    (scanner.ask request).2.Stuck error ∧ (scanner.ask request).2.cursor = scanner.cursor := by
  cases request with
  | next =>
    rw [Scanner.ask, stuck.next]
    exact ⟨stuck, rfl⟩
  | pull =>
    rw [Scanner.ask, Scanner.pull, stuck.next]
    split
    · exact ⟨stuck, rfl⟩
    · exact ⟨stuck.halt, rfl⟩

theorem cursor_afterAll (stuck : scanner.Stuck error) (requests : List Request) :
    (scanner.afterAll requests).cursor = scanner.cursor := by
  induction requests generalizing scanner with
  | nil => rfl
  | cons request requests ih =>
    obtain ⟨still, same⟩ := stuck.ask request
    exact (ih still).trans same

end Stuck

/-! ### One request -/

/-- As long as there are tokens, each request is answered by the next one. -/
theorem ask_of_drain_cons (ready : scanner.halted = false)
    (content : scanner.drain = (token :: tokens, fault)) (request : Request) :
    ∃ after, scanner.ask request = (some (.ok token), after) ∧ after.halted = false ∧
      after.drain = (tokens, fault) := by
  have following := next_of_drain scanner
  rw [content] at following
  obtain ⟨after, read, same, behind⟩ := following
  refine ⟨after, ?_, same.trans ready, behind⟩
  cases request with
  | next => simp [ask, read]
  | pull => simp [ask, pull, read, ready]

theorem ask_of_drain_end (content : scanner.drain = ([], none)) (request : Request) :
    ∃ after, scanner.ask request = (none, after) ∧ after.drain = ([], none) := by
  have following := next_of_drain scanner
  rw [content] at following
  obtain ⟨after, read, finished⟩ := following
  cases request with
  | next => exact ⟨after, by simp [ask, read], finished⟩
  | pull =>
    by_cases silent : scanner.halted = true
    · exact ⟨scanner, by simp [ask, pull, silent], content⟩
    · exact ⟨after, by simp [ask, pull, silent, read], finished⟩

theorem ask_next_of_drain_error (content : scanner.drain = ([], some error)) :
    ∃ after, scanner.ask .next = (some (.error error), after) ∧
      after.halted = scanner.halted ∧ after.drain = ([], some error) := by
  have following := next_of_drain scanner
  rw [content] at following
  obtain ⟨after, read, same, stuck⟩ := following
  exact ⟨after, by simp [ask, read], same, stuck.drain⟩

theorem ask_pull_of_drain_error (content : scanner.drain = ([], some error)) :
    ∃ after, scanner.ask .pull = (if scanner.halted then none else some (.error error), after) ∧
      after.halted = true ∧ after.drain = ([], some error) := by
  by_cases silent : scanner.halted = true
  · exact ⟨scanner, by simp [ask, pull, silent], silent, content⟩
  · have following := next_of_drain scanner
    rw [content] at following
    obtain ⟨after, read, _, stuck⟩ := following
    exact ⟨_, by simp [ask, pull, silent, read], rfl, stuck.halt.drain⟩

/-- The token that an answer is, if it is one. -/
def token? (answer : Option (Except LexError Token)) : Option Token :=
  answer.bind Except.toOption

/-- Behind the last token no request is answered by one. -/
theorem ask_of_drain_nil (content : scanner.drain = ([], fault)) (request : Request) :
    token? (scanner.ask request).1 = none ∧ (scanner.ask request).2.drain = ([], fault) := by
  cases fault with
  | none =>
    obtain ⟨after, asked, content⟩ := ask_of_drain_end content request
    rw [asked]
    exact ⟨rfl, content⟩
  | some error =>
    cases request with
    | next =>
      obtain ⟨after, asked, _, content⟩ := ask_next_of_drain_error content
      rw [asked]
      exact ⟨rfl, content⟩
    | pull =>
      obtain ⟨after, asked, _, content⟩ := ask_pull_of_drain_error content
      rw [asked]
      exact ⟨by cases scanner.halted <;> rfl, content⟩

theorem ask_next_state (scanner : Scanner) : (scanner.ask .next).2 = scanner.next.2 := by
  rw [ask]
  cases scanner.next with
  | mk result after => cases result <;> rfl

/-- A request that is answered by an error leaves the scanner in front of the faulty character. -/
theorem stuck_of_ask_error (failed : (scanner.ask request).1 = some (.error error)) :
    (scanner.ask request).2.Stuck error := by
  have place := (rests_next scanner).1
  cases request with
  | next =>
    rw [ask] at failed ⊢
    generalize scanner.next = reading at failed place ⊢
    obtain ⟨result, after⟩ := reading
    cases result with
    | ok token => cases token <;> cases failed
    | error met =>
      cases failed
      exact place
  | pull =>
    by_cases silent : scanner.halted = true
    · simp [ask, pull, silent] at failed
    · rw [ask, pull, if_neg silent] at failed ⊢
      generalize scanner.next = reading at failed place ⊢
      obtain ⟨result, after⟩ := reading
      cases result with
      | ok token => cases token <;> cases failed
      | error met =>
        cases failed
        exact place.halt

/-- The states that requests lead to are states of scanning. -/
theorem Reaches.ask {reached : Scanner} (reaches : scanner.Reaches reached) (request : Request) :
    scanner.Reaches (reached.ask request).2 := by
  cases request with
  | next => exact ask_next_state reached ▸ reaches.next
  | pull => exact reaches.pull

/-- No request moves a scanner back. -/
theorem cursor_le_ask (scanner : Scanner) (request : Request) :
    scanner.cursor ≤ (scanner.ask request).2.cursor := by
  obtain ⟨segments, partition⟩ := (Reaches.here.ask request).exists_partition
  rw [partition.cursor]
  exact Nat.le_add_right ..

/-! ### All requests -/

theorem Reaches.afterAll {reached : Scanner} (reaches : scanner.Reaches reached)
    (requests : List Request) : scanner.Reaches (reached.afterAll requests) := by
  induction requests generalizing reached with
  | nil => exact reaches
  | cons request requests ih => exact ih (reaches.ask request)

/-- A scanner does not leave its source. -/
theorem Reaches.cursor_le {source : String} {reached : Scanner}
    (reaches : (start source).Reaches reached) : reached.cursor ≤ source.utf8ByteSize := by
  obtain ⟨segments, partition⟩ := reaches.exists_partition
  have whole := congrArg byteLength partition.parts
  rw [show (start source).rest = source.toList from rfl, byteLength_toList,
    byteLength_append] at whole
  rw [partition.cursor, whole, show (start source).cursor = 0 from rfl, Nat.zero_add]
  exact Nat.le_add_right ..

/-- As many tokens are gone as were asked for. -/
theorem afterAll_of_tokens (ready : scanner.halted = false)
    (content : scanner.drain = (tokens, fault)) (few : requests.length ≤ tokens.length) :
    (scanner.afterAll requests).halted = false ∧
      (scanner.afterAll requests).drain = (tokens.drop requests.length, fault) := by
  induction requests generalizing scanner tokens with
  | nil => exact ⟨ready, content⟩
  | cons request requests ih =>
    cases tokens with
    | nil => exact absurd few (Nat.not_succ_le_zero _)
    | cons token tokens =>
      obtain ⟨after, asked, ready, content⟩ := ask_of_drain_cons ready content request
      rw [afterAll, asked]
      exact ih ready content (Nat.le_of_succ_le_succ few)

theorem drain_afterAll_of_nil (content : scanner.drain = ([], fault)) (requests : List Request) :
    (scanner.afterAll requests).drain = ([], fault) := by
  induction requests generalizing scanner with
  | nil => exact content
  | cons request requests ih => exact ih (ask_of_drain_nil content request).2

/-- In front of a lexical error, it is `pull` that makes a scanner halt. -/
theorem halted_afterAll (content : scanner.drain = ([], some error)) (requests : List Request) :
    (scanner.afterAll requests).halted = true ↔ scanner.halted = true ∨ .pull ∈ requests := by
  induction requests generalizing scanner with
  | nil => simp [afterAll]
  | cons request requests ih =>
    cases request with
    | next =>
      obtain ⟨after, asked, same, content⟩ := ask_next_of_drain_error content
      rw [afterAll, asked, ih content, same]
      simp
    | pull =>
      obtain ⟨after, asked, halted, content⟩ := ask_pull_of_drain_error content
      rw [afterAll, asked, ih content]
      simp [halted]

theorem filterMap_answers_of_nil (content : scanner.drain = ([], fault))
    (requests : List Request) : (scanner.answers requests).filterMap token? = [] := by
  induction requests generalizing scanner with
  | nil => rfl
  | cons request requests ih =>
    obtain ⟨silent, content⟩ := ask_of_drain_nil content request
    rw [answers, List.filterMap_cons_none silent]
    exact ih content

/-- The answers hold the tokens in their order, none left out and none twice. -/
theorem filterMap_answers (ready : scanner.halted = false)
    (content : scanner.drain = (tokens, fault)) (requests : List Request) :
    (scanner.answers requests).filterMap token? = tokens.take requests.length := by
  induction requests generalizing scanner tokens with
  | nil => simp [answers]
  | cons request requests ih =>
    cases tokens with
    | nil =>
      rw [List.take_nil]
      exact filterMap_answers_of_nil content _
    | cons token tokens =>
      obtain ⟨after, asked, ready, content⟩ := ask_of_drain_cons ready content request
      rw [answers, asked]
      simp [token?, Except.toOption, ih ready content]

theorem ask_afterAll_of_token (ready : scanner.halted = false)
    (content : scanner.drain = (tokens, fault)) (next : tokens[requests.length]? = some token)
    (request : Request) :
    ((scanner.afterAll requests).ask request).1 = some (.ok token) := by
  obtain ⟨within, here⟩ := List.getElem?_eq_some_iff.mp next
  obtain ⟨ready, content⟩ := afterAll_of_tokens ready content (Nat.le_of_lt within)
  rw [List.drop_eq_getElem_cons within, here] at content
  obtain ⟨after, asked, _⟩ := ask_of_drain_cons ready content request
  rw [asked]

/-- When all tokens are gone, the requests behind them are made in front of the end or the error. -/
theorem afterAll_of_exhausted (ready : scanner.halted = false)
    (content : scanner.drain = (tokens, fault)) (exhausted : tokens.length ≤ requests.length) :
    ∃ between : Scanner, between.halted = false ∧ between.drain = ([], fault) ∧
      scanner.afterAll requests = between.afterAll (requests.drop tokens.length) := by
  have size : (requests.take tokens.length).length = tokens.length :=
    List.length_take_of_le exhausted
  obtain ⟨still, behind⟩ := afterAll_of_tokens ready content (Nat.le_of_eq size)
  rw [size, List.drop_length] at behind
  refine ⟨_, still, behind, ?_⟩
  rw [← afterAll_append, List.take_append_drop]

/-- A scanner that is put in front of a source, whatever it has read before, and is then asked for
tokens in both ways, in any order, gives what a fresh scanner yields. The tokens come one by one.
Behind them there is nothing if the source has no lexical error, and otherwise `next` gives the
error each time, and `pull` the first time. The cursor never goes back, does not leave the source
and stays where it is once a request has failed. -/
theorem answers_in_any_order (scanner : Scanner) (source : String) :
    (∃ last, (start source).Yields (items (lex source)) last) ∧
    ∀ requests : List Request,
      ((scanner.load source).answers requests).filterMap token? =
        (lex source).1.take requests.length ∧
      let reached := (scanner.load source).afterAll requests
      (∀ token, (lex source).1[requests.length]? = some token →
        ∀ request, (reached.ask request).1 = some (.ok token)) ∧
      ((lex source).1.length ≤ requests.length →
        match (lex source).2 with
        | none => ∀ request, (reached.ask request).1 = none
        | some error => (reached.ask .next).1 = some (.error error) ∧
            (reached.ask .pull).1 =
              if .pull ∈ requests.drop (lex source).1.length then none else some (.error error)) ∧
      reached.cursor ≤ source.utf8ByteSize ∧
      (∀ request, reached.cursor ≤ (reached.ask request).2.cursor) ∧
      ∀ request error more, (reached.ask request).1 = some (.error error) →
        ((reached.ask request).2.afterAll more).cursor = (reached.ask request).2.cursor := by
  obtain ⟨last, yields, _⟩ := exists_yields (start source) rfl
  refine ⟨⟨last, yields⟩, fun requests => ?_⟩
  have ready : (scanner.load source).halted = false := rfl
  have content : (scanner.load source).drain = ((lex source).1, (lex source).2) := rfl
  refine ⟨filterMap_answers ready content requests, ?_, ?_, ?_, ?_, ?_⟩
  · exact fun token next request => ask_afterAll_of_token ready content next request
  · intro exhausted
    obtain ⟨between, ready, content, reached⟩ := afterAll_of_exhausted ready content exhausted
    rw [reached]
    cases fault : (lex source).2 with
    | none =>
      intro request
      rw [fault] at content
      obtain ⟨after, asked, _⟩ := ask_of_drain_end (drain_afterAll_of_nil content _) request
      rw [asked]
    | some error =>
      rw [fault] at content
      have there := drain_afterAll_of_nil content (requests.drop (lex source).1.length)
      obtain ⟨_, asked, _⟩ := ask_next_of_drain_error there
      obtain ⟨_, pulled, _⟩ := ask_pull_of_drain_error there
      refine ⟨congrArg Prod.fst asked, (congrArg Prod.fst pulled).trans ?_⟩
      simp only [halted_afterAll content, ready, Bool.false_eq_true, false_or]
  · exact (Reaches.here.afterAll requests).cursor_le
  · exact fun request => cursor_le_ask _ request
  · exact fun request error more failed => (stuck_of_ask_error failed).cursor_afterAll more

end ScriptTree.Scanner
