import ScriptTree.Token.Rule

/-!
Scanners. A scanner reads one token at a time from the front of its unread text. It can be read in
two ways: `next` repeats a lexical error each time it is asked, while `pull` reports it once and is
silent from then on.
-/

namespace ScriptTree

/-- The unread text, the number of bytes already read, and whether `pull` has met an error. -/
structure Scanner where
  rest : List Char
  cursor : Nat
  halted : Bool
deriving DecidableEq, Repr

namespace Scanner

def start (source : String) : Scanner :=
  ⟨source.toList, 0, false⟩

/-- Puts a scanner in front of a source, whatever it has read before. -/
def load (scanner : Scanner) (source : String) : Scanner :=
  { scanner with rest := source.toList, cursor := 0, halted := false }

/-- Nothing of an earlier source is left in a scanner. -/
@[simp] theorem load_eq_start (scanner : Scanner) (source : String) :
    scanner.load source = .start source :=
  rfl

/-- Whether any text is unread, be it only blanks or comments. -/
def hasMore (scanner : Scanner) : Bool :=
  !scanner.rest.isEmpty

def past (scanner : Scanner) (found : Match) : Scanner :=
  { scanner with rest := found.rest, cursor := scanner.cursor + byteLength found.lexeme }

/--
Reads the next token, skipping blanks and comments, and gives `none` at the end of the text. Where
no rule matches, the scanner stays in front of the offending character.
-/
def next (scanner : Scanner) : Except LexError (Option Token) × Scanner :=
  match unread : scanner.rest with
  | [] => (.ok none, scanner)
  | c :: cs =>
    match matched : firstMatch? (c :: cs) with
    | none => (.error ⟨c, scanner.cursor⟩, scanner)
    | some found =>
      have : found.rest.length < scanner.rest.length :=
        unread ▸ firstMatch?_length_lt matched
      match found.kind with
      | none => next (scanner.past found)
      | some kind => (.ok (some ⟨kind, String.ofList found.lexeme⟩), scanner.past found)
termination_by scanner.rest.length
decreasing_by
  exact this

/-- Reads the next token, and reports at most one lexical error. -/
def pull (scanner : Scanner) : Option (Except LexError Token) × Scanner :=
  if scanner.halted then (none, scanner)
  else
    match scanner.next with
    | (.ok none, after) => (none, after)
    | (.ok (some token), after) => (some (.ok token), after)
    | (.error error, after) => (some (.error error), { after with halted := true })

/-- Reading a token shortens the unread text. -/
theorem next_length_lt {scanner after : Scanner} {token : Token}
    (read : scanner.next = (.ok (some token), after)) :
    after.rest.length < scanner.rest.length := by
  fun_induction next scanner with
  | case1 => simp at read
  | case2 => simp at read
  | case3 scanner c cs same found matched _ _ ih =>
    have shorter := firstMatch?_length_lt matched
    exact Nat.lt_trans (ih read) (by simpa [past, same] using shorter)
  | case4 scanner c cs same found matched =>
    have shorter := firstMatch?_length_lt matched
    cases read
    simpa [past, same] using shorter

/-- All tokens from here on, and the lexical error that ends them, if any. -/
def drain (scanner : Scanner) : List Token × Option LexError :=
  match read : scanner.next with
  | (.ok none, _) => ([], none)
  | (.error error, _) => ([], some error)
  | (.ok (some token), after) =>
    have := next_length_lt read
    let (tokens, error) := after.drain
    (token :: tokens, error)
termination_by scanner.rest.length

end Scanner

/-- The tokens of a source, and the lexical error that ends them, if any. -/
def lex (source : String) : List Token × Option LexError :=
  (Scanner.start source).drain

end ScriptTree
