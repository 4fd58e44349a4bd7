import ScriptTree.Grammar.Error
import ScriptTree.Token.Scanner

/-!
Reading from a source of tokens with one token of lookahead. A reading ends in a value and the
rest of the source, which is smaller, or in an error and the state in which it arose. The bound in
the type of a reading is what makes recursive productions terminate.
-/

namespace ScriptTree

/--
A source of tokens. `peek` shows the next token and `advance` drops it, which may fail because the
token behind it cannot be read.
-/
class TokenSource (σ : Type) where
  peek : σ → Option Token
  advance : σ → Except (LexError × σ) σ
  size : σ → Nat
  size_advance {s rest : σ} {token : Token} :
    peek s = some token → advance s = .ok rest → size rest < size s

/-- A list is a source whose tokens are all at hand. -/
instance : TokenSource (List Token) where
  peek := List.head?
  advance tokens := .ok tokens.tail
  size := List.length
  size_advance {s rest token} ahead dropped := by
    cases s with
    | nil => cases ahead
    | cons => cases dropped; exact Nat.lt_succ_self _

/-- A scanner together with the token that was read from it last. -/
structure Cursor where
  lookahead : Option Token
  scanner : Scanner
deriving DecidableEq, Repr

namespace Cursor

/-- Replaces the lookahead by the next token of the scanner. The lookahead stays where the scanner
has an error instead of a token. -/
def refill (cursor : Cursor) : Except (LexError × Cursor) Cursor :=
  match cursor.scanner.next with
  | (.ok token, scanner) => .ok ⟨token, scanner⟩
  | (.error error, scanner) => .error (error, { cursor with scanner })

/-- Takes the lookahead away and puts the next token of the scanner in its place. -/
def advance (cursor : Cursor) : Except (LexError × Cursor) Cursor :=
  { cursor with lookahead := none }.refill

/-- A bound on the number of tokens to come. -/
def size (cursor : Cursor) : Nat :=
  match cursor.lookahead with
  | none => 0
  | some _ => cursor.scanner.rest.length + 1

theorem size_advance {cursor rest : Cursor} {token : Token}
    (ahead : cursor.lookahead = some token) (moved : cursor.advance = .ok rest) :
    rest.size < cursor.size := by
  unfold advance refill at moved
  split at moved <;> cases moved
  rename_i next scanner read
  cases next with
  | none => simp [size, ahead]
  | some _ => simpa [size, ahead] using Scanner.next_length_lt read

end Cursor

/-- A cursor reads its tokens on demand. -/
instance : TokenSource Cursor where
  peek := Cursor.lookahead
  advance := Cursor.advance
  size := Cursor.size
  size_advance := Cursor.size_advance

open TokenSource

/-- An error and the state of the source in which it arose. -/
structure Failure (σ : Type) where
  error : ParseError
  rest : σ
deriving DecidableEq, Repr

/-- A value and the rest of the source, whose size is below a bound. -/
structure Parsed (σ : Type) [TokenSource σ] (bound : Nat) (α : Type) where
  value : α
  rest : σ
  size_lt : size rest < bound

/-- The outcome of reading a value from a source. -/
abbrev Reading (σ : Type) [TokenSource σ] (bound : Nat) (α : Type) :=
  Except (Failure σ) (Parsed σ bound α)

namespace Reading

variable {σ α β : Type} [TokenSource σ] {bound : Nat}

/-- A value that is known without reading further. -/
def done (value : α) (s : σ) : Reading σ (size s + 1) α :=
  .ok ⟨value, s, Nat.lt_succ_self _⟩

/-- Forgets that a reading made progress. -/
def relax (reading : Reading σ bound α) : Reading σ (bound + 1) α :=
  match reading with
  | .ok parsed => .ok ⟨parsed.value, parsed.rest, Nat.lt_succ_of_lt parsed.size_lt⟩
  | .error failure => .error failure

/-- Goes on from the rest, perhaps without reading more. -/
def onward (reading : Reading σ bound α)
    (next : α → (s : σ) → size s < bound → Reading σ (size s + 1) β) : Reading σ bound β :=
  match reading with
  | .error failure => .error failure
  | .ok ⟨value, s, smaller⟩ =>
    match next value s smaller with
    | .error failure => .error failure
    | .ok ⟨result, rest, within⟩ =>
      .ok ⟨result, rest, Nat.lt_of_lt_of_le within smaller⟩

/-- Reads on from the rest. -/
def andThen (reading : Reading σ bound α)
    (next : α → (s : σ) → size s < bound → Reading σ (size s) β) : Reading σ bound β :=
  reading.onward fun value s smaller => (next value s smaller).relax

/-- Applies a function to the value read. -/
def map (f : α → β) (reading : Reading σ bound α) : Reading σ bound β :=
  match reading with
  | .ok parsed => .ok ⟨f parsed.value, parsed.rest, parsed.size_lt⟩
  | .error failure => .error failure

end Reading

variable {σ : Type} [TokenSource σ]

/-- The kind of the next token. -/
def peekKind (s : σ) : Option TokenKind :=
  (peek s).map Token.kind

/-- Takes the next token if it has the expected kind. -/
def eat (expected : TokenKind) (s : σ) : Reading σ (size s) Token :=
  match ahead : peek s with
  | none => .error ⟨.unexpectedEnd expected, s⟩
  | some token =>
    if token.kind = expected then
      match moved : advance s with
      | .ok rest => .ok ⟨token, rest, size_advance ahead moved⟩
      | .error (error, rest) => .error ⟨.lexical error, rest⟩
    else .error ⟨.unexpectedToken token expected, s⟩

/-- Reads a value unless a token of the given kind comes next. -/
def unlessNext {α : Type} (stop : TokenKind) (read : (s : σ) → Reading σ (size s) α) (s : σ) :
    Reading σ (size s + 1) (Option α) :=
  if peekKind s = some stop then .done none s else ((read s).map some).relax

end ScriptTree
