import ScriptTree.Grammar.Stmt

/-!
Parsers. A parser reads one source after the other; whatever an earlier source left behind is
discarded when the next one is loaded.
-/

namespace ScriptTree

/-- What a reading yields, without the rest of the source. -/
def Reading.outcome {σ α : Type} [TokenSource σ] {bound : Nat} (reading : Reading σ bound α) :
    Except ParseError α :=
  match reading with
  | .ok parsed => .ok parsed.value
  | .error failure => .error failure.error

/-- The state in which a reading ends. -/
def Reading.rest {σ α : Type} [TokenSource σ] {bound : Nat} (reading : Reading σ bound α) : σ :=
  match reading with
  | .ok parsed => parsed.rest
  | .error failure => failure.rest

/-- The program that a list of tokens forms. -/
def parseTokens (tokens : List Token) : Except ParseError Program :=
  (Grammar.program tokens).outcome

structure Parser where
  cursor : Cursor
deriving DecidableEq, Repr

namespace Parser

def fresh : Parser :=
  ⟨⟨none, .start ""⟩⟩

/-- Puts the parser in front of a source whose first token is not read yet. -/
def load (parser : Parser) (source : String) : Cursor :=
  { parser.cursor with scanner := parser.cursor.scanner.load source }

def parse (parser : Parser) (source : String) : Except ParseError Program × Parser :=
  match (parser.load source).refill with
  | .error (error, cursor) => (.error (.lexical error), ⟨cursor⟩)
  | .ok cursor =>
    let reading := Grammar.program cursor
    (reading.outcome, ⟨reading.rest⟩)

end Parser

/-- The program that a source denotes. -/
def parse (source : String) : Except ParseError Program :=
  (Parser.fresh.parse source).1

end ScriptTree
