import ScriptTree.Token.Basic

/-! Why a source is refused. The first fault ends the reading. -/

namespace ScriptTree

/-- The faults of a source. -/
inductive ParseError where
  /-- A character starts no token. -/
  | lexical (error : LexError)
  /-- The source ends where a token of a kind has to stand. -/
  | unexpectedEnd (expected : TokenKind)
  /-- A token stands where one of another kind has to. -/
  | unexpectedToken (found : Token) (expected : TokenKind)
  /-- What stands before an assignment operator is no name but a node of this kind. -/
  | invalidTarget (target : String)
  | notLiteral (found : String)
deriving DecidableEq, Repr

def ParseError.message : ParseError → String
  | lexical error => error.message
  | unexpectedEnd expected => "Unexpected end of input, expected " ++ expected.describe
  | unexpectedToken found expected =>
    "Unexpected token " ++ found.shown ++ " (" ++ found.kind.describe ++ "), expected " ++
      expected.describe
  | invalidTarget target => "Invalid left-hand side in assignment: " ++ target
  | notLiteral found => "Unexpected literal production: " ++ found

end ScriptTree
