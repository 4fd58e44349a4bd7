/-!
Tokens: a class, the kind, together with the exact text that was read. Strings keep their quotes.
-/

namespace ScriptTree

inductive TokenKind where
  | leftBrace
  | rightBrace
  | leftParen
  | rightParen
  | semicolon
  | comma
  | kwInt
  | kwIf
  | kwElse
  | kwTrue
  | kwFalse
  | kwNull
  | kwWhile
  | kwDo
  | kwFor
  | number
  | string
  | identifier
  | equality
  | simpleAssignment
  | compoundAssignment
  | additive
  | multiplicative
  | relational
  | logicalAnd
  | logicalOr
  | logicalNot
deriving DecidableEq, Repr

namespace TokenKind

/-- Every kind, once. -/
def all : List TokenKind :=
  [leftBrace, rightBrace, leftParen, rightParen, semicolon, comma, kwInt, kwIf, kwElse, kwTrue,
   kwFalse, kwNull, kwWhile, kwDo, kwFor, number, string, identifier, equality,
   simpleAssignment, compoundAssignment, additive, multiplicative, relational, logicalAnd,
   logicalOr, logicalNot]

theorem mem_all (kind : TokenKind) : kind ∈ all := by
  cases kind <;> decide

/-- The name under which a kind is listed. -/
def name : TokenKind → String
  | leftBrace => "LBrace"
  | rightBrace => "RBrace"
  | leftParen => "LParen"
  | rightParen => "RParen"
  | semicolon => "Semicolon"
  | comma => "Comma"
  | kwInt => "Int"
  | kwIf => "If"
  | kwElse => "Else"
  | kwTrue => "True"
  | kwFalse => "False"
  | kwNull => "Null"
  | kwWhile => "While"
  | kwDo => "Do"
  | kwFor => "For"
  | number => "Number"
  | string => "String"
  | identifier => "Identifier"
  | equality => "Equality"
  | simpleAssignment => "SimpleAssignment"
  | compoundAssignment => "ComplexAssignment"
  | additive => "Additive"
  | multiplicative => "Multiplicative"
  | relational => "Relational"
  | logicalAnd => "LogicalAnd"
  | logicalOr => "LogicalOr"
  | logicalNot => "LogicalNot"

/-- The kind listed under a name. -/
def ofName? (name : String) : Option TokenKind :=
  all.find? fun kind => kind.name == name

/-- How a message speaks of a kind: fixed spellings in quotes, classes in words. -/
def describe : TokenKind → String
  | leftBrace => "'\x7b'"
  | rightBrace => "'\x7d'"
  | leftParen => "'('"
  | rightParen => "')'"
  | semicolon => "';'"
  | comma => "','"
  | kwInt => "'int'"
  | kwIf => "'if'"
  | kwElse => "'else'"
  | kwTrue => "'true'"
  | kwFalse => "'false'"
  | kwNull => "'null'"
  | kwWhile => "'while'"
  | kwDo => "'do'"
  | kwFor => "'for'"
  | number => "number"
  | string => "string"
  | identifier => "identifier"
  | equality => "equality operator"
  | simpleAssignment => "'='"
  | compoundAssignment => "compound assignment"
  | additive => "additive operator"
  | multiplicative => "multiplicative operator"
  | relational => "relational operator"
  | logicalAnd => "'&&'"
  | logicalOr => "'||'"
  | logicalNot => "'!'"

def isLiteral : TokenKind → Bool
  | number | string | kwTrue | kwFalse | kwNull => true
  | _ => false

def isAssignment : TokenKind → Bool
  | simpleAssignment | compoundAssignment => true
  | _ => false

end TokenKind

/-- A piece of source text with its kind. -/
structure Token where
  kind : TokenKind
  text : String
deriving DecidableEq, Repr

/-- A token as messages show it, in single quotes. -/
def Token.shown (token : Token) : String :=
  "'" ++ token.text ++ "'"

/-- The text of a token without its first and last character: the content of a string. -/
def Token.content (token : Token) : String :=
  String.ofList token.text.toList.tail.dropLast

/-- The number of bytes that characters take in UTF-8. -/
def byteLength : List Char → Nat
  | [] => 0
  | c :: cs => c.utf8Size + byteLength cs

@[simp] theorem byteLength_nil : byteLength [] = 0 := rfl

@[simp] theorem byteLength_append (cs ds : List Char) :
    byteLength (cs ++ ds) = byteLength cs + byteLength ds := by
  induction cs with
  | nil => simp
  | cons c cs ih => simp [byteLength, ih, Nat.add_assoc]

theorem byteLength_eq_utf8ByteSize (cs : List Char) :
    byteLength cs = (String.ofList cs).utf8ByteSize := by
  induction cs with
  | nil => rfl
  | cons c cs ih => simp [byteLength, ih, String.ofList_cons]

theorem byteLength_toList (text : String) : byteLength text.toList = text.utf8ByteSize := by
  rw [byteLength_eq_utf8ByteSize, String.ofList_toList]

/-- A character that starts no token, and its offset in bytes. -/
structure LexError where
  character : Char
  position : Nat
deriving DecidableEq, Repr

def LexError.message (error : LexError) : String :=
  "Unrecognized character '" ++ error.character.toString ++ "' at offset " ++
    toString error.position

end ScriptTree
