import ScriptTree.Number.Text

/-! JSON values and their text, on one line or indented. -/

namespace ScriptTree

/-- JSON values. The members of an object are ordered. -/
inductive Json where
  | null
  | boolean (value : Bool)
  | number (value : Number)
  | string (value : String)
  | array (items : List Json)
  | object (members : List (String × Json))

namespace Json

/-- Numbers have a plus sign in an exponent; an infinite number has no JSON form but `null`. -/
def numberStyle : Number.Style :=
  ⟨"e+", "null"⟩

/-- How one character is written in a JSON string. -/
def escapeChar (c : Char) : List Char :=
  if c = '"' || c = '\\' then ['\\', c]
  else if c = '\x08' then ['\\', 'b']
  else if c = '\x0c' then ['\\', 'f']
  else if c = '\n' then ['\\', 'n']
  else if c = '\r' then ['\\', 'r']
  else if c = '\t' then ['\\', 't']
  else if c.toNat < 0x20 then
    ['\\', 'u', '0', '0', Nat.digitChar (c.toNat / 16), Nat.digitChar (c.toNat % 16)]
  else [c]

def quote (text : String) : List Char :=
  '"' :: text.toList.flatMap escapeChar ++ ['"']

/-- Where a layout puts white space. -/
structure Layout where
  /-- What separates items at a depth of nesting. -/
  lineBreak : Nat → List Char
  /-- What follows the colon behind a key. -/
  afterColon : List Char

/-- Everything on one line and no white space. -/
def Layout.compact : Layout :=
  ⟨fun _ => [], []⟩

/-- One item a line, two spaces for each level, and a space behind colons. -/
def Layout.indented : Layout :=
  ⟨fun depth => '\n' :: List.replicate (2 * depth) ' ', [' ']⟩

mutual

/-- The text of a value that stands at a depth of nesting, and the text that follows it. -/
def write (layout : Layout) (depth : Nat) : Json → List Char → List Char
  | null, rest => "null".toList ++ rest
  | boolean value, rest => (toString value).toList ++ rest
  | number value, rest => (value.write numberStyle).toList ++ rest
  | string value, rest => quote value ++ rest
  | array [], rest => '[' :: ']' :: rest
  | array (item :: items), rest =>
    '[' :: (layout.lineBreak (depth + 1) ++
      write layout (depth + 1) item
        (writeItems layout (depth + 1) items (layout.lineBreak depth ++ ']' :: rest)))
  | object [], rest => '{' :: '}' :: rest
  | object ((key, value) :: members), rest =>
    '{' :: (layout.lineBreak (depth + 1) ++ quote key ++ ':' :: (layout.afterColon ++
      write layout (depth + 1) value
        (writeMembers layout (depth + 1) members (layout.lineBreak depth ++ '}' :: rest))))

/-- The text of the items behind the first, and the text that follows them. -/
def writeItems (layout : Layout) (depth : Nat) : List Json → List Char → List Char
  | [], rest => rest
  | item :: items, rest =>
    ',' :: (layout.lineBreak depth ++
      write layout depth item (writeItems layout depth items rest))

/-- The text of the members behind the first, and the text that follows them. -/
def writeMembers (layout : Layout) (depth : Nat) : List (String × Json) → List Char → List Char
  | [], rest => rest
  | (key, value) :: members, rest =>
    ',' :: (layout.lineBreak depth ++ quote key ++ ':' :: (layout.afterColon ++
      write layout depth value (writeMembers layout depth members rest)))

end

def compact (value : Json) : String :=
  String.ofList (value.write .compact 0 [])

def pretty (value : Json) : String :=
  String.ofList (value.write .indented 0 [])

end Json
end ScriptTree
