/-
# FlawQuery.Json.Value -- JSON values and how they are written

Two layouts: compact, and indented by two spaces a level. Members keep their order. A text escapes
the quote, the backslash and the characters below space, and nothing else.
-/

import FlawQuery.Text.Hex

namespace FlawQuery.Json

/-- A JSON value. A number that is not a whole one within 64 bits is kept as its decimal text. -/
inductive Value where
  | null
  | boolean (b : Bool)
  | integer (n : Int)
  | real (decimal : String)
  | text (s : String)
  | list (items : List Value)
  | record (members : List (String × Value))
  deriving Repr

/-- One character as it stands inside a text. -/
def escapeChar (c : Char) : List Char :=
  if c = '"' then ['\\', '"']
  else if c = '\\' then ['\\', '\\']
  else if c = '\x08' then ['\\', 'b']
  else if c = '\x0c' then ['\\', 'f']
  else if c = '\n' then ['\\', 'n']
  else if c = '\r' then ['\\', 'r']
  else if c = '\t' then ['\\', 't']
  else if c.toNat < 0x20 then '\\' :: 'u' :: Hex.fourDigits c.toNat
  else [c]

/-- A text between quotes. -/
def quote (s : String) : String :=
  "\"" ++ String.ofList (s.toList.flatMap escapeChar) ++ "\""

/-- A line break and the indentation of level `depth`. -/
def lineBreak (depth : Nat) : String :=
  "\n" ++ String.ofList (List.replicate (2 * depth) ' ')

namespace Value

mutual

/-- The value without any space. -/
def compact : Value → String
  | null => "null"
  | boolean true => "true"
  | boolean false => "false"
  | integer n => toString n
  | real decimal => decimal
  | text s => quote s
  | list items => "[" ++ ",".intercalate (compactItems items) ++ "]"
  | record members => "\x7b" ++ ",".intercalate (compactMembers members) ++ "\x7d"

/-- The items of a list, each without any space. -/
def compactItems : List Value → List String
  | [] => []
  | v :: rest => v.compact :: compactItems rest

/-- The members of a record, each without any space. -/
def compactMembers : List (String × Value) → List String
  | [] => []
  | (key, v) :: rest => (quote key ++ ":" ++ v.compact) :: compactMembers rest

end

mutual

/-- The value over several lines, the first of which stands at level `depth`. An empty list or
record stays on one line. -/
def indented (depth : Nat) : Value → String
  | null => "null"
  | boolean true => "true"
  | boolean false => "false"
  | integer n => toString n
  | real decimal => decimal
  | text s => quote s
  | list [] => "[]"
  | list (v :: rest) =>
    "[" ++ lineBreak (depth + 1) ++
      ("," ++ lineBreak (depth + 1)).intercalate (indentedItems (depth + 1) (v :: rest)) ++
      lineBreak depth ++ "]"
  | record [] => "\x7b\x7d"
  | record (m :: rest) =>
    "\x7b" ++ lineBreak (depth + 1) ++
      ("," ++ lineBreak (depth + 1)).intercalate (indentedMembers (depth + 1) (m :: rest)) ++
      lineBreak depth ++ "\x7d"

/-- The items of a list at level `depth`. -/
def indentedItems (depth : Nat) : List Value → List String
  | [] => []
  | v :: rest => v.indented depth :: indentedItems depth rest

/-- The members of a record at level `depth`. -/
def indentedMembers (depth : Nat) : List (String × Value) → List String
  | [] => []
  | (key, v) :: rest => (quote key ++ ": " ++ v.indented depth) :: indentedMembers depth rest

end

/-- The value over several lines, indented by two spaces a level. -/
def pretty (v : Value) : String := v.indented 0

end Value

end FlawQuery.Json
