/-
# FlawQuery.Json.Reader -- reading JSON into types, left to right

A reader takes the text and gives a value and the rest, or the first fault in document order, be it
one of form or one of shape. It also knows how many lists and records may still open inside one
another. Lists and records are read one item at a time by `listItems` and `members`; the number of
rounds is bounded by the length of the text, since each round takes at least one character.
-/

import FlawQuery.Json.Number
import FlawQuery.Json.Text

namespace FlawQuery.Json

/-- A reader of values: from the room for nesting and the text to a value and the rest. -/
def Reader (α : Type) : Type :=
  Nat → List Char → Except Fault (α × List Char)

/-- A document may hold this many lists and records inside one another. -/
def maxNesting : Nat := 127

/-- The space that may stand between the parts of a document. -/
def isSpace (c : Char) : Bool :=
  c = ' ' || c = '\n' || c = '\t' || c = '\r'

namespace Reader

variable {α β : Type}

instance : Monad Reader where
  pure a := fun _ s => .ok (a, s)
  bind r f := fun room s =>
    match r room s with
    | .ok (a, rest) => f a room rest
    | .error fault => .error fault

/-- Refuses the text. -/
def fail (fault : Fault) : Reader α := fun _ _ => .error fault

/-- Takes one step on the text. -/
def step (f : List Char → Except Fault (α × List Char)) : Reader α := fun _ s => f s

/-- The length of the text that is left. -/
def remaining : Reader Nat := fun _ s => .ok (s.length, s)

/-- Reads inside a list or record, if there is room for one more. -/
def nested (r : Reader α) : Reader α := fun room s =>
  match room with
  | 0 => .error .nestingTooDeep
  | room + 1 => r room s

/-- The next character that is no space; it stays in the text. -/
def peek : Reader (Option Char) := fun _ s =>
  let rest := s.dropWhile isSpace
  .ok (rest.head?, rest)

/-- Drops one character. -/
def advance : Reader Unit := fun _ s => .ok ((), s.tail)

/-! ## Scalars -/

/-- Takes the letters of a word. -/
def takeWord : List Char → List Char → Except Fault (Unit × List Char)
  | [], s => .ok ((), s)
  | _ :: _, [] => .error .endInValue
  | w :: ws, c :: s => if w = c then takeWord ws s else .error .wordExpected

/-- Takes a word and answers with `a`. -/
def word (w : String) (a : α) : Reader α := do
  step (takeWord w.toList)
  return a

/-- A text after its opening quote. -/
def textBody : Reader String := do
  let body ← step readText
  return String.ofList body

/-- Reads a scalar; of a list or record only the kind is told, and it stays in the text. -/
def found : Reader Found := do
  match ← peek with
  | none => fail .endInValue
  | some c =>
    if c = 'n' then word "null" .null
    else if c = 't' then word "true" (.boolean true)
    else if c = 'f' then word "false" (.boolean false)
    else if c = '-' ∨ c.isDigit then do
      let n ← step readNumber
      return n.found
    else if c = '"' then do
      advance
      let s ← textBody
      return .text s
    else if c = '[' then return .list
    else if c = '\x7b' then return .record
    else fail .valueExpected

/-- A text; `wanted` is what the message asks for. -/
def textAs (wanted : String) : Reader String := do
  match ← found with
  | .text s => return s
  | other => fail (.wrongType other wanted)

/-- A text. -/
def text : Reader String := textAs "a string"

/-- A text, or nothing for `null`. -/
def optionalText : Reader (Option String) := do
  match ← found with
  | .null => return none
  | .text s => return some s
  | other => fail (.wrongType other "a string")

/-- A truth value. -/
def boolean : Reader Bool := do
  match ← found with
  | .boolean b => return b
  | other => fail (.wrongType other "a boolean")

/-- The value `null`. -/
def null : Reader Unit := do
  match ← found with
  | .null => return ()
  | other => fail (.wrongType other "unit")

/-- The greatest signed 64-bit integer. -/
def maxInteger : Int := 9223372036854775807

/-- A signed 64-bit integer. -/
def integer : Reader Int := do
  match ← found with
  | .integer n => if n ≤ maxInteger then return n else fail (.integerOutOfRange n "i64")
  | other => fail (.wrongType other "i64")

/-! ## Lists and records -/

/-- Whether a list goes on with an item; takes the comma before it. -/
def nextItem (first : Bool) : Reader Bool := do
  match ← peek with
  | none => fail .endInList
  | some c =>
    if c = ']' then return false
    else if first then return true
    else if c = ',' then do
      advance
      match ← peek with
      | none => fail .endInValue
      | some c => if c = ']' then fail .trailingComma else return true
    else fail .listSeparatorExpected

/-- Takes the end of a list from which no further item is read. -/
def closeList : Reader Unit := do
  match ← peek with
  | none => fail .endInList
  | some c =>
    if c = ']' then advance
    else if c = ',' then do
      advance
      if (← peek) = some ']' then fail .trailingComma else fail .trailingCharacters
    else fail .trailingCharacters

/-- The items of a list up to its end, in at most `fuel` rounds. -/
def listItems (item : Reader α) : (fuel : Nat) → (first : Bool) → Reader (List α)
  | 0, _ => fail .endInList
  | fuel + 1, first => do
    if ← nextItem first then do
      let a ← item
      let rest ← listItems item fuel false
      return a :: rest
    else return []

/-- A list after its opening bracket. -/
def listBody (item : Reader α) : Reader (List α) := do
  let fuel ← remaining
  let items ← listItems item (fuel + 1) true
  closeList
  return items

/-- A list of items of one type. -/
def list (item : Reader α) : Reader (List α) := do
  match ← found with
  | .list => do
    advance
    nested (listBody item)
  | other => fail (.wrongType other "a sequence")

/-- The next key of a record; takes the comma before it. -/
def nextKey (first : Bool) : Reader (Option String) := do
  match ← peek with
  | none => fail .endInRecord
  | some c =>
    if c = '\x7d' then return none
    else if first then
      if c = '"' then do
        advance
        let key ← textBody
        return some key
      else fail .keyExpected
    else if c = ',' then do
      advance
      match ← peek with
      | none => fail .endInValue
      | some c =>
        if c = '"' then do
          advance
          let key ← textBody
          return some key
        else if c = '\x7d' then fail .trailingComma
        else fail .keyExpected
    else fail .recordSeparatorExpected

/-- Takes the colon between a key and its value. -/
def colon : Reader Unit := do
  match ← peek with
  | none => fail .endInRecord
  | some c => if c = ':' then advance else fail .colonExpected

/-- Folds `member` over the keys of a record up to its end, in at most `fuel` rounds. The key has
been read; the colon and the value are for `member` to read. -/
def members (member : β → String → Reader β) : (fuel : Nat) → (first : Bool) → β → Reader β
  | 0, _, _ => fail .endInRecord
  | fuel + 1, first, b => do
    match ← nextKey first with
    | some key => do
      let b ← member b key
      members member fuel false b
    | none => return b

/-- Folds `member` over the keys of a record after its opening brace. The closing brace stays. -/
def recordBody (member : β → String → Reader β) (b : β) : Reader β := do
  let fuel ← remaining
  members member (fuel + 1) true b

/-! ## Any value -/

/-- A value in a place with the given room for nesting. -/
def valueWithin : Nat → List Char → Except Fault (Value × List Char)
  | 0 => (do
      match ← found with
      | .list | .record => fail .nestingTooDeep
      | other => return other.toValue : Reader Value) 0
  | room + 1 => (do
      match ← found with
      | .list => do
        advance
        let items ← listBody fun _ => valueWithin room
        return .list items
      | .record => do
        advance
        let entries ← recordBody (fun (entries : List (String × Value)) key => do
          colon
          let v ← fun _ => valueWithin room
          return entries ++ [(key, v)]) []
        advance
        return .record entries
      | other => return other.toValue : Reader Value) (room + 1)

/-- Any value. -/
def value : Reader Value := fun room s => valueWithin room s

/-! ## Documents -/

/-- Reads a whole document; only space may follow it. -/
def run (r : Reader α) (s : String) : Except Fault α :=
  match r maxNesting s.toList with
  | .error fault => .error fault
  | .ok (a, rest) =>
    if rest.dropWhile isSpace = [] then .ok a else .error .trailingCharacters

end Reader

end FlawQuery.Json
