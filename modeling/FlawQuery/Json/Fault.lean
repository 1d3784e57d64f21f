/-
# FlawQuery.Json.Fault -- why a text is not the expected JSON

A text can end too early, be no JSON at all, or be JSON of the wrong shape. Each constructor is one
cause; `category` tells the three classes apart and `message` words the cause.
-/

import FlawQuery.Json.Value
import FlawQuery.Text.Quoted

namespace FlawQuery.Json

/-- What stood where something else was wanted. -/
inductive Found where
  | null
  | boolean (b : Bool)
  | integer (n : Int)
  | real (decimal : String)
  | text (s : String)
  | list
  | record
  deriving DecidableEq, Repr

namespace Found

/-- What a value looks like from outside. -/
def ofValue : Value → Found
  | .null => null
  | .boolean b => boolean b
  | .integer n => integer n
  | .real decimal => real decimal
  | .text s => text s
  | .list _ => list
  | .record _ => record

/-- A scalar as a value; of a list or record only the kind is known. -/
def toValue : Found → Value
  | null => .null
  | boolean b => .boolean b
  | integer n => .integer n
  | real decimal => .real decimal
  | text s => .text s
  | list => .list []
  | record => .record []

/-- The thing in words. -/
def describe : Found → String
  | null => "null"
  | boolean true => "boolean `true`"
  | boolean false => "boolean `false`"
  | integer n => s!"integer `{n}`"
  | real decimal => s!"floating point `{decimal}`"
  | text s => "string " ++ Quoted.quote s
  | list => "sequence"
  | record => "map"

end Found

/-- The causes for which a text is refused. -/
inductive Fault where
  | endInValue
  | endInList
  | endInRecord
  | endInText
  | valueExpected
  | wordExpected
  | keyExpected
  | trailingComma
  | listSeparatorExpected
  | recordSeparatorExpected
  | colonExpected
  | invalidNumber
  | numberOutOfRange
  | controlCharacter
  | invalidEscape
  | cutSurrogatePair
  | loneSurrogate
  | trailingCharacters
  | nestingTooDeep
  | missingField (name : String)
  | duplicateField (name : String)
  | unknownVariant (found : String) (known : List String)
  | wrongType (found : Found) (wanted : String)
  | integerOutOfRange (n : Int) (wanted : String)
  | wrongLength (found : Nat) (wanted : String)
  | noAlternative (name : String)
  deriving DecidableEq, Repr

/-- The classes of faults. -/
inductive Category where
  /-- The text ends too early. -/
  | eof
  /-- The text is not JSON. -/
  | malformed
  /-- The text is JSON of another shape than the expected one. -/
  | data
  deriving DecidableEq, Repr

/-- The class under which a fault is reported. -/
def Category.name : Category → String
  | eof => "eof"
  | malformed => "syntax"
  | data => "data"

/-- Names for a message: one alone, two joined by "or", more after "one of". -/
def listChoices : List String → String
  | [] => "there are no variants"
  | [a] => s!"expected `{a}`"
  | [a, b] => s!"expected `{a}` or `{b}`"
  | names => "expected one of " ++ ", ".intercalate (names.map fun n => s!"`{n}`")

namespace Fault

/-- The class of the cause. -/
def category : Fault → Category
  | endInValue | endInList | endInRecord | endInText => .eof
  | missingField _ | duplicateField _ | unknownVariant .. | wrongType .. | integerOutOfRange ..
  | wrongLength .. | noAlternative _ => .data
  | _ => .malformed

/-- The cause in words. -/
def message : Fault → String
  | endInValue => "EOF while parsing a value"
  | endInList => "EOF while parsing a list"
  | endInRecord => "EOF while parsing an object"
  | endInText => "EOF while parsing a string"
  | valueExpected => "expected value"
  | wordExpected => "expected ident"
  | keyExpected => "key must be a string"
  | trailingComma => "trailing comma"
  | listSeparatorExpected => "expected `,` or `]`"
  | recordSeparatorExpected => "expected `,` or `\x7d`"
  | colonExpected => "expected `:`"
  | invalidNumber => "invalid number"
  | numberOutOfRange => "number out of range"
  | controlCharacter =>
    "control character (\\u0000-\\u001F) found while parsing a string"
  | invalidEscape => "invalid escape"
  | cutSurrogatePair => "unexpected end of hex escape"
  | loneSurrogate => "lone leading surrogate in hex escape"
  | trailingCharacters => "trailing characters"
  | nestingTooDeep => "recursion limit exceeded"
  | missingField name => s!"missing field `{name}`"
  | duplicateField name => s!"duplicate field `{name}`"
  | unknownVariant found known => s!"unknown variant `{found}`, {listChoices known}"
  | wrongType found wanted => s!"invalid type: {found.describe}, expected {wanted}"
  | integerOutOfRange n wanted => s!"invalid value: integer `{n}`, expected {wanted}"
  | wrongLength found wanted => s!"invalid length {found}, expected {wanted}"
  | noAlternative name => s!"data did not match any variant of untagged enum {name}"

end Fault

end FlawQuery.Json
