/-
# FlawQuery.Report.Toon -- rows in token-oriented notation

The notation saves tokens: rows with the same keys share one header, and a text goes without quotes
unless it could be taken for something else. Keys are sorted.
-/

import FlawQuery.Text.Blank
import FlawQuery.Text.DecimalDigit

namespace FlawQuery

/-- A value in a row. -/
inductive Cell where
  | text (s : String)
  | number (n : Nat)
  | flag (b : Bool)
  deriving DecidableEq, Repr

/-- Named cells in order. -/
abbrev Row := List (String × Cell)

namespace Toon

/-! ## Texts that need quotes -/

/-- Drops a first character for which `p` holds. -/
def dropOptional (p : Char → Bool) : List Char → List Char
  | c :: rest => if p c then rest else c :: rest
  | [] => []

/-- Drops one or more digits; `none` if there is no digit. -/
def dropDigits? (s : List Char) : Option (List Char) :=
  match s with
  | c :: _ =>
    if DecimalDigit.isDecimalDigit c then some (s.dropWhile DecimalDigit.isDecimalDigit) else none
  | [] => none

/-- Drops a point with digits after it, if there is one. -/
def dropFraction? : List Char → Option (List Char)
  | '.' :: rest => dropDigits? rest
  | s => some s

/-- Drops an exponent, if there is one. -/
def dropExponent? : List Char → Option (List Char)
  | 'e' :: rest => dropDigits? (dropOptional (fun c => c = '+' || c = '-') rest)
  | s => some s

/-- The text reads as a number: digits, perhaps with a minus, a fraction and an exponent. -/
def isNumeric (s : List Char) : Bool :=
  (do
    let rest ← dropDigits? (dropOptional (· = '-') s)
    let rest ← dropFraction? rest
    dropExponent? rest) = some []

/-- The characters that never stand in a text without quotes. -/
def isStructural (c : Char) : Bool :=
  c ∈ [':', '"', '\\', '[', ']', '\x7b', '\x7d', ',', '\n', '\r', '\t']

/-- The text opens like an item of a list. -/
def opensItem : List Char → Bool
  | '-' :: ' ' :: _ => true
  | _ => false

/-- The text can stand without quotes. -/
def isBare (s : String) : Bool :=
  let cs := s.toList
  !(cs.isEmpty || cs.head?.any Blank.isBlank || cs.getLast?.any Blank.isBlank ||
    s = "true" || s = "false" || s = "null" || isNumeric cs || cs.any isStructural || opensItem cs)

/-- One character as it stands between quotes. -/
def escapeChar (c : Char) : List Char :=
  if c = '\\' then ['\\', '\\']
  else if c = '"' then ['\\', '"']
  else if c = '\n' then ['\\', 'n']
  else if c = '\r' then ['\\', 'r']
  else if c = '\t' then ['\\', 't']
  else [c]

/-- A text, quoted if it has to be. -/
def quoteText (s : String) : String :=
  if isBare s then s else "\"" ++ String.ofList (s.toList.flatMap escapeChar) ++ "\""

/-! ## Rows -/

/-- A cell as it stands in a row. -/
def cellText : Cell → String
  | .text s => quoteText s
  | .number n => toString n
  | .flag true => "true"
  | .flag false => "false"

/-- The cells of a row by their keys in ascending order. -/
def sortRow (row : Row) : Row :=
  row.mergeSort fun a b => a.1 ≤ b.1

/-- A row under a shared header. -/
def rowLine (row : Row) : String :=
  "  " ++ ",".intercalate (row.map fun e => cellText e.2)

/-- A cell with its key. -/
def entryText (e : String × Cell) : String :=
  e.1 ++ ": " ++ cellText e.2

/-- A row with its own keys: a dash before the first cell, and the others below it. -/
def itemLines : Row → List String
  | [] => ["  -"]
  | e :: rest => ("  - " ++ entryText e) :: rest.map fun e => "    " ++ entryText e

/-- Rows under a name. Rows with equal keys share one header, which lists them. -/
def table (name : String) (rows : List Row) : String :=
  let rows := rows.map sortRow
  let header := name ++ "[" ++ toString rows.length ++ "]"
  match rows with
  | [] => header ++ ":"
  | first :: _ =>
    let keys := first.map Prod.fst
    "\n".intercalate <|
      if rows.all fun row => row.map Prod.fst = keys then
        (header ++ "\x7b" ++ ",".intercalate keys ++ "\x7d:") :: rows.map rowLine
      else (header ++ ":") :: rows.flatMap itemLines

end Toon

end FlawQuery
