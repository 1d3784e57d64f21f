/-
# FlawQuery.Text.Literal -- text inside a double-quoted query literal

An edge condition is the only free text that reaches a query. It is written between double quotes,
with every character that could end the literal or the line replaced by an escape.
-/

import FlawQuery.Text.Hex

namespace FlawQuery.Literal

/-- A control character: below space, or from delete to the end of the second control block. -/
def isControl (c : Char) : Bool :=
  c.toNat < 0x20 || (0x7F ≤ c.toNat && c.toNat ≤ 0x9F)

/-- One character as it stands inside a literal. -/
def escapeChar (c : Char) : List Char :=
  if c = '\\' then ['\\', '\\']
  else if c = '"' then ['\\', '"']
  else if c = '\n' then ['\\', 'n']
  else if c = '\r' then ['\\', 'r']
  else if c = '\t' then ['\\', 't']
  else if isControl c then '\\' :: 'u' :: Hex.fourDigits c.toNat
  else [c]

/-- The body of a literal that denotes `s`. -/
def escape (s : String) : String :=
  String.ofList (s.toList.flatMap escapeChar)

/-- The whole literal that denotes `s`, quotes included. -/
def quote (s : String) : String :=
  "\"" ++ escape s ++ "\""

end FlawQuery.Literal
