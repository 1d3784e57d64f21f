/-
# FlawQuery.Text.Quoted -- quoted texts in diagnostics

A diagnostic quotes a text so that it can be told apart from its surroundings and no character is
invisible: what is not printable is written as its code point in hexadecimal between braces.
-/

import FlawQuery.Text.Hex
import FlawQuery.Text.Printable

namespace FlawQuery.Quoted

/-- One character as it stands between the quotes. -/
def escapeChar (c : Char) : List Char :=
  if c = '\x00' then ['\\', '0']
  else if c = '\t' then ['\\', 't']
  else if c = '\r' then ['\\', 'r']
  else if c = '\n' then ['\\', 'n']
  else if c = '"' then ['\\', '"']
  else if c = '\\' then ['\\', '\\']
  else if Printable.isPrintable c then [c]
  else ['\\', 'u', '\x7b'] ++ Hex.digits c.toNat ++ ['\x7d']

/-- The text between quotes. -/
def quote (s : String) : String :=
  "\"" ++ String.ofList (s.toList.flatMap escapeChar) ++ "\""

end FlawQuery.Quoted
