/-
# FlawQuery.Text.Blank -- white space of all scripts

The characters with the property "white space": ASCII space and the five controls from tab to
carriage return, next line, no-break space, and the spaces and separators beyond Latin.
-/

namespace FlawQuery.Blank

/-- The ranges of white space, ascending, both ends included. -/
def ranges : List (Nat × Nat) :=
  [(0x9, 0xD), (0x20, 0x20), (0x85, 0x85), (0xA0, 0xA0), (0x1680, 0x1680), (0x2000, 0x200A),
   (0x2028, 0x2029), (0x202F, 0x202F), (0x205F, 0x205F), (0x3000, 0x3000)]

/-- The character is white space. -/
def isBlank (c : Char) : Bool :=
  ranges.any fun r => decide (r.1 ≤ c.toNat) && decide (c.toNat ≤ r.2)

end FlawQuery.Blank
