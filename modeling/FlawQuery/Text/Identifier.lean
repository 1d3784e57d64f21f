/-
# FlawQuery.Text.Identifier -- the names a query may use unquoted

Vertex ids become query variables, variants become labels. Both are written into a query without
any quoting, so they are restricted to the plain names `[A-Za-z_][A-Za-z0-9_]*`. The class is ASCII
on purpose: a letter outside ASCII is not part of a plain name.
-/

namespace FlawQuery

/-- A character that may stand anywhere in a plain name: an ASCII letter, an ASCII digit or `_`. -/
def isNameChar (c : Char) : Bool :=
  c.isAlphanum || c == '_'

/-- A character that may open a plain name: an ASCII letter or `_`. -/
def isNameStart (c : Char) : Bool :=
  c.isAlpha || c == '_'

/-- A plain name: not empty, opened by a letter or `_`, continued by letters, digits or `_`. -/
def isIdentifier (s : String) : Bool :=
  match s.toList with
  | [] => false
  | c :: cs => isNameStart c && cs.all isNameChar

theorem isNameChar_of_isNameStart {c : Char} (h : isNameStart c = true) : isNameChar c = true := by
  simp only [isNameStart, isNameChar, Char.isAlphanum, Bool.or_eq_true] at h ⊢
  rcases h with h | h
  · exact Or.inl (Or.inl h)
  · exact Or.inr h

end FlawQuery
