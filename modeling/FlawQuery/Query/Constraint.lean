/-
# FlawQuery.Query.Constraint -- conditions on matched names

A query admits a match only if every constraint holds. The compiler writes three kinds; a constraint
that is given as text stands for itself.
-/

import FlawQuery.Text.Literal

namespace FlawQuery

/-- A condition on the names that a query has bound. -/
inductive Constraint where
  /-- No vertex of the path is the given one. -/
  | absence (path vertex : String)
  /-- The relationship's `condition` property has the given value. -/
  | condition (relation value : String)
  /-- Both vertices carry the same labels. -/
  | sameLabels (first second : String)
  /-- A condition that is already query text. -/
  | verbatim (text : String)
  deriving DecidableEq, Repr

/-- The constraint in query text. -/
def Constraint.text : Constraint → String
  | absence path vertex => "NONE (n IN nodes(" ++ path ++ ") WHERE n=" ++ vertex ++ ")"
  | condition relation value => relation ++ ".condition=" ++ Literal.quote value
  | sameLabels first second => "labels(" ++ first ++ ")=labels(" ++ second ++ ")"
  | verbatim text => text

end FlawQuery
