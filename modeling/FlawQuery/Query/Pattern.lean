/-
# FlawQuery.Query.Pattern -- what a query matches, and how it is written

A node pattern `(v:VARIANT:TYPE)` matches a vertex and binds it to a variable. A relationship
pattern `(a)-[r*2..5]->(b)` matches a connection between two bound vertices. Both stay data until
`text` writes them.
-/

import FlawQuery.Template.Basic

namespace FlawQuery

/-- A vertex as a query matches it, bound to the variable `name`. -/
structure NodePattern where
  name : String
  variant : Option String
  kind : VertexType
  deriving DecidableEq, Repr

namespace NodePattern

/-- The pattern of a template vertex: its id is the variable. -/
def ofVertex (v : Vertex) : NodePattern :=
  ⟨v.id, v.labelVariant?, v.kind⟩

/-- The pattern in query text. -/
def text (n : NodePattern) : String :=
  match n.variant with
  | some variant => "(" ++ n.name ++ ":" ++ variant ++ ":" ++ n.kind.label ++ ")"
  | none => "(" ++ n.name ++ ":" ++ n.kind.label ++ ")"

end NodePattern

/-- The repetition of a relationship: nothing for exactly one, `*` for one or more, else the bounds
around two dots, an open end for no upper bound. -/
def repeatModifier : Nat → UpperBound → String
  | 1, .bounded 1 => ""
  | 1, .unbounded => "*"
  | lower, .bounded upper => "*" ++ toString lower ++ ".." ++ toString upper
  | lower, .unbounded => "*" ++ toString lower ++ ".."

/-- A connection between two matched vertices, bound to the variable `name`. -/
structure RelationshipPattern where
  name : String
  source : String
  target : String
  lower : Nat
  upper : UpperBound
  deriving DecidableEq, Repr

/-- The pattern in query text. -/
def RelationshipPattern.text (r : RelationshipPattern) : String :=
  "(" ++ r.source ++ ")-[" ++ r.name ++ repeatModifier r.lower r.upper ++ "]->(" ++
    r.target ++ ")"

/-- A vertex that must be matched, or may be. -/
structure VertexMatch where
  node : NodePattern
  optional : Bool
  deriving DecidableEq, Repr

/-- The match as a query line. -/
def VertexMatch.text (m : VertexMatch) : String :=
  (if m.optional then "OPTIONAL MATCH " else "MATCH ") ++ m.node.text

/-- A relationship whose match is bound to a path variable. -/
structure EdgeMatch where
  path : String
  relationship : RelationshipPattern
  deriving DecidableEq, Repr

/-- The match as a query line. -/
def EdgeMatch.text (m : EdgeMatch) : String :=
  "MATCH " ++ m.path ++ "=" ++ m.relationship.text

end FlawQuery
