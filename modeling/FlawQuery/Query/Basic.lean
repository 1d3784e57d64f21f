/-
# FlawQuery.Query.Basic -- whole queries

`Query` finds the occurrences of a flaw. `ExistenceQuery` asks beforehand whether the vertices exist
whose connection the flaw lacks. Both are lists of parts; `lines` gives one line per part and `text`
joins them.
-/

import FlawQuery.Query.Constraint
import FlawQuery.Query.Pattern

namespace FlawQuery

/-- Joins query lines. -/
def joinLines (lines : List String) : String :=
  "\n".intercalate lines

/-- The line that returns the variables with the given names. -/
def returnLine (names : List String) : String :=
  "RETURN " ++ ",".intercalate names

/-- The lines of a conjunction, none if nothing is required. -/
def constraintLines : List Constraint → List String
  | [] => []
  | c :: rest => ("WHERE " ++ c.text) :: rest.map fun c => "AND " ++ c.text

/-- A query for the occurrences of a flaw. Optional vertices come after everything that they may
depend on. -/
structure Query where
  mandatory : List NodePattern
  edges : List EdgeMatch
  optional : List NodePattern
  constraints : List Constraint
  returned : List String
  deriving DecidableEq, Repr

namespace Query

/-- One line per match and per constraint, and the return line last. -/
def lines (q : Query) : List String :=
  q.mandatory.map (fun n => VertexMatch.text ⟨n, false⟩) ++ q.edges.map EdgeMatch.text ++
    q.optional.map (fun n => VertexMatch.text ⟨n, true⟩) ++ constraintLines q.constraints ++
    [returnLine q.returned]

/-- The query as text. -/
def text (q : Query) : String := joinLines q.lines

/-- The vertices that are matched, the mandatory ones first. -/
def vertexMatches (q : Query) : List VertexMatch :=
  q.mandatory.map (⟨·, false⟩) ++ q.optional.map (⟨·, true⟩)

end Query

/-- A query that looks for vertices without requiring any. -/
structure ExistenceQuery where
  nodes : List NodePattern
  deriving DecidableEq, Repr

namespace ExistenceQuery

/-- One optional match per vertex, then the line that returns them all. -/
def lines (q : ExistenceQuery) : List String :=
  q.nodes.map (fun n => VertexMatch.text ⟨n, true⟩) ++ [returnLine (q.nodes.map (·.name))]

/-- The query as text. -/
def text (q : ExistenceQuery) : String := joinLines q.lines

end ExistenceQuery

end FlawQuery
