/-
# FlawQuery.Query.Statements -- statements collected for a query

Each edge of a template contributes a few statements. `merge` folds one collection into another:
vertex matches overwrite by name and keep their place, all else accumulates in order of arrival.
`query` and `existenceQuery?` arrange a finished collection.
-/

import FlawQuery.OrderedMap
import FlawQuery.Query.Basic

namespace FlawQuery

/-- Statements on the way to a query. -/
structure Statements where
  /-- Vertex matches by variable. -/
  vertices : OrderedMap VertexMatch := .empty
  edges : List EdgeMatch := []
  constraints : List Constraint := []
  /-- The members of each placeholder group, once per arrival. -/
  placeholders : OrderedMap (List String) := .empty
  /-- Targets of missing edges, once per arrival. -/
  absentTargets : List String := []

namespace Statements

/-- The collection without statements. -/
def empty : Statements := {}

/-- Records a vertex match, in place of an earlier match of the same variable. -/
def matchVertex (s : Statements) (node : NodePattern) (optional : Bool) : Statements :=
  { s with vertices := s.vertices.insert node.name ⟨node, optional⟩ }

/-- Records that a vertex belongs to a placeholder group. -/
def addPlaceholder (s : Statements) (group vertex : String) : Statements :=
  { s with placeholders := s.placeholders.appendAt group [vertex] }

/-- Records the group of a placeholder vertex, and nothing for any other. -/
def addPlaceholderOf (s : Statements) (v : Vertex) : Statements :=
  match v.group? with
  | some group => s.addPlaceholder group v.id
  | none => s

/-- Records a matched relationship. -/
def addEdge (s : Statements) (m : EdgeMatch) : Statements :=
  { s with edges := s.edges ++ [m] }

/-- Records a constraint. -/
def addConstraint (s : Statements) (c : Constraint) : Statements :=
  { s with constraints := s.constraints ++ [c] }

/-- Records the target of a missing edge. -/
def addAbsentTarget (s : Statements) (vertex : String) : Statements :=
  { s with absentTargets := s.absentTargets ++ [vertex] }

/-- Folds `other` into `s`: the later match of a vertex replaces the earlier one in its place. -/
def merge (s other : Statements) : Statements where
  vertices := s.vertices.insertAll other.vertices
  edges := s.edges ++ other.edges
  constraints := s.constraints ++ other.constraints
  placeholders := s.placeholders.appendAll other.placeholders
  absentTargets := s.absentTargets ++ other.absentTargets

/-- The vertices that must be matched, in order of first mention. -/
def mandatory (s : Statements) : List VertexMatch :=
  s.vertices.values.filter fun m => !m.optional

/-- The vertices that may be matched, in order of first mention. -/
def optional (s : Statements) : List VertexMatch :=
  s.vertices.values.filter (·.optional)

/-- The requirement of one placeholder group: its first two arrivals share their labels. A group
with a single arrival requires nothing. -/
def groupConstraint? : List String → Option Constraint
  | first :: second :: _ => some (.sameLabels first second)
  | _ => none

/-- The requirements of all placeholder groups. -/
def placeholderConstraints (s : Statements) : List Constraint :=
  s.placeholders.values.filterMap groupConstraint?

/-- The query that these statements make up, returning the given variables. -/
def query (s : Statements) (returned : List String) : Query where
  mandatory := s.mandatory.map (·.node)
  edges := s.edges
  optional := s.optional.map (·.node)
  constraints := s.constraints ++ s.placeholderConstraints
  returned := returned

/-- The vertices whose existence is in question: those that are optional in the end, and every
target of a missing edge. -/
def questionable (s : Statements) : List NodePattern :=
  (s.vertices.entries.filter fun e => e.2.optional || s.absentTargets.contains e.1).map (·.2.node)

/-- The query for the vertices whose existence is in question, if there are any. -/
def existenceQuery? (s : Statements) : Option ExistenceQuery :=
  match s.questionable with
  | [] => none
  | nodes => some ⟨nodes⟩

/-- Both collections hold the same statements; only the order of the two maps may differ. -/
def same (s other : Statements) : Bool :=
  s.vertices.sameEntries other.vertices && s.edges == other.edges &&
    s.constraints == other.constraints && s.placeholders.sameEntries other.placeholders &&
    s.absentTargets == other.absentTargets

end Statements

end FlawQuery
