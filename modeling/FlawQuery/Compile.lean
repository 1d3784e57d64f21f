/-
# FlawQuery.Compile -- from a template to its queries

One pass over the edges: each contributes statements, which are merged in order. A present edge is
matched along a fresh path. A missing edge matches its target optionally and requires that the
target lie on no vertex of the last path before it. A template with a missing edge also gets a query
for the existence of the missing edges' targets, to be run first: where no target exists, the flaw
is certain.
-/

import FlawQuery.Query.Statements
import FlawQuery.Query.Variables
import FlawQuery.Template.Build

namespace FlawQuery

open Template (Link)

namespace Template.Link

/-- The counters after the edge: a missing edge uses up a relationship name, but no path. -/
def advance (l : Link) (c : Counters) : Counters :=
  let c := c.takeRelation.2
  if l.edge.missing then c else c.takePath.2

/-- The relationship of a present edge, bound to the next path. -/
def edgeMatches (l : Link) (c : Counters) : List EdgeMatch :=
  if l.edge.missing then []
  else
    [{ path := c.takePath.1
       relationship := {
         name := c.takeRelation.1
         source := l.source.id
         target := l.target.id
         lower := l.edge.lower
         upper := l.edge.upper } }]

/-- The absence of a missing edge's target, then the edge's condition. -/
def constraints (l : Link) (c : Counters) : List Constraint :=
  (if l.edge.missing then [.absence c.lastPath l.target.id] else []) ++
    match l.edge.condition with
    | some value => [.condition c.takeRelation.1 value]
    | none => []

/-- The statements of one edge. Its source must be matched; so must its target, unless the edge is
missing. -/
def statements (l : Link) (c : Counters) : Statements :=
  let base : Statements := {
    edges := l.edgeMatches c
    constraints := l.constraints c
    absentTargets := if l.edge.missing then [l.target.id] else [] }
  (((base.matchVertex (.ofVertex l.source) false).matchVertex (.ofVertex l.target)
    l.edge.missing).addPlaceholderOf l.source).addPlaceholderOf l.target

end Template.Link

/-- One step of the pass: the edge's statements are merged and the counters move on. -/
def compileStep (state : Statements × Counters) (l : Link) : Statements × Counters :=
  (state.1.merge (l.statements state.2), l.advance state.2)

/-- The statements of a list of edges and the counters after them. -/
def compileLinks (c : Counters) (links : List Link) : Statements × Counters :=
  links.foldl compileStep (.empty, c)

/-- The queries of a template before they are written. -/
structure Plan where
  existence : Option ExistenceQuery
  query : Query
  deriving DecidableEq, Repr

/-- The queries of a template as text. -/
structure CompiledPattern where
  /-- The query for the existence of missing edges' targets, to be run first. -/
  predecessor : Option String := none
  /-- The query whose rows are the occurrences of the flaw. -/
  query : String
  deriving DecidableEq, Repr

namespace CompiledPattern

/-- There is a query to be run first. -/
def isTwoPhase (p : CompiledPattern) : Bool := p.predecessor.isSome

/-- The queries in the order of their execution. -/
def queries (p : CompiledPattern) : List String := p.predecessor.toList ++ [p.query]

end CompiledPattern

/-- Writes both queries. -/
def Plan.text (p : Plan) : CompiledPattern where
  predecessor := p.existence.map ExistenceQuery.text
  query := p.query.text

namespace Template

/-- The queries of a template. -/
def plan (t : Template) : Plan :=
  let (statements, counters) := compileLinks {} t.links
  { existence := if t.hasMissing then statements.existenceQuery? else none
    query := statements.query counters.pathVariables }

/-- The queries of a template as text. -/
def compile (t : Template) : CompiledPattern := t.plan.text

/-- The query texts of a template in the order of their execution. -/
def queries (t : Template) : List String := t.compile.queries

end Template

end FlawQuery
