/-
# FlawQuery.Report.Patterns -- the two results of the program

A listing shows what a catalogue holds; a query report shows the compiled queries of patterns.
-/

import FlawQuery.Catalogue.Basic
import FlawQuery.Compile
import FlawQuery.Report.Basic

namespace FlawQuery

/-! ## Queries of patterns -/

/-- The queries of a named pattern. -/
structure PatternQueries where
  id : String
  name : String
  predecessor : Option String := none
  query : String
  deriving DecidableEq, Repr

namespace PatternQueries

/-- Compiles a template under an id and a name. -/
def ofTemplate (id name : String) (t : Template) : PatternQueries where
  id := id
  name := name
  predecessor := t.compile.predecessor
  query := t.compile.query

/-- Compiles an entry of a catalogue. -/
def ofEntry (e : CatalogueEntry) : PatternQueries :=
  ofTemplate e.id e.name e.template

/-- The queries for reading: under the name, between two dividers of its length, and with captions
if there are two. -/
def block (p : PatternQueries) : String :=
  let divider := String.ofList (List.replicate p.name.length '-')
  let preamble := match p.predecessor with
    | some predecessor =>
      ["> First query (existence of target nodes)", "", predecessor, "",
        "> Second query (existence of anti-pattern)", ""]
    | none => []
  "\n".intercalate ([p.name, divider] ++ preamble ++ [p.query, divider])

/-- The queries as named cells. -/
def row (p : PatternQueries) : Row :=
  [("id", .text p.id), ("name", .text p.name)] ++
    (match p.predecessor with
      | some predecessor => [("predecessor", .text predecessor)]
      | none => []) ++
    [("query", .text p.query)]

end PatternQueries

/-- A report of queries. -/
def queryReport (patterns : List PatternQueries) : Report where
  table :=
    if patterns = [] then "No patterns."
    else "\n\n".intercalate (patterns.map PatternQueries.block)
  rows := patterns.map PatternQueries.row

/-- The report of the asked patterns of a catalogue; without any id, of all. -/
def Catalogue.queryReport (c : Catalogue) (ids : List String) : Except CatalogueFault Report := do
  let entries ← c.select ids
  return FlawQuery.queryReport (entries.map PatternQueries.ofEntry)

/-! ## Listing -/

/-- What a listing shows of an entry. -/
structure PatternSummary where
  id : String
  name : String
  vertices : Nat
  edges : Nat
  twoPhase : Bool
  deriving DecidableEq, Repr

namespace PatternSummary

/-- The summary of an entry; it takes two phases if a connection must be absent. -/
def ofEntry (e : CatalogueEntry) : PatternSummary where
  id := e.id
  name := e.name
  vertices := e.template.vertices.length
  edges := e.template.edges.length
  twoPhase := e.template.hasMissing

/-- The summary for reading. -/
def line (p : PatternSummary) : String :=
  "  " ++ p.id ++ " - " ++ p.name ++ " (" ++ toString p.vertices ++ " vertices, " ++
    toString p.edges ++ " edges" ++ (if p.twoPhase then ", two-phase" else "") ++ ")"

/-- The summary as named cells. -/
def row (p : PatternSummary) : Row :=
  [("id", .text p.id), ("name", .text p.name), ("vertices", .number p.vertices),
    ("edges", .number p.edges), ("two_phase", .flag p.twoPhase)]

end PatternSummary

/-- The listing of a catalogue. -/
def Catalogue.listing (c : Catalogue) : Report :=
  let patterns := c.entries.map PatternSummary.ofEntry
  { table := "\n".intercalate <|
      ("Anti-patterns (" ++ toString patterns.length ++ "):") ::
        if patterns = [] then ["", "No patterns."] else patterns.map PatternSummary.line
    rows := patterns.map PatternSummary.row }

end FlawQuery
