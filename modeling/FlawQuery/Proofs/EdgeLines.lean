/-
# FlawQuery.Proofs.EdgeLines -- one line for each edge that must exist

The match lines of the edges are written during the pass, the return line after it, from the number of
paths handed out. Here the lines are read back from the text of the query: those of edge matches are
the lines of the present edges in turn, each with the variables and the bounds of its own edge, and
the return line lists the paths that they bind. Missing edges use up a relationship variable, so its
number is the position of the edge, while paths are numbered over the present edges alone.
-/

import FlawQuery.Proofs.NameScope
import FlawQuery.Proofs.QueryReading

namespace FlawQuery

namespace Grammar

/-- The modifier of two bounds denotes these and no others. -/
theorem denotes_repeatModifier_iff {lower lower' : Nat} {upper upper' : UpperBound} :
    Denotes (repeatModifier lower upper) lower' upper' ↔ lower' = lower ∧ upper' = upper := by
  constructor
  · intro h
    exact h.unique (denotes_repeatModifier lower upper)
  · rintro ⟨rfl, rfl⟩
    exact denotes_repeatModifier lower' upper'

end Grammar

namespace Edge

/-- The match of an edge that must exist, given how many edges before it are present and how many
there are. -/
def edgeMatch (e : Edge) (present position : Nat) : EdgeMatch :=
  ⟨pathName present, relationName position, e.source, e.target, e.lower, e.upper⟩

/-- The same for any edge: a missing one is not matched. -/
def presentMatches (e : Edge) (present position : Nat) : List EdgeMatch :=
  if !e.missing then [e.edgeMatch present position] else []

/-- The match in query text. -/
theorem text_edgeMatch (e : Edge) (present position : Nat) :
    (e.edgeMatch present position).text =
      "MATCH " ++ pathName present ++ "=(" ++ e.source ++ ")-[" ++ relationName position ++
        repeatModifier e.lower e.upper ++ "]->(" ++ e.target ++ ")" := by
  have hopen : "=(" = "=" ++ "(" := by decide
  unfold edgeMatch EdgeMatch.text RelationshipPattern.text
  simp only [hopen, String.append_assoc]

end Edge

/-! ## Reading the lines of a text -/

/-- The lines of a text that match an edge, each with the match that it reads as. -/
def edgeLines (text : String) : List (String × EdgeMatch) :=
  (linesOf text).filterMap fun line =>
    (QueryLine.read? line.toList).bind fun part => part.edge?.map fun m => (line, m)

/-- The names that the return lines of a text list, one list for each such line. -/
def returnLists (text : String) : List (List String) :=
  (linesOf text).filterMap fun line => (QueryLine.read? line.toList).bind QueryLine.returned?

namespace Template

/-- What the lines of a compiled query are read as is what they were written for. -/
theorem filterMap_linesOf_compile {α : Type} (t : Template)
    (f : String → QueryLine → Option α) :
    (linesOf t.compile.query).filterMap
        (fun line => (QueryLine.read? line.toList).bind (f line)) =
      t.plan.query.parts.filterMap fun part => f part.text part := by
  have hread : ∀ part ∈ t.plan.query.parts,
      (QueryLine.read? part.text.toList).bind (f part.text) = f part.text part := by
    intro part hpart
    rw [QueryLine.read?_text (compiled_of_mem_parts hpart), Option.bind_some]
  rw [compile_query, linesOf_query_text, Query.lines_eq_map_text, List.filterMap_map]
  exact List.filterMap_congr hread

/-- The lines that read as edge matches are the texts of the matched edges. -/
theorem edgeLines_compile (t : Template) :
    edgeLines t.compile.query = t.plan.query.edges.map fun m => (m.text, m) := by
  have hpart : ∀ part ∈ t.plan.query.parts, (part.edge?.map fun m => (part.text, m)) =
      part.edge?.map fun m => (m.text, m) := by
    intro part _
    cases part <;> rfl
  calc edgeLines t.compile.query
      = t.plan.query.parts.filterMap fun part => part.edge?.map fun m => (part.text, m) :=
        t.filterMap_linesOf_compile fun line part => part.edge?.map fun m => (line, m)
    _ = t.plan.query.parts.filterMap fun part => part.edge?.map fun m => (m.text, m) :=
        List.filterMap_congr hpart
    _ = t.plan.query.edges.map fun m => (m.text, m) := by
        rw [← Query.filterMap_edge?_parts, List.map_filterMap]

theorem returnLists_compile (t : Template) : returnLists t.compile.query = [t.pathNames] := by
  have hread : returnLists t.compile.query =
      t.plan.query.parts.filterMap QueryLine.returned? :=
    t.filterMap_linesOf_compile fun _ => QueryLine.returned?
  rw [hread, Query.filterMap_returned?_parts, query_returned]

theorem getLast?_linesOf_compile (t : Template) :
    (linesOf t.compile.query).getLast? = some ("RETURN " ++ ",".intercalate t.pathNames) := by
  rw [linesOf_compile_query, List.getLast?_append]
  rfl

/-! ## The present edges in turn -/

/-- The edges that must exist, each with its position among all edges. -/
def presentEdges (t : Template) : List (Edge × Nat) :=
  t.edges.zipIdx.filter fun e => !e.1.missing

/-- The pass matches the present edges in turn, each by its position. -/
theorem query_edges_eq_byPosition (t : Template) :
    t.plan.query.edges = byPosition Edge.presentMatches t.edges := by
  have hlinks : ∀ l ∈ t.links, ∀ c, l.edgeMatches c =
      l.edge.presentMatches c.paths c.relations := by
    intro l hl c
    obtain ⟨hsource, htarget⟩ := link_ids hl
    rw [Link.edgeMatches, hsource, htarget, Edge.presentMatches]
    cases l.edge.missing with
    | false => rfl
    | true => rfl
  rw [plan_query_edges]
  exact gather_links hlinks

/-- The matches of the query are those of the present edges in turn. -/
theorem query_edges (t : Template) :
    t.plan.query.edges =
      t.presentEdges.map fun e => e.1.edgeMatch (t.presentBefore e.2) e.2 := by
  rw [query_edges_eq_byPosition]
  exact flatMap_ite_singleton _ _ _

/-- The lines of a compiled query that match an edge are those of the present edges in turn. The line
of an edge binds the path that is numbered by the present edges before it and the relationship that is
numbered by all edges before it, between the ends of the edge, and its repeat modifier denotes the
bounds of the edge and no others. The only return line is the last line; it lists the paths that those
lines bind, in the same order, each once, and there is at least one. -/
theorem edgeLines_of_presentEdges (t : Template) :
    (edgeLines t.compile.query = t.presentEdges.map fun e =>
      ("MATCH " ++ pathName (t.presentBefore e.2) ++ "=(" ++ e.1.source ++ ")-[" ++
          relationName e.2 ++ repeatModifier e.1.lower e.1.upper ++ "]->(" ++ e.1.target ++ ")",
        ⟨pathName (t.presentBefore e.2), relationName e.2, e.1.source, e.1.target, e.1.lower,
          e.1.upper⟩)) ∧
    (∀ e ∈ t.presentEdges, ∀ lower upper,
      Grammar.Denotes (repeatModifier e.1.lower e.1.upper) lower upper ↔
        lower = e.1.lower ∧ upper = e.1.upper) ∧
    ∃ paths, paths = (edgeLines t.compile.query).map (fun line => line.2.path) ∧
      (linesOf t.compile.query).getLast? = some ("RETURN " ++ ",".intercalate paths) ∧
      returnLists t.compile.query = [paths] ∧ paths.Nodup ∧ paths ≠ [] := by
  have hpaths : (edgeLines t.compile.query).map (fun line => line.2.path) = t.pathNames := by
    rw [edgeLines_compile, List.map_map, ← query_paths]
    rfl
  refine ⟨?_, fun e _ lower upper => Grammar.denotes_repeatModifier_iff, t.pathNames, hpaths.symm,
    t.getLast?_linesOf_compile, t.returnLists_compile, t.nodup_pathNames, t.pathNames_ne_nil⟩
  rw [edgeLines_compile, query_edges, List.map_map]
  apply List.map_congr_left
  intro e _
  show ((e.1.edgeMatch _ _).text, e.1.edgeMatch _ _) = _
  rw [Edge.text_edgeMatch]
  rfl

/-- Bounds of all shapes, and a missing edge between the present ones. -/
def variedBounds : Template where
  vertices := [
    { id := "a", kind := .activity }, { id := "b", kind := .event },
    { id := "c", kind := .gateway }]
  edges := [
    { source := "a", target := "b", lower := 0, upper := .unbounded },
    { source := "a", target := "c", missing := true },
    { source := "b", target := "a", upper := .unbounded },
    { source := "b", target := "b", lower := 2, upper := .bounded 15 },
    { source := "a", target := "b" }]
  accepted := by decide +kernel

theorem edgeLines_of_presentEdges_variedBounds :
    (edgeLines variedBounds.compile.query).map Prod.fst = [
      "MATCH p0=(a)-[r0*0..]->(b)", "MATCH p1=(b)-[r2*]->(a)", "MATCH p2=(b)-[r3*2..15]->(b)",
      "MATCH p3=(a)-[r4]->(b)"] ∧
    (∀ lower upper, Grammar.Denotes "*2..15" lower upper ↔ lower = 2 ∧ upper = .bounded 15) ∧
    returnLists variedBounds.compile.query = [["p0", "p1", "p2", "p3"]] := by
  obtain ⟨hlines, hbounds, paths, hpaths, _, hreturn, _⟩ := variedBounds.edgeLines_of_presentEdges
  have hmodifier : repeatModifier 2 (.bounded 15) = "*2..15" := by decide
  refine ⟨?_, ?_, ?_⟩
  · rw [hlines]
    decide
  · rw [← hmodifier]
    exact hbounds ({ source := "b", target := "b", lower := 2, upper := .bounded 15 }, 3) (by decide)
  · rw [hreturn, hpaths, hlines]
    decide

end Template

end FlawQuery
