/-
# FlawQuery.Proofs.StatementMerging -- collections of statements as a monoid

Collections are merged with the empty one as unit, and it does not matter in which order three of
them are put together, the places of all names included. The pass over the edges turns one list behind
another into one collection merged into another (`compileLinks_append`): the second part starts from
the counters that the first part has left, and needs nothing else of it. So what an edge contributes
is settled once the edges before it are known, and edges that are appended change none of it.
-/

import FlawQuery.Proofs.EdgeLines

namespace FlawQuery

open Template (Link)

/-! ## Three collections -/

namespace Statements

theorem merge_assoc (a b c : Statements) : (a.merge b).merge c = a.merge (b.merge c) := by
  simp only [merge, OrderedMap.insertAll_assoc, OrderedMap.appendAll_assoc, List.append_assoc]

@[simp] theorem empty_merge (a : Statements) : empty.merge a = a := by
  simp only [merge, empty, OrderedMap.empty_insertAll, OrderedMap.empty_appendAll, List.nil_append]

@[simp] theorem merge_empty (a : Statements) : a.merge empty = a := by
  simp only [merge, empty, OrderedMap.insertAll_empty, OrderedMap.appendAll_empty, List.append_nil]

end Statements

/-! ## The pass in two parts -/

/-- A pass that starts from some statements merges its own into them. -/
theorem foldl_compileStep_eq_merge (links : List Link) :
    ∀ (s : Statements) (c : Counters),
      links.foldl compileStep (s, c) =
        (s.merge (compileLinks c links).1, (compileLinks c links).2) := by
  induction links with
  | nil => intro s c; rw [compileLinks, List.foldl_nil, List.foldl_nil, s.merge_empty]
  | cons l rest ih =>
      intro s c
      rw [compileLinks, List.foldl_cons, List.foldl_cons, compileStep, compileStep, ih, ih,
        Statements.empty_merge, s.merge_assoc]

theorem compileLinks_append (c : Counters) (first second : List Link) :
    compileLinks c (first ++ second) =
      ((compileLinks c first).1.merge (compileLinks (compileLinks c first).2 second).1,
        (compileLinks (compileLinks c first).2 second).2) := by
  rw [compileLinks, List.foldl_append, ← foldl_compileStep_eq_merge]
  rfl

namespace Template

/-- The pass over some edges of a template, from given counters. -/
def pass (t : Template) (c : Counters) (edges : List Edge) : Statements × Counters :=
  compileLinks c (edges.filterMap t.link?)

theorem pass_append (t : Template) (c : Counters) (first second : List Edge) :
    t.pass c (first ++ second) =
      ((t.pass c first).1.merge (t.pass (t.pass c first).2 second).1,
        (t.pass (t.pass c first).2 second).2) := by
  rw [pass, List.filterMap_append, compileLinks_append]
  rfl

/-- The pass counts every edge of the template that it is given. -/
theorem pass_counters {t : Template} {edges : List Edge} (h : ∀ e ∈ edges, e ∈ t.edges)
    (c : Counters) :
    (t.pass c edges).2 =
      ⟨c.paths + edges.countP fun e => !e.missing, c.relations + edges.length⟩ := by
  have hedges := map_edge_filterMap_link? h
  have hcount : (edges.filterMap t.link?).countP (fun l => !l.edge.missing) =
      edges.countP fun e => !e.missing := by
    conv_rhs => rw [← hedges, List.countP_map]
    rfl
  have hlength : (edges.filterMap t.link?).length = edges.length := by
    conv_rhs => rw [← hedges, List.length_map]
  rw [pass, compileLinks_eq, Counters.after, hcount, hlength]

theorem pass_constraints (t : Template) :
    (t.pass {} t.edges).1.constraints = byPosition Edge.constraints t.edges := by
  have hgather : (t.pass {} t.edges).1.constraints = gather Link.constraints {} t.links := by
    show (compileLinks {} t.links).1.constraints = _
    rw [compileLinks_eq]
    exact List.nil_append _
  rw [hgather, gather_constraints]
  rfl

/-- Merging collections is associative and the empty one is its unit, with all names in their places.
A template is compiled by one pass over its edges, and wherever its edges are split, the pass gives
what the pass over the first part gives, merged with what the pass over the second part gives from
the counters that the first part has left. So appending edges keeps the matches and the constraints
of all edges before, with their variables, in front. -/
theorem merge_monoid_and_pass_append (t : Template) :
    (∀ a b c : Statements, (a.merge b).merge c = a.merge (b.merge c)) ∧
    (∀ a : Statements, Statements.empty.merge a = a ∧ a.merge .empty = a) ∧
    (t.plan.query = (t.pass {} t.edges).1.query (t.pass {} t.edges).2.pathVariables) ∧
    (∀ c first second, t.edges = first ++ second →
      t.pass c t.edges =
        ((t.pass c first).1.merge (t.pass (t.pass c first).2 second).1,
          (t.pass (t.pass c first).2 second).2) ∧
      (t.pass c first).2 =
        ⟨c.paths + first.countP fun e => !e.missing, c.relations + first.length⟩ ∧
      (t.pass c first).1.edges <+: (t.pass c t.edges).1.edges ∧
      (t.pass c first).1.constraints <+: (t.pass c t.edges).1.constraints) ∧
    ∀ u : Template, t.edges <+: u.edges →
      t.plan.query.edges <+: u.plan.query.edges ∧
        (t.pass {} t.edges).1.constraints <+: (u.pass {} u.edges).1.constraints := by
  refine ⟨Statements.merge_assoc, fun a => ⟨a.empty_merge, a.merge_empty⟩, rfl, ?_, ?_⟩
  · intro c first second hsplit
    have hfirst : ∀ e ∈ first, e ∈ t.edges := fun e he => hsplit ▸ List.mem_append_left _ he
    have hpass := t.pass_append c first second
    rw [hsplit]
    refine ⟨hpass, pass_counters hfirst c, ?_, ?_⟩
    · rw [hpass]
      exact List.prefix_append _ _
    · rw [hpass]
      exact List.prefix_append _ _
  · intro u hu
    rw [query_edges_eq_byPosition, query_edges_eq_byPosition, pass_constraints, pass_constraints]
    exact ⟨byPosition_isPrefix _ hu, byPosition_isPrefix _ hu⟩

/-- The graph of `interleaved` before its last three edges were added. -/
def beforeLastThree : Template where
  vertices := interleaved.vertices
  edges := [
    { source := "a", target := "b", condition := some "say \"hi\"" },
    { source := "a", target := "c", missing := true, condition := some "y" }]
  accepted := by decide +kernel

/-- The second edge asks about the path of the first one, whose number it finds in the counters, and
meets `a` again, which keeps its place. The edges that come later leave both as they are. -/
theorem merge_monoid_and_pass_append_beforeLastThree :
    beforeLastThree.pass ⟨3, 5⟩ beforeLastThree.edges =
      ((beforeLastThree.pass ⟨3, 5⟩ (beforeLastThree.edges.take 1)).1.merge
        (beforeLastThree.pass ⟨4, 6⟩ (beforeLastThree.edges.drop 1)).1, ⟨4, 7⟩) ∧
    (beforeLastThree.pass ⟨3, 5⟩ beforeLastThree.edges).1.vertices.keys = ["a", "b", "c"] ∧
    (beforeLastThree.pass ⟨3, 5⟩ beforeLastThree.edges).1.constraints =
      [.condition "r5" "say \"hi\"", .absence "p3" "c", .condition "r6" "y"] ∧
    beforeLastThree.edges <+: interleaved.edges ∧
    beforeLastThree.plan.query.edges <+: interleaved.plan.query.edges := by
  obtain ⟨_, _, _, hpass, happended⟩ := beforeLastThree.merge_monoid_and_pass_append
  obtain ⟨hsplit, hcounters, _, _⟩ := hpass ⟨3, 5⟩ (beforeLastThree.edges.take 1)
    (beforeLastThree.edges.drop 1) (List.take_append_drop 1 _).symm
  have hprefix : beforeLastThree.edges <+: interleaved.edges := by decide
  refine ⟨?_, by decide, by decide, hprefix, (happended interleaved hprefix).1⟩
  rw [hsplit, hcounters]
  rfl

end Template

end FlawQuery
