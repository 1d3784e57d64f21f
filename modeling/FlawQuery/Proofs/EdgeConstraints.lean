/-
# FlawQuery.Proofs.EdgeConstraints -- what the edges ask of a match, one after the other

A missing edge asks that its target lie on no vertex of the last path before it, and a condition asks
for the value of a property. Both go by numbers that the pass counts up: paths over the present edges
before, relationships over all of them. Here the constraints of a compiled query are given by the
edges and their positions alone, and the path of an absence turns out to be the one that the nearest
present edge before it has bound: there always is one, so the number before it never falls short.
-/

import FlawQuery.Proofs.PlaceholderGroups
import FlawQuery.Proofs.QueryGrammar

namespace FlawQuery

open Template (Link)

namespace Edge

/-- What an edge asks for, given how many edges before it are present and how many there are. -/
def constraints (e : Edge) (present position : Nat) : List Constraint :=
  (if e.missing then [.absence (pathName (present - 1)) e.target] else []) ++
    (e.condition.map (.condition (relationName position))).toList

/-- The same in query text. -/
def conditions (e : Edge) (present position : Nat) : List String :=
  (if e.missing then
    ["NONE (n IN nodes(" ++ pathName (present - 1) ++ ") WHERE n=" ++ e.target ++ ")"]
  else []) ++
  match e.condition with
  | some value =>
    [relationName position ++ ".condition=" ++ ("\"" ++ Literal.escape value ++ "\"")]
  | none => []

theorem map_text_constraints (e : Edge) (present position : Nat) :
    (e.constraints present position).map Constraint.text = e.conditions present position := by
  obtain ⟨source, target, lower, upper, missing, condition⟩ := e
  cases missing with
  | false =>
      cases condition with
      | none => rfl
      | some value => rfl
  | true =>
      cases condition with
      | none => rfl
      | some value => rfl

end Edge

namespace Template

/-! ## The constraints in turn -/

/-- How many of the edges before the position are present. -/
def presentBefore (t : Template) (position : Nat) : Nat :=
  (t.edges.take position).countP fun e => !e.missing

/-- What the edges ask for in query text, edge by edge. -/
def edgeConditions (t : Template) : List String :=
  t.edges.zipIdx.flatMap fun e => e.1.conditions (t.presentBefore e.2) e.2

theorem presentBefore_of_split {t : Template} {before after : List Edge} {e : Edge}
    (h : t.edges = before ++ e :: after) :
    t.presentBefore before.length = before.countP fun e => !e.missing := by
  rw [presentBefore, h, List.take_left]

/-- What the pass gathers from the edges depends on each edge and its position alone: the counters at
an edge are the counts over the edges before it. -/
theorem gather_links {α : Type} {f : Link → Counters → List α} {g : Edge → Nat → Nat → List α}
    {t : Template} (h : ∀ l ∈ t.links, ∀ c, f l c = g l.edge c.paths c.relations) :
    gather f {} t.links = t.edges.zipIdx.flatMap fun e => g e.1 (t.presentBefore e.2) e.2 := by
  have hcounters : ∀ l ∈ t.links.zipIdx, f l.1 (Counters.after {} (t.links.take l.2)) =
      g l.1.edge (t.presentBefore l.2) l.2 := by
    intro l hl
    obtain ⟨hlt, hget⟩ := List.getElem?_eq_some_iff.1 (List.mem_zipIdx_iff_getElem?.1 hl)
    have hmem : l.1 ∈ t.links := hget ▸ List.getElem_mem hlt
    have hlength : ((t.links.take l.2).map Link.edge).length = l.2 := by
      rw [List.length_map, List.length_take_of_le (Nat.le_of_lt hlt)]
    rw [h l.1 hmem, after_zero, hlength, List.map_take, t.links_map_edge]
    rfl
  have hedges : t.edges.zipIdx = t.links.zipIdx.map (Prod.map Link.edge id) := by
    rw [← t.links_map_edge, List.zipIdx_map]
  rw [gather_eq_flatMap_zipIdx, List.flatMap_congr hcounters, hedges, List.flatMap_map]
  rfl

/-- What edges give in turn, each given how many edges before it are present and how many there
are. -/
def byPosition {α : Type} (g : Edge → Nat → Nat → List α) (edges : List Edge) : List α :=
  edges.zipIdx.flatMap fun e => g e.1 ((edges.take e.2).countP fun e => !e.missing) e.2

/-- Later edges change nothing about earlier ones. -/
theorem byPosition_isPrefix {α : Type} (g : Edge → Nat → Nat → List α) {first edges : List Edge}
    (h : first <+: edges) : byPosition g first <+: byPosition g edges := by
  obtain ⟨second, rfl⟩ := h
  have hfirst : ∀ e ∈ first.zipIdx, g e.1 (((first ++ second).take e.2).countP fun e => !e.missing)
      e.2 = g e.1 ((first.take e.2).countP fun e => !e.missing) e.2 := by
    intro e he
    obtain ⟨hlt, _⟩ := List.getElem?_eq_some_iff.1 (List.mem_zipIdx_iff_getElem?.1 he)
    rw [List.take_append_of_le_length (Nat.le_of_lt hlt)]
  rw [byPosition, byPosition, List.zipIdx_append, List.flatMap_append, List.flatMap_congr hfirst]
  exact List.prefix_append _ _

/-- The pass asks for the constraints of the edges in turn, each by its position. -/
theorem gather_constraints (t : Template) :
    gather Link.constraints {} t.links =
      t.edges.zipIdx.flatMap fun e => e.1.constraints (t.presentBefore e.2) e.2 := by
  apply gather_links
  intro l hl c
  unfold Link.constraints Edge.constraints
  rw [(link_ids hl).2]
  cases l.edge.condition <;> rfl

/-- The text of a constraint that two vertices share their labels. -/
def equalityText (pair : String × String) : String :=
  "labels(" ++ pair.1 ++ ")=labels(" ++ pair.2 ++ ")"

/-- The placeholder groups add equalities of labels, and these come after all that the edges ask. -/
theorem query_conditions (t : Template) :
    t.plan.query.constraints.map Constraint.text = t.edgeConditions ++
      (t.groups.filterMap fun group => firstTwo? (t.arrivals group)).map equalityText := by
  have hedges : (gather Link.constraints {} t.links).map Constraint.text = t.edgeConditions := by
    rw [gather_constraints, List.map_flatMap]
    exact List.flatMap_congr fun e _ => e.1.map_text_constraints _ _
  have hgroups : ∀ group ∈ t.groups,
      (Statements.groupConstraint? (t.arrivals group)).map Constraint.text =
        (firstTwo? (t.arrivals group)).map equalityText := by
    intro group _
    rw [groupConstraint?_eq_map_firstTwo?, Option.map_map]
    rfl
  rw [query_constraints, List.map_append, hedges, List.map_filterMap, List.map_filterMap,
    List.filterMap_congr hgroups]

/-! ## The path of an absence -/

/-- The nearest present edge before a missing one. -/
theorem exists_nearest_present {t : Template} {before after : List Edge} {e : Edge}
    (h : t.edges = before ++ e :: after) (hmissing : e.missing = true) :
    ∃ earlier anchor between, before = earlier ++ anchor :: between ∧ anchor.missing = false ∧
      ∀ b ∈ between, b.missing = true := by
  obtain ⟨_, _, _, hanchor⟩ := t.edge_spec h
  obtain ⟨a, ha, hpresent⟩ := hanchor hmissing
  have hsome : (before.reverse.find? fun e => !e.missing).isSome = true :=
    List.find?_isSome.2 ⟨a, List.mem_reverse.2 ha, by simp [hpresent]⟩
  obtain ⟨anchor, hfind⟩ := Option.isSome_iff_exists.1 hsome
  obtain ⟨hanchor, earlier, between, hbefore, hbetween⟩ := find?_reverse_eq_some_iff.1 hfind
  exact ⟨earlier, anchor, between, hbefore, by simpa using hanchor, fun b hb => by
    simpa using hbetween b hb⟩

theorem presentBefore_anchor {t : Template} {earlier between after : List Edge} {anchor e : Edge}
    (h : t.edges = (earlier ++ anchor :: between) ++ e :: after) (hanchor : anchor.missing = false)
    (hbetween : ∀ b ∈ between, b.missing = true) :
    t.presentBefore (earlier ++ anchor :: between).length =
      earlier.countP (fun e => !e.missing) + 1 := by
  -- missing edges take no path, so the number stays where the present edge has left it
  have hnone : between.countP (fun e => !e.missing) = 0 :=
    List.countP_eq_zero.2 fun b hb => by simp [hbetween b hb]
  rw [presentBefore_of_split h, List.countP_append, List.countP_cons, hnone, hanchor]
  rfl

/-- The constraints of a compiled query are those of the edges in turn and then the equalities of the
placeholder groups, none lost, repeated or out of place. A missing edge names the path that the
nearest present edge before it has bound, and there is one. -/
theorem edge_constraints_in_order (t : Template) :
    t.plan.query.constraints.map Constraint.text = t.edgeConditions ++
      (t.groups.filterMap fun group => firstTwo? (t.arrivals group)).map equalityText ∧
    (linesOf t.compile.query =
      t.plan.query.mandatory.map (fun n => "MATCH " ++ n.text) ++
        t.plan.query.edges.map EdgeMatch.text ++
        t.plan.query.optional.map (fun n => "OPTIONAL MATCH " ++ n.text) ++
        Grammar.clause (t.edgeConditions ++
          (t.groups.filterMap fun group => firstTwo? (t.arrivals group)).map equalityText) ++
        [returnLine t.pathNames]) ∧
    ∀ before e after, t.edges = before ++ e :: after → e.missing = true →
      1 ≤ t.presentBefore before.length ∧
      ∃ earlier anchor between, before = earlier ++ anchor :: between ∧ anchor.missing = false ∧
        (∀ b ∈ between, b.missing = true) ∧
        t.plan.query.edges[t.presentBefore before.length - 1]? =
          some ⟨pathName (t.presentBefore before.length - 1), relationName earlier.length,
            anchor.source, anchor.target, anchor.lower, anchor.upper⟩ := by
  refine ⟨t.query_conditions, ?_, ?_⟩
  · rw [linesOf_compile_query, Grammar.constraintLines_eq_clause, query_conditions]
  · intro before e after hedges hmissing
    obtain ⟨earlier, anchor, between, rfl, hanchor, hbetween⟩ :=
      exists_nearest_present hedges hmissing
    have hcount := presentBefore_anchor hedges hanchor hbetween
    have hsplit : t.edges = earlier ++ anchor :: (between ++ e :: after) := by
      rw [hedges, List.append_assoc, List.cons_append]
    refine ⟨by omega, earlier, anchor, between, rfl, hanchor, hbetween, ?_⟩
    rw [hcount, Nat.add_sub_cancel]
    exact getElem?_query_edges hsplit hanchor

/-- Present and missing edges by turns, two of them with a condition, and a placeholder group. -/
def interleaved : Template where
  vertices := [
    { id := "a", kind := .activity }, { id := "b", kind := .activity },
    { id := "c", kind := .event, variant := "S", placeholder := true },
    { id := "d", kind := .event, variant := "S", placeholder := true }]
  edges := [
    { source := "a", target := "b", condition := some "say \"hi\"" },
    { source := "a", target := "c", missing := true, condition := some "y" },
    { source := "b", target := "d", missing := true }, { source := "b", target := "a" },
    { source := "a", target := "d", missing := true }]
  accepted := by decide +kernel

theorem edge_constraints_in_order_interleaved :
    interleaved.plan.query.constraints.map Constraint.text = [
      "r0.condition=\"say \\\"hi\\\"\"", "NONE (n IN nodes(p0) WHERE n=c)", "r1.condition=\"y\"",
      "NONE (n IN nodes(p0) WHERE n=d)", "NONE (n IN nodes(p1) WHERE n=d)",
      "labels(c)=labels(d)"] ∧
    1 ≤ interleaved.presentBefore 4 ∧
    ∃ earlier anchor between, interleaved.edges.take 4 = earlier ++ anchor :: between ∧
      anchor.missing = false ∧ (∀ b ∈ between, b.missing = true) ∧
      interleaved.plan.query.edges[1]? =
        some ⟨pathName 1, relationName earlier.length, anchor.source, anchor.target, anchor.lower,
          anchor.upper⟩ := by
  obtain ⟨hconstraints, _, hpath⟩ := interleaved.edge_constraints_in_order
  have hedges : interleaved.edges =
      interleaved.edges.take 4 ++ { source := "a", target := "d", missing := true } :: [] := rfl
  exact ⟨hconstraints.trans (by decide), hpath _ _ _ hedges rfl⟩

end Template

end FlawQuery
