/-
# FlawQuery.Proofs.EdgeOrder -- what the order of the edges decides

The order of the edges matters for two things of a template: a missing edge refers to the last present
one before it, and a placeholder group compares its first two arrivals. Where there is neither, the
order decides nothing but the numbers in the fresh names. Each edge keeps its match line and its
condition, with the names of its new position, and the vertices are matched by the same lines, though
these may come in another order.
-/

import FlawQuery.Proofs.EdgeLines
import FlawQuery.Proofs.MissingTargets

namespace FlawQuery

/-! ## The lines of an edge under given names -/

namespace Edge

/-- The line that matches the edge under the given names of its path and its relationship. -/
def matchLine (e : Edge) (path relation : String) : String :=
  "MATCH " ++ path ++ "=(" ++ e.source ++ ")-[" ++ relation ++ repeatModifier e.lower e.upper ++
    "]->(" ++ e.target ++ ")"

/-- What the edge asks of the relationship that bears the given name. -/
def conditionText? (e : Edge) (relation : String) : Option String :=
  e.condition.map fun value =>
    relation ++ ".condition=" ++ ("\"" ++ Literal.escape value ++ "\"")

theorem conditions_of_present {e : Edge} (h : e.missing = false) (present position : Nat) :
    e.conditions present position = (e.conditionText? (relationName position)).toList := by
  rw [conditions, conditionText?, h]
  cases e.condition <;> rfl

end Edge

/-- The relationship whose condition is asked for. -/
def Constraint.relation? : Constraint → Option String
  | condition relation _ => some relation
  | _ => none

/-- What a query asks of the relationship with the given name, in query text. -/
def Query.conditionsOn (q : Query) (relation : String) : List String :=
  (q.constraints.filter fun c => c.relation? = some relation).map Constraint.text

/-- Of all that the entries of a list contribute by their positions, what comes from one position. -/
theorem flatMap_zipIdx_at {α β : Type} {l : List α} {i : Nat} {a : α} (h : l[i]? = some a)
    (g : α → Nat → List β) :
    (l.zipIdx.flatMap fun e => if e.2 = i then g e.1 e.2 else []) = g a i := by
  obtain ⟨before, after, rfl, rfl⟩ := getElem?_eq_some_iff_split.1 h
  have hbefore : (before.zipIdx.flatMap fun e =>
      if e.2 = before.length then g e.1 e.2 else []) = [] := by
    refine List.flatMap_eq_nil_iff.2 fun e he => if_neg ?_
    exact Nat.ne_of_lt (by simpa using (List.mem_zipIdx he).2.1)
  have hafter : ((after.zipIdx (before.length + 1)).flatMap fun e =>
      if e.2 = before.length then g e.1 e.2 else []) = [] := by
    refine List.flatMap_eq_nil_iff.2 fun e he => if_neg ?_
    exact Nat.ne_of_gt (List.mem_zipIdx he).1
  rw [List.zipIdx_append, Nat.zero_add, List.zipIdx_cons, List.flatMap_append, List.flatMap_cons,
    hbefore, hafter, if_pos rfl, List.nil_append, List.append_nil]

namespace Template

/-- The condition of an edge is asked of the relationship that bears the number of the edge, and
nothing else is asked of that relationship. -/
theorem conditionsOn_relationName {t : Template} {i : Nat} {e : Edge} (h : t.edges[i]? = some e) :
    t.plan.query.conditionsOn (relationName i) = (e.conditionText? (relationName i)).toList := by
  have hedge : ∀ d ∈ t.edges.zipIdx,
      ((d.1.constraints (t.presentBefore d.2) d.2).filter fun c =>
          c.relation? = some (relationName i)) =
        if d.2 = i then (d.1.condition.map (Constraint.condition (relationName d.2))).toList
        else [] := by
    intro d _
    have hname : relationName d.2 = relationName i ↔ d.2 = i := relationName_injective.eq_iff
    rw [Edge.constraints, List.filter_append]
    cases d.1.missing <;> cases d.1.condition <;> simp [Constraint.relation?, hname, List.filter_cons]
  have hgroups : ((t.groups.filterMap fun group =>
      Statements.groupConstraint? (t.arrivals group)).filter fun c =>
        c.relation? = some (relationName i)) = [] := by
    refine List.filter_eq_nil_iff.2 fun c hc => ?_
    obtain ⟨group, _, hgroup⟩ := List.mem_filterMap.1 hc
    obtain ⟨first, second, rest, _, rfl⟩ := groupConstraint?_eq_some_iff.1 hgroup
    simp [Constraint.relation?]
  rw [Query.conditionsOn, query_constraints, List.filter_append, hgroups, List.append_nil,
    gather_constraints, List.filter_flatMap, List.flatMap_congr hedge,
    flatMap_zipIdx_at h fun d position =>
      (d.condition.map (Constraint.condition (relationName position))).toList, Edge.conditionText?]
  cases e.condition <;> rfl

/-! ## Templates whose edges may come in any order -/

/-- Nothing in the template refers to the order of its edges: all of them are present, and none
touches a placeholder. -/
structure OrderFree (t : Template) : Prop where
  present : ∀ e ∈ t.edges, e.missing = false
  labelled : ∀ v ∈ t.touched, v.placeholder = false

/-- The lines that match the touched vertices if all of them must be matched. -/
def vertexLines (t : Template) : List String :=
  t.touched.map fun v => "MATCH " ++ (NodePattern.ofVertex v).text

namespace OrderFree

variable {t : Template}

theorem endsOptional_eq_false (h : t.OrderFree) (id : String) : t.endsOptional id = false := by
  rw [Bool.eq_false_iff]
  intro hoptional
  obtain ⟨before, e, after, hedges, hmissing, _⟩ := endsOptional_iff.1 hoptional
  rw [h.present e (mem_of_eq_append_cons hedges)] at hmissing
  cases hmissing

theorem groups_eq_nil (h : t.OrderFree) : t.groups = [] := by
  have hgroup : ∀ id ∈ t.encounters, t.groupOf? id = none := by
    intro id hid
    obtain ⟨v, hv, rfl⟩ := exists_touched hid
    rw [groupOf?_of_mem_vertices (mem_touched.1 hv).1, Vertex.group?, h.labelled v hv]
    rfl
  rw [groups, List.filterMap_eq_nil_iff.2 hgroup, List.eraseDups_nil]

theorem countP_eq_length (h : t.OrderFree) {edges : List Edge} (hedges : ∀ e ∈ edges, e ∈ t.edges) :
    edges.countP (fun e => !e.missing) = edges.length :=
  List.countP_eq_length.2 fun e he => by rw [h.present e (hedges e he)]; rfl

theorem presentBefore_eq (h : t.OrderFree) {position : Nat} (hle : position ≤ t.edges.length) :
    t.presentBefore position = position := by
  rw [presentBefore, h.countP_eq_length fun e he => List.mem_of_mem_take he,
    List.length_take_of_le hle]

theorem presentCount_eq (h : t.OrderFree) : t.presentCount = t.edges.length :=
  h.countP_eq_length fun _ he => he

theorem presentEdges_eq (h : t.OrderFree) : t.presentEdges = t.edges.zipIdx := by
  refine List.filter_eq_self.2 fun e he => ?_
  rw [h.present e.1 (List.mem_of_getElem? (List.mem_zipIdx_iff_getElem?.1 he))]
  rfl

/-- With all edges present, paths and relationships carry the same numbers. -/
theorem edgeLines_eq (h : t.OrderFree) :
    (edgeLines t.compile.query).map Prod.fst =
      t.edges.zipIdx.map fun e => e.1.matchLine (pathName e.2) (relationName e.2) := by
  rw [edgeLines_compile, List.map_map, query_edges, h.presentEdges_eq, List.map_map]
  apply List.map_congr_left
  intro e he
  obtain ⟨hlt, _⟩ := List.getElem?_eq_some_iff.1 (List.mem_zipIdx_iff_getElem?.1 he)
  show (e.1.edgeMatch _ _).text = _
  rw [Edge.text_edgeMatch, h.presentBefore_eq (Nat.le_of_lt hlt)]
  rfl

theorem edgeConditions_eq (h : t.OrderFree) :
    t.edgeConditions =
      t.edges.zipIdx.filterMap fun e => e.1.conditionText? (relationName e.2) := by
  rw [edgeConditions, List.filterMap_eq_flatMap_toList]
  apply List.flatMap_congr
  intro e he
  have hmem := List.mem_of_getElem? (List.mem_zipIdx_iff_getElem?.1 he)
  exact Edge.conditions_of_present (h.present e.1 hmem) _ _

/-- The lines of the full query: those of the vertices, those of the edges, the conditions, and the
paths that are returned. -/
theorem linesOf_compile (h : t.OrderFree) :
    linesOf t.compile.query = t.vertexLines ++
      (t.edges.zipIdx.map fun e => e.1.matchLine (pathName e.2) (relationName e.2)) ++
      Grammar.clause
        (t.edges.zipIdx.filterMap fun e => e.1.conditionText? (relationName e.2)) ++
      [returnLine ((List.range t.edges.length).map pathName)] := by
  have hmandatory : t.plan.query.mandatory = t.touched.map .ofVertex := by
    rw [query_mandatory, List.filter_eq_self.2 fun v _ => by rw [h.endsOptional_eq_false]; rfl]
  have hoptional : t.plan.query.optional = [] := by
    rw [query_optional, List.map_eq_nil_iff, List.filter_eq_nil_iff]
    intro v _
    rw [h.endsOptional_eq_false]
    exact Bool.false_ne_true
  have hedges : t.plan.query.edges.map EdgeMatch.text =
      t.edges.zipIdx.map fun e => e.1.matchLine (pathName e.2) (relationName e.2) := by
    rw [← h.edgeLines_eq, edgeLines_compile, List.map_map]
    rfl
  rw [linesOf_compile_query, hmandatory, hoptional, hedges, Grammar.constraintLines_eq_clause,
    query_conditions, h.groups_eq_nil, h.edgeConditions_eq, pathNames, h.presentCount_eq,
    List.map_map, List.filterMap_nil, List.map_nil, List.map_nil, List.append_nil, List.append_nil]
  rfl

end OrderFree

/-! ## Reordering -/

section

variable {t u : Template}

theorem mem_encounters_of_perm (hedges : u.edges.Perm t.edges) {id : String} :
    id ∈ u.encounters ↔ id ∈ t.encounters := by
  simp only [mem_encounters, hedges.mem_iff]

/-- The same vertices are touched, in an order that the edges decide. -/
theorem touched_perm (hedges : u.edges.Perm t.edges) (hvertices : u.vertices = t.vertices) :
    u.touched.Perm t.touched := by
  rw [List.perm_ext_iff_of_nodup (u.nodup_touched_ids.of_map _) (t.nodup_touched_ids.of_map _)]
  intro v
  rw [mem_touched, mem_touched, hvertices, mem_encounters_of_perm hedges]

theorem OrderFree.of_perm (h : t.OrderFree) (hedges : u.edges.Perm t.edges)
    (hvertices : u.vertices = t.vertices) : u.OrderFree where
  present := fun e he => h.present e (hedges.mem_iff.1 he)
  labelled := fun v hv => h.labelled v ((touched_perm hedges hvertices).mem_iff.1 hv)

/-- Only missing edges could keep a template from being accepted with its edges in another order. -/
theorem OrderFree.exists_build (h : t.OrderFree) {edges : List Edge} (hedges : edges.Perm t.edges) :
    ∃ u, build t.vertices edges = .ok u ∧ u.vertices = t.vertices ∧ u.edges = edges := by
  have hwell : WellFormed t.vertices edges := {
    ids_plain := t.wellFormed.ids_plain
    variants_plain := t.wellFormed.variants_plain
    ids_distinct := t.wellFormed.ids_distinct
    edges_some := fun hnil => t.wellFormed.edges_some (List.nil_perm.1 (hnil ▸ hedges))
    endpoints_known := fun e he => t.wellFormed.endpoints_known e (hedges.mem_iff.1 he)
    bounds_ordered := fun e he => t.wellFormed.bounds_ordered e (hedges.mem_iff.1 he)
    anchored := by
      intro before e after hsplit hmissing
      have he := hedges.mem_iff.1 (mem_of_eq_append_cons hsplit)
      rw [h.present e he] at hmissing
      cases hmissing }
  obtain ⟨u, hu⟩ := exists_build_eq_ok_iff.2 hwell
  obtain ⟨_, hvertices, huedges⟩ := build_eq_ok_iff.1 hu
  exact ⟨u, hu, hvertices, huedges⟩

end

/-- Edges that may come in any order are accepted in every order, and reordering them changes nothing
about the full query but the numbers in the fresh names and the order of its lines. The vertices are
matched by the same lines. An edge at position `j` has the match line and the condition that it had at
position `i`, with `p` and `r` numbered by `j` instead of `i`. The return line is the same. -/
theorem reordering_renumbers (t : Template) (h : t.OrderFree) (edges : List Edge)
    (hedges : edges.Perm t.edges) :
    ∃ u, build t.vertices edges = .ok u ∧
      (linesOf t.compile.query = t.vertexLines ++
        (t.edges.zipIdx.map fun e => e.1.matchLine (pathName e.2) (relationName e.2)) ++
        Grammar.clause
          (t.edges.zipIdx.filterMap fun e => e.1.conditionText? (relationName e.2)) ++
        [returnLine t.pathNames]) ∧
      (linesOf u.compile.query = u.vertexLines ++
        (edges.zipIdx.map fun e => e.1.matchLine (pathName e.2) (relationName e.2)) ++
        Grammar.clause
          (edges.zipIdx.filterMap fun e => e.1.conditionText? (relationName e.2)) ++
        [returnLine t.pathNames]) ∧
      u.vertexLines.Perm t.vertexLines ∧
      ∀ i j e, t.edges[i]? = some e → edges[j]? = some e →
        (edgeLines t.compile.query)[i]?.map Prod.fst =
          some (e.matchLine (pathName i) (relationName i)) ∧
        (edgeLines u.compile.query)[j]?.map Prod.fst =
          some (e.matchLine (pathName j) (relationName j)) ∧
        t.plan.query.conditionsOn (relationName i) =
          (e.conditionText? (relationName i)).toList ∧
        u.plan.query.conditionsOn (relationName j) =
          (e.conditionText? (relationName j)).toList := by
  obtain ⟨u, hu, hvertices, rfl⟩ := h.exists_build hedges
  have hfree := h.of_perm hedges hvertices
  have hpaths : (List.range u.edges.length).map pathName = t.pathNames := by
    rw [hedges.length_eq, pathNames, h.presentCount_eq]
  have hline : ∀ {s : Template}, s.OrderFree → ∀ {i : Nat} {e : Edge}, s.edges[i]? = some e →
      (edgeLines s.compile.query)[i]?.map Prod.fst =
        some (e.matchLine (pathName i) (relationName i)) := by
    intro s hs i e he
    rw [← List.getElem?_map, hs.edgeLines_eq, List.getElem?_map, List.getElem?_zipIdx, he]
    simp
  refine ⟨u, hu, ?_, ?_, (touched_perm hedges hvertices).map _, fun i j e hi hj => ?_⟩
  · rw [h.linesOf_compile, pathNames, h.presentCount_eq]
  · rw [hfree.linesOf_compile, hpaths]
  · exact ⟨hline h hi, hline hfree hj, conditionsOn_relationName hi, conditionsOn_relationName hj⟩

/-- Two conditions and two ranges on a chain of three edges, the last of which closes it. -/
def conditionedCycle : Template where
  vertices := [
    { id := "a", kind := .activity, variant := "X" }, { id := "b", kind := .gateway },
    { id := "c", kind := .event }]
  edges := [
    { source := "a", target := "b", condition := some "r0 = \"p0\"" },
    { source := "b", target := "c", lower := 2, upper := .bounded 4 },
    { source := "c", target := "a", upper := .unbounded, condition := some "else" }]
  accepted := by decide +kernel

/-- The first edge comes last. -/
theorem reordering_renumbers_conditionedCycle :
    ∃ u, build conditionedCycle.vertices (conditionedCycle.edges.rotate 1) = .ok u ∧
      linesOf conditionedCycle.compile.query = [
        "MATCH (a:X:ACTIVITY)", "MATCH (b:GATEWAY)", "MATCH (c:EVENT)",
        "MATCH p0=(a)-[r0]->(b)", "MATCH p1=(b)-[r1*2..4]->(c)", "MATCH p2=(c)-[r2*]->(a)",
        "WHERE r0.condition=\"r0 = \\\"p0\\\"\"", "AND r2.condition=\"else\"",
        "RETURN p0,p1,p2"] ∧
      linesOf u.compile.query = u.vertexLines ++ [
        "MATCH p0=(b)-[r0*2..4]->(c)", "MATCH p1=(c)-[r1*]->(a)", "MATCH p2=(a)-[r2]->(b)",
        "WHERE r1.condition=\"else\"", "AND r2.condition=\"r0 = \\\"p0\\\"\"",
        "RETURN p0,p1,p2"] ∧
      u.vertexLines.Perm ["MATCH (a:X:ACTIVITY)", "MATCH (b:GATEWAY)", "MATCH (c:EVENT)"] ∧
      u.plan.query.conditionsOn "r2" = ["r2.condition=\"r0 = \\\"p0\\\"\""] := by
  obtain ⟨u, hu, hlines, hlines', hperm, hedge⟩ := conditionedCycle.reordering_renumbers
    ⟨by decide +kernel, by decide +kernel⟩ (conditionedCycle.edges.rotate 1)
    (by decide +kernel)
  obtain ⟨_, _, _, hcondition⟩ := hedge 0 2 _ rfl rfl
  refine ⟨u, hu, hlines.trans (by decide +kernel), ?_, hperm.trans (by decide +kernel), ?_⟩
  · rw [hlines', List.append_assoc, List.append_assoc]
    exact congrArg _ (by decide +kernel)
  · exact hcondition.trans (by decide +kernel)

end Template

end FlawQuery
