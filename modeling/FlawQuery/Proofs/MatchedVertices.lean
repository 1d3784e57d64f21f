/-
# FlawQuery.Proofs.MatchedVertices -- where a vertex is matched, and whether it must be

Every edge writes a match for both of its endpoints, and a later write replaces an earlier one where
it stands. So the place of a vertex is decided by the first edge that touches it, and all else by
the last one: the match ends up optional exactly if that edge is missing and enters the vertex. The
entries of the finished map are given in closed form (`statements_vertices_entries`), and the match
lines of the compiled query are read off it.
-/

import FlawQuery.Proofs.QueryGrammar

namespace FlawQuery

open Template (Link)

/-- The vertex with the given id is an endpoint of the edge. -/
def Edge.meets (e : Edge) (id : String) : Bool := e.source = id || e.target = id

theorem Edge.meets_eq_false_iff {e : Edge} {id : String} :
    e.meets id = false ↔ e.source ≠ id ∧ e.target ≠ id := by
  simp [meets]

namespace Template

/-- The vertices that edges touch, in order of first encounter. -/
def touched (t : Template) : List Vertex :=
  t.encounters.eraseDups.filterMap t.vertex?

/-- The last edge that touches the vertex with the given id is a missing edge into it. -/
def endsOptional (t : Template) (id : String) : Bool :=
  (t.edges.reverse.find? (·.meets id)).any fun e => e.missing && e.target = id

theorem endsOptional_iff {t : Template} {id : String} :
    t.endsOptional id = true ↔
      ∃ before e after, t.edges = before ++ e :: after ∧ e.missing = true ∧ e.target = id ∧
        ∀ later ∈ after, later.source ≠ id ∧ later.target ≠ id := by
  constructor
  · intro h
    unfold endsOptional at h
    cases hlast : t.edges.reverse.find? (·.meets id) with
    | none => simp [hlast] at h
    | some e =>
        obtain ⟨hmissing, htarget⟩ : e.missing = true ∧ e.target = id := by simpa [hlast] using h
        obtain ⟨_, before, after, hedges, hafter⟩ := find?_reverse_eq_some_iff.1 hlast
        exact ⟨before, e, after, hedges, hmissing, htarget, fun later hlater =>
          Edge.meets_eq_false_iff.1 (hafter later hlater)⟩
  · rintro ⟨before, e, after, hedges, hmissing, htarget, hafter⟩
    have hmeets : e.meets id = true := by simp [Edge.meets, htarget]
    have hlast : t.edges.reverse.find? (·.meets id) = some e :=
      find?_reverse_eq_some_iff.2 ⟨hmeets, before, after, hedges, fun later hlater =>
        Edge.meets_eq_false_iff.2 (hafter later hlater)⟩
    rw [endsOptional, hlast]
    simp [hmissing, htarget]

/-! ## Touched vertices -/

/-- No endpoint is lost on the way from its id to its vertex. -/
theorem touched_map_id (t : Template) : t.touched.map Vertex.id = t.encounters.eraseDups := by
  have hfound : ∀ id ∈ t.encounters.eraseDups, (t.vertex? id).map Vertex.id = some id := by
    intro id hid
    obtain ⟨v, hv, rfl⟩ := exists_vertex_of_mem_encounters (List.mem_eraseDups.1 hid)
    rw [vertex?_of_mem_vertices hv]
    rfl
  rw [touched, List.map_filterMap, List.filterMap_congr hfound, List.filterMap_some]

theorem nodup_touched_ids (t : Template) : (t.touched.map Vertex.id).Nodup := by
  rw [touched_map_id, ← keys_statements_vertices]
  exact t.statements.vertices.nodup

theorem mem_touched {t : Template} {v : Vertex} :
    v ∈ t.touched ↔ v ∈ t.vertices ∧ v.id ∈ t.encounters := by
  rw [touched, List.mem_filterMap]
  constructor
  · rintro ⟨id, hid, hv⟩
    obtain ⟨hmem, rfl⟩ := mem_of_vertex?_eq_some hv
    exact ⟨hmem, List.mem_eraseDups.1 hid⟩
  · rintro ⟨hv, hid⟩
    exact ⟨v.id, List.mem_eraseDups.2 hid, vertex?_of_mem_vertices hv⟩

theorem exists_touched {t : Template} {id : String} (h : id ∈ t.encounters) :
    ∃ v ∈ t.touched, v.id = id := by
  obtain ⟨v, hv, rfl⟩ := exists_vertex_of_mem_encounters h
  exact ⟨v, mem_touched.2 ⟨hv, h⟩, rfl⟩

/-- A vertex is touched under its own id only. -/
theorem filter_touched {t : Template} {v : Vertex} (hv : v ∈ t.vertices) :
    t.touched.filter (fun u => u.id = v.id) = if v.id ∈ t.encounters then [v] else [] := by
  -- accepted vertices have distinct ids, so an id stands for its vertex
  have hself : ∀ u ∈ t.touched, decide (u.id = v.id) = decide (u = v) := by
    intro u hu
    refine decide_eq_decide.2 ⟨fun hid => ?_, fun h => h ▸ rfl⟩
    exact List.inj_on_of_nodup_map t.nodup_ids (mem_touched.1 hu).1 hv hid
  rw [List.filter_congr hself, List.filter_eq]
  by_cases hid : v.id ∈ t.encounters
  · have hmem : v ∈ t.touched := mem_touched.2 ⟨hv, hid⟩
    rw [if_pos hid, List.count_eq_one_of_mem (t.nodup_touched_ids.of_map _) hmem]
    rfl
  · have hmem : v ∉ t.touched := fun hmem => hid (mem_touched.1 hmem).2
    rw [if_neg hid, List.count_eq_zero_of_not_mem hmem]
    rfl

/-! ## The last write decides -/

/-- Of the two matches of an edge under one id, the later one is the match of the target. -/
theorem lookup_reverse_touches {t : Template} {v : Vertex} (hv : v ∈ t.vertices) {l : Link}
    (hl : l ∈ t.links) :
    l.touches.reverse.lookup v.id =
      if l.edge.meets v.id then some ⟨.ofVertex v, l.edge.missing && l.edge.target = v.id⟩
      else none := by
  have hfound := vertex?_of_mem_vertices hv
  obtain ⟨_, hsource, htarget⟩ := link_spec hl
  obtain ⟨hs, hu⟩ := link_ids hl
  show [(l.target.id, VertexMatch.mk (.ofVertex l.target) l.edge.missing),
    (l.source.id, VertexMatch.mk (.ofVertex l.source) false)].lookup v.id = _
  rw [lookup_cons_if, lookup_cons_if, hs, hu]
  by_cases htv : v.id = l.edge.target
  · have hvt : l.target = v := by
      rw [← htv, hfound] at htarget
      exact (Option.some.inj htarget).symm
    have hmeets : l.edge.meets v.id = true := by simp [Edge.meets, htv]
    rw [if_pos htv, if_pos hmeets, hvt]
    simp [htv]
  · rw [if_neg htv]
    by_cases hsv : v.id = l.edge.source
    · have hvs : l.source = v := by
        rw [← hsv, hfound] at hsource
        exact (Option.some.inj hsource).symm
      have hmeets : l.edge.meets v.id = true := by simp [Edge.meets, hsv]
      rw [if_pos hsv, if_pos hmeets, hvs]
      simp [Ne.symm htv]
    · have hmeets : l.edge.meets v.id = false :=
        Edge.meets_eq_false_iff.2 ⟨Ne.symm hsv, Ne.symm htv⟩
      rw [if_neg hsv, hmeets]
      rfl

/-- Among the matches that some edges write, the last one of a vertex comes from the last edge that
touches the vertex. -/
theorem lookup_reverse_flatMap_touches {t : Template} {v : Vertex} (hv : v ∈ t.vertices)
    {links : List Link} (hlinks : ∀ l ∈ links, l ∈ t.links) :
    (links.flatMap Link.touches).reverse.lookup v.id =
      ((links.map Link.edge).reverse.find? (·.meets v.id)).map fun e =>
        ⟨.ofVertex v, e.missing && e.target = v.id⟩ := by
  induction links with
  | nil => rfl
  | cons l rest ih =>
      have hrest := ih fun l' hl' => hlinks l' (List.mem_cons_of_mem l hl')
      have hfirst := lookup_reverse_touches hv (hlinks l List.mem_cons_self)
      -- read backwards, the matches of `l` come last on both sides
      rw [List.flatMap_cons, List.reverse_append, List.lookup_append, hrest, hfirst, List.map_cons,
        List.reverse_cons, List.find?_append, Option.map_or]
      cases hmeets : l.edge.meets v.id <;> simp [hmeets]

theorem get?_statements_vertices {t : Template} {v : Vertex} (hv : v ∈ t.vertices)
    (hid : v.id ∈ t.encounters) :
    t.statements.vertices.get? v.id = some ⟨.ofVertex v, t.endsOptional v.id⟩ := by
  have hwrites : t.statements.vertices.get? v.id =
      (t.edges.reverse.find? (·.meets v.id)).map fun e =>
        ⟨.ofVertex v, e.missing && e.target = v.id⟩ := by
    rw [← t.links_map_edge, ← lookup_reverse_flatMap_touches hv fun _ hl => hl]
    exact (OrderedMap.get?_alterAll_const _ _ .empty).trans Option.or_none
  have hsome : (t.edges.reverse.find? (·.meets v.id)).isSome = true := by
    obtain ⟨e, he, hends⟩ := mem_encounters.1 hid
    have hmeets : e.meets v.id = true := by simp [Edge.meets, hends.imp Eq.symm Eq.symm]
    exact List.find?_isSome.2 ⟨e, List.mem_reverse.2 he, hmeets⟩
  obtain ⟨e, he⟩ := Option.isSome_iff_exists.1 hsome
  rw [hwrites, endsOptional, he]
  rfl

/-- The finished map: the touched vertices in order of first encounter, each as its last edge says. -/
theorem statements_vertices_entries (t : Template) :
    t.statements.vertices.entries =
      t.touched.map fun v => (v.id, ⟨.ofVertex v, t.endsOptional v.id⟩) := by
  rw [OrderedMap.entries_eq_filterMap_get?, keys_statements_vertices, touched, List.map_filterMap]
  apply List.filterMap_congr
  intro id hid
  have hencounter := List.mem_eraseDups.1 hid
  obtain ⟨v, hv, rfl⟩ := exists_vertex_of_mem_encounters hencounter
  rw [get?_statements_vertices hv hencounter, vertex?_of_mem_vertices hv]
  rfl

/-! ## The match lines of the query -/

theorem query_mandatory (t : Template) :
    t.plan.query.mandatory = (t.touched.filter fun v => !t.endsOptional v.id).map .ofVertex := by
  rw [plan_query, Statements.query, Statements.mandatory, OrderedMap.values,
    statements_vertices_entries]
  simp [List.filter_map, Function.comp_def]

theorem query_optional (t : Template) :
    t.plan.query.optional = (t.touched.filter fun v => t.endsOptional v.id).map .ofVertex := by
  rw [plan_query, Statements.query, Statements.optional, OrderedMap.values,
    statements_vertices_entries]
  simp [List.filter_map, Function.comp_def]

/-- Each vertex that an edge touches is matched once, by its own pattern; no other vertex is. -/
theorem filter_vertexMatches {t : Template} {v : Vertex} (hv : v ∈ t.vertices) :
    t.plan.query.vertexMatches.filter (fun m => m.node.name = v.id) =
      if v.id ∈ t.encounters then [⟨.ofVertex v, t.endsOptional v.id⟩] else [] := by
  have hself : ∀ p : Vertex → Bool, (t.touched.filter p).filter (fun u => u.id = v.id) =
      (if v.id ∈ t.encounters then [v] else []).filter p := by
    intro p
    rw [List.filter_comm, filter_touched hv]
  have hmandatory := hself fun u => !t.endsOptional u.id
  have hoptional := hself fun u => t.endsOptional u.id
  rw [Query.vertexMatches, query_mandatory, query_optional, List.map_map, List.map_map,
    List.filter_append, List.filter_map, List.filter_map]
  show ((t.touched.filter _).filter fun u => u.id = v.id).map _ ++
    ((t.touched.filter _).filter fun u => u.id = v.id).map _ = _
  rw [hmandatory, hoptional]
  -- exactly one of the two halves keeps the vertex
  by_cases hid : v.id ∈ t.encounters
  · cases hlast : t.endsOptional v.id <;> simp [hid, hlast]
  · simp [hid]

theorem map_name_ofVertex (vertices : List Vertex) :
    (vertices.map NodePattern.ofVertex).map (·.name) = vertices.map Vertex.id := by
  rw [List.map_map]
  rfl

/-- The names of touched vertices with a property of their ids, in order of first encounter. -/
theorem filter_touched_map_id (t : Template) (p : String → Bool) :
    (t.touched.filter fun v => p v.id).map Vertex.id = t.encounters.eraseDups.filter p := by
  rw [← touched_map_id, List.filter_map]
  rfl

/-- The patterns of touched vertices with a property of their ids, in order of first encounter. -/
theorem filter_touched_map_ofVertex (t : Template) (p : String → Bool) :
    (t.touched.filter fun v => p v.id).map NodePattern.ofVertex =
      (t.touched.map NodePattern.ofVertex).filter fun n => p n.name := by
  rw [List.filter_map]
  rfl

/-- Each vertex that edges touch has one match line, with its kind and its label variant, and no
other vertex has one. The line is optional exactly if the last edge that touches the vertex is a
missing edge into it. Mandatory lines come before the lines of the edges, optional ones after them,
and both are in order of first encounter. -/
theorem vertexMatches_of_last_edge (t : Template) :
    (∀ v ∈ t.vertices, t.plan.query.vertexMatches.filter (fun m => m.node.name = v.id) =
      if v.id ∈ t.encounters then [⟨⟨v.id, v.labelVariant?, v.kind⟩, t.endsOptional v.id⟩]
      else []) ∧
    (∀ m ∈ t.plan.query.vertexMatches, ∃ v ∈ t.vertices, m.node.name = v.id) ∧
    (∀ id, t.endsOptional id = true ↔
      ∃ before e after, t.edges = before ++ e :: after ∧ e.missing = true ∧ e.target = id ∧
        ∀ later ∈ after, later.source ≠ id ∧ later.target ≠ id) ∧
    linesOf t.compile.query =
      t.plan.query.mandatory.map (fun n => "MATCH " ++ n.text) ++
        t.plan.query.edges.map EdgeMatch.text ++
        t.plan.query.optional.map (fun n => "OPTIONAL MATCH " ++ n.text) ++
        constraintLines t.plan.query.constraints ++ [returnLine t.pathNames] ∧
    t.plan.query.mandatory.map (·.name) =
      t.encounters.eraseDups.filter (fun id => !t.endsOptional id) ∧
    t.plan.query.optional.map (·.name) = t.encounters.eraseDups.filter t.endsOptional := by
  refine ⟨fun v hv => filter_vertexMatches hv, ?_, fun id => endsOptional_iff,
    t.linesOf_compile_query, ?_, ?_⟩
  · intro m hm
    obtain ⟨v, hv, hnode⟩ := ofVertex_of_mem_vertexMatches hm
    exact ⟨v, hv, by rw [hnode]; rfl⟩
  · rw [query_mandatory, map_name_ofVertex]
    exact t.filter_touched_map_id fun id => !t.endsOptional id
  · rw [query_optional, map_name_ofVertex]
    exact t.filter_touched_map_id t.endsOptional

/-- Every vertex has been optional at some time: `c` becomes mandatory again, `b` stays optional, and
`a` ends with a missing loop. The vertex `d` is touched by no edge. -/
def changingOptionality : Template where
  vertices := [
    { id := "d", kind := .event },
    { id := "a", kind := .activity, variant := "X" },
    { id := "b", kind := .gateway }, { id := "c", kind := .event }]
  edges := [
    { source := "b", target := "a" }, { source := "a", target := "c", missing := true },
    { source := "c", target := "a" }, { source := "c", target := "b", missing := true },
    { source := "a", target := "a", missing := true }]
  accepted := by decide +kernel

theorem vertexMatches_of_last_edge_changingOptionality :
    linesOf changingOptionality.compile.query = [
      "MATCH (c:EVENT)", "MATCH p0=(b)-[r0]->(a)", "MATCH p1=(c)-[r2]->(a)",
      "OPTIONAL MATCH (b:GATEWAY)", "OPTIONAL MATCH (a:X:ACTIVITY)",
      "WHERE NONE (n IN nodes(p0) WHERE n=c)", "AND NONE (n IN nodes(p1) WHERE n=b)",
      "AND NONE (n IN nodes(p1) WHERE n=a)", "RETURN p0,p1"] ∧
    changingOptionality.plan.query.vertexMatches.filter (fun m => m.node.name = "a") =
      [⟨⟨"a", some "X", .activity⟩, true⟩] ∧
    changingOptionality.plan.query.vertexMatches.filter (fun m => m.node.name = "d") = [] := by
  obtain ⟨hmatches, _, _, hlines, _, _⟩ := changingOptionality.vertexMatches_of_last_edge
  refine ⟨hlines.trans (by decide), ?_, ?_⟩
  · exact (hmatches { id := "a", kind := .activity, variant := "X" } (by decide)).trans (by decide)
  · exact (hmatches { id := "d", kind := .event } (by decide)).trans (by decide)

end Template

end FlawQuery
