/-
# FlawQuery.Proofs.Acceptance -- what a template may be relied upon for

A template carries the fact that the check found no fault, so its vertices and edges keep all the
rules. Here that is put in the terms of the program, and what it means for the lookup of endpoints is
derived: no edge is lost on the way to its link. Whoever needs plain names, known endpoints, orderly
bounds or an anchor cites these lemmas and never opens the check. The last section says in full which
graphs are built and what the others are refused for.
-/

import FlawQuery.Proofs.FirstViolation

namespace FlawQuery

namespace Template

/-! ## Vertices and edges -/

theorem wellFormed (t : Template) : WellFormed t.vertices t.edges := by
  have haccepted := t.accepted
  rw [firstFault?_eq_head?_violations, List.head?_eq_none_iff] at haccepted
  exact violations_eq_nil_iff.1 haccepted

/-- The names of a template are plain; an empty variant is no name. -/
theorem plain_of_mem_vertices (t : Template) {v : Vertex} (hv : v ∈ t.vertices) :
    isIdentifier v.id = true ∧ (v.variant ≠ "" → isIdentifier v.variant = true) := by
  refine ⟨(isIdentifier_iff v.id).2 (t.wellFormed.ids_plain v hv), fun hne => ?_⟩
  rcases t.wellFormed.variants_plain v hv with hempty | hplain
  · exact absurd hempty hne
  · exact (isIdentifier_iff v.variant).2 hplain

/-- Every edge joins vertices of the template, has orderly bounds, and if it is missing, then a
present edge comes before it. -/
theorem edge_spec (t : Template) {before after : List Edge} {e : Edge}
    (h : t.edges = before ++ e :: after) :
    e.source ∈ t.vertices.map Vertex.id ∧ e.target ∈ t.vertices.map Vertex.id ∧
      e.upper.admits e.lower = true ∧
        (e.missing = true → ∃ anchor ∈ before, anchor.missing = false) := by
  have he := mem_of_eq_append_cons h
  obtain ⟨hsource, htarget⟩ := t.wellFormed.endpoints_known e he
  have hbounds : e.upper.admits e.lower = true := by
    cases hupper : e.upper with
    | bounded n => exact decide_eq_true (t.wellFormed.bounds_ordered e he n hupper)
    | unbounded => rfl
  exact ⟨List.mem_map.2 hsource, List.mem_map.2 htarget, hbounds,
    t.wellFormed.anchored before e after h⟩

/-- The first edge is present, for nothing precedes it that could anchor it. -/
theorem exists_present_edge (t : Template) : ∃ e ∈ t.edges, e.missing = false := by
  obtain ⟨e, rest, h⟩ := List.exists_cons_of_ne_nil t.wellFormed.edges_some
  have hfirst : t.edges.head? = some e := by rw [h, List.head?_cons]
  exact ⟨e, h ▸ List.mem_cons_self, (anchored_iff t.edges).1 t.wellFormed.anchored e hfirst⟩

/-! ## Links -/

theorem exists_vertex? (t : Template) {id : String} (h : id ∈ t.vertices.map Vertex.id) :
    ∃ v, t.vertex? id = some v := by
  obtain ⟨v, hv, rfl⟩ := List.mem_map.1 h
  exact Option.isSome_iff_exists.1 (List.find?_isSome.2 ⟨v, hv, by simp⟩)

theorem mem_of_vertex?_eq_some {t : Template} {id : String} {v : Vertex}
    (h : t.vertex? id = some v) : v ∈ t.vertices ∧ v.id = id :=
  ⟨List.mem_of_find?_eq_some h, by simpa using List.find?_some h⟩

theorem nodup_ids (t : Template) : (t.vertices.map Vertex.id).Nodup :=
  t.wellFormed.ids_distinct

/-- Every vertex is found under its own id. -/
theorem vertex?_of_mem_vertices {t : Template} {v : Vertex} (hv : v ∈ t.vertices) :
    t.vertex? v.id = some v := by
  obtain ⟨u, hu⟩ := t.exists_vertex? (List.mem_map_of_mem hv)
  obtain ⟨hmem, hid⟩ := mem_of_vertex?_eq_some hu
  rw [hu, List.inj_on_of_nodup_map t.nodup_ids hmem hv hid]

theorem link?_eq_some_iff {t : Template} {e : Edge} {l : Link} :
    t.link? e = some l ↔
      l.edge = e ∧ t.vertex? e.source = some l.source ∧ t.vertex? e.target = some l.target := by
  obtain ⟨edge, source, target⟩ := l
  unfold link?
  cases t.vertex? e.source with
  | none => simp
  | some s =>
      cases t.vertex? e.target with
      | none => simp
      | some u =>
          simp only [Option.bind_eq_bind, Option.bind_some, Option.pure_def, Option.some.injEq,
            Link.mk.injEq]
          exact and_congr_left' eq_comm

/-- The two vertices that an edge joins are found. -/
theorem exists_link?_eq_some {t : Template} {e : Edge} (he : e ∈ t.edges) :
    ∃ source ∈ t.vertices, ∃ target ∈ t.vertices, source.id = e.source ∧ target.id = e.target ∧
      t.link? e = some ⟨e, source, target⟩ := by
  obtain ⟨before, after, hsplit⟩ := List.append_of_mem he
  obtain ⟨hsource, htarget, _⟩ := t.edge_spec hsplit
  obtain ⟨source, hs⟩ := t.exists_vertex? hsource
  obtain ⟨target, hu⟩ := t.exists_vertex? htarget
  obtain ⟨hsmem, hsid⟩ := mem_of_vertex?_eq_some hs
  obtain ⟨humem, huid⟩ := mem_of_vertex?_eq_some hu
  exact ⟨source, hsmem, target, humem, hsid, huid, link?_eq_some_iff.2 ⟨rfl, hs, hu⟩⟩

/-- A link is an edge of the template with the two vertices found under its ids. -/
theorem link_spec {t : Template} {l : Link} (hl : l ∈ t.links) :
    l.edge ∈ t.edges ∧ t.vertex? l.edge.source = some l.source ∧
      t.vertex? l.edge.target = some l.target := by
  obtain ⟨e, he, hlink⟩ := List.mem_filterMap.1 hl
  obtain ⟨rfl, hsource, htarget⟩ := link?_eq_some_iff.1 hlink
  exact ⟨he, hsource, htarget⟩

/-- The edge decides the link. -/
theorem link_eq_of_edge_eq {t : Template} {l l' : Link} (hl : l ∈ t.links) (hl' : l' ∈ t.links)
    (h : l.edge = l'.edge) : l = l' := by
  obtain ⟨_, hsource, htarget⟩ := link_spec hl
  obtain ⟨_, hsource', htarget'⟩ := link_spec hl'
  have hs : some l.source = some l'.source := by rw [← hsource, ← hsource', h]
  have hu : some l.target = some l'.target := by rw [← htarget, ← htarget', h]
  obtain ⟨e, s, u⟩ := l
  obtain ⟨e', s', u'⟩ := l'
  cases h
  cases hs
  cases hu
  rfl

/-- No edge is lost on the way: both endpoints of each are found. -/
theorem map_edge_filterMap_link? {t : Template} {edges : List Edge}
    (h : ∀ e ∈ edges, e ∈ t.edges) : (edges.filterMap t.link?).map Link.edge = edges := by
  have hlink : ∀ e ∈ edges, (t.link? e).map Link.edge = some e := by
    intro e he
    obtain ⟨_, _, _, _, _, _, hl⟩ := exists_link?_eq_some (h e he)
    rw [hl]
    rfl
  -- every edge has its link, so dropping failed lookups drops nothing
  calc (edges.filterMap t.link?).map Link.edge
      = edges.filterMap (fun e => (t.link? e).map Link.edge) := List.map_filterMap
    _ = edges.filterMap some := List.filterMap_congr hlink
    _ = edges := List.filterMap_some

theorem links_map_edge (t : Template) : t.links.map Link.edge = t.edges :=
  map_edge_filterMap_link? fun _ he => he

/-! ## Building -/

/-- Building succeeds exactly on the well-formed graphs, where the condition on missing edges comes
down to a present first edge. The template then has the given vertices and edges, finds every vertex
under its id, and finds both ends of every edge. All other graphs are refused for their first
violation. -/
theorem build_wellFormed_or_first_violation (vertices : List Vertex) (edges : List Edge) :
    ((∃ t, build vertices edges = .ok t) ↔ WellFormed vertices edges) ∧
    (Anchored edges ↔ ∀ first, edges.head? = some first → first.missing = false) ∧
    (∀ t, build vertices edges = .ok t →
      t.vertices = vertices ∧ t.edges = edges ∧ (∀ v ∈ vertices, t.vertex? v.id = some v) ∧
        ∀ e ∈ edges, ∃ source ∈ vertices, ∃ target ∈ vertices, source.id = e.source ∧
          target.id = e.target ∧ t.link? e = some ⟨e, source, target⟩) ∧
    ∀ fault, build vertices edges = .error fault ↔
      (violations vertices edges).head? = some fault := by
  refine ⟨exists_build_eq_ok_iff, anchored_iff edges, ?_, fun fault => build_eq_error_iff_head?⟩
  intro t ht
  obtain ⟨_, rfl, rfl⟩ := build_eq_ok_iff.1 ht
  exact ⟨rfl, rfl, fun v hv => vertex?_of_mem_vertices hv, fun e he => exists_link?_eq_some he⟩

/-- A graph that breaks five rules at once, two of them in its vertices. -/
def brokenVertices : List Vertex := [
  { id := "a", kind := .activity },
  { id := "b", kind := .event, variant := "two words", placeholder := true },
  { id := "a", kind := .gateway }]

/-- Its edge enters no vertex, has its bounds crossed, and is missing with nothing before it. -/
def brokenEdges : List Edge := [
  { source := "b", target := "z", lower := 3, upper := .bounded 2, missing := true }]

/-- A graph that keeps all rules: an open range, a missing edge after a present one, a placeholder. -/
def soundVertices : List Vertex := [
  { id := "_a1", kind := .activity, variant := "X" },
  { id := "b", kind := .event, variant := "S", placeholder := true }]

/-- Its edges; the second one is missing and ends where it begins. -/
def soundEdges : List Edge := [
  { source := "_a1", target := "b", lower := 7, upper := .unbounded },
  { source := "b", target := "b", lower := 0, upper := .bounded 0, missing := true }]

theorem build_wellFormed_or_first_violation_brokenAndSound :
    (violations brokenVertices brokenEdges = [
      .invalidIdentifier .placeholderGroup "two words", .duplicateVertex "a", .unknownVertex 0 "z",
      .invalidBounds 0 3 (.bounded 2), .unanchoredMissingEdge 0] ∧
    build brokenVertices brokenEdges = .error (.invalidIdentifier .placeholderGroup "two words") ∧
    ¬ WellFormed brokenVertices brokenEdges) ∧
    WellFormed soundVertices soundEdges ∧
    ∃ t, build soundVertices soundEdges = .ok t ∧ t.vertices = soundVertices ∧
      t.edges = soundEdges ∧
      ∃ source ∈ soundVertices, ∃ target ∈ soundVertices, source.id = "_a1" ∧ target.id = "b" ∧
        t.link? { source := "_a1", target := "b", lower := 7, upper := .unbounded } =
          some ⟨{ source := "_a1", target := "b", lower := 7, upper := .unbounded }, source,
            target⟩ := by
  obtain ⟨hok, _, _, herror⟩ := build_wellFormed_or_first_violation brokenVertices brokenEdges
  obtain ⟨hok', _, hparts, _⟩ := build_wellFormed_or_first_violation soundVertices soundEdges
  have hviolations : violations brokenVertices brokenEdges = [
      .invalidIdentifier .placeholderGroup "two words", .duplicateVertex "a", .unknownVertex 0 "z",
      .invalidBounds 0 3 (.bounded 2), .unanchoredMissingEdge 0] := by decide +kernel
  have hbuild := (herror (.invalidIdentifier .placeholderGroup "two words")).2
    (by rw [hviolations]; rfl)
  obtain ⟨t, ht⟩ : ∃ t, build soundVertices soundEdges = .ok t :=
    ⟨⟨soundVertices, soundEdges, by decide +kernel⟩, build_eq_ok_iff.2 ⟨by decide +kernel, rfl, rfl⟩⟩
  obtain ⟨hvertices, hedges, _, hlinks⟩ := hparts t ht
  refine ⟨⟨hviolations, hbuild, fun hwell => ?_⟩, hok'.1 ⟨t, ht⟩, t, ht, hvertices, hedges,
    hlinks _ List.mem_cons_self⟩
  obtain ⟨u, hu⟩ := hok.2 hwell
  rw [hbuild] at hu
  cases hu

end Template

end FlawQuery
