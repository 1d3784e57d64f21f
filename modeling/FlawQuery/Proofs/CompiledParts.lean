/-
# FlawQuery.Proofs.CompiledParts -- the parts of a compiled query, from the template alone

The closed form of the pass still speaks of links and counters. Here each part of the compiled query
is put in terms of the template: the matched vertices are the distinct endpoints of the edges, the
path names are counted over the present edges, a relationship name carries the position of its edge,
and each placeholder group answers for its own arrivals.
-/

import FlawQuery.Proofs.Acceptance
import FlawQuery.Proofs.EdgePass

namespace FlawQuery

open Template (Link)

/-! ## Fresh names -/

theorem toDigits_ten_injective : Function.Injective (Nat.toDigits 10) := by
  intro m n h
  calc m = Nat.ofDigitChars 10 (Nat.toDigits 10 m) 0 := Nat.ofDigitChars_ten_toDigits.symm
    _ = Nat.ofDigitChars 10 (Nat.toDigits 10 n) 0 := by rw [h]
    _ = n := Nat.ofDigitChars_ten_toDigits

theorem pathName_injective : Function.Injective pathName := by
  intro m n h
  exact toDigits_ten_injective (by simpa [pathName, ← String.toList_inj] using h)

theorem relationName_injective : Function.Injective relationName := by
  intro m n h
  exact toDigits_ten_injective (by simpa [relationName, ← String.toList_inj] using h)

theorem pathName_ne_relationName (m n : Nat) : pathName m ≠ relationName n := by
  simp [pathName, relationName, ← String.toList_inj]

theorem isDigit_of_mem_toString {n : Nat} {c : Char} (h : c ∈ (toString n).toList) :
    c.isDigit = true :=
  Nat.isDigit_of_mem_toDigits (by decide) (by decide)
    (show c ∈ Nat.toDigits 10 n by simpa using h)

/-- A plain name with a number behind it is plain. -/
theorem isIdentifier_append_toString {lead : String} (hlead : isIdentifier lead = true) (n : Nat) :
    isIdentifier (lead ++ toString n) = true := by
  have hdigits : ∀ c ∈ (toString n).toList, isNameChar c = true := by
    intro c hc
    simp [isNameChar, Char.isAlphanum, isDigit_of_mem_toString hc]
  rw [isIdentifier, String.toList_append]
  unfold isIdentifier at hlead
  cases hchars : lead.toList with
  | nil => simp [hchars] at hlead
  | cons first rest =>
      simp only [hchars, Bool.and_eq_true] at hlead
      simp only [List.cons_append, List.all_append, Bool.and_eq_true]
      exact ⟨hlead.1, hlead.2, List.all_eq_true.2 hdigits⟩

theorem isIdentifier_pathName (n : Nat) : isIdentifier (pathName n) = true :=
  isIdentifier_append_toString (by decide) n

theorem isIdentifier_relationName (n : Nat) : isIdentifier (relationName n) = true :=
  isIdentifier_append_toString (by decide) n

/-! ## Positions -/

theorem getElem?_eq_some_iff_split {α : Type} {l : List α} {i : Nat} {a : α} :
    l[i]? = some a ↔ ∃ before after, l = before ++ a :: after ∧ before.length = i := by
  constructor
  · intro h
    obtain ⟨hi, rfl⟩ := List.getElem?_eq_some_iff.1 h
    refine ⟨l.take i, l.drop (i + 1), ?_, List.length_take_of_le (Nat.le_of_lt hi)⟩
    rw [← List.drop_eq_getElem_cons hi, List.take_append_drop]
  · rintro ⟨before, after, rfl, rfl⟩
    simp

/-- Searching from the end finds the last entry that passes. -/
theorem find?_reverse_eq_some_iff {α : Type} {p : α → Bool} {l : List α} {a : α} :
    l.reverse.find? p = some a ↔
      p a = true ∧ ∃ before after, l = before ++ a :: after ∧ ∀ b ∈ after, p b = false := by
  rw [List.find?_eq_some_iff_append]
  constructor
  · rintro ⟨ha, before, after, h, hbefore⟩
    refine ⟨ha, after.reverse, before.reverse, ?_, ?_⟩
    · rw [← List.reverse_reverse l, h]
      simp
    · intro b hb
      simpa using hbefore b (List.mem_reverse.1 hb)
  · rintro ⟨ha, before, after, rfl, hafter⟩
    refine ⟨ha, after.reverse, before.reverse, by simp, ?_⟩
    intro b hb
    rw [hafter b (List.mem_reverse.1 hb)]
    rfl

/-! ## Parts over plain names -/

/-- All names of a node pattern are plain. -/
structure NodePattern.Plain (n : NodePattern) : Prop where
  name : isIdentifier n.name = true
  variant : ∀ variant ∈ n.variant, isIdentifier variant = true

/-- All names of an edge match are plain. -/
structure EdgeMatch.Plain (m : EdgeMatch) : Prop where
  path : isIdentifier m.path = true
  relation : isIdentifier m.relationship.name = true
  source : isIdentifier m.relationship.source = true
  target : isIdentifier m.relationship.target = true

/-- The constraints that compiled queries are made of. -/
inductive Constraint.Compiled : Constraint → Prop
  | absence (path : Nat) {vertex : String} (hvertex : isIdentifier vertex = true) :
      Compiled (.absence (pathName path) vertex)
  | condition (relation : Nat) (value : String) : Compiled (.condition (relationName relation) value)
  | sameLabels {first second : String} (hfirst : isIdentifier first = true)
      (hsecond : isIdentifier second = true) : Compiled (.sameLabels first second)

/-- The variant in a label is the variant of the vertex, and not empty. -/
theorem of_labelVariant?_eq_some {v : Vertex} {variant : String}
    (h : v.labelVariant? = some variant) : v.variant ≠ "" ∧ v.variant = variant := by
  unfold Vertex.labelVariant? at h
  split at h
  · cases h
  · rename_i hplain
    simp only [Bool.or_eq_true, not_or, String.isEmpty_iff] at hplain
    exact ⟨hplain.2, Option.some.inj h⟩

namespace Template

/-! ## Endpoints, names and groups of a template -/

/-- The ids of all endpoints, the source before the target and edge by edge. -/
def encounters (t : Template) : List String :=
  t.edges.flatMap fun e => [e.source, e.target]

/-- How many edges must exist. -/
def presentCount (t : Template) : Nat :=
  t.edges.countP fun e => !e.missing

/-- One path name for each present edge. -/
def pathNames (t : Template) : List String :=
  (List.range t.presentCount).map pathName

/-- The relationship name of each present edge: it carries the position among all edges. -/
def relationNames (t : Template) : List String :=
  (t.edges.zipIdx.filter fun e => !e.1.missing).map fun e => relationName e.2

/-- The placeholder group of the vertex with the given id. -/
def groupOf? (t : Template) (id : String) : Option String :=
  (t.vertex? id).bind Vertex.group?

/-- The placeholder groups that some edge touches, in order of first encounter. -/
def groups (t : Template) : List String :=
  (t.encounters.filterMap t.groupOf?).eraseDups

/-- The endpoints that belong to a group, one for each time that an edge touches the group. -/
def arrivals (t : Template) (group : String) : List String :=
  t.encounters.filter fun id => t.groupOf? id = some group

/-- All that the pass over the edges collects. -/
def statements (t : Template) : Statements :=
  Statements.empty.collect {} t.links

theorem mem_encounters {t : Template} {id : String} :
    id ∈ t.encounters ↔ ∃ e ∈ t.edges, id = e.source ∨ id = e.target := by
  simp [encounters]

theorem source_mem_encounters {t : Template} {e : Edge} (he : e ∈ t.edges) :
    e.source ∈ t.encounters :=
  mem_encounters.2 ⟨e, he, Or.inl rfl⟩

theorem target_mem_encounters {t : Template} {e : Edge} (he : e ∈ t.edges) :
    e.target ∈ t.encounters :=
  mem_encounters.2 ⟨e, he, Or.inr rfl⟩

theorem mem_arrivals {t : Template} {group id : String} :
    id ∈ t.arrivals group ↔ id ∈ t.encounters ∧ t.groupOf? id = some group := by
  simp [arrivals]

theorem groupOf?_of_mem_vertices {t : Template} {v : Vertex} (hv : v ∈ t.vertices) :
    t.groupOf? v.id = v.group? := by
  rw [groupOf?, vertex?_of_mem_vertices hv, Option.bind_some]

/-- A group that some edge touches is one of the groups. -/
theorem mem_groups_of_mem_arrivals {t : Template} {group id : String}
    (h : id ∈ t.arrivals group) : group ∈ t.groups := by
  obtain ⟨hid, hgroup⟩ := mem_arrivals.1 h
  exact List.mem_eraseDups.2 (List.mem_filterMap.2 ⟨id, hid, hgroup⟩)

theorem link_ids {t : Template} {l : Link} (hl : l ∈ t.links) :
    l.source.id = l.edge.source ∧ l.target.id = l.edge.target := by
  obtain ⟨_, hsource, htarget⟩ := link_spec hl
  exact ⟨(mem_of_vertex?_eq_some hsource).2, (mem_of_vertex?_eq_some htarget).2⟩

theorem exists_link {t : Template} {e : Edge} (he : e ∈ t.edges) : ∃ l ∈ t.links, l.edge = e := by
  rw [← t.links_map_edge] at he
  exact List.mem_map.1 he

theorem exists_vertex_of_mem_encounters {t : Template} {id : String} (h : id ∈ t.encounters) :
    ∃ v ∈ t.vertices, v.id = id := by
  obtain ⟨e, he, hid⟩ := mem_encounters.1 h
  obtain ⟨before, after, hedges⟩ := List.append_of_mem he
  obtain ⟨hsource, htarget, _⟩ := t.edge_spec hedges
  rcases hid with rfl | rfl
  · exact List.mem_map.1 hsource
  · exact List.mem_map.1 htarget

theorem isIdentifier_of_mem_encounters {t : Template} {id : String} (h : id ∈ t.encounters) :
    isIdentifier id = true := by
  obtain ⟨v, hv, rfl⟩ := exists_vertex_of_mem_encounters h
  exact (t.plain_of_mem_vertices hv).1

theorem encounters_eq_links (t : Template) :
    t.encounters = t.links.flatMap fun l => [l.source.id, l.target.id] := by
  rw [encounters, ← t.links_map_edge, List.flatMap_map]
  apply List.flatMap_congr
  intro l hl
  obtain ⟨hsource, htarget⟩ := link_ids hl
  show [l.edge.source, l.edge.target] = [l.source.id, l.target.id]
  rw [hsource, htarget]

theorem countP_links (t : Template) :
    t.links.countP (fun l => !l.edge.missing) = t.presentCount := by
  rw [presentCount, ← t.links_map_edge, List.countP_map]
  rfl

theorem pathVariables_after_links (t : Template) :
    (Counters.after {} t.links).pathVariables = t.pathNames := by
  simp [Counters.pathVariables, Counters.after, t.countP_links, pathNames]

/-- The compiled query is arranged from the collected statements, and it returns all paths. -/
theorem plan_query (t : Template) : t.plan.query = t.statements.query t.pathNames := by
  simp only [plan, compileLinks_eq, pathVariables_after_links]
  rfl

/-- After some edges the counters have passed a path name for each present one and a relationship name
for each of them. -/
theorem after_zero (links : List Link) :
    Counters.after {} links =
      ⟨(links.map Link.edge).countP fun e => !e.missing, (links.map Link.edge).length⟩ := by
  simp [Counters.after, List.countP_map, Function.comp_def]

/-- Where an edge stands among the edges, its link stands among the links. -/
theorem exists_links_split {t : Template} {before after : List Edge} {e : Edge}
    (h : t.edges = before ++ e :: after) :
    ∃ before' l after', t.links = before' ++ l :: after' ∧ before'.map Link.edge = before ∧
      l.edge = e := by
  rw [← t.links_map_edge] at h
  exact exists_split_of_map_eq h

/-- Whatever the edges of a template contribute comes from one edge, which sees a path name for each
present edge before it and a relationship name for each edge before it. -/
theorem mem_gather_links {α : Type} {f : Link → Counters → List α} {t : Template} {x : α} :
    x ∈ gather f {} t.links ↔ ∃ before l after, t.edges = before ++ l.edge :: after ∧
      l ∈ t.links ∧ x ∈ f l ⟨before.countP fun e => !e.missing, before.length⟩ := by
  rw [mem_gather]
  constructor
  · rintro ⟨before, l, after, hlinks, hx⟩
    refine ⟨before.map Link.edge, l, after.map Link.edge, ?_, mem_of_eq_append_cons hlinks,
      after_zero before ▸ hx⟩
    rw [← t.links_map_edge, hlinks, List.map_append, List.map_cons]
  · rintro ⟨before, l, after, hedges, hl, hx⟩
    obtain ⟨before', l', after', hlinks, rfl, hedge⟩ := exists_links_split hedges
    have hl' : l' ∈ t.links := mem_of_eq_append_cons hlinks
    -- the edge at this position decides the link, so `l'` is the given link
    rw [link_eq_of_edge_eq hl' hl hedge] at hlinks
    exact ⟨before', l, after', hlinks, (after_zero before').symm ▸ hx⟩

/-! ## Matched vertices -/

theorem keys_statements_vertices (t : Template) :
    t.statements.vertices.keys = t.encounters.eraseDups := by
  have hnames : (t.links.flatMap Link.touches).map Prod.fst = t.encounters := by
    rw [List.map_flatMap, encounters_eq_links]
    rfl
  rw [← hnames]
  exact OrderedMap.keys_alterAll _ _ .empty

/-- A vertex match stands under the id of a template vertex and carries its pattern. -/
theorem vertex_of_mem_statements {t : Template} {e : String × VertexMatch}
    (he : e ∈ t.statements.vertices.entries) :
    ∃ v ∈ t.vertices, e.1 = v.id ∧ e.2.node = .ofVertex v := by
  rcases OrderedMap.mem_entries_alterAll_const he with hempty | htouch
  · exact absurd hempty List.not_mem_nil
  · obtain ⟨l, hl, hmem⟩ := List.mem_flatMap.1 htouch
    obtain ⟨_, hsource, htarget⟩ := link_spec hl
    simp only [Link.touches, List.mem_cons, List.not_mem_nil, or_false] at hmem
    rcases hmem with rfl | rfl
    · exact ⟨l.source, (mem_of_vertex?_eq_some hsource).1, rfl, rfl⟩
    · exact ⟨l.target, (mem_of_vertex?_eq_some htarget).1, rfl, rfl⟩

theorem ofVertex_of_mem_vertexMatches {t : Template} {m : VertexMatch}
    (hm : m ∈ t.plan.query.vertexMatches) : ∃ v ∈ t.vertices, m.node = .ofVertex v := by
  have hnode : ∃ m' ∈ t.statements.vertices.values, m'.node = m.node := by
    rw [plan_query] at hm
    simp only [Query.vertexMatches, Statements.query, Statements.mandatory, Statements.optional,
      List.map_map, List.mem_append, List.mem_map, List.mem_filter, Function.comp_apply] at hm
    rcases hm with ⟨m', ⟨hm', _⟩, rfl⟩ | ⟨m', ⟨hm', _⟩, rfl⟩
    · exact ⟨m', hm', rfl⟩
    · exact ⟨m', hm', rfl⟩
  obtain ⟨m', hm', hmm⟩ := hnode
  obtain ⟨e, he, rfl⟩ := List.mem_map.1 hm'
  obtain ⟨v, hv, _, hev⟩ := vertex_of_mem_statements he
  exact ⟨v, hv, hmm ▸ hev⟩

theorem plain_ofVertex {t : Template} {v : Vertex} (hv : v ∈ t.vertices) :
    (NodePattern.ofVertex v).Plain := by
  obtain ⟨hid, hvariant⟩ := t.plain_of_mem_vertices hv
  refine ⟨hid, fun variant hlabel => ?_⟩
  obtain ⟨hne, rfl⟩ := of_labelVariant?_eq_some hlabel
  exact hvariant hne

theorem plain_of_mem_vertexMatches {t : Template} {m : VertexMatch}
    (hm : m ∈ t.plan.query.vertexMatches) : m.node.Plain := by
  obtain ⟨v, hv, hnode⟩ := ofVertex_of_mem_vertexMatches hm
  rw [hnode]
  exact plain_ofVertex hv

theorem plain_of_mem_mandatory {t : Template} {n : NodePattern}
    (hn : n ∈ t.plan.query.mandatory) : n.Plain := by
  have hm : ⟨n, false⟩ ∈ t.plan.query.vertexMatches :=
    List.mem_append_left _ (List.mem_map_of_mem hn)
  exact plain_of_mem_vertexMatches hm

theorem plain_of_mem_optional {t : Template} {n : NodePattern}
    (hn : n ∈ t.plan.query.optional) : n.Plain := by
  have hm : ⟨n, true⟩ ∈ t.plan.query.vertexMatches :=
    List.mem_append_right _ (List.mem_map_of_mem hn)
  exact plain_of_mem_vertexMatches hm

/-- The existence query has vertices to look for, all of them vertices of the template. -/
theorem existence_nodes {t : Template} {q : ExistenceQuery} (hq : t.plan.existence = some q) :
    q.nodes ≠ [] ∧ ∀ n ∈ q.nodes, ∃ v ∈ t.vertices, n = .ofVertex v := by
  -- without a missing edge there would be no existence query at all
  have hsome : t.statements.existenceQuery? = some q := by
    simp only [plan, compileLinks_eq] at hq
    split at hq
    · exact hq
    · cases hq
  have hnodes : ∀ n ∈ t.statements.questionable, ∃ v ∈ t.vertices, n = .ofVertex v := by
    intro n hn
    obtain ⟨e, he, rfl⟩ := List.mem_map.1 hn
    obtain ⟨v, hv, _, hev⟩ := vertex_of_mem_statements (List.mem_of_mem_filter he)
    exact ⟨v, hv, hev⟩
  cases hquestionable : t.statements.questionable with
  | nil => simp [Statements.existenceQuery?, hquestionable] at hsome
  | cons n rest =>
      rw [hquestionable] at hnodes
      simp only [Statements.existenceQuery?, hquestionable, Option.some.injEq] at hsome
      subst hsome
      exact ⟨List.cons_ne_nil n rest, hnodes⟩

theorem statements_values_names (t : Template) :
    t.statements.vertices.values.map (·.node.name) = t.encounters.eraseDups := by
  rw [← keys_statements_vertices, OrderedMap.values, OrderedMap.keys, List.map_map]
  apply List.map_congr_left
  intro e he
  obtain ⟨v, _, hkey, hnode⟩ := vertex_of_mem_statements he
  show e.2.node.name = e.1
  rw [hkey, hnode]
  rfl

/-- Each endpoint of an edge is matched once, and nothing else is. -/
theorem vertexMatches_names_perm (t : Template) :
    (t.plan.query.vertexMatches.map (·.node.name)).Perm t.encounters.eraseDups := by
  have hsplit : t.plan.query.vertexMatches.map (·.node.name) =
      (t.statements.mandatory ++ t.statements.optional).map (·.node.name) := by
    simp [plan_query, Query.vertexMatches, Statements.query, Function.comp_def]
  -- mandatory and optional matches are the two halves of one filter
  have hperm : (t.statements.mandatory ++ t.statements.optional).Perm t.statements.vertices.values := by
    have h := List.filter_append_perm (fun m : VertexMatch => !m.optional)
      t.statements.vertices.values
    simpa [Statements.mandatory, Statements.optional] using h
  rw [hsplit, ← statements_values_names]
  exact hperm.map _

theorem mem_vertexMatches_names {t : Template} {id : String} :
    id ∈ t.plan.query.vertexMatches.map (·.node.name) ↔ id ∈ t.encounters := by
  rw [t.vertexMatches_names_perm.mem_iff, List.mem_eraseDups]

/-! ## Matched edges -/

theorem gather_edgeMatches_relations (links : List Link) :
    ∀ c : Counters, (gather Link.edgeMatches c links).map (·.relationship.name) =
      ((links.zipIdx c.relations).filter fun l => !l.1.edge.missing).map
        fun l => relationName l.2 := by
  induction links with
  | nil => intro c; rfl
  | cons l rest ih =>
      intro c
      rw [gather, List.map_append, ih]
      cases hmissing : l.edge.missing with
      | true => simp [Link.edgeMatches, Link.advance, hmissing]
      | false => simp [Link.edgeMatches, Link.advance, hmissing]

theorem plan_query_edges (t : Template) :
    t.plan.query.edges = gather Link.edgeMatches {} t.links := by
  rw [plan_query]
  exact List.nil_append _

/-- The match of a present edge: its path is numbered among the present edges, its relationship among
all edges. -/
theorem mem_query_edges {t : Template} {m : EdgeMatch} :
    m ∈ t.plan.query.edges ↔ ∃ before e after, t.edges = before ++ e :: after ∧
      e.missing = false ∧ m = ⟨pathName (before.countP fun e => !e.missing),
        relationName before.length, e.source, e.target, e.lower, e.upper⟩ := by
  rw [plan_query_edges, mem_gather_links]
  constructor
  · rintro ⟨before, l, after, hedges, hl, hm⟩
    obtain ⟨hsource, htarget⟩ := link_ids hl
    cases hmissing : l.edge.missing with
    | true => simp [Link.edgeMatches, hmissing] at hm
    | false =>
        simp only [Link.edgeMatches, hmissing, Bool.false_eq_true, if_false,
          List.mem_singleton, hsource, htarget] at hm
        exact ⟨before, l.edge, after, hedges, hmissing, hm⟩
  · rintro ⟨before, e, after, hedges, hmissing, rfl⟩
    obtain ⟨l, hl, rfl⟩ := exists_link (mem_of_eq_append_cons hedges)
    obtain ⟨hsource, htarget⟩ := link_ids hl
    refine ⟨before, l, after, hedges, hl, ?_⟩
    simp [Link.edgeMatches, hmissing, hsource, htarget]

theorem plain_of_mem_edges {t : Template} {m : EdgeMatch} (hm : m ∈ t.plan.query.edges) :
    m.Plain := by
  obtain ⟨before, e, after, hedges, _, rfl⟩ := mem_query_edges.1 hm
  have he := mem_of_eq_append_cons hedges
  exact ⟨isIdentifier_pathName _, isIdentifier_relationName _,
    isIdentifier_of_mem_encounters (source_mem_encounters he),
    isIdentifier_of_mem_encounters (target_mem_encounters he)⟩

theorem length_gather_edgeMatches (c : Counters) (links : List Link) :
    (gather Link.edgeMatches c links).length = links.countP fun l => !l.edge.missing := by
  have h := congrArg List.length (c.pathVariables_after links)
  simpa [Counters.pathVariables, Counters.after] using h.symm

/-- The match of a present edge stands where its path is numbered. -/
theorem getElem?_query_edges {t : Template} {before after : List Edge} {e : Edge}
    (h : t.edges = before ++ e :: after) (hpresent : e.missing = false) :
    t.plan.query.edges[before.countP fun e => !e.missing]? =
      some ⟨pathName (before.countP fun e => !e.missing), relationName before.length, e.source,
        e.target, e.lower, e.upper⟩ := by
  obtain ⟨before', l, after', hlinks, rfl, rfl⟩ := exists_links_split h
  obtain ⟨hsource, htarget⟩ := link_ids (mem_of_eq_append_cons hlinks)
  have hlength : (gather Link.edgeMatches {} before').length =
      (before'.map Link.edge).countP fun e => !e.missing := by
    rw [length_gather_edgeMatches, List.countP_map]
    rfl
  rw [plan_query_edges, hlinks, gather_append, after_zero, ← hlength,
    List.getElem?_append_right (Nat.le_refl _), Nat.sub_self, gather, hlength]
  simp [Link.edgeMatches, hpresent, hsource, htarget]

/-- The matched paths are those of the return line, in the same order. -/
theorem query_paths (t : Template) : t.plan.query.edges.map EdgeMatch.path = t.pathNames := by
  rw [plan_query_edges, ← pathVariables_after_links, Counters.pathVariables_after]
  rfl

theorem query_returned (t : Template) : t.plan.query.returned = t.pathNames := by
  rw [plan_query]
  rfl

theorem query_relations (t : Template) :
    t.plan.query.edges.map (·.relationship.name) = t.relationNames := by
  rw [plan_query_edges, gather_edgeMatches_relations, relationNames, ← t.links_map_edge,
    List.zipIdx_map, List.filter_map, List.map_map]
  rfl

/-! ## Constraints -/

/-- The constraints of the edges: the absence of a missing edge's target from the last path before
it, and the value of an edge's condition. -/
theorem mem_gather_constraints {t : Template} {c : Constraint} :
    c ∈ gather Link.constraints {} t.links ↔ ∃ before e after, t.edges = before ++ e :: after ∧
      (e.missing = true ∧ c = .absence (pathName (before.countP (fun e => !e.missing) - 1)) e.target ∨
        ∃ value, e.condition = some value ∧ c = .condition (relationName before.length) value) := by
  rw [mem_gather_links]
  constructor
  · rintro ⟨before, l, after, hedges, hl, hc⟩
    refine ⟨before, l.edge, after, hedges, ?_⟩
    rcases List.mem_append.1 hc with hc | hc
    · cases hmissing : l.edge.missing with
      | false => simp [hmissing] at hc
      | true =>
          simp only [hmissing, if_true, List.mem_singleton, (link_ids hl).2] at hc
          exact Or.inl ⟨rfl, hc⟩
    · cases hcondition : l.edge.condition with
      | none => simp [hcondition] at hc
      | some value =>
          simp only [hcondition, List.mem_singleton] at hc
          exact Or.inr ⟨value, rfl, hc⟩
  · rintro ⟨before, e, after, hedges, hc⟩
    obtain ⟨l, hl, rfl⟩ := exists_link (mem_of_eq_append_cons hedges)
    refine ⟨before, l, after, hedges, hl, List.mem_append.2 ?_⟩
    rcases hc with ⟨hmissing, rfl⟩ | ⟨value, hcondition, rfl⟩
    · exact Or.inl (by simp [hmissing, Counters.lastPath, (link_ids hl).2])
    · exact Or.inr (by simp [hcondition])

theorem joins_eq_filterMap (t : Template) :
    t.links.flatMap Link.joins =
      t.encounters.filterMap fun id => (t.groupOf? id).map fun group => (group, [id]) := by
  rw [encounters_eq_links, List.filterMap_flatMap]
  apply List.flatMap_congr
  intro l hl
  obtain ⟨_, hsource, htarget⟩ := link_spec hl
  have hgroup := groupOf?_of_mem_vertices (mem_of_vertex?_eq_some hsource).1
  have hgroup' := groupOf?_of_mem_vertices (mem_of_vertex?_eq_some htarget).1
  cases hg : l.source.group? <;> cases hg' : l.target.group? <;>
    simp [Link.joins, Vertex.joins, hgroup, hgroup', hg, hg']

/-- Filing ids under their groups and opening one group leaves the ids of that group. -/
theorem flatMap_filter_joins (groupOf? : String → Option String) (group : String)
    (ids : List String) :
    ((ids.filterMap fun id => (groupOf? id).map fun g => (g, [id])).filter
        (·.1 = group)).flatMap Prod.snd =
      ids.filter fun id => groupOf? id = some group := by
  induction ids with
  | nil => rfl
  | cons id rest ih =>
      cases hg : groupOf? id with
      | none => simp [hg, ih]
      | some g => by_cases hgroup : g = group <;> simp [hg, hgroup, ih]

theorem joins_names (t : Template) :
    (t.links.flatMap Link.joins).map Prod.fst = t.encounters.filterMap t.groupOf? := by
  rw [joins_eq_filterMap, List.map_filterMap]
  simp [Function.comp_def]

theorem keys_statements_placeholders (t : Template) :
    t.statements.placeholders.keys = t.groups := by
  rw [groups, ← joins_names]
  exact OrderedMap.keys_alterAll _ _ .empty

/-- Each group holds its own arrivals; the groups stand in order of first encounter. -/
theorem statements_placeholders_values (t : Template) :
    t.statements.placeholders.values = t.groups.map t.arrivals := by
  have hget : ∀ group ∈ t.groups,
      t.statements.placeholders.get? group = some (t.arrivals group) := by
    intro group hgroup
    have hmem : group ∈ (t.links.flatMap Link.joins).map Prod.fst := by
      rw [joins_names]
      exact List.mem_eraseDups.1 hgroup
    -- only the writes to this group count, and each of them adds one arrival
    refine (OrderedMap.get?_alterAll_append hmem).trans (congrArg some ?_)
    rw [joins_eq_filterMap]
    exact flatMap_filter_joins t.groupOf? group t.encounters
  rw [OrderedMap.values_eq_filterMap_get?, keys_statements_placeholders, List.filterMap_congr hget,
    ← List.filterMap_eq_map']

theorem groupConstraint?_eq_some_iff {ids : List String} {c : Constraint} :
    Statements.groupConstraint? ids = some c ↔
      ∃ first second rest, ids = first :: second :: rest ∧ c = .sameLabels first second := by
  constructor
  · intro h
    match ids, h with
    | first :: second :: rest, h => exact ⟨first, second, rest, rfl, (Option.some.inj h).symm⟩
  · rintro ⟨first, second, rest, rfl, rfl⟩
    rfl

/-- The constraints of a compiled query: those of the edges in turn, then one for each placeholder
group with two arrivals. -/
theorem query_constraints (t : Template) :
    t.plan.query.constraints = gather Link.constraints {} t.links ++
      t.groups.filterMap fun group => Statements.groupConstraint? (t.arrivals group) := by
  rw [plan_query, Statements.query, Statements.placeholderConstraints,
    statements_placeholders_values, List.filterMap_map]
  rfl

/-- Each constraint of a compiled query comes from a missing edge, from a condition, or from a group
with two arrivals. -/
theorem mem_query_constraints {t : Template} {c : Constraint} :
    c ∈ t.plan.query.constraints ↔
      (∃ before e after, t.edges = before ++ e :: after ∧ e.missing = true ∧
        c = .absence (pathName (before.countP (fun e => !e.missing) - 1)) e.target) ∨
      (∃ before e after value, t.edges = before ++ e :: after ∧ e.condition = some value ∧
        c = .condition (relationName before.length) value) ∨
      ∃ group first second rest, t.arrivals group = first :: second :: rest ∧
        c = .sameLabels first second := by
  rw [query_constraints, List.mem_append, mem_gather_constraints, List.mem_filterMap]
  constructor
  · rintro (⟨before, e, after, hedges, ⟨hmissing, hc⟩ | ⟨value, hcondition, hc⟩⟩ |
      ⟨group, _, hgroup⟩)
    · exact Or.inl ⟨before, e, after, hedges, hmissing, hc⟩
    · exact Or.inr (Or.inl ⟨before, e, after, value, hedges, hcondition, hc⟩)
    · exact Or.inr (Or.inr ⟨group, groupConstraint?_eq_some_iff.1 hgroup⟩)
  · rintro (⟨before, e, after, hedges, hmissing, hc⟩ |
      ⟨before, e, after, value, hedges, hcondition, hc⟩ |
      ⟨group, first, second, rest, harrivals, hc⟩)
    · exact Or.inl ⟨before, e, after, hedges, Or.inl ⟨hmissing, hc⟩⟩
    · exact Or.inl ⟨before, e, after, hedges, Or.inr ⟨value, hcondition, hc⟩⟩
    · have hfirst : first ∈ t.arrivals group := by
        rw [harrivals]
        exact List.mem_cons_self
      exact Or.inr ⟨group, mem_groups_of_mem_arrivals hfirst,
        groupConstraint?_eq_some_iff.2 ⟨first, second, rest, harrivals, hc⟩⟩

theorem compiled_of_mem_constraints {t : Template} {c : Constraint}
    (hc : c ∈ t.plan.query.constraints) : c.Compiled := by
  rcases mem_query_constraints.1 hc with ⟨before, e, after, hedges, _, rfl⟩ |
    ⟨before, e, after, value, _, _, rfl⟩ | ⟨group, first, second, rest, harrivals, rfl⟩
  · have he := mem_of_eq_append_cons hedges
    exact .absence _ (isIdentifier_of_mem_encounters (target_mem_encounters he))
  · exact .condition _ value
  · have hmembers : ∀ id ∈ t.arrivals group, isIdentifier id = true := fun id hid =>
      isIdentifier_of_mem_encounters (mem_arrivals.1 hid).1
    rw [harrivals] at hmembers
    exact .sameLabels (hmembers first (by simp)) (hmembers second (by simp))

end Template

end FlawQuery
