/-
# FlawQuery.Proofs.NameScope -- which names a compiled query binds, and which it mentions

A match line binds names, the `WHERE` clause and the return line mention them. Both sides are known
exactly. A query mentions an unbound name only where a missing edge has a condition, whose
relationship is never matched; and it binds a name twice only where an endpoint of the template
bears one of the names that the compiler makes up.
-/

import FlawQuery.Proofs.CompiledParts
import Mathlib.Data.List.Nodup

namespace FlawQuery

/-- A name of a query, by what it stands for. -/
inductive QueryName where
  | vertex (id : String)
  | path (name : String)
  | relation (name : String)
  deriving DecidableEq, Repr

/-- The names that a constraint speaks of. The quantified name of an absence is its own. -/
def Constraint.mentions : Constraint → List QueryName
  | absence path vertex => [.path path, .vertex vertex]
  | condition relation _ => [.relation relation]
  | sameLabels first second => [.vertex first, .vertex second]
  | verbatim _ => []

namespace Query

/-- The names in the `WHERE` clause and the return line. -/
def mentions (q : Query) : List QueryName :=
  q.constraints.flatMap Constraint.mentions ++ q.returned.map .path

/-- The names that the match lines bind. -/
def binds (q : Query) : List QueryName :=
  q.vertexMatches.map (fun m => .vertex m.node.name) ++ q.edges.map (fun m => .path m.path) ++
    q.edges.map fun m => .relation m.relationship.name

/-- Every name that the query mentions is bound by one of its match lines. -/
def Closed (q : Query) : Prop := ∀ n ∈ q.mentions, n ∈ q.binds

instance (q : Query) : Decidable q.Closed :=
  inferInstanceAs (Decidable (∀ n ∈ q.mentions, n ∈ q.binds))

/-- The bound names as they are written: vertices, paths, relationships. -/
def boundNames (q : Query) : List String :=
  q.vertexMatches.map (·.node.name) ++
    (q.edges.map EdgeMatch.path ++ q.edges.map (·.relationship.name))

end Query

namespace Template

/-! ## What is bound -/

theorem mem_relationNames {t : Template} {i : Nat} :
    relationName i ∈ t.relationNames ↔ ∃ e, t.edges[i]? = some e ∧ e.missing = false := by
  simp only [relationNames, List.mem_map, List.mem_filter, Prod.exists,
    List.mem_zipIdx_iff_getElem?, Bool.not_eq_true']
  constructor
  · rintro ⟨e, j, ⟨he, hpresent⟩, hname⟩
    obtain rfl := relationName_injective hname
    exact ⟨e, he, hpresent⟩
  · rintro ⟨e, he, hpresent⟩
    exact ⟨e, i, ⟨he, hpresent⟩, rfl⟩

theorem mem_pathNames {t : Template} {k : Nat} :
    pathName k ∈ t.pathNames ↔ k < t.presentCount := by
  simp only [pathNames, List.mem_map, List.mem_range]
  constructor
  · rintro ⟨j, hj, hname⟩
    exact pathName_injective hname ▸ hj
  · exact fun hk => ⟨k, hk, rfl⟩

theorem vertex_mem_binds {t : Template} {id : String} :
    .vertex id ∈ t.plan.query.binds ↔ id ∈ t.encounters := by
  rw [← mem_vertexMatches_names]
  simp [Query.binds]

theorem path_mem_binds {t : Template} {name : String} :
    .path name ∈ t.plan.query.binds ↔ name ∈ t.pathNames := by
  simp [Query.binds, ← t.query_paths]

theorem relation_mem_binds {t : Template} {name : String} :
    .relation name ∈ t.plan.query.binds ↔ name ∈ t.relationNames := by
  simp [Query.binds, ← t.query_relations]

/-! ## What is mentioned -/

/-- The path from which a missing edge's target must be absent is one of the matched paths. -/
theorem lastPath_lt_presentCount {t : Template} {before after : List Edge} {e : Edge}
    (h : t.edges = before ++ e :: after) (hmissing : e.missing = true) :
    before.countP (fun e => !e.missing) - 1 < t.presentCount := by
  obtain ⟨_, _, _, hanchor⟩ := t.edge_spec h
  obtain ⟨anchor, hmem, hpresent⟩ := hanchor hmissing
  -- the anchor of the missing edge has taken a path name already
  have hpos : 0 < before.countP fun e => !e.missing :=
    List.countP_pos_iff.2 ⟨anchor, hmem, by simp [hpresent]⟩
  have hle : before.countP (fun e => !e.missing) ≤ t.presentCount := by
    rw [presentCount, h, List.countP_append]
    omega
  omega

/-- A compiled query mentions endpoints of edges, matched paths, and the relationship of each edge
with a condition. -/
theorem mem_mentions {t : Template} {n : QueryName} (h : n ∈ t.plan.query.mentions) :
    (∃ id ∈ t.encounters, n = .vertex id) ∨ (∃ name ∈ t.pathNames, n = .path name) ∨
      ∃ i e value, t.edges[i]? = some e ∧ e.condition = some value ∧
        n = .relation (relationName i) := by
  rcases List.mem_append.1 h with h | h
  · obtain ⟨c, hc, hn⟩ := List.mem_flatMap.1 h
    rcases mem_query_constraints.1 hc with ⟨before, e, after, hedges, hmissing, rfl⟩ |
      ⟨before, e, after, value, hedges, hcondition, rfl⟩ |
      ⟨group, first, second, rest, harrivals, rfl⟩
    · simp only [Constraint.mentions, List.mem_cons, List.not_mem_nil, or_false] at hn
      rcases hn with rfl | rfl
      · have hlt := lastPath_lt_presentCount hedges hmissing
        exact Or.inr (Or.inl ⟨_, mem_pathNames.2 hlt, rfl⟩)
      · exact Or.inl ⟨_, target_mem_encounters (mem_of_eq_append_cons hedges), rfl⟩
    · obtain rfl := List.mem_singleton.1 hn
      have he : t.edges[before.length]? = some e :=
        getElem?_eq_some_iff_split.2 ⟨before, after, hedges, rfl⟩
      exact Or.inr (Or.inr ⟨before.length, e, value, he, hcondition, rfl⟩)
    · have hmem : ∀ id ∈ t.arrivals group, id ∈ t.encounters := fun id hid =>
        (mem_arrivals.1 hid).1
      rw [harrivals] at hmem
      simp only [Constraint.mentions, List.mem_cons, List.not_mem_nil, or_false] at hn
      rcases hn with rfl | rfl
      · exact Or.inl ⟨first, hmem first (by simp), rfl⟩
      · exact Or.inl ⟨second, hmem second (by simp), rfl⟩
  · obtain ⟨name, hname, rfl⟩ := List.mem_map.1 h
    rw [plan_query] at hname
    exact Or.inr (Or.inl ⟨name, hname, rfl⟩)

theorem relation_mem_mentions {t : Template} {i : Nat} {e : Edge} {value : String}
    (he : t.edges[i]? = some e) (hcondition : e.condition = some value) :
    .relation (relationName i) ∈ t.plan.query.mentions := by
  obtain ⟨before, after, hedges, rfl⟩ := getElem?_eq_some_iff_split.1 he
  have hc : .condition (relationName before.length) value ∈ t.plan.query.constraints :=
    mem_query_constraints.2 (Or.inr (Or.inl ⟨before, e, after, value, hedges, hcondition, rfl⟩))
  exact List.mem_append_left _ (List.mem_flatMap.2 ⟨_, hc, by simp [Constraint.mentions]⟩)

/-! ## Unbound names -/

/-- Only the relationship of a missing edge with a condition is mentioned and never bound. -/
theorem unbound_iff {t : Template} {n : QueryName} :
    (n ∈ t.plan.query.mentions ∧ n ∉ t.plan.query.binds) ↔
      ∃ i e, t.edges[i]? = some e ∧ e.missing = true ∧ e.condition ≠ none ∧
        n = .relation (relationName i) := by
  constructor
  · rintro ⟨hn, hfree⟩
    rcases mem_mentions hn with ⟨id, hid, rfl⟩ | ⟨name, hname, rfl⟩ |
      ⟨i, e, value, he, hcondition, rfl⟩
    · exact absurd (vertex_mem_binds.2 hid) hfree
    · exact absurd (path_mem_binds.2 hname) hfree
    · have hmissing : e.missing = true := by
        by_contra hpresent
        apply hfree
        rw [relation_mem_binds, mem_relationNames]
        exact ⟨e, he, Bool.of_not_eq_true hpresent⟩
      exact ⟨i, e, he, hmissing, by simp [hcondition], rfl⟩
  · rintro ⟨i, e, he, hmissing, hcondition, rfl⟩
    obtain ⟨value, hvalue⟩ := Option.ne_none_iff_exists'.1 hcondition
    refine ⟨relation_mem_mentions he hvalue, fun hbound => ?_⟩
    -- the name carries the position, so only the missing edge itself could bind it
    obtain ⟨e', he', hpresent⟩ := mem_relationNames.1 (relation_mem_binds.1 hbound)
    obtain rfl : e = e' := Option.some.inj (he.symm.trans he')
    rw [hmissing] at hpresent
    cases hpresent

/-- The compiler writes no constraint whose names are not listed. -/
theorem verbatim_not_mem_constraints (t : Template) (text : String) :
    .verbatim text ∉ t.plan.query.constraints := by
  intro h
  rcases mem_query_constraints.1 h with ⟨_, _, _, _, _, hc⟩ | ⟨_, _, _, _, _, _, hc⟩ |
    ⟨_, _, _, _, _, hc⟩
  · cases hc
  · cases hc
  · cases hc

/-- A compiled query mentions a name that it does not bind exactly where a missing edge has a
condition: nothing matches the relationship of that edge. So a query is closed exactly if no missing
edge has a condition. -/
theorem closed_iff_missing_unconditional (t : Template) :
    (∀ n, (n ∈ t.plan.query.mentions ∧ n ∉ t.plan.query.binds) ↔
      ∃ i e, t.edges[i]? = some e ∧ e.missing = true ∧ e.condition ≠ none ∧
        n = .relation (relationName i)) ∧
    (t.plan.query.Closed ↔ ∀ e ∈ t.edges, e.missing = true → e.condition = none) ∧
    ∀ text, .verbatim text ∉ t.plan.query.constraints := by
  refine ⟨fun n => unbound_iff, ?_, t.verbatim_not_mem_constraints⟩
  constructor
  · intro hclosed e he hmissing
    by_contra hcondition
    obtain ⟨i, he⟩ := List.mem_iff_getElem?.1 he
    obtain ⟨hn, hfree⟩ := unbound_iff.2 ⟨i, e, he, hmissing, hcondition, rfl⟩
    exact hfree (hclosed _ hn)
  · intro hnone n hn
    by_contra hfree
    obtain ⟨i, e, he, hmissing, hcondition, _⟩ := unbound_iff.1 ⟨hn, hfree⟩
    exact hcondition (hnone e (List.mem_of_getElem? he) hmissing)

/-- A connection that must be absent, and a condition on it. -/
def conditionOnMissing : Template where
  vertices := [
    { id := "a", kind := .activity }, { id := "b", kind := .activity },
    { id := "c", kind := .activity }]
  edges := [
    { source := "a", target := "b" },
    { source := "a", target := "c", missing := true, condition := some "x" }]
  accepted := by decide +kernel

/-- The condition speaks of a relationship that no line matches. -/
theorem not_closed_conditionOnMissing : ¬ conditionOnMissing.plan.query.Closed := by
  decide

/-! ## Names bound twice -/

theorem nodup_relationNames (t : Template) : t.relationNames.Nodup := by
  have hsub : ((t.edges.zipIdx.filter fun e => !e.1.missing).map Prod.snd).Sublist
      (List.range' 0 t.edges.length) := by
    rw [← List.zipIdx_map_snd]
    exact List.filter_sublist.map Prod.snd
  -- present edges keep their positions, and positions are distinct
  have hnodup := hsub.nodup List.nodup_range'
  rw [relationNames, ← Function.comp_def relationName Prod.snd, ← List.map_map]
  exact hnodup.map relationName_injective

theorem nodup_pathNames (t : Template) : t.pathNames.Nodup :=
  List.nodup_range.map pathName_injective

theorem nodup_vertexMatches_names (t : Template) :
    (t.plan.query.vertexMatches.map (·.node.name)).Nodup := by
  rw [t.vertexMatches_names_perm.nodup_iff, ← t.keys_statements_vertices]
  exact t.statements.vertices.nodup

/-- No made-up name is used twice: the letter tells paths from relationships. -/
theorem nodup_generated_names (t : Template) :
    (t.plan.query.edges.map EdgeMatch.path ++
      t.plan.query.edges.map (·.relationship.name)).Nodup := by
  rw [query_paths, query_relations, List.nodup_append]
  refine ⟨t.nodup_pathNames, t.nodup_relationNames, ?_⟩
  intro a ha b hb
  obtain ⟨m, _, rfl⟩ := List.mem_map.1 ha
  obtain ⟨e, _, rfl⟩ := List.mem_map.1 hb
  exact pathName_ne_relationName m e.2

/-- Matched vertices have distinct names, and so have matched paths and relationships. A compiled
query binds some name twice exactly if an endpoint of an edge bears a name that the query makes up
for a path or a relationship. -/
theorem boundNames_nodup_iff (t : Template) :
    (t.plan.query.vertexMatches.map (·.node.name)).Nodup ∧
    (t.plan.query.edges.map EdgeMatch.path ++
      t.plan.query.edges.map (·.relationship.name)).Nodup ∧
    (t.plan.query.boundNames.Nodup ↔
      ∀ id ∈ t.encounters, id ∉ t.pathNames ∧ id ∉ t.relationNames) := by
  refine ⟨t.nodup_vertexMatches_names, t.nodup_generated_names, ?_⟩
  -- each kind is without repetitions, so only an id and a made-up name can clash
  rw [Query.boundNames, List.nodup_append]
  constructor
  · rintro ⟨_, _, hdisjoint⟩ id hid
    have hne := hdisjoint id (mem_vertexMatches_names.2 hid)
    rw [query_paths, query_relations] at hne
    constructor
    · intro hpath
      exact hne id (List.mem_append_left _ hpath) rfl
    · intro hrelation
      exact hne id (List.mem_append_right _ hrelation) rfl
  · intro hfresh
    refine ⟨t.nodup_vertexMatches_names, t.nodup_generated_names, ?_⟩
    intro a ha b hb hab
    subst hab
    obtain ⟨hpath, hrelation⟩ := hfresh a (mem_vertexMatches_names.1 ha)
    rw [query_paths, query_relations, List.mem_append] at hb
    rcases hb with hb | hb
    · exact hpath hb
    · exact hrelation hb

/-- A vertex that bears the name of the first path. -/
def vertexNamedAsPath : Template where
  vertices := [{ id := "p0", kind := .activity }, { id := "b", kind := .activity }]
  edges := [{ source := "p0", target := "b" }]
  accepted := by decide +kernel

/-- The name `p0` is bound to a vertex and to a path. -/
theorem not_nodup_boundNames_vertexNamedAsPath :
    ¬ vertexNamedAsPath.plan.query.boundNames.Nodup := by
  decide

end Template

end FlawQuery
