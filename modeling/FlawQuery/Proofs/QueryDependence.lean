/-
# FlawQuery.Proofs.QueryDependence -- what the queries of a template depend on

A query cannot express all that a template holds. It has no place for the bounds of a missing edge, it
never names a placeholder group, and it knows a vertex only from the edges that touch it. So templates
that agree on the rest must compile to the same text. The two passes are compared part by part: the
edges enter every part through `Edge.expressed`, which forgets the bounds of a missing edge, and the
groups enter through the classes into which they divide the touched placeholders, in order of first
encounter. Both maps of groups have their own keys; that they list the same classes is
`classes_congr`.
-/

import FlawQuery.Proofs.EdgeLines
import FlawQuery.Proofs.MissingTargets

namespace FlawQuery

/-! ## Edges -/

namespace Edge

/-- The edges agree on all that a query can express: the bounds count for a present edge only. -/
@[mk_iff]
structure Alike (e d : Edge) : Prop where
  source : e.source = d.source
  target : e.target = d.target
  missing : e.missing = d.missing
  condition : e.condition = d.condition
  bounds : e.missing = false → e.lower = d.lower ∧ e.upper = d.upper

instance (e d : Edge) : Decidable (e.Alike d) := decidable_of_iff' _ (alike_iff e d)

/-- What a query can express of an edge: a missing edge loses its bounds. -/
def expressed (e : Edge) : Edge := if e.missing then e.withBounds 1 (.bounded 1) else e

@[simp] theorem source_expressed (e : Edge) : e.expressed.source = e.source := by
  unfold expressed
  split <;> rfl

@[simp] theorem target_expressed (e : Edge) : e.expressed.target = e.target := by
  unfold expressed
  split <;> rfl

@[simp] theorem missing_expressed (e : Edge) : e.expressed.missing = e.missing := by
  unfold expressed
  split <;> rfl

@[simp] theorem condition_expressed (e : Edge) : e.expressed.condition = e.condition := by
  unfold expressed
  split <;> rfl

theorem expressed_of_present {e : Edge} (h : e.missing = false) : e.expressed = e := by
  rw [expressed, h]
  rfl

/-- A query expresses the same of edges that are alike. -/
theorem Alike.expressed_eq {e d : Edge} (h : e.Alike d) : e.expressed = d.expressed := by
  obtain ⟨source, target, lower, upper, missing, condition⟩ := e
  obtain ⟨source', target', lower', upper', missing', condition'⟩ := d
  obtain ⟨rfl, rfl, rfl, rfl, hbounds⟩ := h
  cases missing with
  | true => rfl
  | false =>
      obtain ⟨rfl, rfl⟩ := hbounds rfl
      rfl

theorem Alike.refl (e : Edge) : e.Alike e :=
  ⟨rfl, rfl, rfl, rfl, fun _ => ⟨rfl, rfl⟩⟩

@[simp] theorem meets_expressed (e : Edge) (id : String) : e.expressed.meets id = e.meets id := by
  simp [meets]

theorem presentMatches_expressed (e : Edge) : e.expressed.presentMatches = e.presentMatches := by
  cases hmissing : e.missing with
  | false => rw [expressed_of_present hmissing]
  | true =>
      funext present position
      simp [presentMatches, hmissing]

theorem constraints_expressed (e : Edge) : e.expressed.constraints = e.constraints := by
  funext present position
  simp [constraints]

end Edge

/-! ## Vertices -/

/-- The vertices agree on all that a query can express: the variant of a placeholder only names its
group. -/
@[mk_iff]
structure Vertex.Alike (v w : Vertex) : Prop where
  kind : v.kind = w.kind
  placeholder : v.placeholder = w.placeholder
  variant : v.placeholder = false → v.variant = w.variant

instance (v w : Vertex) : Decidable (v.Alike w) := decidable_of_iff' _ (Vertex.alike_iff v w)

theorem Vertex.Alike.ofVertex_eq {v w : Vertex} (h : v.Alike w) (hid : v.id = w.id) :
    NodePattern.ofVertex v = .ofVertex w := by
  obtain ⟨id, kind, variant, placeholder⟩ := v
  obtain ⟨id', kind', variant', placeholder'⟩ := w
  obtain ⟨hkind, hplaceholder, hvariant⟩ := h
  cases hid
  cases hkind
  cases hplaceholder
  cases placeholder with
  | true => rfl
  | false =>
      cases hvariant rfl
      rfl

theorem Vertex.isSome_group? (v : Vertex) : v.group?.isSome = v.placeholder := by
  rw [group?]
  cases v.placeholder <;> rfl

/-- Placeholders share a group if they name the same one, other vertices have none. -/
theorem Vertex.group?_eq_iff {v v' : Vertex} : v.group? = v'.group? ↔
    v.placeholder = v'.placeholder ∧ (v.placeholder = true → v.variant = v'.variant) := by
  rw [group?, group?]
  cases v.placeholder <;> cases v'.placeholder <;> simp

/-- A vertex with its group renamed, if it has one. -/
def Vertex.renameGroup (rename : String → String) (v : Vertex) : Vertex :=
  if v.placeholder then { v with variant := rename v.variant } else v

@[simp] theorem Vertex.id_renameGroup (rename : String → String) (v : Vertex) :
    (v.renameGroup rename).id = v.id := by
  unfold renameGroup
  split <;> rfl

theorem Vertex.variant_renameGroup {rename : String → String} {v : Vertex}
    (h : v.placeholder = true) : (v.renameGroup rename).variant = rename v.variant := by
  rw [renameGroup, if_pos h]

theorem Vertex.alike_renameGroup (rename : String → String) (v : Vertex) :
    v.Alike (v.renameGroup rename) := by
  unfold renameGroup
  cases hplaceholder : v.placeholder with
  | false => exact ⟨rfl, rfl, fun _ => rfl⟩
  | true => exact ⟨rfl, hplaceholder, fun h => by rw [hplaceholder] at h; cases h⟩

/-! ## Classes -/

/-- The ids that have a key, divided by their keys, in order of first encounter. -/
def classes (key? : String → Option String) (ids : List String) : List (List String) :=
  (ids.filterMap key?).eraseDups.map fun key => ids.filter fun id => key? id = some key

section

variable {key? other? : String → Option String} {id key : String}

theorem classes_cons_of_none (ids : List String) (h : key? id = none) :
    classes key? (id :: ids) = classes key? ids := by
  simp [classes, h]

/-- The first class is that of the first id; the others divide what it leaves. -/
theorem classes_cons_of_some (ids : List String) (h : key? id = some key) :
    classes key? (id :: ids) = (id :: ids.filter fun a => key? a = some key) ::
      classes key? (ids.filter fun a => key? a ≠ some key) := by
  have hkeys : (ids.filter fun a => key? a ≠ some key).filterMap key? =
      (ids.filterMap key?).filter fun k => !k == key := by
    rw [List.filterMap_filter, List.filter_filterMap]
    apply List.filterMap_congr
    intro a _
    cases hk : key? a with
    | none => rfl
    | some k => by_cases hkk : k = key <;> simp [hkk, Option.filter]
  have hclass : ∀ k ∈ ((ids.filterMap key?).filter fun k => !k == key).eraseDups,
      ((id :: ids).filter fun a => key? a = some k) =
        (ids.filter fun a => key? a ≠ some key).filter fun a => key? a = some k := by
    intro k hk
    have hne : k ≠ key := by simpa using (List.mem_filter.1 (List.mem_eraseDups.1 hk)).2
    have hid : ¬ key? id = some k := by simpa [h] using hne.symm
    rw [List.filter_cons_of_neg (by simpa using hid), List.filter_filter]
    apply List.filter_congr
    intro a _
    by_cases ha : key? a = some k <;> simp [ha, hne]
  rw [classes, List.filterMap_cons_some h, List.eraseDups_cons, List.map_cons,
    List.map_congr_left hclass, classes, hkeys, List.filter_cons_of_pos (by simpa using h)]

/-- Which ids have a key and which of them share one decides the classes; the keys themselves are of
no account. -/
theorem classes_congr {ids : List String}
    (hsome : ∀ a ∈ ids, (key? a).isSome = (other? a).isSome)
    (hshare : ∀ a ∈ ids, ∀ b ∈ ids, key? a = key? b ↔ other? a = other? b) :
    classes key? ids = classes other? ids := by
  induction hlength : ids.length using Nat.strongRecOn generalizing ids with
  | _ n ih =>
    cases ids with
    | nil => rfl
    | cons id rest =>
        have hrest : ∀ l, l.Sublist rest → classes key? l = classes other? l := by
          intro l hl
          have hmem : ∀ a ∈ l, a ∈ id :: rest := fun a ha => List.mem_cons_of_mem _ (hl.subset ha)
          refine ih l.length ?_ (fun a ha => hsome a (hmem a ha))
            (fun a ha b hb => hshare a (hmem a ha) b (hmem b hb)) rfl
          rw [← hlength, List.length_cons]
          exact Nat.lt_succ_of_le hl.length_le
        have hfirst := hsome id List.mem_cons_self
        cases hkey : key? id with
        | none =>
            have hother : other? id = none := by simpa [hkey] using hfirst.symm
            rw [classes_cons_of_none _ hkey, classes_cons_of_none _ hother]
            exact hrest rest (List.Sublist.refl rest)
        | some key =>
            obtain ⟨key', hother⟩ : ∃ key', other? id = some key' := by
              rw [hkey, Option.isSome_some] at hfirst
              exact Option.isSome_iff_exists.1 hfirst.symm
            -- the class of `id` is the same on both sides, hence so is what it leaves
            have hclass : ∀ a ∈ rest, (key? a = some key ↔ other? a = some key') := by
              intro a ha
              rw [← hkey, ← hother]
              exact hshare a (List.mem_cons_of_mem _ ha) id List.mem_cons_self
            have hin : (rest.filter fun a => key? a = some key) =
                rest.filter fun a => other? a = some key' :=
              List.filter_congr fun a ha => decide_eq_decide.2 (hclass a ha)
            have hout : (rest.filter fun a => key? a ≠ some key) =
                rest.filter fun a => other? a ≠ some key' :=
              List.filter_congr fun a ha => decide_eq_decide.2 (not_congr (hclass a ha))
            rw [classes_cons_of_some _ hkey, classes_cons_of_some _ hother, hin,
              hrest _ List.filter_sublist, hout]

end

namespace Template

/-- The templates agree on all that a query can express: their edges in turn, the vertices that edges
touch, and which touched placeholders share a group. -/
structure Alike (t u : Template) : Prop where
  edges : List.Forall₂ Edge.Alike t.edges u.edges
  vertices : ∀ v ∈ t.touched, ∀ w ∈ u.touched, v.id = w.id → v.Alike w
  groups : ∀ v ∈ t.touched, ∀ v' ∈ t.touched, ∀ w ∈ u.touched, ∀ w' ∈ u.touched,
    v.id = w.id → v'.id = w'.id → v.placeholder = true → v'.placeholder = true →
      (v.variant = v'.variant ↔ w.variant = w'.variant)

/-! ## Edges in the parts of a query -/

theorem encounters_eq_expressed (t : Template) :
    t.encounters = (t.edges.map Edge.expressed).flatMap fun e => [e.source, e.target] := by
  simp [encounters, List.flatMap_map]

theorem presentCount_eq_expressed (t : Template) :
    t.presentCount = (t.edges.map Edge.expressed).countP fun e => !e.missing := by
  simp [presentCount, List.countP_map, Function.comp_def]

theorem hasMissing_eq_expressed (t : Template) :
    t.hasMissing = (t.edges.map Edge.expressed).any Edge.missing := by
  simp [hasMissing, List.any_map, Function.comp_def]

theorem isMissingTarget_eq_expressed (t : Template) (id : String) :
    t.isMissingTarget id =
      (t.edges.map Edge.expressed).any fun e => e.missing && e.target = id := by
  simp [isMissingTarget, List.any_map, Function.comp_def]

theorem endsOptional_eq_expressed (t : Template) (id : String) :
    t.endsOptional id = ((t.edges.map Edge.expressed).reverse.find? (·.meets id)).any
      fun e => e.missing && e.target = id := by
  rw [endsOptional, ← List.map_reverse, List.find?_map, Option.any_map]
  show _ = (t.edges.reverse.find? fun e => e.expressed.meets id).any
    fun e => e.expressed.missing && e.expressed.target = id
  simp

theorem byPosition_expressed {α : Type} {g : Edge → Nat → Nat → List α}
    (hg : ∀ e, g e.expressed = g e) (edges : List Edge) :
    byPosition g edges = byPosition g (edges.map Edge.expressed) := by
  simp [byPosition, List.zipIdx_map, List.flatMap_map, ← List.map_take, List.countP_map,
    Function.comp_def, hg]

/-! ## Vertices and groups in the parts of a query -/

theorem query_constraints_eq_classes (t : Template) :
    t.plan.query.constraints = byPosition Edge.constraints t.edges ++
      (classes t.groupOf? t.encounters).filterMap Statements.groupConstraint? := by
  rw [query_constraints, gather_constraints, classes, List.filterMap_map]
  rfl

namespace Alike

variable {t u : Template}

theorem expressed_eq (h : t.Alike u) :
    t.edges.map Edge.expressed = u.edges.map Edge.expressed := by
  rw [← List.forall₂_eq_eq_eq, List.forall₂_map_left_iff, List.forall₂_map_right_iff]
  exact h.edges.imp fun _ _ halike => halike.expressed_eq

theorem encounters_eq (h : t.Alike u) : t.encounters = u.encounters := by
  rw [encounters_eq_expressed, h.expressed_eq, ← encounters_eq_expressed]

theorem byPosition_eq (h : t.Alike u) {α : Type} {g : Edge → Nat → Nat → List α}
    (hg : ∀ e, g e.expressed = g e) : byPosition g t.edges = byPosition g u.edges := by
  rw [byPosition_expressed hg, h.expressed_eq, ← byPosition_expressed hg]

theorem patterns_eq (h : t.Alike u) :
    t.touched.map NodePattern.ofVertex = u.touched.map .ofVertex := by
  rw [touched, touched, ← h.encounters_eq, List.map_filterMap, List.map_filterMap]
  apply List.filterMap_congr
  intro id hid
  have hencounter := List.mem_eraseDups.1 hid
  obtain ⟨v, hv, rfl⟩ := exists_touched hencounter
  obtain ⟨w, hw, hwv⟩ := exists_touched (h.encounters_eq ▸ hencounter)
  rw [vertex?_of_mem_vertices (mem_touched.1 hv).1, ← hwv,
    vertex?_of_mem_vertices (mem_touched.1 hw).1, Option.map_some, Option.map_some,
    (h.vertices v hv w hw hwv.symm).ofVertex_eq hwv.symm]

/-- The groups go by other names, but they hold the same arrivals and come in the same order. -/
theorem classes_eq (h : t.Alike u) :
    classes t.groupOf? t.encounters = classes u.groupOf? u.encounters := by
  have hpair : ∀ id ∈ t.encounters, ∃ v ∈ t.touched, ∃ w ∈ u.touched, v.id = id ∧ w.id = id ∧
      t.groupOf? id = v.group? ∧ u.groupOf? id = w.group? := by
    intro id hid
    obtain ⟨v, hv, rfl⟩ := exists_touched hid
    obtain ⟨w, hw, hwv⟩ := exists_touched (h.encounters_eq ▸ hid)
    exact ⟨v, hv, w, hw, rfl, hwv, groupOf?_of_mem_vertices (mem_touched.1 hv).1,
      hwv ▸ groupOf?_of_mem_vertices (mem_touched.1 hw).1⟩
  rw [← h.encounters_eq]
  apply classes_congr
  · intro id hid
    obtain ⟨v, hv, w, hw, hvid, hwid, hgroup, hgroup'⟩ := hpair id hid
    rw [hgroup, hgroup', Vertex.isSome_group?, Vertex.isSome_group?]
    exact (h.vertices v hv w hw (hvid.trans hwid.symm)).placeholder
  · intro id hid id' hid'
    obtain ⟨v, hv, w, hw, hvid, hwid, hgroup, hgroup'⟩ := hpair id hid
    obtain ⟨v', hv', w', hw', hvid', hwid', hother, hother'⟩ := hpair id' hid'
    have hvw := hvid.trans hwid.symm
    have hvw' := hvid'.trans hwid'.symm
    have hflag := (h.vertices v hv w hw hvw).placeholder
    have hflag' := (h.vertices v' hv' w' hw' hvw').placeholder
    rw [hgroup, hgroup', hother, hother', Vertex.group?_eq_iff, Vertex.group?_eq_iff, ← hflag,
      ← hflag']
    refine and_congr_right fun hsame => imp_congr_right fun hplaceholder => ?_
    exact h.groups v hv v' hv' w hw w' hw' hvw hvw' hplaceholder (hsame ▸ hplaceholder)

theorem existence_eq (h : t.Alike u) : t.plan.existence = u.plan.existence := by
  have htarget : t.isMissingTarget = u.isMissingTarget := by
    funext id
    rw [isMissingTarget_eq_expressed, h.expressed_eq, ← isMissingTarget_eq_expressed]
  have htargets : t.missingTargets.map NodePattern.ofVertex = u.missingTargets.map .ofVertex := by
    rw [missingTargets, missingTargets, filter_touched_map_ofVertex, filter_touched_map_ofVertex,
      h.patterns_eq, htarget]
  rw [plan_existence, plan_existence, htargets, hasMissing_eq_expressed, h.expressed_eq,
    ← hasMissing_eq_expressed]

theorem query_eq (h : t.Alike u) : t.plan.query = u.plan.query := by
  have hends : t.endsOptional = u.endsOptional := by
    funext id
    rw [endsOptional_eq_expressed, h.expressed_eq, ← endsOptional_eq_expressed]
  have hpatterns : ∀ p : String → Bool,
      (t.touched.filter fun v => p v.id).map NodePattern.ofVertex =
        (u.touched.filter fun v => p v.id).map .ofVertex := by
    intro p
    rw [filter_touched_map_ofVertex, filter_touched_map_ofVertex, h.patterns_eq]
  have hmandatory : t.plan.query.mandatory = u.plan.query.mandatory := by
    rw [query_mandatory, query_mandatory, hends]
    exact hpatterns fun id => !u.endsOptional id
  have hoptional : t.plan.query.optional = u.plan.query.optional := by
    rw [query_optional, query_optional, hends]
    exact hpatterns u.endsOptional
  have hedges : t.plan.query.edges = u.plan.query.edges := by
    rw [query_edges_eq_byPosition, query_edges_eq_byPosition,
      h.byPosition_eq Edge.presentMatches_expressed]
  have hconstraints : t.plan.query.constraints = u.plan.query.constraints := by
    rw [query_constraints_eq_classes, query_constraints_eq_classes,
      h.byPosition_eq Edge.constraints_expressed, h.classes_eq]
  have hreturned : t.plan.query.returned = u.plan.query.returned := by
    rw [query_returned, query_returned, pathNames, pathNames, presentCount_eq_expressed,
      h.expressed_eq, ← presentCount_eq_expressed]
  calc t.plan.query
      = ⟨t.plan.query.mandatory, t.plan.query.edges, t.plan.query.optional,
          t.plan.query.constraints, t.plan.query.returned⟩ := rfl
    _ = u.plan.query := by rw [hmandatory, hedges, hoptional, hconstraints, hreturned]

theorem compile_eq (h : t.Alike u) : t.compile = u.compile := by
  rw [compile, compile, Plan.text, Plan.text, h.existence_eq, h.query_eq]

end Alike

/-! ## What has no influence -/

section

variable {t u : Template}

theorem eq_of_mem_touched {v w : Vertex} (hv : v ∈ t.vertices) (hw : w ∈ t.touched)
    (hid : v.id = w.id) : v = w :=
  List.inj_on_of_nodup_map t.nodup_ids hv (mem_touched.1 hw).1 hid

theorem variant_mem_groups {v : Vertex} (hv : v ∈ t.touched) (hplaceholder : v.placeholder = true) :
    v.variant ∈ t.groups := by
  obtain ⟨hmem, hid⟩ := mem_touched.1 hv
  refine mem_groups_of_mem_arrivals (mem_arrivals.2 ⟨hid, ?_⟩)
  rw [groupOf?_of_mem_vertices hmem, Vertex.group?, if_pos hplaceholder]

/-- Neither the order of the vertices nor a vertex that no edge touches can be told from the queries,
and no bounds of a missing edge. -/
theorem alike_of_touched_subset (hedges : List.Forall₂ Edge.Alike t.edges u.edges)
    (hvertices : ∀ v ∈ t.touched, v ∈ u.vertices) : t.Alike u where
  edges := hedges
  vertices := by
    intro v hv w hw hid
    obtain rfl := eq_of_mem_touched (hvertices v hv) hw hid
    exact ⟨rfl, rfl, fun _ => rfl⟩
  groups := by
    intro v hv v' hv' w hw w' hw' hid hid' _ _
    obtain rfl := eq_of_mem_touched (hvertices v hv) hw hid
    obtain rfl := eq_of_mem_touched (hvertices v' hv') hw' hid'
    exact Iff.rfl

/-- Names of groups that stay apart are as good as any other. -/
theorem alike_of_renameGroup {rename : String → String}
    (hrename : ∀ g ∈ t.groups, ∀ g' ∈ t.groups, rename g = rename g' → g = g')
    (hedges : t.edges = u.edges) (hvertices : u.vertices = t.vertices.map (·.renameGroup rename)) :
    t.Alike u := by
  have hrenamed : ∀ v ∈ t.touched, ∀ w ∈ u.touched, v.id = w.id → w = v.renameGroup rename := by
    intro v hv w hw hid
    have hw' := (mem_touched.1 hw).1
    rw [hvertices] at hw'
    obtain ⟨original, horiginal, rfl⟩ := List.mem_map.1 hw'
    rw [eq_of_mem_touched horiginal hv (by simpa using hid.symm)]
  refine ⟨hedges ▸ List.forall₂_same.2 fun e _ => .refl e, ?_, ?_⟩
  · intro v hv w hw hid
    rw [hrenamed v hv w hw hid]
    exact v.alike_renameGroup rename
  · intro v hv v' hv' w hw w' hw' hid hid' hplaceholder hplaceholder'
    rw [hrenamed v hv w hw hid, hrenamed v' hv' w' hw' hid',
      Vertex.variant_renameGroup hplaceholder, Vertex.variant_renameGroup hplaceholder']
    exact ⟨congrArg rename, hrename _ (variant_mem_groups hv hplaceholder) _
      (variant_mem_groups hv' hplaceholder')⟩

end

/-- The queries of a template depend on its edges in turn, without the bounds of missing ones, on the
vertices that edges touch, and on which touched placeholders share a group. So the queries stay the
same if the vertices are listed in another order, vertices that no edge touches come or go, missing
edges get other bounds, or groups get other names that keep them apart. -/
theorem compile_eq_of_alike (t u : Template) :
    (t.Alike u → t.compile = u.compile) ∧
    (List.Forall₂ Edge.Alike t.edges u.edges → (∀ v ∈ t.touched, v ∈ u.vertices) →
      t.compile = u.compile) ∧
    ∀ rename : String → String,
      (∀ g ∈ t.groups, ∀ g' ∈ t.groups, rename g = rename g' → g = g') → t.edges = u.edges →
        u.vertices = t.vertices.map (·.renameGroup rename) → t.compile = u.compile := by
  refine ⟨fun h => h.compile_eq, fun hedges hvertices => ?_, fun rename hrename hedges hvertices => ?_⟩
  · exact (alike_of_touched_subset hedges hvertices).compile_eq
  · exact (alike_of_renameGroup hrename hedges hvertices).compile_eq

/-- `interleaved` with its vertices in another order and one more, its group renamed, and its missing
edges without bounds. -/
def interleavedLoose : Template where
  vertices := interleavedRenamed.vertices
  edges := interleaved.edges.map fun e => if e.missing then e.withBounds 0 .unbounded else e
  accepted := by decide +kernel

theorem compile_eq_of_alike_interleavedLoose :
    (interleaved.Alike interleavedLoose ∧ interleaved.vertices ≠ interleavedLoose.vertices ∧
      interleaved.edges ≠ interleavedLoose.edges ∧
      interleaved.compile = interleavedLoose.compile) ∧
    (List.Forall₂ Edge.Alike interleavedRenamed.edges interleavedLoose.edges ∧
      (∀ v ∈ interleavedRenamed.touched, v ∈ interleavedLoose.vertices) ∧
      interleavedRenamed.compile = interleavedLoose.compile) ∧
    ∃ u : Template, u.edges = interleaved.edges ∧
      u.vertices = interleaved.vertices.map (·.renameGroup ("G" ++ ·)) ∧
      interleaved.compile = u.compile := by
  have halike : interleaved.Alike interleavedLoose :=
    ⟨by decide +kernel, by decide +kernel, by decide +kernel⟩
  have hedges : List.Forall₂ Edge.Alike interleavedRenamed.edges interleavedLoose.edges := by
    decide +kernel
  have htouched : ∀ v ∈ interleavedRenamed.touched, v ∈ interleavedLoose.vertices := by
    decide +kernel
  refine ⟨⟨halike, by decide +kernel, by decide +kernel, (compile_eq_of_alike _ _).1 halike⟩,
    ⟨hedges, htouched, (compile_eq_of_alike _ _).2.1 hedges htouched⟩,
    ⟨interleaved.vertices.map (·.renameGroup ("G" ++ ·)), interleaved.edges, by decide +kernel⟩,
    rfl, rfl, ?_⟩
  exact (compile_eq_of_alike _ _).2.2 ("G" ++ ·) (by decide +kernel) rfl rfl

end Template

end FlawQuery
