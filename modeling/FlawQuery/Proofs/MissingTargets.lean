/-
# FlawQuery.Proofs.MissingTargets -- which vertices the existence query asks for

The existence query is put together from two sources: matches that are optional in the end, and
targets of missing edges. The first are among the second, for only a missing edge makes a match
optional, and it does so for its own target. So the query asks exactly for the targets of missing
edges, it is there exactly if some edge is missing, and whatever else decides the number of phases
from the missing edges agrees with it.
-/

import FlawQuery.Proofs.MatchedVertices
import FlawQuery.Report.Patterns

namespace FlawQuery

open Template (Link)

namespace Template

/-- Some missing edge enters the vertex with the given id. -/
def isMissingTarget (t : Template) (id : String) : Bool :=
  t.edges.any fun e => e.missing && e.target = id

/-- The vertices that missing edges enter, in order of first encounter. -/
def missingTargets (t : Template) : List Vertex :=
  t.touched.filter fun v => t.isMissingTarget v.id

theorem hasMissing_iff {t : Template} : t.hasMissing = true ↔ ∃ e ∈ t.edges, e.missing = true :=
  List.any_eq_true

theorem isMissingTarget_iff {t : Template} {id : String} :
    t.isMissingTarget id = true ↔ ∃ e ∈ t.edges, e.missing = true ∧ e.target = id := by
  simp [isMissingTarget]

/-! ## The two sources of the query -/

/-- Only a missing edge leaves a match optional, and only that of its target. -/
theorem isMissingTarget_of_endsOptional {t : Template} {id : String}
    (h : t.endsOptional id = true) : t.isMissingTarget id = true := by
  obtain ⟨before, e, after, hedges, hmissing, htarget, _⟩ := endsOptional_iff.1 h
  exact isMissingTarget_iff.2 ⟨e, mem_of_eq_append_cons hedges, hmissing, htarget⟩

theorem contains_absentTargets (t : Template) (id : String) :
    t.statements.absentTargets.contains id = t.isMissingTarget id := by
  have htargets : t.statements.absentTargets = t.links.flatMap Link.absentTargets :=
    List.nil_append _
  rw [Bool.eq_iff_iff, List.contains_iff_mem, htargets, List.mem_flatMap, isMissingTarget_iff]
  constructor
  · rintro ⟨l, hl, hid⟩
    unfold Link.absentTargets at hid
    cases hmissing : l.edge.missing with
    | false => simp [hmissing] at hid
    | true =>
        rw [hmissing, if_pos rfl, List.mem_singleton, (link_ids hl).2] at hid
        exact ⟨l.edge, (link_spec hl).1, hmissing, hid.symm⟩
  · rintro ⟨e, he, hmissing, rfl⟩
    obtain ⟨l, hl, rfl⟩ := exists_link he
    refine ⟨l, hl, ?_⟩
    rw [Link.absentTargets, if_pos hmissing, List.mem_singleton, (link_ids hl).2]

/-- Both sources together are the targets of missing edges, each once. -/
theorem statements_questionable (t : Template) :
    t.statements.questionable = t.missingTargets.map .ofVertex := by
  have hsources : ∀ v : Vertex, (t.endsOptional v.id || t.statements.absentTargets.contains v.id) =
      t.isMissingTarget v.id := by
    intro v
    rw [contains_absentTargets]
    cases hlast : t.endsOptional v.id with
    | false => rfl
    | true => rw [isMissingTarget_of_endsOptional hlast]; rfl
  rw [Statements.questionable, statements_vertices_entries, List.filter_map, List.map_map]
  exact congrArg (List.map _) (List.filter_congr fun v _ => hsources v)

/-! ## The presence of the query -/

theorem missingTargets_ne_nil_iff {t : Template} :
    t.missingTargets ≠ [] ↔ ∃ e ∈ t.edges, e.missing = true := by
  rw [missingTargets, ne_eq, List.filter_eq_nil_iff]
  constructor
  · intro h
    by_contra hnone
    refine h fun v _ hv => hnone ?_
    obtain ⟨e, he, hmissing, _⟩ := isMissingTarget_iff.1 hv
    exact ⟨e, he, hmissing⟩
  · rintro ⟨e, he, hmissing⟩ h
    -- the target of the missing edge is a touched vertex of the template
    obtain ⟨v, hv, hve⟩ := exists_touched (target_mem_encounters he)
    exact h v hv (isMissingTarget_iff.2 ⟨e, he, hmissing, hve.symm⟩)

theorem statements_existenceQuery? (t : Template) :
    t.statements.existenceQuery? =
      if t.hasMissing then some ⟨t.missingTargets.map .ofVertex⟩ else none := by
  rw [Statements.existenceQuery?, statements_questionable]
  cases htargets : t.missingTargets with
  | nil =>
      have hnone : ¬ t.hasMissing = true := fun h =>
        missingTargets_ne_nil_iff.2 (hasMissing_iff.1 h) htargets
      rw [if_neg hnone]
      rfl
  | cons v rest =>
      have hsome : t.hasMissing = true :=
        hasMissing_iff.2 (missingTargets_ne_nil_iff.1 (htargets ▸ List.cons_ne_nil v rest))
      rw [if_pos hsome]
      rfl

theorem plan_existence (t : Template) :
    t.plan.existence =
      if t.hasMissing then some ⟨t.missingTargets.map .ofVertex⟩ else none := by
  have hplan : t.plan.existence = if t.hasMissing then t.statements.existenceQuery? else none := by
    simp only [plan, compileLinks_eq]
    rfl
  rw [hplan, statements_existenceQuery?]
  cases t.hasMissing <;> rfl

theorem isSome_predecessor (t : Template) : t.compile.predecessor.isSome = t.hasMissing := by
  show (t.plan.existence.map ExistenceQuery.text).isSome = t.hasMissing
  rw [plan_existence]
  cases t.hasMissing <;> rfl

/-- The lines of the existence query, where there is one. -/
theorem linesOf_predecessor {t : Template} {text : String} (h : t.compile.predecessor = some text) :
    linesOf text = t.missingTargets.map (fun v => "OPTIONAL MATCH " ++ (NodePattern.ofVertex v).text) ++
      ["RETURN " ++ ",".intercalate (t.missingTargets.map Vertex.id)] := by
  obtain ⟨q, hq, rfl⟩ := Option.map_eq_some_iff.1 h
  obtain rfl : q = ⟨t.missingTargets.map .ofVertex⟩ := by
    have hplan := hq
    rw [plan_existence] at hplan
    split at hplan
    · exact (Option.some.inj hplan).symm
    · cases hplan
  rw [linesOf_existence_text hq, ExistenceQuery.lines, returnLine, map_name_ofVertex, List.map_map]
  rfl

/-! ## Phases -/

/-- A listing flags the entries whose templates compile to two queries. -/
theorem listing_twoPhase (c : Catalogue) :
    c.listing.rows.map (·.lookup "two_phase") =
      c.entries.map fun e => some (.flag e.template.compile.predecessor.isSome) := by
  rw [Catalogue.listing, List.map_map, List.map_map]
  apply List.map_congr_left
  intro e _
  rw [isSome_predecessor]
  rfl

theorem length_queries_eq_two_iff {t : Template} :
    t.queries.length = 2 ↔ t.compile.predecessor.isSome = true := by
  rw [queries, CompiledPattern.queries]
  cases t.compile.predecessor <;> simp

/-- A template compiles to an existence query and a full query, in this order, exactly if some edge
is missing, and a listing flags it then. The existence query has one optional match for each target
of a missing edge, in order of first encounter, and returns their variables in the same order; a
vertex whose match stays optional is one of them. Without a missing edge there is nothing to ask. -/
theorem predecessor_lists_missingTargets (t : Template) :
    (t.compile.predecessor.isSome = true ↔ ∃ e ∈ t.edges, e.missing = true) ∧
    (∀ (c : Catalogue) (i : Nat) (e : CatalogueEntry), c.entries[i]? = some e → e.template = t →
      c.listing.rows[i]?.map (·.lookup "two_phase") =
        some (some (.flag t.compile.predecessor.isSome))) ∧
    t.queries = t.compile.predecessor.toList ++ [t.compile.query] ∧
    (t.queries.length = 2 ↔ ∃ e ∈ t.edges, e.missing = true) ∧
    (∀ text, t.compile.predecessor = some text → linesOf text =
      t.missingTargets.map (fun v => "OPTIONAL MATCH " ++ (NodePattern.ofVertex v).text) ++
        ["RETURN " ++ ",".intercalate (t.missingTargets.map Vertex.id)]) ∧
    (∀ v ∈ t.missingTargets, v ∈ t.vertices) ∧
    t.missingTargets.map Vertex.id = t.encounters.eraseDups.filter t.isMissingTarget ∧
    (∀ id, t.isMissingTarget id = true ↔ ∃ e ∈ t.edges, e.missing = true ∧ e.target = id) ∧
    (∀ m ∈ (compileLinks {} t.links).1.optional, t.isMissingTarget m.node.name = true) ∧
    ((compileLinks {} t.links).1.existenceQuery? = none ↔ ∀ e ∈ t.edges, e.missing = false) := by
  have hpredecessor : t.compile.predecessor.isSome = true ↔ ∃ e ∈ t.edges, e.missing = true := by
    rw [isSome_predecessor]
    exact hasMissing_iff
  have hstatements : (compileLinks {} t.links).1 = t.statements := by
    rw [compileLinks_eq]
    rfl
  refine ⟨hpredecessor, ?_, rfl, length_queries_eq_two_iff.trans hpredecessor,
    fun text htext => linesOf_predecessor htext, ?_, ?_, fun id => isMissingTarget_iff, ?_, ?_⟩
  · rintro c i e he rfl
    rw [← List.getElem?_map, listing_twoPhase, List.getElem?_map, he]
    rfl
  · intro v hv
    exact (mem_touched.1 (List.mem_of_mem_filter hv)).1
  · exact t.filter_touched_map_id t.isMissingTarget
  · intro m hm
    rw [hstatements, Statements.optional, OrderedMap.values, statements_vertices_entries] at hm
    obtain ⟨hmem, hoptional⟩ := List.mem_filter.1 hm
    simp only [List.map_map, List.mem_map, Function.comp_apply] at hmem
    obtain ⟨v, _, rfl⟩ := hmem
    exact isMissingTarget_of_endsOptional hoptional
  · rw [hstatements, statements_existenceQuery?]
    cases hmissing : t.hasMissing with
    | false => simpa [hasMissing] using hmissing
    | true =>
        obtain ⟨e, he, hem⟩ := hasMissing_iff.1 hmissing
        refine iff_of_false (by simp) fun h => ?_
        rw [h e he] at hem
        cases hem

/-- The target `c` is asked for although a later edge makes its match mandatory in the full query. -/
theorem predecessor_lists_missingTargets_changingOptionality :
    ∃ text, changingOptionality.queries = [text, changingOptionality.compile.query] ∧
      linesOf text = ["OPTIONAL MATCH (b:GATEWAY)", "OPTIONAL MATCH (a:X:ACTIVITY)",
        "OPTIONAL MATCH (c:EVENT)", "RETURN b,a,c"] ∧
      (Catalogue.listing { entries := [⟨"id", "name", changingOptionality⟩] }).rows[0]?.map
        (·.lookup "two_phase") = some (some (.flag true)) := by
  obtain ⟨hsome, hlisting, hqueries, _, hlines, _⟩ :=
    changingOptionality.predecessor_lists_missingTargets
  have hmissing : ∃ e ∈ changingOptionality.edges, e.missing = true := by decide
  have htwo := hsome.2 hmissing
  obtain ⟨text, htext⟩ := Option.isSome_iff_exists.1 htwo
  refine ⟨text, ?_, (hlines text htext).trans (by decide), ?_⟩
  · rw [hqueries, htext]
    rfl
  · rw [← htwo]
    exact hlisting _ 0 _ rfl rfl

end Template

end FlawQuery
