/-
# FlawQuery.Proofs.PatternRequests -- what a catalogue answers to a request for patterns

A request lists ids. An empty one asks for every pattern of the catalogue. Any other is answered id by
id, as often as each is named, with the name of the entry that bears it and the queries of its
template; if the catalogue lacks some of the ids, the first of them is complained about and nothing is
answered.
-/

import FlawQuery.CommandLine.Run
import FlawQuery.Proofs.CatalogueRuns

namespace FlawQuery

/-- The result shows an entry under its id and name, with what its template compiles to. -/
structure PatternQueries.Answers (r : PatternQueries) (e : CatalogueEntry) : Prop where
  id : r.id = e.id
  name : r.name = e.name
  predecessor : r.predecessor = e.template.compile.predecessor
  query : r.query = e.template.compile.query

theorem PatternQueries.answers_ofEntry (e : CatalogueEntry) : (ofEntry e).Answers e :=
  ⟨rfl, rfl, rfl, rfl⟩

/-- The cells of a result say all about it. -/
theorem PatternQueries.row_injective : Function.Injective PatternQueries.row := by
  rintro ⟨id, name, predecessor, query⟩ ⟨id', name', predecessor', query'⟩ h
  cases predecessor with
  | none =>
      cases predecessor' with
      | none => simpa [row] using h
      | some first => simp [row] at h
  | some first =>
      cases predecessor' with
      | none => simp [row] at h
      | some first' => simpa [row] using h

/-- A report has a row for each result, so it tells the results. -/
theorem queryReport_injective : Function.Injective queryReport := fun _ _ h =>
  List.map_injective_iff.2 PatternQueries.row_injective (congrArg Report.rows h)

namespace Catalogue

variable {c : Catalogue}

/-! ## Finding entries -/

theorem find_eq_ok_iff {id : String} {e : CatalogueEntry} :
    c.find id = .ok e ↔ e ∈ c.entries ∧ e.id = id := by
  rw [← get?_eq_some_iff, find]
  cases c.get? id with
  | none => simp
  | some found => simp

theorem find_eq_error_iff {id : String} {fault : CatalogueFault} :
    c.find id = .error fault ↔ id ∉ c.ids ∧ fault = .unknownPattern id := by
  rw [← get?_eq_none_iff, find]
  cases c.get? id with
  | none => simp [eq_comm]
  | some found => simp

/-- Ids are found one by one, each as the entry that bears it. -/
theorem findAll_eq_ok_iff {ids : List String} :
    ∀ {es : List CatalogueEntry}, c.findAll ids = .ok es ↔
      List.Forall₂ (fun id e => e ∈ c.entries ∧ e.id = id) ids es := by
  induction ids with
  | nil =>
      intro es
      rw [findAll, Except.ok.injEq, List.forall₂_nil_left_iff]
      exact eq_comm
  | cons id rest ih =>
      intro es
      rw [findAll, bind_eq_ok_iff, List.forall₂_cons_left_iff]
      constructor
      · rintro ⟨e, he, h⟩
        obtain ⟨others, hothers, h⟩ := bind_eq_ok_iff.1 h
        cases h
        exact ⟨e, others, find_eq_ok_iff.1 he, ih.1 hothers, rfl⟩
      · rintro ⟨e, others, he, hothers, rfl⟩
        exact ⟨e, find_eq_ok_iff.2 he, bind_eq_ok_iff.2 ⟨others, ih.2 hothers, rfl⟩⟩

/-- The first id that no entry bears is the one complained about. -/
theorem findAll_eq_error_iff {ids : List String} {fault : CatalogueFault} :
    c.findAll ids = .error fault ↔
      ∃ before id after, ids = before ++ id :: after ∧ (∀ b ∈ before, b ∈ c.ids) ∧ id ∉ c.ids ∧
        fault = .unknownPattern id := by
  induction ids with
  | nil => simp [findAll]
  | cons id rest ih =>
      rw [findAll, bind_eq_error_iff]
      constructor
      · rintro (h | ⟨e, he, h⟩)
        · obtain ⟨hid, rfl⟩ := find_eq_error_iff.1 h
          exact ⟨[], id, rest, rfl, by simp, hid, rfl⟩
        · rcases bind_eq_error_iff.1 h with h | ⟨_, _, h⟩
          · obtain ⟨before, unknown, after, rfl, hbefore, hunknown, rfl⟩ := ih.1 h
            obtain ⟨hmem, rfl⟩ := find_eq_ok_iff.1 he
            have hid : e.id ∈ c.ids := List.mem_map_of_mem hmem
            exact ⟨e.id :: before, unknown, after, rfl, List.forall_mem_cons.2 ⟨hid, hbefore⟩,
              hunknown, rfl⟩
          · cases h
      · rintro ⟨before, unknown, after, hsplit, hbefore, hunknown, rfl⟩
        cases before with
        | nil =>
            obtain ⟨rfl, rfl⟩ := List.cons.inj hsplit
            exact Or.inl (find_eq_error_iff.2 ⟨hunknown, rfl⟩)
        | cons first before =>
            obtain ⟨rfl, rfl⟩ := List.cons.inj hsplit
            obtain ⟨hfirst, hothers⟩ := List.forall_mem_cons.1 hbefore
            obtain ⟨e, he, hid⟩ := List.mem_map.1 hfirst
            have hrest := ih.2 ⟨before, unknown, after, rfl, hothers, hunknown, rfl⟩
            exact Or.inr ⟨e, find_eq_ok_iff.2 ⟨he, hid⟩, bind_eq_error_iff.2 (Or.inl hrest)⟩

/-- Entries are found exactly if every id has one. -/
theorem exists_findAll_eq_ok_iff {ids : List String} :
    (∃ es, c.findAll ids = .ok es) ↔ ∀ id ∈ ids, id ∈ c.ids := by
  constructor
  · rintro ⟨es, hes⟩
    have hfound := findAll_eq_ok_iff.1 hes
    clear hes
    induction hfound with
    | nil => intro id hid; cases hid
    | cons hhead _ ih =>
        obtain ⟨he, rfl⟩ := hhead
        exact List.forall_mem_cons.2 ⟨List.mem_map_of_mem he, ih⟩
  · intro hknown
    cases h : c.findAll ids with
    | ok es => exact ⟨es, rfl⟩
    | error fault =>
        obtain ⟨before, id, after, hsplit, _, hid, _⟩ := findAll_eq_error_iff.1 h
        have hmem : id ∈ ids := hsplit ▸ List.mem_append_right before List.mem_cons_self
        exact absurd (hknown id hmem) hid

/-! ## Requests -/

theorem select_of_ne_nil {ids : List String} (h : ids ≠ []) : c.select ids = c.findAll ids :=
  if_neg h

theorem queryReport_of_select_eq_ok {ids : List String} {es : List CatalogueEntry}
    (h : c.select ids = .ok es) :
    c.queryReport ids = .ok (FlawQuery.queryReport (es.map PatternQueries.ofEntry)) := by
  rw [queryReport, h]
  rfl

theorem queryReport_of_select_eq_error {ids : List String} {fault : CatalogueFault}
    (h : c.select ids = .error fault) : c.queryReport ids = .error fault := by
  rw [queryReport, h]
  rfl

end Catalogue

namespace CommandLine

variable {m : Type → Type} [Monad m]

/-- A request without ids is answered with all patterns in the order of the catalogue. Any other is
answered id by id, in the order and as often as they are named, each with the one entry that bears it;
it is refused exactly if some id is not there, for the first of those. The report tells what the
results are. -/
theorem run_queries_answers_in_order (files : Files m) (c : Catalogue) (ids : List String) :
    (∃ results, Command.run files c (.queries []) = pure (.ok (queryReport results)) ∧
      List.Forall₂ PatternQueries.Answers results c.entries) ∧
    (ids ≠ [] → (∀ id ∈ ids, id ∈ c.ids) →
      ∃ results, Command.run files c (.queries ids) = pure (.ok (queryReport results)) ∧
        List.Forall₂ (fun id r => r.id = id ∧ ∃ e ∈ c.entries, e.id = id ∧ r.Answers e ∧
          ∀ b ∈ c.entries, b.id = id → b = e) ids results) ∧
    ((∃ id ∈ ids, id ∉ c.ids) →
      ∃ before id after, ids = before ++ id :: after ∧ (∀ b ∈ before, b ∈ c.ids) ∧ id ∉ c.ids ∧
        Command.run files c (.queries ids) =
          pure (.error (.catalogue (.unknownPattern id)))) ∧
    Function.Injective queryReport := by
  refine ⟨?_, fun hsome hknown => ?_, ?_, queryReport_injective⟩
  · have hselect : c.select [] = .ok c.entries := if_pos rfl
    refine ⟨c.entries.map .ofEntry, ?_, ?_⟩
    · rw [Command.run, Catalogue.queryReport_of_select_eq_ok hselect]
      rfl
    · rw [List.forall₂_map_left_iff, List.forall₂_same]
      intro e _
      exact PatternQueries.answers_ofEntry e
  · obtain ⟨es, hes⟩ := Catalogue.exists_findAll_eq_ok_iff.2 hknown
    have hselect : c.select ids = .ok es := (Catalogue.select_of_ne_nil hsome).trans hes
    refine ⟨es.map .ofEntry, ?_, ?_⟩
    · rw [Command.run, Catalogue.queryReport_of_select_eq_ok hselect]
      rfl
    · rw [List.forall₂_map_right_iff]
      apply (Catalogue.findAll_eq_ok_iff.1 hes).imp
      rintro id e ⟨he, rfl⟩
      refine ⟨rfl, e, he, rfl, PatternQueries.answers_ofEntry e, fun b hb hid => ?_⟩
      exact List.inj_on_of_nodup_map c.nodup hb he hid
  · rintro ⟨id, hid, hunknown⟩
    cases h : c.findAll ids with
    | ok es => exact absurd (Catalogue.exists_findAll_eq_ok_iff.1 ⟨es, h⟩ id hid) hunknown
    | error fault =>
        obtain ⟨before, first, after, hsplit, hbefore, hfirst, rfl⟩ :=
          Catalogue.findAll_eq_error_iff.1 h
        have hselect : c.select ids = .error (.unknownPattern first) :=
          (Catalogue.select_of_ne_nil (List.ne_nil_of_mem hid)).trans h
        refine ⟨before, first, after, hsplit, hbefore, hfirst, ?_⟩
        rw [Command.run, Catalogue.queryReport_of_select_eq_error hselect]
        rfl

/-- One pattern twice, around another that stands before it in the catalogue. -/
def repeatedRequest : List String := ["apMissingReversal", "apDoubleOpt", "apMissingReversal"]

/-- Two unknown patterns behind a known one. -/
def unknownRequest : List String := ["apDoubleOpt", "apTwo", "apOne", "apTwo"]

/-- Files that nobody needs for a request. -/
def noFiles : Files Id where
  present _ := false
  read _ := .error .notFound

theorem run_queries_answers_in_order_repeatedAndUnknown :
    (∃ results, Command.run noFiles .builtin (.queries []) = pure (.ok (queryReport results)) ∧
      List.Forall₂ PatternQueries.Answers results Catalogue.builtin.entries) ∧
    (repeatedRequest ≠ [] ∧ (∀ id ∈ repeatedRequest, id ∈ Catalogue.builtin.ids) ∧
      ∃ results, Command.run noFiles .builtin (.queries repeatedRequest) =
          pure (.ok (queryReport results)) ∧
        List.Forall₂ (fun id r => r.id = id ∧ ∃ e ∈ Catalogue.builtin.entries, e.id = id ∧
          r.Answers e ∧ ∀ b ∈ Catalogue.builtin.entries, b.id = id → b = e)
          repeatedRequest results ∧
        results.map PatternQueries.name = ["Missing reversal of network reduction",
          "Double optimization", "Missing reversal of network reduction"]) ∧
    (∃ id ∈ unknownRequest, id ∉ Catalogue.builtin.ids) ∧
      ∃ before id after, unknownRequest = before ++ id :: after ∧
        (∀ b ∈ before, b ∈ Catalogue.builtin.ids) ∧ id ∉ Catalogue.builtin.ids ∧
          Command.run noFiles .builtin (.queries unknownRequest) =
            pure (.error (.catalogue (.unknownPattern id))) ∧ id = "apTwo" := by
  obtain ⟨hall, hanswers, _, hinjective⟩ :=
    run_queries_answers_in_order noFiles .builtin repeatedRequest
  obtain ⟨_, _, hrefusal, _⟩ := run_queries_answers_in_order noFiles .builtin unknownRequest
  have hsome : repeatedRequest ≠ [] := by decide
  have hknown : ∀ id ∈ repeatedRequest, id ∈ Catalogue.builtin.ids := by decide +kernel
  have hunknown : ∃ id ∈ unknownRequest, id ∉ Catalogue.builtin.ids := by decide +kernel
  obtain ⟨results, hrun, hresults⟩ := hanswers hsome hknown
  obtain ⟨before, id, after, hsplit, hbefore, hid, hfault⟩ := hrefusal hunknown
  have hreport : Command.run noFiles .builtin (.queries repeatedRequest) =
      pure (.ok (queryReport ([Catalogue.missingReversal, Catalogue.doubleOptimization,
        Catalogue.missingReversal].map .ofEntry))) := rfl
  have hfirst : Command.run noFiles .builtin (.queries unknownRequest) =
      pure (.error (.catalogue (.unknownPattern "apTwo"))) := rfl
  refine ⟨hall, ⟨hsome, hknown, results, hrun, hresults, ?_⟩, hunknown, before, id, after, hsplit,
    hbefore, hid, hfault, ?_⟩
  · rw [hinjective (Except.ok.inj (hrun.symm.trans hreport))]
    rfl
  · cases hfault.symm.trans hfirst
    rfl

end CommandLine

end FlawQuery
