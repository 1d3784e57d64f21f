/-
# FlawQuery.Proofs.CatalogueRuns -- what a catalogue keeps through any run of operations

A catalogue grows by single entries and by whole catalogues, and it starts over when a document or a
source is loaded; each of these may be refused. `Operation.Leaves` says what an operation makes of a
plain list of entries about which nothing is promised. The operations of the library do just that,
so what every such step preserves holds after every run: ids stay distinct, growing keeps the
entries that are there in front and in order, and looking up an id finds the one entry that bears
it.
-/

import FlawQuery.Proofs.DocumentBounds
import FlawQuery.Settings
import Mathlib.Data.List.Nodup

namespace FlawQuery

namespace Catalogue

/-! ## Looking up -/

theorem id_eq_of_get?_eq_some {c : Catalogue} {id : String} {e : CatalogueEntry}
    (h : c.get? id = some e) : e.id = id := by
  simpa using List.find?_some h

theorem get?_eq_none_iff {c : Catalogue} {id : String} : c.get? id = none ↔ id ∉ c.ids := by
  simp [get?, ids]

/-- An id finds the entry that bears it; there is only one. -/
theorem get?_eq_some_iff {c : Catalogue} {id : String} {e : CatalogueEntry} :
    c.get? id = some e ↔ e ∈ c.entries ∧ e.id = id := by
  constructor
  · intro h
    exact ⟨List.mem_of_find?_eq_some h, id_eq_of_get?_eq_some h⟩
  · rintro ⟨he, rfl⟩
    cases hfound : c.get? e.id with
    | none => exact absurd (List.mem_map_of_mem he) (get?_eq_none_iff.1 hfound)
    | some b =>
        have hb : b ∈ c.entries := List.mem_of_find?_eq_some hfound
        rw [List.inj_on_of_nodup_map c.nodup hb he (id_eq_of_get?_eq_some hfound)]

/-! ## Growing -/

/-- An entry whose id is taken is refused, and the catalogue is the one there was. -/
theorem tryInsert_of_mem {c : Catalogue} {e : CatalogueEntry} (h : e.id ∈ c.ids) :
    c.tryInsert e = (c, some (.duplicatePattern e.id)) := by
  rw [tryInsert, dif_pos h]

/-- An entry under a new id comes last. -/
theorem exists_tryInsert_of_not_mem {c : Catalogue} {e : CatalogueEntry} (h : e.id ∉ c.ids) :
    ∃ c', c.tryInsert e = (c', none) ∧ c'.entries = c.entries ++ [e] := by
  rw [tryInsert, dif_neg h]
  exact ⟨_, rfl, rfl⟩

/-- Of entries with distinct ids, those before the first whose id is taken are added, and that one
is named in the refusal. -/
theorem insertAll_split {es : List CatalogueEntry} :
    ∀ {c : Catalogue}, (es.map CatalogueEntry.id).Nodup →
      ∃ added rest, es = added ++ rest ∧ (c.insertAll es).1.entries = c.entries ++ added ∧
        (∀ e ∈ added, e.id ∉ c.ids) ∧ (∀ e ∈ rest.head?, e.id ∈ c.ids) ∧
        (c.insertAll es).2 = rest.head?.map fun e => .duplicatePattern e.id := by
  induction es with
  | nil => intro c _; exact ⟨[], [], rfl, by simp [insertAll], by simp, by simp, rfl⟩
  | cons e es ih =>
      intro c hes
      rw [List.map_cons, List.nodup_cons] at hes
      by_cases he : e.id ∈ c.ids
      · refine ⟨[], e :: es, rfl, ?_, by simp, by simpa using he, ?_⟩
        · rw [insertAll, tryInsert_of_mem he, List.append_nil]
        · rw [insertAll, tryInsert_of_mem he]
          rfl
      · obtain ⟨c', hinsert, hentries⟩ := exists_tryInsert_of_not_mem he
        obtain ⟨added, rest, hsplit, hresult, hfresh, hstop, hfault⟩ := ih (c := c') hes.2
        have hids : c'.ids = c.ids ++ [e.id] := by simp [ids, hentries]
        refine ⟨e :: added, rest, by rw [hsplit, List.cons_append], ?_, ?_, ?_, ?_⟩
        · rw [insertAll, hinsert]
          show (c'.insertAll es).1.entries = _
          rw [hresult, hentries, List.append_assoc, List.singleton_append]
        · refine List.forall_mem_cons.2 ⟨he, fun b hb hmem => hfresh b hb ?_⟩
          rw [hids]
          exact List.mem_append_left _ hmem
        · intro b hb
          have hmem := hstop b hb
          rw [hids, List.mem_append, List.mem_singleton] at hmem
          -- the entries behind `e` have other ids than `e`
          have hbes : b ∈ es := hsplit ▸ List.mem_append_right _ (List.mem_of_mem_head? hb)
          exact hmem.resolve_right fun hid => hes.1 (hid ▸ List.mem_map_of_mem hbes)
        · rw [insertAll, hinsert]
          exact hfault

/-- A catalogue none of whose ids is taken is added as a whole. -/
theorem extend_of_fresh {c other : Catalogue} (hfresh : ∀ e ∈ other.entries, e.id ∉ c.ids) :
    ∃ c', c.extend other = (c', none) ∧ c'.entries = c.entries ++ other.entries := by
  obtain ⟨added, rest, hsplit, hentries, _, hstop, hfault⟩ :=
    insertAll_split (c := c) other.nodup
  cases rest with
  | nil =>
      rw [List.append_nil] at hsplit
      exact ⟨_, Prod.ext rfl hfault, hsplit ▸ hentries⟩
  | cons e rest =>
      have hmem : e ∈ other.entries := hsplit ▸ List.mem_append_right added List.mem_cons_self
      exact absurd (hstop e rfl) (hfresh e hmem)

/-- Of a catalogue that has an id in common, the entries before the first such id are added, and that
id is named in the refusal. -/
theorem extend_of_taken {c other : Catalogue} (htaken : ∃ e ∈ other.entries, e.id ∈ c.ids) :
    ∃ before e after c', other.entries = before ++ e :: after ∧ (∀ b ∈ before, b.id ∉ c.ids) ∧
      e.id ∈ c.ids ∧ c.extend other = (c', some (.duplicatePattern e.id)) ∧
        c'.entries = c.entries ++ before := by
  obtain ⟨added, rest, hsplit, hentries, hnew, hstop, hfault⟩ :=
    insertAll_split (c := c) other.nodup
  cases rest with
  | nil =>
      obtain ⟨e, he, hid⟩ := htaken
      rw [hsplit, List.append_nil] at he
      exact absurd hid (hnew e he)
  | cons e rest =>
      exact ⟨added, e, rest, _, hsplit, hnew, hstop e rfl, Prod.ext rfl hfault, hentries⟩

/-- Catalogues without a common id become one. -/
theorem union_of_fresh {c other : Catalogue} (hfresh : ∀ e ∈ other.entries, e.id ∉ c.ids) :
    ∃ c', c.union other = .ok c' ∧ c'.entries = c.entries ++ other.entries := by
  obtain ⟨c', hextend, hentries⟩ := extend_of_fresh hfresh
  exact ⟨c', by rw [union, hextend, orFault], hentries⟩

/-- Catalogues with a common id are refused for the first such id of the second one. -/
theorem union_of_taken {c other : Catalogue} (htaken : ∃ e ∈ other.entries, e.id ∈ c.ids) :
    ∃ before e after, other.entries = before ++ e :: after ∧ (∀ b ∈ before, b.id ∉ c.ids) ∧
      e.id ∈ c.ids ∧ c.union other = .error (.duplicatePattern e.id) := by
  obtain ⟨before, e, after, c', hsplit, hnew, hid, hextend, _⟩ := extend_of_taken htaken
  exact ⟨before, e, after, hsplit, hnew, hid, by rw [union, hextend, orFault]⟩

/-- Two catalogues are joined only if they have no id in common. -/
theorem entries_of_union_eq_ok {c other c' : Catalogue} (h : c.union other = .ok c') :
    (∀ e ∈ other.entries, e.id ∉ c.ids) ∧ c'.entries = c.entries ++ other.entries := by
  by_cases htaken : ∃ e ∈ other.entries, e.id ∈ c.ids
  · obtain ⟨_, _, _, _, _, _, hunion⟩ := union_of_taken htaken
    rw [hunion] at h
    cases h
  · have hfresh : ∀ e ∈ other.entries, e.id ∉ c.ids := fun e he hid => htaken ⟨e, he, hid⟩
    obtain ⟨joined, hunion, hentries⟩ := union_of_fresh hfresh
    rw [hunion] at h
    cases h
    exact ⟨hfresh, hentries⟩

/-! ## Loading -/

end Catalogue

/-- The entry that a pattern stands for. -/
structure PatternEntry.Becomes (p : PatternEntry) (e : CatalogueEntry) : Prop where
  id : e.id = p.id
  name : e.name = p.name
  template : p.template.toTemplate = .ok e.template

/-- What a pattern is refused for where some ids are taken. Its id counts only if it has a
template. -/
inductive PatternEntry.RefusedFor (p : PatternEntry) (taken : List String) : CatalogueFault → Prop
  | template {cause : TemplateFault} (h : p.template.toTemplate = .error cause) :
      RefusedFor p taken (.invalidTemplate p.id cause)
  | id {t : Template} (h : p.template.toTemplate = .ok t) (htaken : p.id ∈ taken) :
      RefusedFor p taken (.duplicatePattern p.id)

theorem PatternEntry.map_id_of_becomes {patterns : List PatternEntry} {es : List CatalogueEntry}
    (h : List.Forall₂ Becomes patterns es) :
    es.map CatalogueEntry.id = patterns.map PatternEntry.id := by
  induction h with
  | nil => rfl
  | cons hhead _ ih => rw [List.map_cons, List.map_cons, ih, hhead.id]

namespace Catalogue

/-- A pattern is refused, or it is added at the end as the entry that it stands for. -/
theorem insertPattern_refused_or_added (c : Catalogue) (p : PatternEntry) :
    (∃ fault, c.insertPattern p = .error fault ∧ p.RefusedFor c.ids fault) ∨
      ∃ c' e, c.insertPattern p = .ok c' ∧ p.Becomes e ∧ c'.entries = c.entries ++ [e] := by
  rw [insertPattern]
  cases htemplate : p.template.toTemplate with
  | error cause => exact Or.inl ⟨_, rfl, .template htemplate⟩
  | ok template =>
      by_cases hid : p.id ∈ c.ids
      · refine Or.inl ⟨.duplicatePattern p.id, ?_, .id htemplate hid⟩
        show c.insert ⟨p.id, p.name, template⟩ = _
        rw [insert, tryInsert_of_mem hid, orFault]
      · have hnew : (⟨p.id, p.name, template⟩ : CatalogueEntry).id ∉ c.ids := hid
        obtain ⟨c', hinsert, hentries⟩ := exists_tryInsert_of_not_mem hnew
        refine Or.inr ⟨c', _, ?_, ⟨rfl, rfl, htemplate⟩, hentries⟩
        show c.insert ⟨p.id, p.name, template⟩ = _
        rw [insert, hinsert, orFault]

theorem entries_of_insertPattern_eq_ok {c c' : Catalogue} {p : PatternEntry}
    (h : c.insertPattern p = .ok c') : ∃ e, p.Becomes e ∧ c'.entries = c.entries ++ [e] := by
  rcases c.insertPattern_refused_or_added p with
    ⟨fault, hfault, _⟩ | ⟨c₁, e, hadded, hbecomes, hentries⟩
  · rw [hfault] at h
    cases h
  · rw [hadded] at h
    cases h
    exact ⟨e, hbecomes, hentries⟩

theorem refusedFor_of_insertPattern_eq_error {c : Catalogue} {p : PatternEntry}
    {fault : CatalogueFault} (h : c.insertPattern p = .error fault) : p.RefusedFor c.ids fault := by
  rcases c.insertPattern_refused_or_added p with ⟨fault', hfault, hrefused⟩ | ⟨c₁, e, hadded, _⟩
  · rw [hfault] at h
    cases h
    exact hrefused
  · rw [hadded] at h
    cases h

theorem entries_of_foldlM_eq_ok {patterns : List PatternEntry} :
    ∀ {c c' : Catalogue}, patterns.foldlM insertPattern c = .ok c' →
      ∃ es, List.Forall₂ PatternEntry.Becomes patterns es ∧ c'.entries = c.entries ++ es := by
  induction patterns with
  | nil =>
      intro c c' h
      cases h
      exact ⟨[], .nil, (List.append_nil _).symm⟩
  | cons p patterns ih =>
      intro c c' h
      rw [List.foldlM_cons] at h
      obtain ⟨c₁, hfirst, hrest⟩ := bind_eq_ok_iff.1 h
      obtain ⟨e, hbecomes, hentries⟩ := entries_of_insertPattern_eq_ok hfirst
      obtain ⟨es, hothers, hresult⟩ := ih hrest
      refine ⟨e :: es, .cons hbecomes hothers, ?_⟩
      rw [hresult, hentries, List.append_assoc, List.singleton_append]

/-- The catalogue of some patterns holds what they stand for, in their order. -/
theorem becomes_of_ofPatterns_eq_ok {patterns : List PatternEntry} {c : Catalogue}
    (h : ofPatterns patterns = .ok c) : List.Forall₂ PatternEntry.Becomes patterns c.entries := by
  obtain ⟨es, hbecomes, hentries⟩ := entries_of_foldlM_eq_ok h
  rw [empty, List.nil_append] at hentries
  rw [hentries]
  exact hbecomes

/-- The text is a document whose patterns have distinct ids and stand for the entries. -/
def Lists (s : String) (es : List CatalogueEntry) : Prop :=
  ∃ patterns, patternsShape.reader.run s = .ok patterns ∧
    List.Forall₂ PatternEntry.Becomes patterns es ∧ (patterns.map PatternEntry.id).Nodup

theorem lists_of_ofJson_eq_ok {s : String} {c : Catalogue} (h : ofJson s = .ok c) :
    Lists s c.entries := by
  unfold ofJson at h
  split at h
  next => cases h
  next patterns hread =>
    have hbecomes := becomes_of_ofPatterns_eq_ok h
    exact ⟨patterns, hread, hbecomes, PatternEntry.map_id_of_becomes hbecomes ▸ c.nodup⟩

end Catalogue

/-- What a source holds, with the files as they are: the builtin entries, those of a file, or first
the builtin ones and then those of a file that has none of their ids. -/
inductive CatalogueSource.Holds (files : Files Id) : CatalogueSource → List CatalogueEntry → Prop
  | builtin : Holds files .builtin Catalogue.builtin.entries
  | file {path s : String} {es : List CatalogueEntry} (hread : files.read path = .ok s)
      (hlists : Catalogue.Lists s es) : Holds files (.file path false) es
  | builtinAndFile {path s : String} {es : List CatalogueEntry} (hread : files.read path = .ok s)
      (hlists : Catalogue.Lists s es) (hfresh : ∀ e ∈ es, e.id ∉ Catalogue.builtin.ids) :
      Holds files (.file path true) (Catalogue.builtin.entries ++ es)

namespace CatalogueSource

/-- Loading from a file reads it once; all else depends on what was read. -/
theorem load_file {m : Type → Type} [Monad m] [LawfulMonad m] {files : Files m} {path : String}
    {includeBuiltin : Bool} :
    (file path includeBuiltin).load files = files.read path >>= fun text => pure
      (match text with
      | .error fault => .error (.unreadable path fault)
      | .ok s =>
        match Catalogue.ofJson s with
        | .error fault => .error fault
        | .ok c => if includeBuiltin then Catalogue.builtin.union c else .ok c) := by
  rw [load, Catalogue.ofFile, bind_assoc]
  refine bind_congr fun text => ?_
  cases text with
  | error fault => rw [pure_bind]
  | ok s =>
      rw [pure_bind]
      dsimp only
      cases Catalogue.ofJson s with
      | error fault => rfl
      | ok c => rfl

theorem holds_of_load_eq_ok {files : Files Id} {source : CatalogueSource} {c : Catalogue}
    (h : source.load files = .ok c) : source.Holds files c.entries := by
  cases source with
  | builtin =>
      cases h
      exact .builtin
  | file path includeBuiltin =>
      obtain ⟨text, hread⟩ : ∃ text, files.read path = pure text := ⟨_, rfl⟩
      rw [load_file, hread, pure_bind] at h
      cases text with
      | error fault => cases h
      | ok s =>
          cases hloaded : Catalogue.ofJson s with
          | error fault =>
              simp only [hloaded] at h
              cases h
          | ok loaded =>
              simp only [hloaded] at h
              have hlists := Catalogue.lists_of_ofJson_eq_ok hloaded
              cases includeBuiltin with
              | false =>
                  cases h
                  exact .file hread hlists
              | true =>
                  obtain ⟨hfresh, hentries⟩ := Catalogue.entries_of_union_eq_ok h
                  exact hentries ▸ .builtinAndFile hread hlists hfresh

end CatalogueSource

/-! ## Operations -/

namespace Catalogue

/-- What can be done to a catalogue. What is loaded comes in its place. -/
inductive Operation where
  | insert (e : CatalogueEntry)
  | extend (other : Catalogue)
  /-- Start over from a document. -/
  | read (s : String)
  /-- Start over from a source, with the files as they are at that time. -/
  | load (files : Files Id) (source : CatalogueSource)

/-- The outcome of loading: the catalogue that was read, or the old one. -/
def orKeep (c : Catalogue) : Except CatalogueFault Catalogue → Catalogue × Option CatalogueFault
  | .ok c' => (c', none)
  | .error fault => (c, some fault)

/-- Carries out an operation, which may be refused. -/
def apply (c : Catalogue) : Operation → Catalogue × Option CatalogueFault
  | .insert e => c.tryInsert e
  | .extend other => c.extend other
  | .read s => c.orKeep (ofJson s)
  | .load files source => c.orKeep (source.load files)

/-- The catalogue after some operations, whether or not they were refused. -/
def run (c : Catalogue) (ops : List Operation) : Catalogue :=
  ops.foldl (fun c op => (c.apply op).1) c

namespace Operation

/-- The operation adds to the catalogue and does not start over. -/
def Grows : Operation → Prop
  | insert _ | extend _ => True
  | read _ | load .. => False

/-- What an operation makes of a list of entries, whatever that list is. -/
inductive Leaves : Operation → List CatalogueEntry → List CatalogueEntry → Prop
  | inserted {e : CatalogueEntry} {es : List CatalogueEntry}
      (hnew : e.id ∉ es.map CatalogueEntry.id) : Leaves (.insert e) es (es ++ [e])
  | refused {e : CatalogueEntry} {es : List CatalogueEntry}
      (htaken : e.id ∈ es.map CatalogueEntry.id) : Leaves (.insert e) es es
  /-- Entries are added up to the first whose id is taken. -/
  | extended {other : Catalogue} {es added rest : List CatalogueEntry}
      (hsplit : other.entries = added ++ rest)
      (hnew : ∀ e ∈ added, e.id ∉ es.map CatalogueEntry.id)
      (hstop : ∀ e ∈ rest.head?, e.id ∈ es.map CatalogueEntry.id) :
      Leaves (.extend other) es (es ++ added)
  | read {s : String} {es listed : List CatalogueEntry} (hlists : Lists s listed) :
      Leaves (.read s) es listed
  | unread {s : String} {es : List CatalogueEntry} {fault : CatalogueFault}
      (hfault : ofJson s = .error fault) : Leaves (.read s) es es
  | loaded {files : Files Id} {source : CatalogueSource} {es held : List CatalogueEntry}
      (hholds : source.Holds files held) : Leaves (.load files source) es held
  | unloaded {files : Files Id} {source : CatalogueSource} {es : List CatalogueEntry}
      {fault : CatalogueFault} (hfault : source.load files = .error fault) :
      Leaves (.load files source) es es

/-- Some operations lead from one list of entries to another. -/
inductive Lead : List Operation → List CatalogueEntry → List CatalogueEntry → Prop
  | nil (es : List CatalogueEntry) : Lead [] es es
  | cons {op : Operation} {ops : List Operation} {es es' es'' : List CatalogueEntry}
      (hstep : op.Leaves es es') (hrest : Lead ops es' es'') : Lead (op :: ops) es es''

end Operation

/-! ## One operation -/

theorem leaves_apply (c : Catalogue) (op : Operation) :
    op.Leaves c.entries (c.apply op).1.entries := by
  cases op with
  | insert e =>
      by_cases he : e.id ∈ c.ids
      · rw [apply, tryInsert_of_mem he]
        exact .refused he
      · obtain ⟨c', hinsert, hentries⟩ := exists_tryInsert_of_not_mem he
        rw [apply, hinsert]
        show Operation.Leaves _ _ c'.entries
        rw [hentries]
        exact .inserted he
  | extend other =>
      obtain ⟨added, rest, hsplit, hentries, hnew, hstop, _⟩ :=
        insertAll_split (c := c) other.nodup
      show Operation.Leaves _ _ (c.insertAll other.entries).1.entries
      rw [hentries]
      exact .extended hsplit hnew hstop
  | read s =>
      cases hread : ofJson s with
      | error fault =>
          rw [apply, hread]
          exact .unread hread
      | ok c' =>
          rw [apply, hread]
          exact .read (lists_of_ofJson_eq_ok hread)
  | load files source =>
      cases hload : source.load files with
      | error fault =>
          rw [apply, hload]
          exact .unloaded hload
      | ok c' =>
          rw [apply, hload]
          exact .loaded (CatalogueSource.holds_of_load_eq_ok hload)

namespace Operation

variable {op : Operation} {ops : List Operation} {es es' : List CatalogueEntry}

theorem nodup_append_of_new {added : List CatalogueEntry} (hes : (es.map CatalogueEntry.id).Nodup)
    (hadded : (added.map CatalogueEntry.id).Nodup)
    (hnew : ∀ e ∈ added, e.id ∉ es.map CatalogueEntry.id) :
    ((es ++ added).map CatalogueEntry.id).Nodup := by
  rw [List.map_append]
  refine List.nodup_append.2 ⟨hes, hadded, ?_⟩
  rintro id hid _ hid' rfl
  obtain ⟨e, he, rfl⟩ := List.mem_map.1 hid'
  exact hnew e he hid

theorem nodup_of_lists {s : String} (h : Lists s es) : (es.map CatalogueEntry.id).Nodup := by
  obtain ⟨patterns, _, hbecomes, hids⟩ := h
  rw [PatternEntry.map_id_of_becomes hbecomes]
  exact hids

/-- An operation keeps ids distinct, on whatever entries. -/
theorem Leaves.nodup (h : op.Leaves es es') (hes : (es.map CatalogueEntry.id).Nodup) :
    (es'.map CatalogueEntry.id).Nodup := by
  cases h with
  | inserted hnew => exact nodup_append_of_new hes (List.nodup_singleton _) (by simpa using hnew)
  | refused => exact hes
  | @extended other _ added rest hsplit hnew _ =>
      have hother := other.nodup
      rw [hsplit, List.map_append] at hother
      exact nodup_append_of_new hes (List.nodup_append.1 hother).1 hnew
  | read hlists => exact nodup_of_lists hlists
  | unread => exact hes
  | loaded hholds =>
      cases hholds with
      | builtin => exact builtin.nodup
      | file _ hlists => exact nodup_of_lists hlists
      | builtinAndFile _ hlists hfresh =>
          exact nodup_append_of_new builtin.nodup (nodup_of_lists hlists) hfresh
  | unloaded => exact hes

/-- Growing keeps the entries that are there, in front and in order. -/
theorem Leaves.isPrefix (h : op.Leaves es es') (hgrows : op.Grows) : es <+: es' := by
  cases h with
  | inserted => exact List.prefix_append _ _
  | refused => exact List.prefix_rfl
  | extended => exact List.prefix_append _ _
  | read => exact absurd hgrows id
  | unread => exact absurd hgrows id
  | loaded => exact absurd hgrows id
  | unloaded => exact absurd hgrows id

/-! ## All operations in turn -/

theorem Lead.nodup (h : Lead ops es es') (hes : (es.map CatalogueEntry.id).Nodup) :
    (es'.map CatalogueEntry.id).Nodup := by
  induction h with
  | nil => exact hes
  | cons hstep _ ih => exact ih (hstep.nodup hes)

theorem Lead.isPrefix (h : Lead ops es es') (hgrows : ∀ op ∈ ops, op.Grows) : es <+: es' := by
  induction h with
  | nil => exact List.prefix_rfl
  | cons hstep _ ih =>
      obtain ⟨hfirst, hothers⟩ := List.forall_mem_cons.1 hgrows
      exact (hstep.isPrefix hfirst).trans (ih hothers)

end Operation

theorem run_append (c : Catalogue) (ops ops' : List Operation) :
    c.run (ops ++ ops') = (c.run ops).run ops' :=
  List.foldl_append

theorem lead_run (ops : List Operation) :
    ∀ c : Catalogue, Operation.Lead ops c.entries (c.run ops).entries := by
  induction ops with
  | nil => intro c; exact .nil _
  | cons op ops ih => intro c; exact .cons (c.leaves_apply op) (ih (c.apply op).1)

/-- Whatever is done to a catalogue, be it accepted or refused: each operation leaves what it says
on the entries before it, all ids are distinct, further operations that only add leave the entries
where they are, and an id is found exactly if an entry bears it, which is then the only one. -/
theorem run_keeps_entries (start : Catalogue) (ops : List Operation) :
    Operation.Lead ops start.entries (start.run ops).entries ∧
    ((start.run ops).entries.map CatalogueEntry.id).Nodup ∧
    (∀ more : List Operation, (∀ op ∈ more, op.Grows) →
      (start.run ops).entries <+: (start.run (ops ++ more)).entries) ∧
    ∀ id,
      ((∃ e, (start.run ops).get? id = some e) ↔ ∃ e ∈ (start.run ops).entries, e.id = id) ∧
      ∀ e, (start.run ops).get? id = some e →
        e ∈ (start.run ops).entries ∧ e.id = id ∧
          ∀ b ∈ (start.run ops).entries, b.id = id → b = e := by
  refine ⟨lead_run ops start, (lead_run ops start).nodup start.nodup, ?_, fun id => ⟨?_, ?_⟩⟩
  · intro more hgrows
    rw [run_append]
    exact (lead_run more (start.run ops)).isPrefix hgrows
  · exact exists_congr fun e => get?_eq_some_iff
  · intro e he
    obtain ⟨hmem, hid⟩ := get?_eq_some_iff.1 he
    refine ⟨hmem, hid, fun b hb hbid => ?_⟩
    have hfound := get?_eq_some_iff.2 ⟨hb, hbid⟩
    exact Option.some.inj (hfound.symm.trans he)

/-- A service that starts itself again. -/
def selfStart : CatalogueEntry where
  id := "apSelfStart"
  name := "Service that starts itself"
  template := {
    vertices := [{ id := "s", kind := .activity, variant := "S" }]
    edges := [{ source := "s", target := "s" }]
    accepted := by decide +kernel }

/-- Loads the builtin catalogue; the file and the entry asked for next are refused. -/
def startOver : List Operation :=
  [.load ⟨fun _ => false, fun _ => .error .notFound⟩ .builtin,
    .load ⟨fun _ => false, fun _ => .error .notFound⟩ (.file "patterns.json" true),
    .insert doubleOptimization]

/-- Adds a catalogue of two entries, the second of which is there already, then the first again. -/
def addTwice : List Operation :=
  [.extend { entries := [selfStart, noCondition], nodup := by decide }, .insert selfStart]

theorem run_keeps_entries_refusedInBetween :
    (∀ op ∈ addTwice, op.Grows) ∧
    (empty.run startOver).entries <+: (empty.run (startOver ++ addTwice)).entries ∧
    (empty.run startOver).entries = builtin.entries ∧
    (empty.run (startOver ++ addTwice)).entries = builtin.entries ++ [selfStart] ∧
    (empty.run (startOver ++ addTwice)).get? "apSelfStart" = some selfStart ∧
    ∀ b ∈ (empty.run (startOver ++ addTwice)).entries, b.id = "apSelfStart" → b = selfStart := by
  have hgrows : ∀ op ∈ addTwice, op.Grows := by
    intro op hop
    rcases List.mem_pair.1 hop with rfl | rfl
    · trivial
    · trivial
  have hfound : (empty.run (startOver ++ addTwice)).get? "apSelfStart" = some selfStart := by
    decide +kernel
  have hkeeps := (run_keeps_entries empty startOver).2.2.1 addTwice hgrows
  have honly := ((run_keeps_entries empty (startOver ++ addTwice)).2.2.2 _).2 _ hfound
  exact ⟨hgrows, hkeeps, by decide +kernel, by decide +kernel, hfound, honly.2.2⟩

end Catalogue

end FlawQuery
