/-
# FlawQuery.Proofs.FirstRefusal -- entries and patterns are taken in up to the first that is refused

Entries of another catalogue and patterns of a file are taken in one by one, each checked against
what is there by then. Here that is put in terms of what was given: of another catalogue, all is added
if no id is shared, and else what stands before the first shared id. Of the patterns of a file, each
must have a template and an id that none before it has; the first that does not decides what the file
is refused for, and its template counts before its id. A file on top of the builtin catalogue is
settled by itself first.
-/

import FlawQuery.Proofs.CatalogueRuns
import FlawQuery.Proofs.FirstViolation

namespace FlawQuery

namespace Catalogue

/-! ## Extending -/

theorem disjoint_ids_iff {c other : Catalogue} :
    c.ids.Disjoint other.ids ↔ ∀ e ∈ other.entries, e.id ∉ c.ids := by
  constructor
  · intro h e he hid
    exact h hid (List.mem_map_of_mem he)
  · intro h id hid hother
    obtain ⟨e, he, rfl⟩ := List.mem_map.1 hother
    exact h e he hid

theorem exists_taken_of_not_disjoint {c other : Catalogue} (h : ¬ c.ids.Disjoint other.ids) :
    ∃ e ∈ other.entries, e.id ∈ c.ids := by
  rw [disjoint_ids_iff] at h
  push Not at h
  exact h

/-- Only an id that is there already is refused, and then nothing changes. -/
theorem apply_insert_of_mem {c : Catalogue} {e : CatalogueEntry} (h : e.id ∈ c.ids) :
    c.apply (.insert e) = (c, some (.duplicatePattern e.id)) :=
  tryInsert_of_mem h

theorem apply_insert_snd_eq_none_iff {c : Catalogue} {e : CatalogueEntry} :
    (c.apply (.insert e)).2 = none ↔ e.id ∉ c.ids := by
  constructor
  · intro h hid
    rw [apply_insert_of_mem hid] at h
    cases h
  · intro hid
    obtain ⟨c', hinsert, _⟩ := exists_tryInsert_of_not_mem hid
    rw [apply, hinsert]

/-- Extending succeeds exactly if no id is shared, and adds all entries behind the old ones. Otherwise
the first entry whose id is there already is named, and precisely the entries before it have been
added. An entry by itself is refused exactly if its id is there already, and whatever comes after the
refusal goes as if the entry had never been offered. -/
theorem extend_adds_up_to_first_taken (c other : Catalogue) :
    ((c.extend other).2 = none ↔ c.ids.Disjoint other.ids) ∧
    (c.ids.Disjoint other.ids → (c.extend other).1.entries = c.entries ++ other.entries) ∧
    (¬ c.ids.Disjoint other.ids →
      ∃ before e after, other.entries = before ++ e :: after ∧ (∀ b ∈ before, b.id ∉ c.ids) ∧
        e.id ∈ c.ids ∧ (c.extend other).2 = some (.duplicatePattern e.id) ∧
          (c.extend other).1.entries = c.entries ++ before) ∧
    ∀ e, ((c.apply (.insert e)).2 = none ↔ e.id ∉ c.ids) ∧
      ((c.apply (.insert e)).2 ≠ none →
        c.apply (.insert e) = (c, some (.duplicatePattern e.id)) ∧
          ∀ more, c.run (.insert e :: more) = c.run more) := by
  refine ⟨⟨fun h => ?_, fun h => ?_⟩, fun h => ?_, fun h => ?_, fun e => ⟨?_, fun h => ?_⟩⟩
  · by_contra hshared
    obtain ⟨_, e, _, c', _, _, _, hextend, _⟩ :=
      extend_of_taken (exists_taken_of_not_disjoint hshared)
    rw [hextend] at h
    cases h
  · obtain ⟨c', hextend, _⟩ := extend_of_fresh (disjoint_ids_iff.1 h)
    rw [hextend]
  · obtain ⟨c', hextend, hentries⟩ := extend_of_fresh (disjoint_ids_iff.1 h)
    rw [hextend]
    exact hentries
  · obtain ⟨before, e, after, c', hsplit, hnew, htaken, hextend, hentries⟩ :=
      extend_of_taken (exists_taken_of_not_disjoint h)
    rw [hextend]
    exact ⟨before, e, after, hsplit, hnew, htaken, rfl, hentries⟩
  · exact apply_insert_snd_eq_none_iff
  · rw [ne_eq, apply_insert_snd_eq_none_iff, not_not] at h
    have hrefused := apply_insert_of_mem h
    refine ⟨hrefused, fun more => ?_⟩
    rw [run, List.foldl_cons, hrefused]
    rfl

/-- Three entries; the builtin catalogue has the second, and a catalogue of the third has the third. -/
def serviceEntries : Catalogue where
  entries := [selfStart, noCondition, { selfStart with id := "apSelfStart2" }]
  nodup := by decide

theorem extend_adds_up_to_first_taken_secondOfThree :
    (¬ builtin.ids.Disjoint serviceEntries.ids ∧
      ∃ before e after, serviceEntries.entries = before ++ e :: after ∧
        (∀ b ∈ before, b.id ∉ builtin.ids) ∧ e.id ∈ builtin.ids ∧
          (builtin.extend serviceEntries).2 = some (.duplicatePattern e.id) ∧
            (builtin.extend serviceEntries).1.entries = builtin.entries ++ before) ∧
    (builtin.extend serviceEntries).1.entries = builtin.entries ++ [selfStart] ∧
    ((empty : Catalogue).ids.Disjoint serviceEntries.ids ∧
      (empty.extend serviceEntries).2 = none ∧
        (empty.extend serviceEntries).1.entries = empty.entries ++ serviceEntries.entries) ∧
    (serviceEntries.apply (.insert noCondition)).2 ≠ none ∧
      serviceEntries.apply (.insert noCondition) =
        (serviceEntries, some (.duplicatePattern "apNoCondition")) ∧
      serviceEntries.run [.insert noCondition, .insert missingReversal] =
        serviceEntries.run [.insert missingReversal] := by
  obtain ⟨_, _, hshared, _⟩ := extend_adds_up_to_first_taken builtin serviceEntries
  obtain ⟨hnone, hall, _, _⟩ := extend_adds_up_to_first_taken empty serviceEntries
  obtain ⟨_, _, _, hinsert⟩ := extend_adds_up_to_first_taken serviceEntries empty
  have hnot : ¬ builtin.ids.Disjoint serviceEntries.ids := fun h =>
    h (show "apNoCondition" ∈ builtin.ids by decide) (by decide)
  have hdisjoint : (empty : Catalogue).ids.Disjoint serviceEntries.ids := List.disjoint_nil_left _
  have hrefused : (serviceEntries.apply (.insert noCondition)).2 ≠ none := by decide +kernel
  obtain ⟨hsame, hlater⟩ := (hinsert noCondition).2 hrefused
  exact ⟨⟨hnot, hshared hnot⟩, by decide +kernel,
    ⟨hdisjoint, hnone.2 hdisjoint, hall hdisjoint⟩, hrefused, hsame, hlater _⟩

end Catalogue

/-! ## Patterns one after another -/

namespace PatternEntry

/-- Patterns that make a catalogue: each has a template, and no id occurs twice. -/
structure AllSound (patterns : List PatternEntry) : Prop where
  templates : ∀ p ∈ patterns, ∃ t, p.template.toTemplate = .ok t
  ids_distinct : (patterns.map PatternEntry.id).Nodup

instance : DecidablePred AllSound := fun patterns =>
  decidable_of_iff
    ((∀ p ∈ patterns, p.template.toTemplate.isOk = true) ∧ (patterns.map PatternEntry.id).Nodup) <| by
    have hvalid : ∀ p : PatternEntry,
        p.template.toTemplate.isOk = true ↔ ∃ t, p.template.toTemplate = .ok t := by
      intro p
      cases p.template.toTemplate with
      | error cause => simp [Except.isOk, Except.toBool]
      | ok t => simp [Except.isOk, Except.toBool]
    simp only [hvalid]
    exact ⟨fun h => ⟨h.1, h.2⟩, fun h => ⟨h.templates, h.ids_distinct⟩⟩

/-- Patterns one of which is refused after those before it do not make a catalogue. -/
theorem RefusedFor.not_allSound {before after : List PatternEntry} {p : PatternEntry}
    {fault : CatalogueFault} (h : p.RefusedFor (before.map PatternEntry.id) fault) :
    ¬ AllSound (before ++ p :: after) := by
  intro hsound
  cases h with
  | template hinvalid =>
      obtain ⟨t, ht⟩ := hsound.templates p (List.mem_append_right before List.mem_cons_self)
      rw [hinvalid] at ht
      cases ht
  | id _ htaken => exact nodup_map_iff_split.1 hsound.ids_distinct before p after rfl htaken

end PatternEntry

open PatternEntry (AllSound Becomes)

/-- A walk that fails has come through the elements before the one at which it fails. -/
theorem exists_split_of_foldlM_eq_error {ε α β : Type} {f : β → α → Except ε β} {l : List α}
    {fault : ε} : ∀ {b : β}, l.foldlM f b = .error fault →
      ∃ before a after b', l = before ++ a :: after ∧ before.foldlM f b = .ok b' ∧
        f b' a = .error fault := by
  induction l with
  | nil => intro b h; cases h
  | cons a l ih =>
      intro b h
      rw [List.foldlM_cons] at h
      rcases bind_eq_error_iff.1 h with hfirst | ⟨b₁, hfirst, hrest⟩
      · exact ⟨[], a, l, b, rfl, rfl, hfirst⟩
      · obtain ⟨before, next, after, b', rfl, hbefore, hfault⟩ := ih hrest
        refine ⟨a :: before, next, after, b', rfl, ?_, hfault⟩
        rw [List.foldlM_cons]
        exact bind_eq_ok_iff.2 ⟨b₁, hfirst, hbefore⟩

namespace Catalogue

variable {patterns : List PatternEntry} {c : Catalogue}

theorem ids_of_ofPatterns_eq_ok (h : ofPatterns patterns = .ok c) :
    c.ids = patterns.map PatternEntry.id :=
  PatternEntry.map_id_of_becomes (becomes_of_ofPatterns_eq_ok h)

theorem allSound_of_ofPatterns_eq_ok (h : ofPatterns patterns = .ok c) : AllSound patterns where
  templates := by
    intro p hp
    obtain ⟨i, hi, rfl⟩ := List.mem_iff_getElem.1 hp
    have hbecomes := becomes_of_ofPatterns_eq_ok h
    exact ⟨_, (hbecomes.get hi (hbecomes.length_eq ▸ hi)).template⟩
  ids_distinct := ids_of_ofPatterns_eq_ok h ▸ c.nodup

/-- The first pattern that is refused decides what all are refused for. -/
theorem refusedFor_of_ofPatterns_eq_error {fault : CatalogueFault}
    (h : ofPatterns patterns = .error fault) :
    ∃ before p after, patterns = before ++ p :: after ∧ AllSound before ∧
      p.RefusedFor (before.map PatternEntry.id) fault := by
  obtain ⟨before, p, after, c, hsplit, hbefore, hfault⟩ := exists_split_of_foldlM_eq_error h
  refine ⟨before, p, after, hsplit, allSound_of_ofPatterns_eq_ok hbefore, ?_⟩
  rw [← ids_of_ofPatterns_eq_ok hbefore]
  exact refusedFor_of_insertPattern_eq_error hfault

theorem exists_ofPatterns_eq_ok_iff : (∃ c, ofPatterns patterns = .ok c) ↔ AllSound patterns := by
  constructor
  · rintro ⟨c, hc⟩
    exact allSound_of_ofPatterns_eq_ok hc
  · intro hsound
    cases h : ofPatterns patterns with
    | ok c => exact ⟨c, rfl⟩
    | error fault =>
        obtain ⟨before, p, after, rfl, _, hrefused⟩ := refusedFor_of_ofPatterns_eq_error h
        exact absurd hsound hrefused.not_allSound

end Catalogue

/-! ## Files -/

namespace CatalogueSource

variable {m : Type → Type} [Monad m] [LawfulMonad m] {files : Files m} {path s : String}
  {patterns : List PatternEntry}

/-- Once the text of a file has been read as patterns, they decide about the catalogue. -/
theorem load_file_of_patterns (hfile : files.read path = pure (.ok s))
    (hread : patternsShape.reader.run s = .ok patterns) (includeBuiltin : Bool) :
    (file path includeBuiltin).load files = pure
      (match Catalogue.ofPatterns patterns with
      | .error fault => .error fault
      | .ok c => if includeBuiltin then Catalogue.builtin.union c else .ok c) := by
  have hjson : Catalogue.ofJson s = Catalogue.ofPatterns patterns := by
    simp only [Catalogue.ofJson, hread]
  rewrite [load_file, hfile, pure_bind, ← hjson]
  rfl

/-- A file of sound patterns gives the catalogue of what they stand for, in their order; if the
builtin catalogue has none of their ids, the two become one, and else the first shared id is named. A
file of other patterns is refused for the first that has no template or an id from before, and its
template counts before its id; including the builtin catalogue does not matter then. -/
theorem load_file_eq_patterns_or_first_refusal (hfile : files.read path = pure (.ok s))
    (hread : patternsShape.reader.run s = .ok patterns) :
    (AllSound patterns →
      ∃ c, (file path false).load files = pure (.ok c) ∧
        List.Forall₂ Becomes patterns c.entries ∧
        ((∀ p ∈ patterns, p.id ∉ Catalogue.builtin.ids) →
          ∃ c', (file path true).load files = pure (.ok c') ∧
            c'.entries = Catalogue.builtin.entries ++ c.entries) ∧
        ((∃ p ∈ patterns, p.id ∈ Catalogue.builtin.ids) →
          ∃ before p after, patterns = before ++ p :: after ∧
            (∀ b ∈ before, b.id ∉ Catalogue.builtin.ids) ∧ p.id ∈ Catalogue.builtin.ids ∧
              (file path true).load files = pure (.error (.duplicatePattern p.id)))) ∧
    (¬ AllSound patterns →
      ∃ before p after fault, patterns = before ++ p :: after ∧ AllSound before ∧
        p.RefusedFor (before.map PatternEntry.id) fault ∧
          (file path false).load files = pure (.error fault) ∧
            (file path true).load files = pure (.error fault)) := by
  have hload := load_file_of_patterns hfile hread
  constructor
  · intro hsound
    obtain ⟨c, hc⟩ := Catalogue.exists_ofPatterns_eq_ok_iff.2 hsound
    have hbecomes := Catalogue.becomes_of_ofPatterns_eq_ok hc
    have hids : c.entries.map CatalogueEntry.id = patterns.map PatternEntry.id :=
      PatternEntry.map_id_of_becomes hbecomes
    simp only [hc] at hload
    refine ⟨c, hload false, hbecomes, fun hfresh => ?_, fun htaken => ?_⟩
    · have hentries : ∀ e ∈ c.entries, e.id ∉ Catalogue.builtin.ids := by
        rw [← List.forall_mem_map (P := (· ∉ Catalogue.builtin.ids)), hids]
        exact List.forall_mem_map.2 hfresh
      obtain ⟨c', hunion, hc'⟩ := Catalogue.union_of_fresh hentries
      exact ⟨c', by rw [hload, if_pos rfl, hunion], hc'⟩
    · have hentries : ∃ e ∈ c.entries, e.id ∈ Catalogue.builtin.ids := by
        obtain ⟨p, hp, hid⟩ := htaken
        obtain ⟨e, he, heq⟩ := List.mem_map.1 (hids ▸ List.mem_map_of_mem hp)
        exact ⟨e, he, heq ▸ hid⟩
      obtain ⟨before, e, after, hsplit, hnew, hid, hunion⟩ := Catalogue.union_of_taken hentries
      -- patterns and entries have the same ids in the same places
      rw [hsplit, List.map_append, List.map_cons] at hids
      obtain ⟨earlier, p, later, hpatterns, hearlier, hp⟩ := exists_split_of_map_eq hids.symm
      refine ⟨earlier, p, later, hpatterns, ?_, hp ▸ hid, by rw [hload, if_pos rfl, hunion, hp]⟩
      rw [← List.forall_mem_map (P := (· ∉ Catalogue.builtin.ids)), hearlier]
      exact List.forall_mem_map.2 hnew
  · intro hunsound
    cases hpatterns : Catalogue.ofPatterns patterns with
    | ok c => exact absurd (Catalogue.allSound_of_ofPatterns_eq_ok hpatterns) hunsound
    | error fault =>
        obtain ⟨before, p, after, hsplit, hsound, hrefused⟩ :=
          Catalogue.refusedFor_of_ofPatterns_eq_error hpatterns
        simp only [hpatterns] at hload
        exact ⟨before, p, after, fault, hsplit, hsound, hrefused, hload false, hload true⟩

/-- A service that calls itself. -/
def loopPattern : PatternEntry where
  id := "apLoop"
  name := "Loop"
  template := {
    vertices := [{ id := "o", kind := .activity }]
    edges := [{ source := "o", target := "o" }] }

/-- The same under an id of the builtin catalogue. -/
def shadowPattern : PatternEntry := { loopPattern with id := "apNoCondition" }

/-- A pattern without edges, under an id that is taken once `loopPattern` is there. -/
def edgelessPattern : PatternEntry := { loopPattern with template := { vertices := [], edges := [] } }

/-- A file with one new pattern. -/
def newText : String :=
  "\x7b\"patterns\":[[\"apLoop\",\"Loop\",[[[\"o\",\"ACTIVITY\"]],[[\"o\",\"o\"]]]]]\x7d"

/-- A file with a builtin id behind a new one. -/
def sharedText : String :=
  "\x7b\"patterns\":[[\"apLoop\",\"Loop\",[[[\"o\",\"ACTIVITY\"]],[[\"o\",\"o\"]]]]," ++
    "[\"apNoCondition\",\"Loop\",[[[\"o\",\"ACTIVITY\"]],[[\"o\",\"o\"]]]]]\x7d"

/-- A file whose second pattern has neither edges nor an id of its own. -/
def brokenText : String :=
  "\x7b\"patterns\":[[\"apLoop\",\"Loop\",[[[\"o\",\"ACTIVITY\"]],[[\"o\",\"o\"]]]]," ++
    "[\"apLoop\",\"Loop\",[[],[]]]]\x7d"

/-- The three files by their names. -/
def patternFiles : Files Id where
  present _ := true
  read path := .ok <|
    if path = "new.json" then newText
    else if path = "shared.json" then sharedText
    else brokenText

theorem load_file_eq_patterns_or_first_refusal_threeFiles :
    (AllSound [loopPattern] ∧
      ∃ c c', (file "new.json" false).load patternFiles = pure (.ok c) ∧
        List.Forall₂ Becomes [loopPattern] c.entries ∧
        (file "new.json" true).load patternFiles = pure (.ok c') ∧
          c'.entries = Catalogue.builtin.entries ++ c.entries) ∧
    (AllSound [loopPattern, shadowPattern] ∧
      ∃ before p after, [loopPattern, shadowPattern] = before ++ p :: after ∧
        (∀ b ∈ before, b.id ∉ Catalogue.builtin.ids) ∧ p.id ∈ Catalogue.builtin.ids ∧
          (file "shared.json" true).load patternFiles = pure (.error (.duplicatePattern p.id))) ∧
    ¬ AllSound [loopPattern, edgelessPattern] ∧
      ∃ before p after fault,
        [loopPattern, edgelessPattern] = before ++ p :: after ∧ AllSound before ∧
          p.RefusedFor (before.map PatternEntry.id) fault ∧
            (file "broken.json" false).load patternFiles = pure (.error fault) ∧
              (file "broken.json" true).load patternFiles = pure (.error fault) ∧
                fault = .invalidTemplate "apLoop" .noEdges := by
  have hfileNew : patternFiles.read "new.json" = pure (.ok newText) := rfl
  have hfileShared : patternFiles.read "shared.json" = pure (.ok sharedText) := rfl
  have hfileBroken : patternFiles.read "broken.json" = pure (.ok brokenText) := rfl
  have hreadNew : patternsShape.reader.run newText = .ok [loopPattern] := by decide +kernel
  have hreadShared : patternsShape.reader.run sharedText = .ok [loopPattern, shadowPattern] := by
    decide +kernel
  have hreadBroken : patternsShape.reader.run brokenText = .ok [loopPattern, edgelessPattern] := by
    decide +kernel
  have hsound : AllSound [loopPattern] := by decide +kernel
  have hsound' : AllSound [loopPattern, shadowPattern] := by decide +kernel
  have hunsound : ¬ AllSound [loopPattern, edgelessPattern] := by decide +kernel
  obtain ⟨c, hload, hbecomes, hfresh, _⟩ :=
    (load_file_eq_patterns_or_first_refusal hfileNew hreadNew).1 hsound
  obtain ⟨c', hjoined, hentries⟩ := hfresh (by decide +kernel)
  obtain ⟨_, _, _, _, htaken⟩ :=
    (load_file_eq_patterns_or_first_refusal hfileShared hreadShared).1 hsound'
  obtain ⟨before, p, after, fault, hsplit, hbefore, hrefused, halone, hboth⟩ :=
    (load_file_eq_patterns_or_first_refusal hfileBroken hreadBroken).2 hunsound
  have hpatterns : Catalogue.ofPatterns [loopPattern, edgelessPattern] =
      .error (.invalidTemplate "apLoop" .noEdges) := by
    decide +kernel
  have hfault := load_file_of_patterns hfileBroken hreadBroken false
  rw [hpatterns] at hfault
  exact ⟨⟨hsound, c, c', hload, hbecomes, hjoined, hentries⟩, ⟨hsound', htaken (by decide +kernel)⟩,
    hunsound, before, p, after, fault, hsplit, hbefore, hrefused, halone, hboth,
    Except.error.inj (halone.symm.trans hfault)⟩

end CatalogueSource

end FlawQuery
