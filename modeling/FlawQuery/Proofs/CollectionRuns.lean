/-
# FlawQuery.Proofs.CollectionRuns -- what collections of statements hold after any work on them

Several collections are filled side by side: something is recorded in one of them, or one is merged
into another. Beside each stands its journal, a plain list of all that it has been told, in order of
arrival; what a collection takes over by a merge enters its journal as the journal of the other one.
Since a merge passes through every single record (`merge_record`), each collection is what its
journal makes of the empty one (`run_eq_recordAll`). Its contents are then read off a list: first
arrivals give the order of the names, last arrivals their matches, and a placeholder group lists
whatever has arrived for it.
-/

import FlawQuery.Proofs.StatementMerging

namespace FlawQuery

namespace Statements

/-! ## Collections and their journals -/

/-- One thing that a collection is told. -/
inductive Record where
  | vertex (m : VertexMatch)
  | member (group vertex : String)
  | edge (m : EdgeMatch)
  | constraint (c : Constraint)
  | absentTarget (vertex : String)

/-- Records one thing. -/
def record (s : Statements) : Record → Statements
  | .vertex m => s.matchVertex m.node m.optional
  | .member group vertex => s.addPlaceholder group vertex
  | .edge m => s.addEdge m
  | .constraint c => s.addConstraint c
  | .absentTarget vertex => s.addAbsentTarget vertex

/-- Records one thing after another. -/
def recordAll (s : Statements) (journal : List Record) : Statements :=
  journal.foldl record s

/-- A step of work on several collections, which are told apart by numbers. -/
inductive Step where
  | record (target : Nat) (r : Record)
  /-- Merges `source`, as it is now, into `target`. -/
  | merge (target source : Nat)

/-- What a step makes of the collections. -/
def Step.perform (collections : Nat → Statements) : Step → Nat → Statements
  | record target r => Function.update collections target ((collections target).record r)
  | merge target source =>
      Function.update collections target ((collections target).merge (collections source))

/-- What a step adds to the journals. -/
def Step.note (journals : Nat → List Record) : Step → Nat → List Record
  | record target r => Function.update journals target (journals target ++ [r])
  | merge target source =>
      Function.update journals target (journals target ++ journals source)

/-- The collections after some steps; all of them start empty. -/
def run (steps : List Step) : Nat → Statements :=
  steps.foldl Step.perform fun _ => empty

/-- The journals after some steps. -/
def journals (steps : List Step) : Nat → List Record :=
  steps.foldl Step.note fun _ => []

/-! ## What a journal says -/

/-- The vertex match that is recorded. -/
def Record.vertex? : Record → Option VertexMatch
  | .vertex m => some m
  | _ => none

/-- The placeholder group and the vertex that joins it. -/
def Record.member? : Record → Option (String × String)
  | .member group id => some (group, id)
  | _ => none

/-- The relationship that is recorded. -/
def Record.edge? : Record → Option EdgeMatch
  | .edge m => some m
  | _ => none

/-- The constraint that is recorded. -/
def Record.constraint? : Record → Option Constraint
  | .constraint c => some c
  | _ => none

/-- The target of a missing edge that is recorded. -/
def Record.absentTarget? : Record → Option String
  | .absentTarget id => some id
  | _ => none

/-- A collection holds what its journal says: a vertex has the place of its first match and the
contents of its last one, a placeholder group has all its arrivals, and the lists have all that was
added to them. -/
structure Keeps (s : Statements) (journal : List Record) : Prop where
  /-- Names stand in the order of their first matches. -/
  keys_eq : s.vertices.keys = ((journal.filterMap Record.vertex?).map (·.node.name)).eraseDups
  /-- A name holds the last match that has been recorded for it. -/
  mem_entries_iff : ∀ name m, (name, m) ∈ s.vertices.entries ↔
    ∃ before after, journal.filterMap Record.vertex? = before ++ m :: after ∧ m.node.name = name ∧
      ∀ later ∈ after, later.node.name ≠ name
  /-- Groups stand in the order of their first arrivals. -/
  groups_eq : s.placeholders.keys = ((journal.filterMap Record.member?).map Prod.fst).eraseDups
  /-- A group lists its arrivals in order, a vertex as often as it has arrived. -/
  members_eq : ∀ e ∈ s.placeholders.entries,
    e.2 = ((journal.filterMap Record.member?).filter (·.1 = e.1)).map Prod.snd
  edges_eq : s.edges = journal.filterMap Record.edge?
  constraints_eq : s.constraints = journal.filterMap Record.constraint?
  absentTargets_eq : s.absentTargets = journal.filterMap Record.absentTarget?

/-- What holds of a collection whatever it has been told. -/
structure WellFormed (s : Statements) : Prop where
  keys_nodup : s.vertices.keys.Nodup
  /-- A match stands under its own variable. -/
  key_eq_name : ∀ e ∈ s.vertices.entries, e.1 = e.2.node.name
  group_ne_nil : ∀ e ∈ s.placeholders.entries, e.2 ≠ []

/-- The mandatory and the optional vertices are the matched vertices in two parts. -/
structure Splits (s : Statements) : Prop where
  mandatory_sublist : s.mandatory.Sublist s.vertices.values
  optional_sublist : s.optional.Sublist s.vertices.values
  /-- No match is lost and none occurs twice. -/
  perm : (s.mandatory ++ s.optional).Perm s.vertices.values
  mandatory_spec : ∀ m ∈ s.mandatory, m.optional = false
  optional_spec : ∀ m ∈ s.optional, m.optional = true
  /-- No vertex is in both parts. -/
  apart : ∀ m ∈ s.mandatory, ∀ m' ∈ s.optional, m.node.name ≠ m'.node.name

/-! ## Collections as their journals make them -/

theorem recordAll_append (s : Statements) (first second : List Record) :
    s.recordAll (first ++ second) = (s.recordAll first).recordAll second :=
  List.foldl_append

/-- What is recorded last in a part is recorded last in the whole. -/
theorem merge_record (s other : Statements) (r : Record) :
    s.merge (other.record r) = (s.merge other).record r := by
  cases r with
  | vertex m => exact s.merge_matchVertex other m.node m.optional
  | member group id => exact s.merge_addPlaceholder other group id
  | edge m => simp only [record, merge, addEdge, List.append_assoc]
  | constraint c => simp only [record, merge, addConstraint, List.append_assoc]
  | absentTarget id => simp only [record, merge, addAbsentTarget, List.append_assoc]

theorem merge_recordAll (s : Statements) (journal : List Record) :
    ∀ other : Statements, s.merge (other.recordAll journal) = (s.merge other).recordAll journal := by
  induction journal with
  | nil => intro other; rfl
  | cons r rest ih =>
      intro other
      show s.merge ((other.record r).recordAll rest) = _
      rw [ih, s.merge_record]
      rfl

/-- Merging what two journals make of the empty collection is going through both. -/
theorem recordAll_merge_recordAll (first second : List Record) :
    (empty.recordAll first).merge (empty.recordAll second) = empty.recordAll (first ++ second) := by
  rw [merge_recordAll, merge_empty, recordAll_append]

/-- A step leaves each collection as its journal makes it. -/
theorem perform_recordAll (journals : Nat → List Record) (step : Step) :
    step.perform (empty.recordAll ∘ journals) = empty.recordAll ∘ step.note journals := by
  cases step with
  | record target r =>
      rw [Step.perform, Step.note, Function.comp_update, recordAll_append]
      rfl
  | merge target source =>
      rw [Step.perform, Step.note, Function.comp_update, ← recordAll_merge_recordAll]
      rfl

/-- So does all work that starts from empty collections. -/
theorem run_eq_recordAll (steps : List Step) : run steps = empty.recordAll ∘ journals steps := by
  show steps.foldl Step.perform (empty.recordAll ∘ fun _ => []) = _
  exact List.foldl_hom (empty.recordAll ∘ ·) perform_recordAll

/-! ## The contents that a journal makes -/

/-- A journal makes one run of writes to each map and adds to each list. -/
theorem recordAll_eq (journal : List Record) :
    ∀ s : Statements, s.recordAll journal = {
      vertices := s.vertices.alterAll (fun m _ => m)
        ((journal.filterMap Record.vertex?).map fun m => (m.node.name, m))
      edges := s.edges ++ journal.filterMap Record.edge?
      constraints := s.constraints ++ journal.filterMap Record.constraint?
      placeholders := s.placeholders.alterAll (fun ids present => present.getD [] ++ ids)
        ((journal.filterMap Record.member?).map fun a => (a.1, [a.2]))
      absentTargets := s.absentTargets ++ journal.filterMap Record.absentTarget? } := by
  induction journal with
  | nil => intro s; simp [recordAll]
  | cons r rest ih =>
      intro s
      show (s.record r).recordAll rest = _
      rw [ih]
      cases r <;> simp [record, matchVertex, addPlaceholder, addEdge, addConstraint,
        addAbsentTarget, List.filterMap_cons, Record.vertex?, Record.member?, Record.edge?,
        Record.constraint?, Record.absentTarget?, OrderedMap.insert, OrderedMap.appendAt]

section

variable (journal : List Record)

theorem keys_recordAll_vertices :
    (empty.recordAll journal).vertices.keys =
      ((journal.filterMap Record.vertex?).map (·.node.name)).eraseDups := by
  rw [recordAll_eq, OrderedMap.keys_alterAll, List.map_map]
  rfl

/-- A name finds the last match that bears it. -/
theorem get?_recordAll_vertices (name : String) :
    (empty.recordAll journal).vertices.get? name =
      (journal.filterMap Record.vertex?).reverse.find? (·.node.name = name) := by
  rw [recordAll_eq, OrderedMap.get?_alterAll_const, ← List.map_reverse, lookup_map_key]
  exact Option.or_none

theorem mem_entries_recordAll_vertices {name : String} {m : VertexMatch} :
    (name, m) ∈ (empty.recordAll journal).vertices.entries ↔
      ∃ before after, journal.filterMap Record.vertex? = before ++ m :: after ∧
        m.node.name = name ∧ ∀ later ∈ after, later.node.name ≠ name := by
  rw [OrderedMap.mem_entries_iff, get?_recordAll_vertices, find?_reverse_eq_some_iff]
  simp only [decide_eq_true_eq, decide_eq_false_iff_not]
  constructor
  · rintro ⟨hname, before, after, hsplit, hafter⟩
    exact ⟨before, after, hsplit, hname, hafter⟩
  · rintro ⟨before, after, hsplit, hname, hafter⟩
    exact ⟨hname, before, after, hsplit, hafter⟩

theorem keys_recordAll_placeholders :
    (empty.recordAll journal).placeholders.keys =
      ((journal.filterMap Record.member?).map Prod.fst).eraseDups := by
  rw [recordAll_eq, OrderedMap.keys_alterAll, List.map_map]
  rfl

/-- A group that anything has arrived for finds all its arrivals. -/
theorem get?_recordAll_placeholders {group : String}
    (h : group ∈ (journal.filterMap Record.member?).map Prod.fst) :
    (empty.recordAll journal).placeholders.get? group =
      some (((journal.filterMap Record.member?).filter (·.1 = group)).map Prod.snd) := by
  have hwritten : group ∈
      ((journal.filterMap Record.member?).map fun a => (a.1, [a.2])).map Prod.fst := by
    rwa [List.map_map]
  have hget := OrderedMap.get?_alterAll_append hwritten
  rw [List.filter_map, List.flatMap_map, ← List.map_eq_flatMap] at hget
  rw [recordAll_eq]
  exact hget

/-- What a journal makes of the empty collection is what the journal says. -/
theorem keeps_recordAll : (empty.recordAll journal).Keeps journal where
  keys_eq := keys_recordAll_vertices journal
  mem_entries_iff _ _ := mem_entries_recordAll_vertices journal
  groups_eq := keys_recordAll_placeholders journal
  members_eq e he := by
    have hgroup : e.1 ∈ (journal.filterMap Record.member?).map Prod.fst := by
      rw [← List.mem_eraseDups, ← keys_recordAll_placeholders]
      exact List.mem_map_of_mem he
    have hfound := OrderedMap.mem_entries_iff.1 he
    rw [get?_recordAll_placeholders journal hgroup] at hfound
    exact (Option.some.inj hfound).symm
  edges_eq := by rw [recordAll_eq]; rfl
  constraints_eq := by rw [recordAll_eq]; rfl
  absentTargets_eq := by rw [recordAll_eq]; rfl

end

/-! ## What every collection has -/

theorem Keeps.wellFormed {s : Statements} {journal : List Record} (h : s.Keeps journal) :
    s.WellFormed where
  keys_nodup := s.vertices.nodup
  key_eq_name e he := by
    obtain ⟨_, _, _, hname, _⟩ := (h.mem_entries_iff e.1 e.2).1 he
    exact hname.symm
  group_ne_nil e he := by
    have hgroup : e.1 ∈ s.placeholders.keys := List.mem_map_of_mem he
    rw [h.groups_eq, List.mem_eraseDups] at hgroup
    obtain ⟨a, ha, hae⟩ := List.mem_map.1 hgroup
    -- the arrival that has made the group is one of its members
    have hmember : a ∈ (journal.filterMap Record.member?).filter (·.1 = e.1) :=
      List.mem_filter.2 ⟨ha, by simpa using hae⟩
    rw [h.members_eq e he]
    exact List.ne_nil_of_mem (List.mem_map_of_mem hmember)

/-- The matches name the vertices under which they stand. -/
theorem WellFormed.values_names {s : Statements} (h : s.WellFormed) :
    s.vertices.values.map (·.node.name) = s.vertices.keys := by
  rw [OrderedMap.values, OrderedMap.keys, List.map_map]
  exact List.map_congr_left fun e he => (h.key_eq_name e he).symm

theorem WellFormed.splits {s : Statements} (h : s.WellFormed) : s.Splits where
  mandatory_sublist := List.filter_sublist
  optional_sublist := List.filter_sublist
  perm := by
    have hperm := List.filter_append_perm (fun m : VertexMatch => !m.optional) s.vertices.values
    simp only [Bool.not_not] at hperm
    exact hperm
  mandatory_spec m hm := by simpa using (List.mem_filter.1 hm).2
  optional_spec m hm := (List.mem_filter.1 hm).2
  apart m hm m' hm' hname := by
    obtain ⟨hvalue, hmandatory⟩ := List.mem_filter.1 hm
    obtain ⟨hvalue', hoptional⟩ := List.mem_filter.1 hm'
    have hnodup : (s.vertices.values.map (·.node.name)).Nodup := by
      rw [h.values_names]
      exact h.keys_nodup
    -- a name has one match, and that has one flag
    have heq : m = m' := List.inj_on_of_nodup_map hnodup hvalue hvalue' hname
    rw [heq, hoptional] at hmandatory
    cases hmandatory

/-- Whatever is recorded in collections that start empty, and however they are merged into each
other: each collection holds what its journal says, every name stands once and for its own match, no
placeholder group is empty, and the mandatory and the optional vertices are all the vertices in two
parts. -/
theorem run_keeps_journal (steps : List Step) (i : Nat) :
    (run steps i).Keeps (journals steps i) ∧ (run steps i).WellFormed ∧ (run steps i).Splits := by
  have hkeeps : (run steps i).Keeps (journals steps i) := by
    rw [run_eq_recordAll]
    exact keeps_recordAll (journals steps i)
  exact ⟨hkeeps, hkeeps.wellFormed, hkeeps.wellFormed.splits⟩

/-- The merge makes `a` optional where it stands; `b` is new, and so is the second arrival of `S`. -/
example :
    let steps : List Step := [
      .record 0 (.vertex ⟨⟨"a", none, .activity⟩, false⟩), .record 0 (.member "S" "a"),
      .record 1 (.vertex ⟨⟨"b", none, .event⟩, false⟩),
      .record 1 (.vertex ⟨⟨"a", some "X", .activity⟩, true⟩), .record 1 (.member "S" "b"),
      .merge 0 1]
    (run steps 0).vertices.entries =
      [("a", ⟨⟨"a", some "X", .activity⟩, true⟩), ("b", ⟨⟨"b", none, .event⟩, false⟩)] ∧
    (run steps 0).placeholders.entries = [("S", ["a", "b"])] := by
  decide

end Statements

end FlawQuery
