/-
# FlawQuery.Proofs.EdgePass -- what the pass over the edges collects, in closed form

Merging the statements of one edge is the same as recording them one by one, because `merge`
commutes with every operation that records (`merge_matchVertex`, `merge_addPlaceholder`). So the
whole pass is one run of writes to each map and one concatenation for each list, and
`foldl_compileStep` says so in a single equation: the statements after the pass are `collect`, the
counters are `Counters.after`. All that is known about a compiled query is read off this equation.
-/

import FlawQuery.Compile
import FlawQuery.Proofs.MapLaws

namespace FlawQuery

open Template (Link)

/-! ## Merging records one by one -/

namespace Statements

theorem merge_matchVertex (s other : Statements) (node : NodePattern) (optional : Bool) :
    s.merge (other.matchVertex node optional) = (s.merge other).matchVertex node optional := by
  simp only [merge, matchVertex, OrderedMap.insertAll_insert]

theorem merge_addPlaceholder (s other : Statements) (group vertex : String) :
    s.merge (other.addPlaceholder group vertex) = (s.merge other).addPlaceholder group vertex := by
  simp only [merge, addPlaceholder, OrderedMap.appendAll_appendAt]

theorem merge_addPlaceholderOf (s other : Statements) (v : Vertex) :
    s.merge (other.addPlaceholderOf v) = (s.merge other).addPlaceholderOf v := by
  unfold addPlaceholderOf
  cases v.group? with
  | none => rfl
  | some group => exact s.merge_addPlaceholder other group v.id

end Statements

/-! ## What one edge contributes -/

/-- The entry of a placeholder vertex under its group, none for any other vertex. -/
def Vertex.joins (v : Vertex) : List (String × List String) :=
  (v.group?.map fun group => (group, [v.id])).toList

namespace Template.Link

/-- The vertex matches of an edge, each under its variable; the source comes first. -/
def touches (l : Link) : List (String × VertexMatch) :=
  [(l.source.id, ⟨.ofVertex l.source, false⟩), (l.target.id, ⟨.ofVertex l.target, l.edge.missing⟩)]

/-- The endpoints that belong to a placeholder group, each under the group. -/
def joins (l : Link) : List (String × List String) :=
  l.source.joins ++ l.target.joins

/-- The target of a missing edge. -/
def absentTargets (l : Link) : List String :=
  if l.edge.missing then [l.target.id] else []

end Template.Link

/-- What the edges contribute in turn, each given the counters that it finds. -/
def gather {α : Type} (f : Link → Counters → List α) : Counters → List Link → List α
  | _, [] => []
  | c, l :: rest => f l c ++ gather f (l.advance c) rest

/-- The counters after some edges: present edges use up path names, all edges use up relationship
names. -/
def Counters.after (c : Counters) (links : List Link) : Counters where
  paths := c.paths + links.countP fun l => !l.edge.missing
  relations := c.relations + links.length

theorem Counters.after_cons (c : Counters) (l : Link) (rest : List Link) :
    c.after (l :: rest) = (l.advance c).after rest := by
  cases hmissing : l.edge.missing <;>
    simp [after, Link.advance, hmissing, Nat.add_assoc, Nat.add_comm 1]

/-- What later edges contribute depends on earlier ones only through the counters. -/
theorem gather_append {α : Type} (f : Link → Counters → List α) (before after : List Link) :
    ∀ c : Counters,
      gather f c (before ++ after) = gather f c before ++ gather f (c.after before) after := by
  induction before with
  | nil => intro c; rfl
  | cons l rest ih =>
      intro c
      rw [List.cons_append, gather, gather, ih, c.after_cons, List.append_assoc]

/-- Each edge sees the counters after the edges before its position. -/
theorem gather_eq_flatMap_zipIdx {α : Type} (f : Link → Counters → List α) (links : List Link) :
    ∀ c : Counters,
      gather f c links = links.zipIdx.flatMap fun l => f l.1 (c.after (links.take l.2)) := by
  induction links with
  | nil => intro c; rfl
  | cons l rest ih =>
      intro c
      rw [gather, ih, List.zipIdx_cons, List.flatMap_cons, List.zipIdx_succ, List.flatMap_map]
      -- in `rest` every position is one less, and `l` has moved the counters already
      simp only [List.take_succ_cons, Counters.after_cons]
      rfl

/-- Whatever is gathered comes from one of the edges, and that edge sees the counters that the edges
before it have left. -/
theorem mem_gather {α : Type} {f : Link → Counters → List α} {x : α} {links : List Link} :
    ∀ {c : Counters}, x ∈ gather f c links ↔
      ∃ before l after, links = before ++ l :: after ∧ x ∈ f l (c.after before) := by
  induction links with
  | nil => intro c; simp [gather]
  | cons l rest ih =>
      intro c
      rw [gather, List.mem_append, ih]
      constructor
      · rintro (hx | ⟨before, l', after, rfl, hx⟩)
        · exact ⟨[], l, rest, rfl, hx⟩
        · exact ⟨l :: before, l', after, rfl, (c.after_cons l before).symm ▸ hx⟩
      · rintro ⟨before, l', after, hsplit, hx⟩
        cases before with
        | nil =>
            obtain ⟨rfl, rfl⟩ := List.cons.inj hsplit
            exact Or.inl hx
        | cons b before =>
            obtain ⟨rfl, rfl⟩ := List.cons.inj hsplit
            exact Or.inr ⟨before, l', after, rfl, c.after_cons l before ▸ hx⟩

/-- The path variables that an edge takes are those of its matches. -/
theorem pathVariables_advance (l : Link) (c : Counters) :
    (l.advance c).pathVariables = c.pathVariables ++ (l.edgeMatches c).map EdgeMatch.path := by
  unfold Link.advance Link.edgeMatches
  cases l.edge.missing with
  | true => simp [Counters.pathVariables_takeRelation]
  | false => simp [Counters.pathVariables_takePath, Counters.pathVariables_takeRelation]

/-- So after some edges the list has grown by the paths that were matched, in their order. -/
theorem Counters.pathVariables_after (links : List Link) :
    ∀ c : Counters, (c.after links).pathVariables =
      c.pathVariables ++ (gather Link.edgeMatches c links).map EdgeMatch.path := by
  induction links with
  | nil => intro c; exact (List.append_nil _).symm
  | cons l rest ih =>
      intro c
      rw [c.after_cons, ih, pathVariables_advance, gather, List.map_append, List.append_assoc]

/-! ## The whole pass -/

/-- The statements `s` together with all that the edges contribute. -/
def Statements.collect (s : Statements) (c : Counters) (links : List Link) : Statements where
  vertices := s.vertices.alterAll (fun m _ => m) (links.flatMap Link.touches)
  edges := s.edges ++ gather Link.edgeMatches c links
  constraints := s.constraints ++ gather Link.constraints c links
  placeholders := s.placeholders.alterAll (fun ids present => present.getD [] ++ ids)
    (links.flatMap Link.joins)
  absentTargets := s.absentTargets ++ links.flatMap Link.absentTargets

namespace Statements

theorem collect_nil (s : Statements) (c : Counters) : s.collect c [] = s := by
  simp [collect, gather]

theorem collect_cons (s : Statements) (c : Counters) (l : Link) (rest : List Link) :
    s.collect c (l :: rest) = (s.collect c [l]).collect (l.advance c) rest := by
  simp [collect, gather, OrderedMap.alterAll_append]

theorem addPlaceholderOf_eq (s : Statements) (v : Vertex) :
    s.addPlaceholderOf v = { s with
      placeholders := s.placeholders.alterAll (fun ids present => present.getD [] ++ ids)
        v.joins } := by
  unfold addPlaceholderOf Vertex.joins
  cases v.group? with
  | none => rfl
  | some group => rfl

/-- Merging the statements of one edge adds what the edge contributes. -/
theorem merge_statements (s : Statements) (c : Counters) (l : Link) :
    s.merge (l.statements c) = s.collect c [l] := by
  unfold Link.statements
  -- the merge passes inwards through the four records of the edge
  rw [merge_addPlaceholderOf, merge_addPlaceholderOf, merge_matchVertex, merge_matchVertex,
    addPlaceholderOf_eq, addPlaceholderOf_eq]
  simp only [merge, matchVertex, collect, gather, List.flatMap_cons, List.flatMap_nil,
    List.append_nil, Link.joins, OrderedMap.alterAll_append]
  rfl

end Statements

/-- The pass in closed form. -/
theorem foldl_compileStep (links : List Link) :
    ∀ (s : Statements) (c : Counters),
      links.foldl compileStep (s, c) = (s.collect c links, c.after links) := by
  induction links with
  | nil => intro s c; rw [s.collect_nil]; rfl
  | cons l rest ih =>
      intro s c
      rw [List.foldl_cons, compileStep, s.merge_statements, ih, ← s.collect_cons, ← c.after_cons]

theorem compileLinks_eq (c : Counters) (links : List Link) :
    compileLinks c links = (Statements.empty.collect c links, c.after links) :=
  foldl_compileStep links .empty c

end FlawQuery
