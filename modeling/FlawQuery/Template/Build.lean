/-
# FlawQuery.Template.Build -- the graphs that are templates

`firstFault?` walks the vertices and then the edges and names the first thing that is wrong. A
`Template` carries the fact that nothing is, so whoever holds one may rely on plain names, distinct
ids, known endpoints, orderly bounds, and a present edge before each missing one.
-/

import FlawQuery.Template.Fault
import FlawQuery.Text.Identifier

namespace FlawQuery

/-! ## Vertices -/

namespace Vertex

/-- What the variant is, for the message that refuses it. -/
def variantField (v : Vertex) : NameField :=
  if v.placeholder then .placeholderGroup else .variant

/-- The first fault of one vertex, given the ids before it: its id, its variant or group, and last
whether its id is taken. -/
def fault? (seen : List String) (v : Vertex) : Option TemplateFault :=
  if isIdentifier v.id = false then some (.invalidIdentifier .vertexId v.id)
  else if v.variant ≠ "" ∧ isIdentifier v.variant = false then
    some (.invalidIdentifier v.variantField v.variant)
  else if v.id ∈ seen then some (.duplicateVertex v.id)
  else none

/-- The first fault of a list of vertices that follow the ids `seen`. -/
def firstFault? (seen : List String) : List Vertex → Option TemplateFault
  | [] => none
  | v :: rest =>
    match v.fault? seen with
    | some fault => some fault
    | none => firstFault? (v.id :: seen) rest

end Vertex

/-! ## Edges -/

namespace Edge

/-- The first fault of the edge at position `index`: its source, its target, its bounds, and last
whether a missing edge lacks a present one before it. -/
def fault? (known : List String) (index : Nat) (anchored : Bool) (e : Edge) :
    Option TemplateFault :=
  if e.source ∉ known then some (.unknownVertex index e.source)
  else if e.target ∉ known then some (.unknownVertex index e.target)
  else if e.upper.admits e.lower = false then some (.invalidBounds index e.lower e.upper)
  else if e.missing = true ∧ anchored = false then some (.unanchoredMissingEdge index)
  else none

/-- The first fault of a list of edges from position `index` on; `anchored` says whether a present
edge came before. -/
def firstFault? (known : List String) : Nat → Bool → List Edge → Option TemplateFault
  | _, _, [] => none
  | index, anchored, e :: rest =>
    match e.fault? known index anchored with
    | some fault => some fault
    | none => firstFault? known (index + 1) (anchored || !e.missing) rest

end Edge

/-! ## Templates -/

/-- The first fault of a graph: vertices come first, then the lack of edges, then the edges. -/
def firstFault? (vertices : List Vertex) (edges : List Edge) : Option TemplateFault :=
  match Vertex.firstFault? [] vertices with
  | some fault => some fault
  | none =>
    if edges = [] then some .noEdges
    else Edge.firstFault? (vertices.map Vertex.id) 0 false edges

/-- A graph without faults. -/
structure Template where
  vertices : List Vertex
  edges : List Edge
  accepted : firstFault? vertices edges = none
  deriving DecidableEq

namespace Template

/-- The template with the given parts, or the first reason why there is none. -/
def build (vertices : List Vertex) (edges : List Edge) : Except TemplateFault Template :=
  match h : firstFault? vertices edges with
  | some fault => .error fault
  | none => .ok ⟨vertices, edges, h⟩

/-- The parts of a template to come, in the order in which they were added. -/
structure Draft where
  vertices : List Vertex := []
  edges : List Edge := []
  deriving DecidableEq, Repr

namespace Draft

/-- Adds a vertex after the others. -/
def vertex (d : Draft) (v : Vertex) : Draft := { d with vertices := d.vertices ++ [v] }

/-- Adds an edge after the others. -/
def edge (d : Draft) (e : Edge) : Draft := { d with edges := d.edges ++ [e] }

/-- Checks the parts; the draft itself can grow further. -/
def build (d : Draft) : Except TemplateFault Template := Template.build d.vertices d.edges

end Draft

/-- The vertex with the given id. -/
def vertex? (t : Template) (id : String) : Option Vertex :=
  t.vertices.find? (·.id = id)

/-- Some connection must be absent. -/
def hasMissing (t : Template) : Bool :=
  t.edges.any Edge.missing

/-- An edge together with the vertices that it joins. -/
structure Link where
  edge : Edge
  source : Vertex
  target : Vertex
  deriving DecidableEq, Repr

/-- The edge `e` with its endpoints looked up. -/
def link? (t : Template) (e : Edge) : Option Link := do
  let source ← t.vertex? e.source
  let target ← t.vertex? e.target
  return { edge := e, source, target }

/-- The edges of the template with their endpoints. -/
def links (t : Template) : List Link :=
  t.edges.filterMap t.link?

theorem build_eq_error_iff {vertices : List Vertex} {edges : List Edge} {fault : TemplateFault} :
    build vertices edges = .error fault ↔ firstFault? vertices edges = some fault := by
  unfold build
  split <;> rename_i h <;> simp [h]

theorem build_eq_ok_iff {vertices : List Vertex} {edges : List Edge} {t : Template} :
    build vertices edges = .ok t ↔
      firstFault? vertices edges = none ∧ t.vertices = vertices ∧ t.edges = edges := by
  unfold build
  split
  · rename_i h
    simp [h]
  · rename_i h
    obtain ⟨vs, es, ht⟩ := t
    constructor
    · intro hok
      cases hok
      exact ⟨h, rfl, rfl⟩
    · rintro ⟨_, hvs, hes⟩
      subst hvs
      subst hes
      rfl

end Template

end FlawQuery
