/-
# FlawQuery.Template.Basic -- vertices and edges of a flaw template

A template is a small graph that describes a known structural flaw of a process model. Its vertices
are process elements, its edges are connections that must exist, repeat within bounds, or be absent.
This module holds the parts; `FlawQuery.Template.Build` says when they form a template.
-/

namespace FlawQuery

/-- The kinds of process element. -/
inductive VertexType where
  | activity
  | event
  | gateway
  deriving DecidableEq, Repr

namespace VertexType

/-- The graph label of the kind. -/
def label : VertexType → String
  | activity => "ACTIVITY"
  | event => "EVENT"
  | gateway => "GATEWAY"

/-- All kinds, in the order in which messages list them. -/
def all : List VertexType := [activity, event, gateway]

/-- The kind with the given label. -/
def ofLabel? (s : String) : Option VertexType :=
  all.find? (·.label = s)

@[simp] theorem ofLabel?_label (k : VertexType) : ofLabel? k.label = some k := by
  cases k <;> rfl

end VertexType

/-- A process element of a template. -/
structure Vertex where
  /-- The name within the template; it is also the query variable. -/
  id : String
  kind : VertexType
  /-- A second label, or for a placeholder the name of its group; empty for none. -/
  variant : String := ""
  /-- The concrete label is left open, but is shared with the other members of the group. -/
  placeholder : Bool := false
  deriving DecidableEq, Repr

namespace Vertex

/-- The variant where it narrows the label: placeholders leave the label open, and an empty variant
adds nothing. -/
def labelVariant? (v : Vertex) : Option String :=
  if v.placeholder || v.variant.isEmpty then none else some v.variant

/-- The group of a placeholder. -/
def group? (v : Vertex) : Option String :=
  if v.placeholder then some v.variant else none

end Vertex

/-- How often an edge may repeat at most. -/
inductive UpperBound where
  | bounded (n : Nat)
  | unbounded
  deriving DecidableEq, Repr

namespace UpperBound

/-- The bound leaves room for `lower` repetitions. -/
def admits (lower : Nat) : UpperBound → Bool
  | bounded n => lower ≤ n
  | unbounded => true

/-- The bound in words. -/
def text : UpperBound → String
  | bounded n => toString n
  | unbounded => "unbounded"

/-- Bounds are ordered by what they admit: by number, and no bound at all comes last. -/
def order : UpperBound → UpperBound → Ordering
  | bounded m, bounded n => compare m n
  | bounded _, unbounded => .lt
  | unbounded, bounded _ => .gt
  | unbounded, unbounded => .eq

instance : Ord UpperBound := ⟨order⟩

end UpperBound

/-- A connection of a template, by default a single one that must exist and has no condition. -/
structure Edge where
  /-- The id of the vertex that the connection leaves. -/
  source : String
  /-- The id of the vertex that the connection enters. -/
  target : String
  lower : Nat := 1
  upper : UpperBound := .bounded 1
  /-- The connection must not exist. -/
  missing : Bool := false
  /-- The value that the connection's `condition` property must have. -/
  condition : Option String := none
  deriving DecidableEq, Repr

namespace Edge

/-- Replaces the least number of repetitions. -/
def withLower (e : Edge) (n : Nat) : Edge := { e with lower := n }

/-- Replaces the greatest number of repetitions. -/
def withUpper (e : Edge) (u : UpperBound) : Edge := { e with upper := u }

/-- Replaces both numbers of repetitions. -/
def withBounds (e : Edge) (n : Nat) (u : UpperBound) : Edge := (e.withLower n).withUpper u

/-- Turns the edge into a connection that must be absent. -/
def absent (e : Edge) : Edge := { e with missing := true }

/-- Requires the value `s` of the `condition` property. -/
def withCondition (e : Edge) (s : String) : Edge := { e with condition := some s }

end Edge

end FlawQuery
