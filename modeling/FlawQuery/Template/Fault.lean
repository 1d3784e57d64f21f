/-
# FlawQuery.Template.Fault -- why a graph is no template

Each constructor is one cause, with the place and the value that caused it. `message` is the only
place that words them.
-/

import FlawQuery.Template.Basic

namespace FlawQuery

/-- A text of a vertex that has to be a plain name. -/
inductive NameField where
  | vertexId
  | variant
  | placeholderGroup
  deriving DecidableEq, Repr

/-- The field in words. -/
def NameField.text : NameField → String
  | vertexId => "vertex id"
  | variant => "variant"
  | placeholderGroup => "placeholder group"

/-- One of the two repetition bounds of an edge. -/
inductive BoundSide where
  | lower
  | upper
  deriving DecidableEq, Repr

/-- The side in words. -/
def BoundSide.text : BoundSide → String
  | lower => "lower"
  | upper => "upper"

/-- The causes for which a graph is refused; `edge` is the position of the edge, counted from 0. -/
inductive TemplateFault where
  | unknownVertex (edge : Nat) (vertex : String)
  | invalidBounds (edge lower : Nat) (upper : UpperBound)
  | negativeBound (edge : Nat) (side : BoundSide) (value : Int)
  | boundOutOfRange (edge : Nat) (side : BoundSide) (value : Int)
  | invalidUpperBound (edge : Nat) (value : String)
  | invalidIdentifier (field : NameField) (value : String)
  | duplicateVertex (id : String)
  | noEdges
  | unanchoredMissingEdge (edge : Nat)
  deriving DecidableEq, Repr

/-- The two classes of faults. -/
inductive FaultKind where
  /-- An edge points at a vertex that is not there. -/
  | reference
  /-- The graph itself is malformed. -/
  | validation
  deriving DecidableEq, Repr

/-- The class in words. -/
def FaultKind.text : FaultKind → String
  | reference => "Reference"
  | validation => "Validation"

/-- The greatest number of repetitions that a document may ask for. -/
def maxBound : Nat := 4294967295

namespace TemplateFault

/-- Only an unknown endpoint is a fault of reference. -/
def kind : TemplateFault → FaultKind
  | unknownVertex .. => .reference
  | _ => .validation

/-- The name under which the cause is reported. -/
def name : TemplateFault → String
  | unknownVertex .. => "UnknownVertex"
  | invalidBounds .. => "InvalidBounds"
  | negativeBound .. => "NegativeBound"
  | boundOutOfRange .. => "BoundOutOfRange"
  | invalidUpperBound .. => "InvalidUpperBound"
  | invalidIdentifier .. => "InvalidIdentifier"
  | duplicateVertex _ => "DuplicateVertex"
  | noEdges => "NoEdges"
  | unanchoredMissingEdge _ => "UnanchoredMissingEdge"

/-- The cause in words. -/
def message : TemplateFault → String
  | unknownVertex edge vertex => s!"Edge {edge} references unknown vertex '{vertex}'"
  | invalidBounds edge lower upper =>
    s!"Edge {edge} has invalid bounds: lower {lower} exceeds upper {upper.text}"
  | negativeBound edge side value => s!"Edge {edge} has negative {side.text} bound {value}"
  | boundOutOfRange edge side value =>
    s!"Edge {edge} has {side.text} bound {value} out of range (maximum {maxBound})"
  | invalidUpperBound edge value =>
    s!"Edge {edge} has invalid upper bound '{value}' (expected a number, \"unbounded\" or \"*\")"
  | invalidIdentifier field value =>
    s!"Invalid {field.text} '{value}': expected letters, digits or '_', not starting with a digit"
  | duplicateVertex id => s!"Duplicate vertex id '{id}'"
  | noEdges => "Template has no edges"
  | unanchoredMissingEdge edge =>
    s!"Missing edge {edge} has no preceding edge to anchor its absence check"

end TemplateFault

end FlawQuery
