/-
# FlawQuery.Template.Document -- templates as they are written down

A document has the same vertices as a template, but its bounds are any 64-bit integers and its upper
bound may be a keyword. `toTemplate` settles the bounds of all edges first and then builds. `reader`
reads a document from JSON and `toValue` writes it back.
-/

import FlawQuery.Json.Shape
import FlawQuery.Template.Build

namespace FlawQuery

/-- An upper bound as it is written. -/
inductive BoundEntry where
  | count (n : Int)
  | keyword (s : String)
  deriving DecidableEq, Repr

/-- An edge as it is written. -/
structure EdgeEntry where
  source : String
  target : String
  lower : Int := 1
  upper : BoundEntry := .count 1
  missing : Bool := false
  condition : Option String := none
  deriving DecidableEq, Repr

/-- A template as it is written. -/
structure TemplateDocument where
  vertices : List Vertex
  edges : List EdgeEntry
  deriving DecidableEq, Repr

/-! ## From documents to templates -/

/-- A bound as a number of repetitions. -/
def boundValue (edge : Nat) (side : BoundSide) (n : Int) : Except TemplateFault Nat :=
  if n < 0 then .error (.negativeBound edge side n)
  else if (maxBound : Int) < n then .error (.boundOutOfRange edge side n)
  else .ok n.toNat

/-- The keywords that stand for no upper bound. -/
def unboundedKeywords : List String := ["unbounded", "*"]

namespace BoundEntry

/-- The bound that is meant. -/
def resolve (edge : Nat) : BoundEntry → Except TemplateFault UpperBound
  | count n => do
    let n ← boundValue edge .upper n
    return .bounded n
  | keyword s =>
    if s ∈ unboundedKeywords then .ok .unbounded else .error (.invalidUpperBound edge s)

end BoundEntry

namespace EdgeEntry

/-- The edge that is meant; its lower bound is settled before its upper one. -/
def resolve (index : Nat) (e : EdgeEntry) : Except TemplateFault Edge := do
  let lower ← boundValue index .lower e.lower
  let upper ← e.upper.resolve index
  return {
    source := e.source
    target := e.target
    lower
    upper
    missing := e.missing
    condition := e.condition }

/-- The edges that are meant, from position `index` on. -/
def resolveAll : (index : Nat) → List EdgeEntry → Except TemplateFault (List Edge)
  | _, [] => .ok []
  | index, e :: rest => do
    let edge ← e.resolve index
    let edges ← resolveAll (index + 1) rest
    return edge :: edges

end EdgeEntry

/-- The template that is meant. Bounds are settled before anything else is looked at. -/
def TemplateDocument.toTemplate (d : TemplateDocument) : Except TemplateFault Template := do
  let edges ← EdgeEntry.resolveAll 0 d.edges
  Template.build d.vertices edges

/-! ## Reading -/

open Json (Reader Field Shape)

/-- The kind of a vertex after its tag has been read as a text. -/
def VertexType.ofTag (s : String) : Reader VertexType :=
  match VertexType.ofLabel? s with
  | some kind => pure kind
  | none => .fail (.unknownVariant s (VertexType.all.map VertexType.label))

/-- The kind of a vertex: its label, or a record with the label as key and `null` as value. -/
def VertexType.reader : Reader VertexType := do
  match ← Reader.peek with
  | none => .fail .endInValue
  | some c =>
    if c = '"' then do
      let tag ← Reader.textAs "variant identifier"
      VertexType.ofTag tag
    else if c = '\x7b' then do
      Reader.advance
      -- the tag is read like any key, so what is no text is refused as a key, not as a tag
      match ← Reader.nextKey true with
      | none => .fail .valueExpected
      | some tag =>
        let kind ← VertexType.ofTag tag
        Reader.colon
        Reader.null
        match ← Reader.peek with
        | none => .fail .endInRecord
        | some c => do
          if c = '\x7d' then Reader.advance else .fail .valueExpected
          return kind
    else .fail .valueExpected

/-- The fields of a vertex read so far. -/
structure VertexDraft where
  id : Option String := none
  kind : Option VertexType := none
  variant : Option String := none
  placeholder : Option Bool := none

/-- Vertices are `id`, `type`, `variant` and `placeholder`; the last two have defaults. -/
def Vertex.shape : Shape VertexDraft Vertex where
  title := "struct VertexDef"
  fields := [
    .ofOption "id" true VertexDraft.id (fun d x => { d with id := some x }) Reader.text,
    .ofOption "type" true VertexDraft.kind (fun d x => { d with kind := some x })
      VertexType.reader,
    .ofOption "variant" false VertexDraft.variant (fun d x => { d with variant := some x })
      Reader.text,
    .ofOption "placeholder" false VertexDraft.placeholder
      (fun d x => { d with placeholder := some x }) Reader.boolean]
  blank := {}
  finish d := do
    let id ← Json.required "id" d.id
    let kind ← Json.required "type" d.kind
    return { id, kind, variant := d.variant.getD "", placeholder := d.placeholder.getD false }

/-- An upper bound: an integer or a text. -/
def BoundEntry.reader : Reader BoundEntry := do
  match ← Reader.value with
  | .integer n =>
    if n ≤ Reader.maxInteger then return .count n else .fail (.noAlternative "UpperDef")
  | .text s => return .keyword s
  | _ => .fail (.noAlternative "UpperDef")

/-- The fields of an edge read so far. -/
structure EdgeDraft where
  source : Option String := none
  target : Option String := none
  lower : Option Int := none
  upper : Option BoundEntry := none
  missing : Option Bool := none
  condition : Option (Option String) := none

/-- Edges are `from`, `to`, `lower`, `upper`, `missing` and `condition`; all but the first two have
defaults. -/
def EdgeEntry.shape : Shape EdgeDraft EdgeEntry where
  title := "struct EdgeDef"
  fields := [
    .ofOption "from" true EdgeDraft.source (fun d x => { d with source := some x }) Reader.text,
    .ofOption "to" true EdgeDraft.target (fun d x => { d with target := some x }) Reader.text,
    .ofOption "lower" false EdgeDraft.lower (fun d x => { d with lower := some x })
      Reader.integer,
    .ofOption "upper" false EdgeDraft.upper (fun d x => { d with upper := some x })
      BoundEntry.reader,
    .ofOption "missing" false EdgeDraft.missing (fun d x => { d with missing := some x })
      Reader.boolean,
    .ofOption "condition" false EdgeDraft.condition (fun d x => { d with condition := some x })
      Reader.optionalText]
  blank := {}
  finish d := do
    let source ← Json.required "from" d.source
    let target ← Json.required "to" d.target
    return {
      source
      target
      lower := d.lower.getD 1
      upper := d.upper.getD (.count 1)
      missing := d.missing.getD false
      condition := d.condition.getD none }

namespace TemplateDocument

/-- The fields of a document read so far. -/
structure Draft where
  vertices : Option (List Vertex) := none
  edges : Option (List EdgeEntry) := none

/-- Documents are `vertices` and `edges`. -/
def shape : Shape Draft TemplateDocument where
  title := "struct TemplateDef"
  fields := [
    .ofOption "vertices" true Draft.vertices (fun d x => { d with vertices := some x })
      (Reader.list Vertex.shape.reader),
    .ofOption "edges" true Draft.edges (fun d x => { d with edges := some x })
      (Reader.list EdgeEntry.shape.reader)]
  blank := {}
  finish d := do
    let vertices ← Json.required "vertices" d.vertices
    let edges ← Json.required "edges" d.edges
    return { vertices, edges }

/-- Reads a document from JSON text. -/
def ofJson (s : String) : Except Json.Fault TemplateDocument :=
  shape.reader.run s

end TemplateDocument

/-! ## Writing -/

/-- A vertex as a JSON value, with all its fields. -/
def Vertex.toValue (v : Vertex) : Json.Value :=
  .record [("id", .text v.id), ("type", .text v.kind.label), ("variant", .text v.variant),
    ("placeholder", .boolean v.placeholder)]

/-- An upper bound as a JSON value. -/
def BoundEntry.toValue : BoundEntry → Json.Value
  | count n => .integer n
  | keyword s => .text s

/-- An edge as a JSON value, with all its fields but an absent condition. -/
def EdgeEntry.toValue (e : EdgeEntry) : Json.Value :=
  .record <|
    [("from", .text e.source), ("to", .text e.target), ("lower", .integer e.lower),
      ("upper", e.upper.toValue), ("missing", .boolean e.missing)] ++
    match e.condition with
    | some s => [("condition", .text s)]
    | none => []

namespace TemplateDocument

/-- A document as a JSON value. -/
def toValue (d : TemplateDocument) : Json.Value :=
  .record [("vertices", .list (d.vertices.map Vertex.toValue)),
    ("edges", .list (d.edges.map EdgeEntry.toValue))]

/-- A document as JSON text. -/
def toJson (d : TemplateDocument) : String := d.toValue.compact

end TemplateDocument

/-- Why a text is no template: it is no document, or the document means no template. -/
inductive TemplateReadFault where
  | json (fault : Json.Fault)
  | invalid (fault : TemplateFault)
  deriving DecidableEq, Repr

/-- The cause in words. -/
def TemplateReadFault.message : TemplateReadFault → String
  | json fault => "Failed to parse template JSON: " ++ fault.message
  | invalid fault => fault.message

/-- Reads a template from JSON text. -/
def Template.ofJson (s : String) : Except TemplateReadFault Template :=
  match TemplateDocument.ofJson s with
  | .error fault => .error (.json fault)
  | .ok d =>
    match d.toTemplate with
    | .error fault => .error (.invalid fault)
    | .ok t => .ok t

end FlawQuery
