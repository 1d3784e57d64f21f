/-
# FlawQuery.Json.Shape -- records with known fields

A shape says which fields a record has, in what order, and which of them may be left out. Two
spellings are read: a JSON record with the fields by name, in any order and among others that are
passed over, and a JSON list with the fields by position. While reading, the fields are gathered in
a draft; a field may be filled once.
-/

import FlawQuery.Json.Skip

namespace FlawQuery.Json

variable {δ α : Type}

/-- A field of a record that is gathered in a draft of type `δ`. -/
structure Field (δ : Type) where
  key : String
  /-- A list must reach as far as this field. -/
  required : Bool
  /-- The draft has the field already. -/
  filled : δ → Bool
  /-- Reads the field's value into the draft. -/
  read : δ → Reader δ

/-- A field by the option that holds it in the draft, its setter, and the reader of its value. -/
def Field.ofOption {β : Type} (key : String) (required : Bool) (get : δ → Option β)
    (set : δ → β → δ) (read : Reader β) : Field δ where
  key := key
  required := required
  filled d := (get d).isSome
  read d := do
    let b ← read
    return set d b

/-- A record type: its fields in order of declaration, the draft to start from, and how to finish a
draft, which fails with the first required field that is not filled. -/
structure Shape (δ α : Type) where
  /-- What messages call the record. -/
  title : String
  fields : List (Field δ)
  blank : δ
  finish : δ → Except String α

/-- The value of a required field, or the name of what is missing. -/
def required {β : Type} (key : String) : Option β → Except String β
  | some b => .ok b
  | none => .error key

namespace Shape

/-- What messages call the record when a list is too short for it. -/
def sizeText (shape : Shape δ α) : String :=
  shape.title ++ " with " ++ toString shape.fields.length ++
    (if shape.fields.length = 1 then " element" else " elements")

/-- Finishes a draft. -/
def complete (shape : Shape δ α) (d : δ) : Reader α :=
  match shape.finish d with
  | .ok a => pure a
  | .error key => .fail (.missingField key)

/-- Reads one member of a JSON record: a field into the draft, anything else past it. -/
def member (shape : Shape δ α) (d : δ) (key : String) : Reader δ :=
  match shape.fields.find? (·.key = key) with
  | some field =>
    if field.filled d then .fail (.duplicateField key)
    else do
      Reader.colon
      field.read d
  | none => do
    Reader.colon
    Reader.skip
    return d

/-- Reads fields by position from number `index` on. -/
def positional (shape : Shape δ α) : List (Field δ) → (index : Nat) → δ → Reader δ
  | [], _, d => return d
  | field :: rest, index, d => do
    if ← Reader.nextItem (index = 0) then do
      let d ← field.read d
      shape.positional rest (index + 1) d
    else if field.required then .fail (.wrongLength index shape.sizeText)
    else shape.positional rest (index + 1) d

/-- A record by name, after its opening brace. -/
def byName (shape : Shape δ α) : Reader α := do
  let d ← Reader.recordBody shape.member shape.blank
  let a ← shape.complete d
  Reader.advance
  return a

/-- A record by position, after its opening bracket. -/
def byPosition (shape : Shape δ α) : Reader α := do
  let d ← shape.positional shape.fields 0 shape.blank
  let a ← shape.complete d
  Reader.closeList
  return a

/-- A record in either spelling. -/
def reader (shape : Shape δ α) : Reader α := do
  match ← Reader.found with
  | .record => do
    Reader.advance
    Reader.nested shape.byName
  | .list => do
    Reader.advance
    Reader.nested shape.byPosition
  | other => .fail (.wrongType other shape.title)

end Shape

end FlawQuery.Json
