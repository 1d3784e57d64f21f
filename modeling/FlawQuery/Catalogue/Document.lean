/-
# FlawQuery.Catalogue.Document -- catalogues as they are written down

A catalogue document lists patterns with their templates. Each pattern is settled in order: first
its template, then its id among those before it.
-/

import FlawQuery.Catalogue.Basic
import FlawQuery.Template.Document

namespace FlawQuery

/-- A pattern as it is written. -/
structure PatternEntry where
  id : String
  name : String
  template : TemplateDocument
  deriving DecidableEq, Repr

open Json (Reader Shape)

/-- The fields of a pattern read so far. -/
structure PatternDraft where
  id : Option String := none
  name : Option String := none
  template : Option TemplateDocument := none

/-- Patterns are `id`, `name` and `template`. -/
def PatternEntry.shape : Shape PatternDraft PatternEntry where
  title := "struct PatternDef"
  fields := [
    .ofOption "id" true PatternDraft.id (fun d x => { d with id := some x }) Reader.text,
    .ofOption "name" true PatternDraft.name (fun d x => { d with name := some x }) Reader.text,
    .ofOption "template" true PatternDraft.template (fun d x => { d with template := some x })
      TemplateDocument.shape.reader]
  blank := {}
  finish d := do
    let id ← Json.required "id" d.id
    let name ← Json.required "name" d.name
    let template ← Json.required "template" d.template
    return { id, name, template }

/-- A document is its list of `patterns`. -/
def patternsShape : Shape (Option (List PatternEntry)) (List PatternEntry) where
  title := "struct CatalogueFile"
  fields := [
    .ofOption "patterns" true id (fun _ x => some x) (Reader.list PatternEntry.shape.reader)]
  blank := none
  finish d := Json.required "patterns" d

namespace Catalogue

/-- Adds a pattern at the end; its template has to be one, and its id new. -/
def insertPattern (c : Catalogue) (p : PatternEntry) : Except CatalogueFault Catalogue :=
  match p.template.toTemplate with
  | .error fault => .error (.invalidTemplate p.id fault)
  | .ok template => c.insert { id := p.id, name := p.name, template }

/-- The catalogue of a list of patterns. -/
def ofPatterns (patterns : List PatternEntry) : Except CatalogueFault Catalogue :=
  patterns.foldlM insertPattern empty

/-- Reads a catalogue from JSON text. -/
def ofJson (s : String) : Except CatalogueFault Catalogue :=
  match patternsShape.reader.run s with
  | .error fault => .error (.invalidJson fault)
  | .ok patterns => ofPatterns patterns

/-- Reads a catalogue from a file. -/
def ofFile {m : Type → Type} [Monad m] (files : Files m) (path : String) :
    m (Except CatalogueFault Catalogue) := do
  match ← files.read path with
  | .error fault => return .error (.unreadable path fault)
  | .ok s => return ofJson s

end Catalogue

end FlawQuery
