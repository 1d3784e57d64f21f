/-
# FlawQuery.Catalogue.Basic -- named templates in order

A catalogue holds templates under distinct ids. It only grows, at the end; an entry whose id is
taken is refused. Growing by many entries stops at the first that is refused and keeps those before
it.
-/

import FlawQuery.Files.Basic
import FlawQuery.Json.Fault
import FlawQuery.Template.Build

namespace FlawQuery

/-- A template with its id and the name to be shown. -/
structure CatalogueEntry where
  id : String
  name : String
  template : Template
  deriving DecidableEq

/-- Why a catalogue cannot be read, extended or asked. -/
inductive CatalogueFault where
  | unreadable (path : String) (fault : ReadFault)
  | invalidJson (fault : Json.Fault)
  | invalidTemplate (id : String) (fault : TemplateFault)
  | duplicatePattern (id : String)
  | unknownPattern (id : String)
  deriving DecidableEq, Repr

namespace CatalogueFault

/-- The name under which the cause is reported. -/
def name : CatalogueFault → String
  | unreadable .. => "FileReadFailed"
  | invalidJson _ => "JsonParseFailed"
  | invalidTemplate .. => "InvalidTemplate"
  | duplicatePattern _ => "DuplicatePattern"
  | unknownPattern _ => "UnknownPattern"

/-- The cause in words. -/
def message : CatalogueFault → String
  | unreadable path fault => s!"Failed to read catalogue file '{path}': {fault.message}"
  | invalidJson fault => s!"Failed to parse catalogue JSON: {fault.message}"
  | invalidTemplate id fault => s!"Invalid template for pattern '{id}': {fault.message}"
  | duplicatePattern id => s!"Duplicate pattern id '{id}'"
  | unknownPattern id => s!"Unknown pattern '{id}'"

end CatalogueFault

/-- Entries with distinct ids. -/
@[ext]
structure Catalogue where
  entries : List CatalogueEntry := []
  nodup : (entries.map CatalogueEntry.id).Nodup := by simp
  deriving DecidableEq

namespace Catalogue

/-- The catalogue without entries. -/
def empty : Catalogue := {}

/-- The ids, in order. -/
def ids (c : Catalogue) : List String := c.entries.map CatalogueEntry.id

/-- The number of entries. -/
def size (c : Catalogue) : Nat := c.entries.length

/-- The entry with the given id. -/
def get? (c : Catalogue) (id : String) : Option CatalogueEntry :=
  c.entries.find? (·.id = id)

/-- Adds an entry at the end. If its id is taken, the catalogue stays as it is and says so. -/
def tryInsert (c : Catalogue) (e : CatalogueEntry) : Catalogue × Option CatalogueFault :=
  if h : e.id ∈ c.ids then (c, some (.duplicatePattern e.id))
  else
    ({ entries := c.entries ++ [e]
       nodup := by
         rw [List.map_append]
         exact List.nodup_append.2 ⟨c.nodup, by simp, by
           intro a ha b hb
           rw [List.map_singleton, List.mem_singleton] at hb
           rw [hb]
           exact fun hab => h (hab ▸ ha)⟩ }, none)

/-- Adds entries one by one and stops at the first that is refused, with the catalogue so far. -/
def insertAll (c : Catalogue) : List CatalogueEntry → Catalogue × Option CatalogueFault
  | [] => (c, none)
  | e :: rest =>
    match c.tryInsert e with
    | (c, none) => c.insertAll rest
    | (c, some fault) => (c, some fault)

/-- Adds the entries of another catalogue. -/
def extend (c other : Catalogue) : Catalogue × Option CatalogueFault :=
  c.insertAll other.entries

/-- The catalogue that an attempt has led to, if nothing was refused. -/
def orFault : Catalogue × Option CatalogueFault → Except CatalogueFault Catalogue
  | (c, none) => .ok c
  | (_, some fault) => .error fault

/-- The catalogue with an entry more, unless the entry's id is taken. -/
def insert (c : Catalogue) (e : CatalogueEntry) : Except CatalogueFault Catalogue :=
  orFault (c.tryInsert e)

/-- The two catalogues as one, if they have no id in common. -/
def union (c other : Catalogue) : Except CatalogueFault Catalogue :=
  orFault (c.extend other)

/-- The entry with the given id, or a complaint about the id. -/
def find (c : Catalogue) (id : String) : Except CatalogueFault CatalogueEntry :=
  match c.get? id with
  | some e => .ok e
  | none => .error (.unknownPattern id)

/-- The entries of the given ids, as often and in the order as they are asked for. -/
def findAll (c : Catalogue) : List String → Except CatalogueFault (List CatalogueEntry)
  | [] => .ok []
  | id :: rest => do
    let e ← c.find id
    let es ← c.findAll rest
    return e :: es

/-- The entries of the given ids; without any id, all entries. -/
def select (c : Catalogue) (ids : List String) : Except CatalogueFault (List CatalogueEntry) :=
  if ids = [] then .ok c.entries else c.findAll ids

end Catalogue

end FlawQuery
