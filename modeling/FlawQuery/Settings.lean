/-
# FlawQuery.Settings -- which catalogue to use

The settings are a JSON file that names the source of the catalogue: the builtin one, or a file,
possibly on top of the builtin one. Without a file everything has its default.
-/

import FlawQuery.Catalogue.Builtin
import FlawQuery.Catalogue.Document

namespace FlawQuery

/-- Where the catalogue comes from. -/
inductive CatalogueSource where
  | builtin
  /-- A catalogue file, after the builtin entries if they are included. -/
  | file (path : String) (includeBuiltin : Bool)
  deriving DecidableEq, Repr

/-- The settings of the program. -/
structure Settings where
  catalogue : CatalogueSource := .builtin
  deriving DecidableEq, Repr

/-- The file that is read if no other is asked for. -/
def defaultSettingsFile : String := ".antipattern_search.json"

/-- Why the settings cannot be read. -/
inductive SettingsFault where
  | unreadable (path : String) (fault : ReadFault)
  | invalidJson (path : String) (fault : Json.Fault)
  deriving DecidableEq, Repr

namespace SettingsFault

/-- The name under which the cause is reported. -/
def name : SettingsFault → String
  | unreadable .. => "FileReadFailed"
  | invalidJson .. => "InvalidJson"

/-- The cause in words. -/
def message : SettingsFault → String
  | unreadable path fault => s!"Failed to read {path}: {fault.message}"
  | invalidJson path fault => s!"Invalid JSON in {path}: {fault.message}"

end SettingsFault

open Json (Reader Shape Value Found)

/-! ## Reading -/

namespace CatalogueSource

/-- The two kinds of source. -/
inductive Tag where
  | builtin
  | file
  deriving DecidableEq, Repr

/-- The kind that a tag names. -/
def Tag.ofText (s : String) : Reader Tag :=
  if s = "builtin" then pure .builtin
  else if s = "file" then pure .file
  else .fail (.unknownVariant s ["builtin", "file"])

/-- The path in a value. -/
def pathOf : Value → Except Json.Fault String
  | .text s => .ok s
  | v => .error (.wrongType (.ofValue v) "path string")

/-- The truth value in a value. -/
def flagOf : Value → Except Json.Fault Bool
  | .boolean b => .ok b
  | v => .error (.wrongType (.ofValue v) "a boolean")

/-- Gathers the two fields of a file source from its members; others are passed over. -/
def gather : List (String × Value) → Option String → Option Bool →
    Except Json.Fault (Option String × Option Bool)
  | [], path, flag => .ok (path, flag)
  | (key, v) :: rest, path, flag =>
    if key = "path" then
      if path.isSome then .error (.duplicateField key)
      else do
        let s ← pathOf v
        gather rest (some s) flag
    else if key = "include_builtin" then
      if flag.isSome then .error (.duplicateField key)
      else do
        let b ← flagOf v
        gather rest path (some b)
    else gather rest path flag

/-- A file source from the values beside its tag, by name or by position. -/
def fileOf : Value → Except Json.Fault CatalogueSource
  | .record members => do
    match ← gather members none none with
    | (some path, flag) => return .file path (flag.getD false)
    | (none, _) => .error (.missingField "path")
  | .list [] => .error (.wrongLength 0 "struct variant CatalogueSource::File with 2 elements")
  | .list [v] => do
    let path ← pathOf v
    return .file path false
  | .list (v :: w :: rest) => do
    let path ← pathOf v
    let flag ← flagOf w
    if rest = [] then return .file path flag
    else .error (.wrongLength (rest.length + 2) "2 elements in sequence")
  | v => .error (.wrongType (.ofValue v) "struct variant CatalogueSource::File")

/-- The builtin source from the values beside its tag; members by name are passed over. -/
def builtinOf : Value → Except Json.Fault CatalogueSource
  | .list (v :: rest) =>
    .error (.wrongLength (v :: rest).length "0 elements in sequence")
  | _ => .ok .builtin

/-- The source from its tag and the values beside it. -/
def ofParts (tag : Tag) (v : Value) : Reader CatalogueSource := Reader.step fun s =>
  match (match tag with | .builtin => builtinOf v | .file => fileOf v) with
  | .ok source => .ok (source, s)
  | .error fault => .error fault

/-- Reads one member of a tagged record: the tag `type`, or any other value. -/
def member (state : Option Tag × List (String × Value)) (key : String) :
    Reader (Option Tag × List (String × Value)) :=
  if key = "type" then
    if state.1.isSome then .fail (.duplicateField "type")
    else do
      Reader.colon
      let s ← Reader.textAs "variant identifier"
      let tag ← Tag.ofText s
      return (some tag, state.2)
  else do
    Reader.colon
    let v ← Reader.value
    return (state.1, state.2 ++ [(key, v)])

/-- A tagged record after its opening brace. -/
def byName : Reader CatalogueSource := do
  match ← Reader.recordBody member (none, []) with
  | (none, _) => .fail (.missingField "type")
  | (some tag, members) => do
    Reader.advance
    ofParts tag (.record members)

/-- A tagged list after its opening bracket: the tag is the first item. -/
def byPosition : Reader CatalogueSource := do
  if ← Reader.nextItem true then do
    let s ← Reader.textAs "variant identifier"
    let tag ← Tag.ofText s
    let fuel ← Reader.remaining
    let values ← Reader.listItems Reader.value (fuel + 1) false
    Reader.closeList
    ofParts tag (.list values)
  else .fail (.missingField "type")

/-- A source, told apart by its tag. -/
def reader : Reader CatalogueSource := do
  match ← Reader.found with
  | .record => do
    Reader.advance
    Reader.nested byName
  | .list => do
    Reader.advance
    Reader.nested byPosition
  | other => .fail (.wrongType other "internally tagged enum CatalogueSource")

/-! ## Writing -/

/-- A source as a JSON value. -/
def toValue : CatalogueSource → Value
  | builtin => .record [("type", .text "builtin")]
  | file path includeBuiltin =>
    .record [("type", .text "file"), ("path", .text path),
      ("include_builtin", .boolean includeBuiltin)]

/-! ## Loading -/

/-- The catalogue of a source. -/
def load {m : Type → Type} [Monad m] (files : Files m) :
    CatalogueSource → m (Except CatalogueFault Catalogue)
  | builtin => return .ok Catalogue.builtin
  | file path includeBuiltin => do
    match ← Catalogue.ofFile files path with
    | .error fault => return .error fault
    | .ok c => return if includeBuiltin then Catalogue.builtin.union c else .ok c

end CatalogueSource

namespace Settings

/-- Settings have the one field `catalogue`, which may be left out. -/
def shape : Shape (Option CatalogueSource) Settings where
  title := "struct ConfigFile"
  fields := [.ofOption "catalogue" false id (fun _ x => some x) CatalogueSource.reader]
  blank := none
  finish d := .ok ⟨d.getD .builtin⟩

/-- Reads settings from JSON text. -/
def ofJson (s : String) : Except Json.Fault Settings :=
  shape.reader.run s

/-- Settings as JSON text. -/
def toJson (settings : Settings) : String :=
  (Value.record [("catalogue", settings.catalogue.toValue)]).compact

variable {m : Type → Type} [Monad m]

/-- Reads settings from a file. -/
def ofFile (files : Files m) (path : String) : m (Except SettingsFault Settings) := do
  match ← files.read path with
  | .error fault => return .error (.unreadable path fault)
  | .ok s =>
    match ofJson s with
    | .error fault => return .error (.invalidJson path fault)
    | .ok settings => return .ok settings

/-- The settings of an explicit file, else of the default file if it is there, else the defaults. -/
def resolve (files : Files m) : Option String → m (Except SettingsFault Settings)
  | some path => ofFile files path
  | none => do
    if ← files.present defaultSettingsFile then ofFile files defaultSettingsFile
    else return .ok {}

end Settings

end FlawQuery
