/-
# FlawQuery.Files.Basic -- what the program asks of a file system

The program looks whether a path is there and reads whole text files. `Files` holds these two
questions for any kind of effect, so that the same program runs on a disk and on a fixed tree.
-/

namespace FlawQuery

/-- Why a path cannot be read as text. -/
inductive ReadFault where
  | notFound
  | notDirectory
  | isDirectory
  | nameTooLong
  | nulInName
  /-- The bytes are no UTF-8 text. -/
  | notText
  | other (text : String)
  deriving DecidableEq, Repr

/-- The cause in words. -/
def ReadFault.message : ReadFault → String
  | notFound => "No such file or directory (os error 2)"
  | notDirectory => "Not a directory (os error 20)"
  | isDirectory => "Is a directory (os error 21)"
  | nameTooLong => "File name too long (os error 36)"
  | nulInName => "file name contained an unexpected NUL byte"
  | notText => "stream did not contain valid UTF-8"
  | other text => text

/-- Access to files with effects in `m`. -/
structure Files (m : Type → Type) where
  /-- The path leads to a file or directory. -/
  present : String → m Bool
  /-- The text of the file at a path. -/
  read : String → m (Except ReadFault String)

/-! ## Paths -/

/-- The parts of a path between its slashes. -/
def pathParts (path : String) : List String :=
  (path.toList.splitOnP (· = '/')).map String.ofList

/-- The parts of a path that lead somewhere else: an empty part or a dot stays where it is. -/
def namedParts (path : String) : List String :=
  (pathParts path).filter fun part => part ≠ "" ∧ part ≠ "."

/-- The last name of a path; a path that ends by going up has none. -/
def fileName? (path : String) : Option String :=
  match (namedParts path).getLast? with
  | some name => if name = ".." then none else some name
  | none => none

/-- A name without its last extension. A dot at the start begins no extension. -/
def dropExtension (name : String) : String :=
  let reversed := name.toList.reverse
  match reversed.dropWhile (· ≠ '.') with
  | [] | [_] => name
  | _ :: stem => String.ofList stem.reverse

/-- The name of a file without directories and extension, or the path itself if it has no name. -/
def fileStem (path : String) : String :=
  match fileName? path with
  | some name => dropExtension name
  | none => path

end FlawQuery
