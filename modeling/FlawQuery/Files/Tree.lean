/-
# FlawQuery.Files.Tree -- a fixed tree of files

A tree lists files and directories below a working directory; the directories above a listed path
are there as well. Paths are walked part by part, and every part has to be entered from a directory.
Outside the working directory nothing has a name.
-/

import FlawQuery.Files.Basic

namespace FlawQuery

/-- Something that a path can lead to. -/
inductive FileNode where
  | file (bytes : ByteArray)
  | directory

/-- Files and directories by their parts below the working directory. -/
structure FileTree where
  entries : List (List String × FileNode) := []

namespace FileTree

/-- The tree of the given paths below the working directory. -/
def ofList (entries : List (String × FileNode)) : FileTree where
  entries := entries.map fun (path, node) => (namedParts path, node)

/-- What is found at the parts below the working directory; the working directory itself and the
directories above an entry are directories. -/
def node? (tree : FileTree) (parts : List String) : Option FileNode :=
  match tree.entries.lookup parts with
  | some node => some node
  | none =>
    if parts = [] ∨ tree.entries.any (fun e => parts.isPrefixOf e.1) then some .directory
    else none

/-- Where a walk has come to: at the given parts below the working directory, innermost first, or in
a directory that is not below it. -/
abbrev Place := Option (List String)

/-- What is found at a place. -/
def nodeAt (tree : FileTree) : Place → Except ReadFault FileNode
  | some place =>
    match tree.node? place.reverse with
    | some node => .ok node
    | none => .error .notFound
  | none => .ok .directory

/-- Goes one part further from a directory. -/
def enter (place : Place) (part : String) : Except ReadFault Place :=
  if part = "" ∨ part = "." then .ok place
  else if part = ".." then .ok (place.bind fun parts => parts.tail?)
  else if 255 < part.utf8ByteSize then .error .nameTooLong
  else
    match place with
    | some parts => .ok (some (part :: parts))
    | none => .error .notFound

/-- Walks along parts; each is entered from a directory. -/
def walk (tree : FileTree) : Place → List String → Except ReadFault FileNode
  | place, [] => tree.nodeAt place
  | place, part :: rest =>
    match tree.nodeAt place with
    | .ok .directory =>
      match enter place part with
      | .ok place => tree.walk place rest
      | .error fault => .error fault
    | .ok (.file _) => .error .notDirectory
    | .error fault => .error fault

/-- What a path leads to. The empty path leads nowhere, and a path from the root starts outside. -/
def find (tree : FileTree) (path : String) : Except ReadFault FileNode :=
  if path = "" then .error .notFound
  else if path.contains '\x00' then .error .nulInName
  else if 4095 < path.utf8ByteSize then .error .nameTooLong
  else tree.walk (if path.startsWith "/" then none else some []) (pathParts path)

/-- The text of a file. -/
def read (tree : FileTree) (path : String) : Except ReadFault String :=
  match tree.find path with
  | .error fault => .error fault
  | .ok .directory => .error .isDirectory
  | .ok (.file bytes) =>
    match String.fromUTF8? bytes with
    | some text => .ok text
    | none => .error .notText

/-- Access to the tree, without any effect. -/
def files (tree : FileTree) : Files Id where
  present path := (tree.find path).isOk
  read path := tree.read path

end FileTree

end FlawQuery
