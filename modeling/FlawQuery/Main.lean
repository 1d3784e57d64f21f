/-
# FlawQuery.Main -- the program

Connects the command line to the disk. Nothing is decided here: paths are looked up, files are read
as bytes, and the outcome is written out.
-/

import FlawQuery.CommandLine.Run

namespace FlawQuery

/-- The cause of a failed read on the disk. -/
def readFaultOf : IO.Error → ReadFault
  | .noFileOrDirectory .. => .notFound
  | .inappropriateType _ _ details =>
    if details = "Is a directory" then .isDirectory else .notDirectory
  | e => .other (toString e)

/-- Reads a text file from the disk. -/
def readFromDisk (path : String) : IO (Except ReadFault String) := do
  try
    let bytes ← IO.FS.readBinFile path
    match String.fromUTF8? bytes with
    | some text => return .ok text
    | none => return .error .notText
  catch e => return .error (readFaultOf e)

/-- Whether a path leads to a file or directory that can be opened. -/
def presentOnDisk (path : String) : IO Bool := do
  try
    let _ ← IO.FS.Handle.mk path .read
    return true
  catch _ => return false

/-- Access to the files on the disk. -/
def diskFiles : Files IO where
  present := presentOnDisk
  read := readFromDisk

end FlawQuery

/-- Runs the program on the words of the command line. -/
def main (words : List String) : IO UInt32 := do
  let outcome ← FlawQuery.CommandLine.runProgram FlawQuery.diskFiles words
  IO.print outcome.stdout
  IO.eprint outcome.stderr
  return UInt32.ofNat outcome.exit
