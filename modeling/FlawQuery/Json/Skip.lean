/-
# FlawQuery.Json.Skip -- passing over a value that nobody asks for

The value must be JSON, but nothing is kept of it, its numbers may be of any size, and it may nest
without limit: the open lists and records are kept in a list of frames.
-/

import FlawQuery.Json.Reader

namespace FlawQuery.Json

/-- An open list or record. -/
inductive Frame where
  | list
  | record
  deriving DecidableEq, Repr

namespace Frame

/-- The character that closes the frame. -/
def closer : Frame → Char
  | list => ']'
  | record => '\x7d'

/-- The fault of a text that ends in the frame. -/
def endFault : Frame → Fault
  | list => .endInList
  | record => .endInRecord

/-- The fault of a value that neither a comma nor the end of the frame follows. -/
def separatorFault : Frame → Fault
  | list => .listSeparatorExpected
  | record => .recordSeparatorExpected

/-- Passes over what stands before a value: nothing in a list, the key and a colon in a record. -/
def enter (frame : Frame) (s : List Char) : Except Fault (List Char) :=
  match frame with
  | list => .ok s
  | record =>
    match s.dropWhile isSpace with
    | [] => .error .endInRecord
    | c :: rest =>
      if c = '"' then
        match skipText rest with
        | .error fault => .error fault
        | .ok rest =>
          match rest.dropWhile isSpace with
          | [] => .error .endInRecord
          | c :: rest => if c = ':' then .ok rest else .error .colonExpected
      else .error .keyExpected

end Frame

/-- Goes on after a value: closes frames up to the next comma. Gives the frames that are still open,
innermost first, and the text from the next value on. -/
def afterValue : List Frame → List Char → Except Fault (List Frame × List Char)
  | [], s => .ok ([], s)
  | frame :: outer, s =>
    match s.dropWhile isSpace with
    | [] => .error frame.endFault
    | c :: rest =>
      if c = ',' then (frame.enter rest).map fun rest => (frame :: outer, rest)
      else if c = frame.closer then afterValue outer rest
      else .error frame.separatorFault

/-- Goes on after the opening of a frame, which may be closed at once. -/
def afterOpening (frame : Frame) (outer : List Frame) (s : List Char) :
    Except Fault (List Frame × List Char) :=
  match s.dropWhile isSpace with
  | [] => .error frame.endFault
  | c :: rest =>
    if c = frame.closer then afterValue outer rest
    else (frame.enter (c :: rest)).map fun rest => (frame :: outer, rest)

/-- Goes on after a scalar that `step` passes over. -/
def afterScalar (open_ : List Frame) (step : Except Fault (List Char)) :
    Except Fault (List Frame × List Char) :=
  match step with
  | .ok rest => afterValue open_ rest
  | .error fault => .error fault

/-- Passes over the letters of a word. -/
def skipWord (w : String) (s : List Char) : Except Fault (List Char) :=
  (Reader.takeWord w.toList s).map Prod.snd

/-- Passes over a scalar, or over the opening of a list or record. -/
def skipStep (open_ : List Frame) (s : List Char) : Except Fault (List Frame × List Char) :=
  match s.dropWhile isSpace with
  | [] => .error .endInValue
  | c :: rest =>
    if c = 'n' then afterScalar open_ (skipWord "null" (c :: rest))
    else if c = 't' then afterScalar open_ (skipWord "true" (c :: rest))
    else if c = 'f' then afterScalar open_ (skipWord "false" (c :: rest))
    else if c = '-' ∨ c.isDigit then afterScalar open_ (skipNumber (c :: rest))
    else if c = '"' then afterScalar open_ (skipText rest)
    else if c = '[' then afterOpening .list open_ rest
    else if c = '\x7b' then afterOpening .record open_ rest
    else .error .valueExpected

/-- Passes over values until no frame is open, in at most `fuel` rounds. -/
def skipValues : (fuel : Nat) → List Frame → List Char → Except Fault (Unit × List Char)
  | 0, _, _ => .error .endInValue
  | fuel + 1, open_, s =>
    match skipStep open_ s with
    | .error fault => .error fault
    | .ok ([], rest) => .ok ((), rest)
    | .ok (frames, rest) => skipValues fuel frames rest

/-- Passes over any value. -/
def Reader.skip : Reader Unit :=
  Reader.step fun s => skipValues (s.length + 1) [] s

end FlawQuery.Json
