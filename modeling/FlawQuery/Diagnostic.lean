/-
# FlawQuery.Diagnostic -- faults spelled out with all their parts

When the program ends with a fault it writes the fault's name and parts rather than its message, so
that nothing of the cause is lost.
-/

import FlawQuery.Settings

namespace FlawQuery

namespace Diagnostic

/-- A name with named parts. -/
def parts (name : String) (fields : List (String × String)) : String :=
  name ++ " \x7b " ++ ", ".intercalate (fields.map fun (key, s) => key ++ ": " ++ s) ++ " \x7d"

end Diagnostic

open Diagnostic (parts)

/-- The bound with all its parts. -/
def UpperBound.diagnostic : UpperBound → String
  | bounded n => "Bounded(" ++ toString n ++ ")"
  | unbounded => "Unbounded"

/-- The fault with all its parts. -/
def TemplateFault.diagnostic (f : TemplateFault) : String :=
  match f with
  | unknownVertex edge vertex =>
    parts f.name [("edge", toString edge), ("vertex", Quoted.quote vertex)]
  | invalidBounds edge lower upper =>
    parts f.name [("edge", toString edge), ("lower", toString lower), ("upper", upper.diagnostic)]
  | negativeBound edge side value | boundOutOfRange edge side value =>
    parts f.name [("edge", toString edge), ("bound", Quoted.quote side.text),
      ("value", toString value)]
  | invalidUpperBound edge value =>
    parts f.name [("edge", toString edge), ("value", Quoted.quote value)]
  | invalidIdentifier field value =>
    parts f.name [("field", Quoted.quote field.text), ("value", Quoted.quote value)]
  | duplicateVertex id => parts f.name [("id", Quoted.quote id)]
  | noEdges => f.name
  | unanchoredMissingEdge edge => parts f.name [("edge", toString edge)]

/-- The fault with all its parts. -/
def CatalogueFault.diagnostic (f : CatalogueFault) : String :=
  match f with
  | unreadable path fault =>
    parts f.name [("path", Quoted.quote path), ("message", Quoted.quote fault.message)]
  | invalidJson fault => parts f.name [("message", Quoted.quote fault.message)]
  | invalidTemplate id fault =>
    parts f.name [("id", Quoted.quote id), ("source", fault.diagnostic)]
  | duplicatePattern id | unknownPattern id => parts f.name [("id", Quoted.quote id)]

/-- The fault with all its parts. -/
def SettingsFault.diagnostic (f : SettingsFault) : String :=
  match f with
  | unreadable path fault =>
    parts f.name [("path", Quoted.quote path), ("message", Quoted.quote fault.message)]
  | invalidJson path fault =>
    parts f.name [("path", Quoted.quote path), ("message", Quoted.quote fault.message)]

end FlawQuery
