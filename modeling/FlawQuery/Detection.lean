/-
# FlawQuery.Detection -- running the queries of a pattern

An executor answers a query with a number of rows, or fails. If there is a predecessor query it runs
first: without rows the target of a missing edge does not exist at all, so the flaw is found and the
full query is not needed. Otherwise the full query decides by whether it has rows.
-/

import FlawQuery.Catalogue.Basic
import FlawQuery.Compile

namespace FlawQuery

/-- Something that runs queries, with a state and its own errors. -/
def Executor (σ ε : Type) : Type :=
  String → σ → Except ε Nat × σ

/-- The executor that also notes every query that it is sent. -/
def Executor.recording {σ ε : Type} (x : Executor σ ε) : Executor (List String × σ) ε :=
  fun query (sent, state) =>
    let (answer, state) := x query state
    (answer, sent ++ [query], state)

/-- The two queries of a pattern. -/
inductive Phase where
  | predecessor
  | full
  deriving DecidableEq, Repr

/-- The phase in words. -/
def Phase.text : Phase → String
  | predecessor => "predecessor"
  | full => "full"

/-- The outcome of a detection. -/
structure Detection where
  found : Bool
  /-- The query that settled the outcome; it is the last one that ran. -/
  decidedBy : Phase
  queriesRun : Nat
  deriving DecidableEq, Repr

/-- A query that failed. -/
structure DetectionFault (ε : Type) where
  phase : Phase
  cause : ε
  deriving DecidableEq, Repr

/-- The failure in words. -/
def DetectionFault.message (f : DetectionFault String) : String :=
  s!"{f.phase.text} query failed: {f.cause}"

variable {σ ε : Type}

/-- Runs the full query after `before` others. -/
def CompiledPattern.detectFull (p : CompiledPattern) (x : Executor σ ε) (before : Nat) (state : σ) :
    Except (DetectionFault ε) Detection × σ :=
  match x p.query state with
  | (.error cause, state) => (.error ⟨.full, cause⟩, state)
  | (.ok rows, state) =>
    (.ok { found := 0 < rows, decidedBy := .full, queriesRun := before + 1 }, state)

/-- Runs the predecessor query, if there is one, and the full query, if it is still needed. -/
def CompiledPattern.detect (p : CompiledPattern) (x : Executor σ ε) (state : σ) :
    Except (DetectionFault ε) Detection × σ :=
  match p.predecessor with
  | none => p.detectFull x 0 state
  | some query =>
    match x query state with
    | (.error cause, state) => (.error ⟨.predecessor, cause⟩, state)
    | (.ok 0, state) =>
      (.ok { found := true, decidedBy := .predecessor, queriesRun := 1 }, state)
    | (.ok (_ + 1), state) => p.detectFull x 1 state

/-! ## Expectations -/

/-- A detection next to what was expected of it. -/
structure Verdict where
  pattern : String
  detection : Detection
  expected : Bool
  deriving DecidableEq, Repr

namespace Verdict

/-- The flaw was found exactly if that was expected. -/
def isCorrect (v : Verdict) : Bool := v.detection.found == v.expected

/-- The verdict in words. -/
def text (v : Verdict) : String :=
  "[" ++ (if v.isCorrect then "Correct" else "Incorrect") ++ "] " ++ v.pattern ++ " - " ++
    (if v.detection.found then "detected" else "not detected") ++
    " (" ++ v.detection.decidedBy.text ++ " query)"

end Verdict

/-- Why expectations could not be checked. -/
inductive CheckFault (ε : Type) where
  | catalogue (fault : CatalogueFault)
  | detection (fault : DetectionFault ε)
  deriving DecidableEq, Repr

/-- Checks expectations in order and stops at the first pattern that is unknown or whose queries
fail; no verdict is given then. -/
def Catalogue.check (c : Catalogue) (x : Executor σ ε) :
    List (String × Bool) → σ → Except (CheckFault ε) (List Verdict) × σ
  | [], state => (.ok [], state)
  | (id, expected) :: rest, state =>
    match c.find id with
    | .error fault => (.error (.catalogue fault), state)
    | .ok entry =>
      match entry.template.compile.detect x state with
      | (.error fault, state) => (.error (.detection fault), state)
      | (.ok detection, state) =>
        match c.check x rest state with
        | (.error fault, state) => (.error fault, state)
        | (.ok verdicts, state) =>
          (.ok ({ pattern := entry.id, detection, expected } :: verdicts), state)

end FlawQuery
