/-
# FlawQuery.Query.Variables -- fresh names for paths and relationships

Every compiled template starts its own counters, so the names of one query never depend on another.
-/

namespace FlawQuery

/-- The name of the path variable with the given number. -/
def pathName (n : Nat) : String := "p" ++ toString n

/-- The name of the relationship variable with the given number. -/
def relationName (n : Nat) : String := "r" ++ toString n

/-- How many path and relationship variables have been handed out. -/
structure Counters where
  paths : Nat := 0
  relations : Nat := 0
  deriving DecidableEq, Repr

namespace Counters

/-- Hands out a path variable. -/
def takePath (c : Counters) : String × Counters :=
  (pathName c.paths, { c with paths := c.paths + 1 })

/-- Hands out a relationship variable. -/
def takeRelation (c : Counters) : String × Counters :=
  (relationName c.relations, { c with relations := c.relations + 1 })

/-- The path variable handed out last, or the first one if there is none yet. -/
def lastPath (c : Counters) : String := pathName (c.paths - 1)

/-- All path variables handed out so far, in order. -/
def pathVariables (c : Counters) : List String := (List.range c.paths).map pathName

@[simp] theorem takePath_name (c : Counters) : c.takePath.1 = pathName c.paths := rfl

@[simp] theorem takePath_paths (c : Counters) : c.takePath.2.paths = c.paths + 1 := rfl

@[simp] theorem takePath_relations (c : Counters) : c.takePath.2.relations = c.relations := rfl

@[simp] theorem takeRelation_name (c : Counters) : c.takeRelation.1 = relationName c.relations :=
  rfl

@[simp] theorem takeRelation_paths (c : Counters) : c.takeRelation.2.paths = c.paths := rfl

@[simp] theorem takeRelation_relations (c : Counters) :
    c.takeRelation.2.relations = c.relations + 1 := rfl

/-- Handing out a path variable adds it to the end of the list. -/
theorem pathVariables_takePath (c : Counters) :
    c.takePath.2.pathVariables = c.pathVariables ++ [c.takePath.1] := by
  simp [pathVariables, List.range_succ]

theorem pathVariables_takeRelation (c : Counters) :
    c.takeRelation.2.pathVariables = c.pathVariables := rfl

end Counters

end FlawQuery
