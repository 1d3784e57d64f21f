/-
# FlawQuery.Proofs.AbsenceTests -- what the test of an absence compares

The test of an absence, `NONE (n IN nodes(p0) WHERE n=v)`, binds a name of its own, and inside the test
that name hides whatever else bears it. Here the test is read back from its text and given a meaning:
it compares the vertices of the path with the target. A target that bears the bound name is captured;
then every vertex of the path is compared with itself, and the test fails on every path that has a
vertex. A compiled query is free of capture exactly if no missing edge enters a vertex named `n`.
-/

import FlawQuery.Proofs.EdgeConstraints
import Mathlib.Logic.Function.Basic

namespace FlawQuery

/-- A test that no vertex of a path, bound to a name, gives two names the same value. -/
structure NodeTest where
  bound : String
  path : String
  left : String
  right : String
  deriving DecidableEq, Repr

namespace NodeTest

/-! ## Reading a test -/

/-- The test in query text. -/
def text (test : NodeTest) : String :=
  "NONE (" ++ test.bound ++ " IN nodes(" ++ test.path ++ ") WHERE " ++ test.left ++ "=" ++
    test.right ++ ")"

/-- The name that follows the given text at the front, and what comes after it. -/
def readName? (lead : String) (cs : List Char) : Option (String × List Char) :=
  (cs.dropPrefix? lead.toList).map fun rest =>
    (String.ofList (rest.takeWhile isNameChar), rest.dropWhile isNameChar)

/-- The test that a text denotes, if it denotes one. -/
def read? (text : String) : Option NodeTest := do
  let (bound, rest) ← readName? "NONE (" text.toList
  let (path, rest) ← readName? " IN nodes(" rest
  let (left, rest) ← readName? ") WHERE " rest
  let (right, rest) ← readName? "=" rest
  if rest = [')'] then some ⟨bound, path, left, right⟩ else none

/-- A word is taken off the front as a whole if what follows does not go on with it. -/
theorem takeWhile_dropWhile_append {p : Char → Bool} {word rest : List Char}
    (hword : ∀ c ∈ word, p c = true) (hrest : ∀ c ∈ rest.head?, p c = false) :
    (word ++ rest).takeWhile p = word ∧ (word ++ rest).dropWhile p = rest := by
  rw [List.takeWhile_append_of_pos hword, List.dropWhile_append_of_pos hword]
  cases rest with
  | nil => exact ⟨List.append_nil word, rfl⟩
  | cons c others =>
      have hc : ¬ p c = true := by simp [hrest c rfl]
      rw [List.takeWhile_cons_of_neg hc, List.dropWhile_cons_of_neg hc, List.append_nil]
      exact ⟨rfl, rfl⟩

/-- A plain name is read up to the first character that no name contains. -/
theorem readName?_append (lead : String) {name : String} (hname : isIdentifier name = true)
    {rest : List Char} {c : Char} (hrest : rest.head? = some c) (hc : isNameChar c = false) :
    readName? lead (lead.toList ++ (name.toList ++ rest)) = some (name, rest) := by
  have hlead : (lead.toList ++ (name.toList ++ rest)).dropPrefix? lead.toList =
      some (name.toList ++ rest) :=
    List.dropPrefix?_append_of_beq _ BEq.rfl
  have hstop : ∀ d ∈ rest.head?, isNameChar d = false := by
    intro d hd
    rw [hrest] at hd
    exact Option.some.inj hd ▸ hc
  obtain ⟨htake, hdrop⟩ :=
    takeWhile_dropWhile_append (isNameChar_of_isIdentifier hname) hstop
  rw [readName?, hlead, Option.map_some, htake, hdrop, String.ofList_toList]

/-- A test over plain names is read back from its text. -/
theorem read?_text {test : NodeTest} (hbound : isIdentifier test.bound = true)
    (hpath : isIdentifier test.path = true) (hleft : isIdentifier test.left = true)
    (hright : isIdentifier test.right = true) : read? test.text = some test := by
  have htext : test.text.toList = "NONE (".toList ++ (test.bound.toList ++ (" IN nodes(".toList ++
      (test.path.toList ++ (") WHERE ".toList ++ (test.left.toList ++ ("=".toList ++
        (test.right.toList ++ ")".toList))))))) := by
    unfold text
    simp only [String.toList_append, List.append_assoc]
  -- each name is ended by the first character of the text after it
  rw [read?, htext, readName?_append _ hbound rfl (by decide)]
  show (readName? _ _).bind _ = _
  rw [readName?_append _ hpath rfl (by decide)]
  show (readName? _ _).bind _ = _
  rw [readName?_append _ hleft rfl (by decide)]
  show (readName? _ _).bind _ = _
  rw [readName?_append _ hright rfl (by decide)]
  rfl

/-- No name is read where the text before it begins with another letter. -/
theorem readName?_eq_none {lead : String} {first c : Char} {others rest : List Char}
    (hlead : lead.toList = first :: others) (hc : c ≠ first) : readName? lead (c :: rest) = none := by
  have hdrop : (c :: rest).dropPrefix? lead.toList = none := by
    rw [hlead, List.dropPrefix?, beq_false_of_ne hc]
    rfl
  rw [readName?, hdrop]
  rfl

/-- No other text denotes a test: it must begin with the right letter. -/
theorem read?_eq_none {text : String} {c : Char} {rest : List Char} (htext : text.toList = c :: rest)
    (hc : c ≠ 'N') : read? text = none := by
  rw [read?, htext, readName?_eq_none rfl hc]
  rfl

/-! ## What a test says -/

/-- The test holds where no vertex of the path, bound to the name of the test, gives the two sides the
same value. Inside the test the bound name hides every other use of it. -/
def Holds {ν : Type} (test : NodeTest) (valueOf : String → ν) (nodesOf : String → List ν) : Prop :=
  ∀ node ∈ nodesOf test.path,
    Function.update valueOf test.bound node test.left ≠
      Function.update valueOf test.bound node test.right

variable {ν : Type} {test : NodeTest} {valueOf : String → ν} {nodesOf : String → List ν}

/-- A free right-hand side is compared with the vertices of the path. -/
theorem holds_iff_not_mem (hleft : test.left = test.bound) (hright : test.bound ≠ test.right) :
    test.Holds valueOf nodesOf ↔ valueOf test.right ∉ nodesOf test.path := by
  have hvalues : ∀ node, Function.update valueOf test.bound node test.left = node ∧
      Function.update valueOf test.bound node test.right = valueOf test.right := fun node =>
    ⟨by rw [hleft, Function.update_self], Function.update_of_ne hright.symm _ _⟩
  constructor
  · intro h hmem
    apply h _ hmem
    rw [(hvalues _).1, (hvalues _).2]
  · intro h node hnode heq
    rw [(hvalues node).1, (hvalues node).2] at heq
    exact h (heq ▸ hnode)

/-- A captured right-hand side makes the test compare every vertex with itself. -/
theorem holds_iff_nil (hleft : test.left = test.bound) (hright : test.bound = test.right) :
    test.Holds valueOf nodesOf ↔ nodesOf test.path = [] := by
  -- at each vertex both sides stand for that vertex, so the test fails there
  rw [Holds, hleft, ← hright, List.eq_nil_iff_forall_not_mem]
  exact forall₂_congr fun node _ => ⟨fun h => h rfl, fun h => h.elim⟩

end NodeTest

/-! ## The tests of a query -/

namespace Query

/-- The tests among the conditions of the query, as their text has them. -/
def nodeTests (q : Query) : List NodeTest :=
  q.constraints.filterMap fun c => NodeTest.read? c.text

/-- No test hides the path or the vertex that it is about behind its bound name. -/
def CaptureFree (q : Query) : Prop :=
  ∀ test ∈ q.nodeTests, test.bound ≠ test.path ∧ test.bound ≠ test.right

instance (q : Query) : Decidable q.CaptureFree :=
  inferInstanceAs (Decidable (∀ test ∈ q.nodeTests, test.bound ≠ test.path ∧ test.bound ≠ test.right))

end Query

theorem toList_relationName (n : Nat) : (relationName n).toList = 'r' :: (toString n).toList := by
  rw [relationName, String.toList_append]
  rfl

namespace Constraint

theorem read?_text_absence (path : Nat) {target : String} (htarget : isIdentifier target = true) :
    NodeTest.read? (absence (pathName path) target).text =
      some ⟨"n", pathName path, "n", target⟩ := by
  have htext : (absence (pathName path) target).text =
      NodeTest.text ⟨"n", pathName path, "n", target⟩ := by
    have hbind : "NONE (n IN nodes(" = "NONE (" ++ "n" ++ " IN nodes(" := by decide
    have hcompare : ") WHERE n=" = ") WHERE " ++ "n" ++ "=" := by decide
    unfold text NodeTest.text
    simp only [hbind, hcompare, String.append_assoc]
  have hn : isIdentifier "n" = true := by decide
  rw [htext]
  exact NodeTest.read?_text hn (isIdentifier_pathName path) hn htarget

theorem toList_text_condition (relation value : String) :
    (condition relation value).text.toList =
      relation.toList ++ (".condition=\"".toList ++ ((Literal.escape value).toList ++ ['"'])) := by
  unfold text Literal.quote
  simp only [String.toList_append, List.append_assoc]
  rfl

theorem read?_text_condition (relation : Nat) (value : String) :
    NodeTest.read? (condition (relationName relation) value).text = none := by
  have htext := toList_text_condition (relationName relation) value
  rw [toList_relationName] at htext
  exact NodeTest.read?_eq_none htext (by decide)

theorem toList_text_sameLabels (first second : String) :
    (sameLabels first second).text.toList =
      "labels(".toList ++ (first.toList ++ (")=labels(".toList ++ (second.toList ++ [')']))) := by
  unfold text
  simp only [String.toList_append, List.append_assoc]
  rfl

theorem read?_text_sameLabels (first second : String) :
    NodeTest.read? (sameLabels first second).text = none :=
  NodeTest.read?_eq_none (toList_text_sameLabels first second) (by decide)

end Constraint

namespace Template

/-- An edge asks for one test if it is missing, and for none otherwise. -/
theorem filterMap_read?_constraints {e : Edge} (htarget : isIdentifier e.target = true)
    (present position : Nat) :
    (e.constraints present position).filterMap (fun c => NodeTest.read? c.text) =
      if e.missing then [⟨"n", pathName (present - 1), "n", e.target⟩] else [] := by
  have hcondition : ((e.condition.map (Constraint.condition (relationName position))).toList.filterMap
      fun c => NodeTest.read? c.text) = [] := by
    cases e.condition with
    | none => rfl
    | some value => simp [Constraint.read?_text_condition]
  rw [Edge.constraints, List.filterMap_append, hcondition, List.append_nil]
  cases e.missing with
  | false => rfl
  | true => simp [Constraint.read?_text_absence _ htarget]

theorem flatMap_ite_singleton {α β : Type} (p : α → Bool) (f : α → β) (l : List α) :
    (l.flatMap fun a => if p a then [f a] else []) = (l.filter p).map f := by
  induction l with
  | nil => rfl
  | cons a rest ih => cases hp : p a <;> simp [hp, ih]

/-- The tests of a compiled query are those of the missing edges in turn. -/
theorem query_nodeTests (t : Template) :
    t.plan.query.nodeTests = (t.edges.zipIdx.filter fun e => e.1.missing).map fun e =>
      ⟨"n", pathName (t.presentBefore e.2 - 1), "n", e.1.target⟩ := by
  -- what the groups add begins with another letter than a test
  have hgroups : (t.groups.filterMap fun group =>
      Statements.groupConstraint? (t.arrivals group)).filterMap
        (fun c => NodeTest.read? c.text) = [] := by
    apply List.filterMap_eq_nil_iff.2
    intro c hc
    obtain ⟨group, _, hgroup⟩ := List.mem_filterMap.1 hc
    obtain ⟨first, second, _, _, rfl⟩ := groupConstraint?_eq_some_iff.1 hgroup
    exact Constraint.read?_text_sameLabels first second
  have hedges : ∀ e ∈ t.edges.zipIdx,
      (e.1.constraints (t.presentBefore e.2) e.2).filterMap (fun c => NodeTest.read? c.text) =
        if e.1.missing then [⟨"n", pathName (t.presentBefore e.2 - 1), "n", e.1.target⟩] else [] := by
    intro e he
    have hmem : e.1 ∈ t.edges := List.mem_of_getElem? (List.mem_zipIdx_iff_getElem?.1 he)
    exact filterMap_read?_constraints
      (isIdentifier_of_mem_encounters (target_mem_encounters hmem)) _ _
  rw [Query.nodeTests, query_constraints, List.filterMap_append, hgroups, List.append_nil,
    gather_constraints, List.filterMap_flatMap, List.flatMap_congr hedges, flatMap_ite_singleton]

/-- The names of a test, by its place among the edges. -/
theorem eq_of_mem_nodeTests {t : Template} {test : NodeTest} (h : test ∈ t.plan.query.nodeTests) :
    ∃ path, ∃ e ∈ t.edges, e.missing = true ∧ test = ⟨"n", pathName path, "n", e.target⟩ := by
  rw [query_nodeTests] at h
  obtain ⟨e, he, rfl⟩ := List.mem_map.1 h
  obtain ⟨hmem, hmissing⟩ := List.mem_filter.1 he
  exact ⟨_, e.1, List.mem_of_getElem? (List.mem_zipIdx_iff_getElem?.1 hmem), hmissing, rfl⟩

theorem exists_nodeTest {t : Template} {e : Edge} (he : e ∈ t.edges) (hmissing : e.missing = true) :
    ∃ test ∈ t.plan.query.nodeTests, test.bound = "n" ∧ test.right = e.target := by
  obtain ⟨position, hposition⟩ := List.getElem?_of_mem he
  rw [query_nodeTests]
  refine ⟨_, List.mem_map.2 ⟨(e, position), List.mem_filter.2 ⟨?_, hmissing⟩, rfl⟩, rfl, rfl⟩
  exact List.mem_zipIdx_iff_getElem?.2 hposition

theorem n_ne_pathName (path : Nat) : "n" ≠ pathName path := by
  intro h
  have hhead := congrArg (fun s => s.toList.head?) h
  simp [pathName] at hhead

/-- A compiled query has one test for every missing edge, over the last path before it. The bound name
never hides the path. Where it does not hide the target either, the test says that the target lies on
no vertex of the path; where it does, that the path has no vertex at all. So the tests are free of
capture exactly if no missing edge enters a vertex named `n`. -/
theorem captureFree_iff (t : Template) :
    (t.plan.query.nodeTests = (t.edges.zipIdx.filter fun e => e.1.missing).map fun e =>
      ⟨"n", pathName (t.presentBefore e.2 - 1), "n", e.1.target⟩) ∧
    (∀ test ∈ t.plan.query.nodeTests, test.bound ≠ test.path ∧
      ∀ (ν : Type) (valueOf : String → ν) (nodesOf : String → List ν),
        test.Holds valueOf nodesOf ↔
          if test.bound = test.right then nodesOf test.path = []
          else valueOf test.right ∉ nodesOf test.path) ∧
    (t.plan.query.CaptureFree ↔ ∀ e ∈ t.edges, e.missing = true → e.target ≠ "n") := by
  refine ⟨t.query_nodeTests, ?_, ?_, ?_⟩
  · intro test htest
    obtain ⟨path, e, _, _, rfl⟩ := eq_of_mem_nodeTests htest
    refine ⟨n_ne_pathName path, fun ν valueOf nodesOf => ?_⟩
    split
    next hcaptured => exact NodeTest.holds_iff_nil rfl hcaptured
    next hfree => exact NodeTest.holds_iff_not_mem rfl hfree
  · intro hfree e he hmissing
    obtain ⟨test, htest, hbound, hright⟩ := exists_nodeTest he hmissing
    rw [← hbound, ← hright]
    exact (hfree test htest).2.symm
  · intro htargets test htest
    obtain ⟨path, e, he, hmissing, rfl⟩ := eq_of_mem_nodeTests htest
    exact ⟨n_ne_pathName path, (htargets e he hmissing).symm⟩

/-- A missing edge into a vertex that bears the bound name. -/
def targetNamedN : Template where
  vertices := [
    { id := "a", kind := .activity }, { id := "b", kind := .activity },
    { id := "n", kind := .activity }]
  edges := [
    { source := "a", target := "b" }, { source := "a", target := "n", missing := true }]
  accepted := by decide +kernel

/-- Its test holds of no path, as every path has a vertex. -/
theorem captureFree_iff_targetNamedN :
    targetNamedN.plan.query.nodeTests = [⟨"n", "p0", "n", "n"⟩] ∧
    ∀ (ν : Type) (valueOf : String → ν) (nodesOf : String → List ν),
      NodeTest.Holds ⟨"n", "p0", "n", "n"⟩ valueOf nodesOf ↔ nodesOf "p0" = [] := by
  obtain ⟨htests, hholds, _⟩ := targetNamedN.captureFree_iff
  have hlist : targetNamedN.plan.query.nodeTests = [⟨"n", "p0", "n", "n"⟩] :=
    htests.trans (by decide)
  refine ⟨hlist, fun ν valueOf nodesOf => ?_⟩
  exact (hholds _ (hlist ▸ List.mem_singleton.2 rfl)).2 ν valueOf nodesOf

/-- The test compares each vertex of the path with itself. -/
theorem not_captureFree_targetNamedN : ¬ targetNamedN.plan.query.CaptureFree := by
  decide

end Template

end FlawQuery
