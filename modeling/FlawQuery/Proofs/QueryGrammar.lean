/-
# FlawQuery.Proofs.QueryGrammar -- compiled queries are sentences of the query grammar

`Grammar` says line by line what a query may look like, without reference to the functions that
write it. Every line that the compiler writes is of one of these kinds and holds no line break, so
the lines of the text are the parts of the query, one line for each part: whatever the ids, variants
and conditions of a template are, none of them adds, splits or cuts short a line.
-/

import FlawQuery.Proofs.CompiledParts
import FlawQuery.Proofs.LiteralText

namespace FlawQuery

/-! ## Lines -/

/-- The lines of a text. -/
def linesOf (text : String) : List String :=
  (text.toList.splitOn '\n').map String.ofList

/-- The text holds no line break. -/
def OneLine (text : String) : Prop := '\n' ∉ text.toList

instance (text : String) : Decidable (OneLine text) :=
  inferInstanceAs (Decidable (¬ _))

@[simp] theorem oneLine_append (s t : String) : OneLine (s ++ t) ↔ OneLine s ∧ OneLine t := by
  simp [OneLine, String.toList_append, not_or]

/-- Joined pieces are found again if none of them contains the separator. -/
theorem map_ofList_splitOn_intercalate {separator : String} {c : Char}
    (hseparator : separator.toList = [c]) {pieces : List String} (hne : pieces ≠ [])
    (h : ∀ s ∈ pieces, c ∉ s.toList) :
    ((separator.intercalate pieces).toList.splitOn c).map String.ofList = pieces := by
  have hchars : ∀ cs ∈ pieces.map String.toList, c ∉ cs := by
    intro cs hcs
    obtain ⟨s, hs, rfl⟩ := List.mem_map.1 hcs
    exact h s hs
  have hsplit : (separator.intercalate pieces).toList.splitOn c = pieces.map String.toList := by
    rw [String.toList_intercalate, hseparator]
    exact List.splitOn_intercalate c hchars (by simpa using hne)
  rw [hsplit, List.map_map]
  simp [Function.comp_def]

/-- Joined lines are found again if none of them contains a line break. -/
theorem linesOf_joinLines {lines : List String} (hne : lines ≠ []) (h : ∀ l ∈ lines, OneLine l) :
    linesOf (joinLines lines) = lines :=
  map_ofList_splitOn_intercalate rfl hne h

/-! ## The grammar -/

namespace Grammar

/-- A node pattern `(var[:variant]:TYPE)` for the variable `var`. -/
inductive Node (var : String) : String → Prop
  | plain (kind : VertexType) : Node var ("(" ++ var ++ ":" ++ kind.label ++ ")")
  | labelled {variant : String} (hvariant : isIdentifier variant = true) (kind : VertexType) :
      Node var ("(" ++ var ++ ":" ++ variant ++ ":" ++ kind.label ++ ")")

/-- The line of a vertex that must be matched. -/
def MatchLine (line : String) : Prop :=
  ∃ var node, isIdentifier var = true ∧ Node var node ∧ line = "MATCH " ++ node

/-- The line of a vertex that may be matched. -/
def OptionalLine (line : String) : Prop :=
  ∃ var node, isIdentifier var = true ∧ Node var node ∧ line = "OPTIONAL MATCH " ++ node

/-- A repeat modifier. -/
inductive Repeats : String → Prop
  | once : Repeats ""
  | any : Repeats "*"
  | atLeast (lower : Nat) : Repeats ("*" ++ toString lower ++ "..")
  | between {lower upper : Nat} (h : lower ≤ upper) :
      Repeats ("*" ++ toString lower ++ ".." ++ toString upper)

/-- The line of a connection between two matched vertices. -/
inductive EdgeLine : String → Prop
  | intro (path relation : Nat) {source target modifier : String}
      (hsource : isIdentifier source = true) (htarget : isIdentifier target = true)
      (hmodifier : Repeats modifier) :
      EdgeLine ("MATCH " ++ pathName path ++ "=" ++ "(" ++ source ++ ")-[" ++
        relationName relation ++ modifier ++ "]->(" ++ target ++ ")")

/-- A double-quoted literal on one line that its last quote ends, and no quote before it. -/
def QuotedLiteral (literal : String) : Prop :=
  ∃ body, OneLine body ∧ literal = "\"" ++ body ++ "\"" ∧
    Literal.afterQuote? (body.toList ++ ['"']) = some []

/-- A condition of the `WHERE` clause. -/
inductive Condition : String → Prop
  | absence (path : Nat) {target : String} (htarget : isIdentifier target = true) :
      Condition ("NONE (n IN nodes(" ++ pathName path ++ ") WHERE n=" ++ target ++ ")")
  | condition (relation : Nat) {literal : String} (hliteral : QuotedLiteral literal) :
      Condition (relationName relation ++ ".condition=" ++ literal)
  | sameLabels {first second : String} (hfirst : isIdentifier first = true)
      (hsecond : isIdentifier second = true) :
      Condition ("labels(" ++ first ++ ")=labels(" ++ second ++ ")")

/-- One line for each condition: `WHERE` opens the first one, `AND` the others. -/
def clause : List String → List String
  | [] => []
  | first :: rest => ("WHERE " ++ first) :: rest.map ("AND " ++ ·)

/-- The lines of a full query. The return line lists as many paths as edges are matched. -/
inductive Full : List String → Prop
  | intro {vertices edges optional conditions : List String}
      (hvertices : ∀ line ∈ vertices, MatchLine line)
      (hsome : edges ≠ []) (hedges : ∀ line ∈ edges, EdgeLine line)
      (hoptional : ∀ line ∈ optional, OptionalLine line)
      (hconditions : ∀ c ∈ conditions, Condition c) :
      Full (vertices ++ edges ++ optional ++ clause conditions ++
        ["RETURN " ++ ",".intercalate ((List.range edges.length).map pathName)])

/-- The lines of a query for the existence of some vertices, each given by its variable and its node
pattern. -/
inductive Existence : List String → Prop
  | intro {nodes : List (String × String)} (hsome : nodes ≠ [])
      (hnodes : ∀ n ∈ nodes, isIdentifier n.1 = true ∧ Node n.1 n.2) :
      Existence (nodes.map (fun n => "OPTIONAL MATCH " ++ n.2) ++
        ["RETURN " ++ ",".intercalate (nodes.map Prod.fst)])

end Grammar

/-! ## Names and numbers hold no line break -/

theorem isNameChar_of_isIdentifier {s : String} (h : isIdentifier s = true) :
    ∀ c ∈ s.toList, isNameChar c = true := by
  unfold isIdentifier at h
  cases hs : s.toList with
  | nil => simp [hs] at h
  | cons first rest =>
      simp only [hs, Bool.and_eq_true, List.all_eq_true] at h
      intro c hc
      rcases List.mem_cons.1 hc with rfl | hc
      · exact isNameChar_of_isNameStart h.1
      · exact h.2 c hc

theorem oneLine_of_isIdentifier {s : String} (h : isIdentifier s = true) : OneLine s := by
  intro hbreak
  have hname := isNameChar_of_isIdentifier h _ hbreak
  exact absurd hname (by decide)

theorem oneLine_toString (n : Nat) : OneLine (toString n) := by
  intro hbreak
  have hdigit := isDigit_of_mem_toString hbreak
  exact absurd hdigit (by decide)

theorem oneLine_pathName (n : Nat) : OneLine (pathName n) :=
  oneLine_of_isIdentifier (isIdentifier_pathName n)

theorem oneLine_relationName (n : Nat) : OneLine (relationName n) :=
  oneLine_of_isIdentifier (isIdentifier_relationName n)

theorem oneLine_label (kind : VertexType) : OneLine kind.label := by
  cases kind <;> decide

/-! ## Sentences of the grammar hold no line break -/

namespace Grammar

theorem Node.oneLine {var node : String} (hvar : isIdentifier var = true) (h : Node var node) :
    OneLine node := by
  have hv := oneLine_of_isIdentifier hvar
  cases h with
  | plain kind => simp +decide [hv, oneLine_label]
  | labelled hvariant kind =>
      have hvariant := oneLine_of_isIdentifier hvariant
      simp +decide [hv, hvariant, oneLine_label]

theorem MatchLine.oneLine {line : String} (h : MatchLine line) : OneLine line := by
  obtain ⟨var, node, hvar, hnode, rfl⟩ := h
  exact (oneLine_append _ _).2 ⟨by decide, hnode.oneLine hvar⟩

theorem OptionalLine.oneLine {line : String} (h : OptionalLine line) : OneLine line := by
  obtain ⟨var, node, hvar, hnode, rfl⟩ := h
  exact (oneLine_append _ _).2 ⟨by decide, hnode.oneLine hvar⟩

theorem Repeats.oneLine {modifier : String} (h : Repeats modifier) : OneLine modifier := by
  have hnumber := oneLine_toString
  cases h <;> simp +decide only [oneLine_append, hnumber, and_true]

theorem EdgeLine.oneLine {line : String} (h : EdgeLine line) : OneLine line := by
  cases h with
  | intro path relation hsource htarget hmodifier =>
      have hs := oneLine_of_isIdentifier hsource
      have ht := oneLine_of_isIdentifier htarget
      simp +decide [hs, ht, hmodifier.oneLine, oneLine_pathName, oneLine_relationName]

theorem Condition.oneLine {c : String} (h : Condition c) : OneLine c := by
  cases h with
  | absence path htarget =>
      have ht := oneLine_of_isIdentifier htarget
      simp +decide [ht, oneLine_pathName]
  | condition relation hliteral =>
      obtain ⟨body, hbody, rfl, _⟩ := hliteral
      simp +decide [hbody, oneLine_relationName]
  | sameLabels hfirst hsecond =>
      have hf := oneLine_of_isIdentifier hfirst
      have hs := oneLine_of_isIdentifier hsecond
      simp +decide [hf, hs]

theorem oneLine_of_mem_clause {conditions : List String} (h : ∀ c ∈ conditions, Condition c) :
    ∀ line ∈ clause conditions, OneLine line := by
  cases conditions with
  | nil => intro line hline; exact absurd hline List.not_mem_nil
  | cons first rest =>
      intro line hline
      rcases List.mem_cons.1 hline with rfl | hline
      · exact (oneLine_append _ _).2 ⟨by decide, (h first List.mem_cons_self).oneLine⟩
      · obtain ⟨c, hc, rfl⟩ := List.mem_map.1 hline
        exact (oneLine_append _ _).2 ⟨by decide, (h c (List.mem_cons_of_mem _ hc)).oneLine⟩

theorem oneLine_intercalate {names : List String} (h : ∀ s ∈ names, OneLine s) :
    OneLine (",".intercalate names) := by
  induction names with
  | nil => simp +decide
  | cons s rest ih =>
      have hs := h s List.mem_cons_self
      have hrest := ih fun u hu => h u (List.mem_cons_of_mem _ hu)
      cases rest with
      | nil => simpa using hs
      | cons u rest =>
          rw [String.intercalate_cons_cons]
          simp +decide [hs, hrest]

theorem Full.oneLine {lines : List String} (h : Full lines) : ∀ line ∈ lines, OneLine line := by
  cases h with
  | intro hvertices hsome hedges hoptional hconditions =>
      intro line hline
      simp only [List.mem_append, List.mem_singleton] at hline
      rcases hline with (((hline | hline) | hline) | hline) | rfl
      · exact (hvertices line hline).oneLine
      · exact (hedges line hline).oneLine
      · exact (hoptional line hline).oneLine
      · exact oneLine_of_mem_clause hconditions line hline
      · refine (oneLine_append _ _).2 ⟨by decide, oneLine_intercalate fun s hs => ?_⟩
        obtain ⟨k, _, rfl⟩ := List.mem_map.1 hs
        exact oneLine_pathName k

theorem Existence.oneLine {lines : List String} (h : Existence lines) :
    ∀ line ∈ lines, OneLine line := by
  cases h with
  | intro hsome hnodes =>
      intro line hline
      simp only [List.mem_append, List.mem_singleton] at hline
      rcases hline with hline | rfl
      · obtain ⟨n, hn, rfl⟩ := List.mem_map.1 hline
        obtain ⟨hvar, hnode⟩ := hnodes n hn
        exact (oneLine_append _ _).2 ⟨by decide, hnode.oneLine hvar⟩
      · refine (oneLine_append _ _).2 ⟨by decide, oneLine_intercalate fun s hs => ?_⟩
        obtain ⟨n, hn, rfl⟩ := List.mem_map.1 hs
        exact oneLine_of_isIdentifier (hnodes n hn).1

end Grammar

/-! ## The parts of a compiled query are sentences -/

namespace Grammar

/-- A node that has plain names only is written as a node. -/
theorem node_text {n : NodePattern} (h : n.Plain) : Node n.name n.text := by
  unfold NodePattern.text
  cases hvariant : n.variant with
  | none => exact .plain n.kind
  | some variant => exact .labelled (h.variant variant hvariant) n.kind

theorem repeats_repeatModifier {lower : Nat} {upper : UpperBound}
    (h : upper.admits lower = true) : Repeats (repeatModifier lower upper) := by
  unfold repeatModifier
  split
  · exact .once
  · exact .any
  · rename_i lower upper _
    exact .between (of_decide_eq_true h)
  · exact .atLeast _

/-- A match between plain names is written as an edge line, if its bounds are in order. -/
theorem edgeLine_text {path relation : Nat} {e : Edge} (hsource : isIdentifier e.source = true)
    (htarget : isIdentifier e.target = true) (hbounds : e.upper.admits e.lower = true) :
    EdgeLine (EdgeMatch.text ⟨pathName path, relationName relation, e.source, e.target, e.lower,
      e.upper⟩) := by
  have h := EdgeLine.intro path relation hsource htarget (repeats_repeatModifier hbounds)
  simpa only [EdgeMatch.text, RelationshipPattern.text, String.append_assoc] using h

/-- The literal of a condition, whatever its value is. -/
theorem quotedLiteral_quote (value : String) : QuotedLiteral (Literal.quote value) := by
  refine ⟨Literal.escape value, ?_, rfl, ?_⟩
  · intro hbreak
    have hcontrol := Literal.not_isControl_of_mem_escape hbreak
    exact absurd hcontrol (by decide)
  · exact Literal.afterQuote?_escape value ['"']

/-- What a template is compiled to requires is written as a condition. -/
theorem condition_text {c : Constraint} (h : c.Compiled) : Condition c.text := by
  cases h with
  | absence path hvertex => exact .absence path hvertex
  | condition relation value => exact .condition relation (quotedLiteral_quote value)
  | sameLabels hfirst hsecond => exact .sameLabels hfirst hsecond

theorem constraintLines_eq_clause (constraints : List Constraint) :
    constraintLines constraints = clause (constraints.map Constraint.text) := by
  cases constraints with
  | nil => rfl
  | cons first rest => simp [constraintLines, clause]

end Grammar

/-! ## Compiled queries -/

namespace Template

open Grammar

theorem edgeLine_of_mem_edges {t : Template} {m : EdgeMatch} (hm : m ∈ t.plan.query.edges) :
    EdgeLine m.text := by
  obtain ⟨before, e, after, hedges, _, rfl⟩ := mem_query_edges.1 hm
  obtain ⟨_, _, hbounds, _⟩ := t.edge_spec hedges
  have he := mem_of_eq_append_cons hedges
  exact edgeLine_text (isIdentifier_of_mem_encounters (source_mem_encounters he))
    (isIdentifier_of_mem_encounters (target_mem_encounters he)) hbounds

theorem presentCount_pos (t : Template) : 0 < t.presentCount := by
  obtain ⟨e, he, hpresent⟩ := t.exists_present_edge
  exact List.countP_pos_iff.2 ⟨e, he, by simp [hpresent]⟩

theorem length_query_edges (t : Template) : t.plan.query.edges.length = t.presentCount := by
  have h := congrArg List.length t.query_paths
  simpa [pathNames] using h

/-- The lines of the query are those of a full query. -/
theorem full_query_lines (t : Template) : Full t.plan.query.lines := by
  -- the return line counts the paths of the template, the grammar counts the edge lines
  have hreturn : returnLine t.plan.query.returned = "RETURN " ++ ",".intercalate
      ((List.range (t.plan.query.edges.map EdgeMatch.text).length).map pathName) := by
    rw [List.length_map, length_query_edges, plan_query]
    rfl
  rw [Query.lines, hreturn, constraintLines_eq_clause]
  refine .intro ?_ ?_ ?_ ?_ ?_
  · intro line hline
    obtain ⟨n, hn, rfl⟩ := List.mem_map.1 hline
    have hplain := plain_of_mem_mandatory hn
    exact ⟨n.name, n.text, hplain.name, node_text hplain, rfl⟩
  · -- some edge is present, and its line is there
    have hpos := t.presentCount_pos
    rw [← length_query_edges] at hpos
    rw [ne_eq, List.map_eq_nil_iff]
    exact List.ne_nil_of_length_pos hpos
  · intro line hline
    obtain ⟨m, hm, rfl⟩ := List.mem_map.1 hline
    exact edgeLine_of_mem_edges hm
  · intro line hline
    obtain ⟨n, hn, rfl⟩ := List.mem_map.1 hline
    have hplain := plain_of_mem_optional hn
    exact ⟨n.name, n.text, hplain.name, node_text hplain, rfl⟩
  · intro c hc
    obtain ⟨constraint, hconstraint, rfl⟩ := List.mem_map.1 hc
    exact condition_text (compiled_of_mem_constraints hconstraint)

/-- The lines of the query to be run first are those of a query for existence. -/
theorem existence_query_lines {t : Template} {q : ExistenceQuery}
    (hq : t.plan.existence = some q) : Existence q.lines := by
  obtain ⟨hsome, hnodes⟩ := existence_nodes hq
  have hnode : ∀ n ∈ q.nodes.map (fun n => (n.name, n.text)),
      isIdentifier n.1 = true ∧ Node n.1 n.2 := by
    intro n hn
    obtain ⟨pattern, hpattern, rfl⟩ := List.mem_map.1 hn
    obtain ⟨v, hv, rfl⟩ := hnodes pattern hpattern
    have hplain := plain_ofVertex hv
    exact ⟨hplain.name, node_text hplain⟩
  have h := Existence.intro (by simpa using hsome) hnode
  simpa [ExistenceQuery.lines, VertexMatch.text, returnLine, Function.comp_def] using h

theorem compile_query (t : Template) : t.compile.query = t.plan.query.text := by
  rw [compile, Plan.text]

theorem linesOf_query_text (t : Template) : linesOf t.plan.query.text = t.plan.query.lines :=
  linesOf_joinLines (by simp [Query.lines]) t.full_query_lines.oneLine

/-- The lines of a compiled query are its parts, in this order. -/
theorem linesOf_compile_query (t : Template) :
    linesOf t.compile.query =
      t.plan.query.mandatory.map (fun n => "MATCH " ++ n.text) ++
        t.plan.query.edges.map EdgeMatch.text ++
        t.plan.query.optional.map (fun n => "OPTIONAL MATCH " ++ n.text) ++
        constraintLines t.plan.query.constraints ++ [returnLine t.pathNames] := by
  rw [compile_query, linesOf_query_text, Query.lines, query_returned]
  rfl

/-- The lines of an existence query are its parts. -/
theorem linesOf_existence_text {t : Template} {q : ExistenceQuery}
    (hq : t.plan.existence = some q) : linesOf q.text = q.lines :=
  linesOf_joinLines (by simp [ExistenceQuery.lines]) (existence_query_lines hq).oneLine

/-- A compiled query is a sentence of the query grammar, and so is the query for the existence of
missing targets, if there is one. Their lines are their parts, one line for each. -/
theorem compile_lines_grammatical (t : Template) :
    linesOf t.compile.query = t.plan.query.lines ∧ Full (linesOf t.compile.query) ∧
      ∀ text, t.compile.predecessor = some text →
        ∃ q, t.plan.existence = some q ∧ linesOf text = q.lines ∧ Existence (linesOf text) := by
  have hfull := t.full_query_lines
  have hlines : linesOf t.compile.query = t.plan.query.lines :=
    linesOf_joinLines (by simp [Query.lines]) hfull.oneLine
  refine ⟨hlines, hlines.symm ▸ hfull, fun text htext => ?_⟩
  obtain ⟨q, hq, rfl⟩ := Option.map_eq_some_iff.1 htext
  have hexistence := existence_query_lines hq
  have hq' : linesOf q.text = q.lines :=
    linesOf_joinLines (by simp [ExistenceQuery.lines]) hexistence.oneLine
  exact ⟨q, hq, hq', hq'.symm ▸ hexistence⟩

/-- A condition that tries to end its literal and its line, beside a missing connection. -/
def hostileCondition : Template where
  vertices := [
    { id := "a", kind := .activity, variant := "X" },
    { id := "s", kind := .gateway, variant := "S", placeholder := true },
    { id := "b", kind := .event }]
  edges := [
    { source := "a", target := "s", lower := 2, upper := .unbounded,
      condition := some "\" OR true\nRETURN a\\" },
    { source := "a", target := "b", missing := true }]
  accepted := by decide +kernel

theorem compile_lines_grammatical_hostileCondition :
    linesOf hostileCondition.compile.query = [
      "MATCH (a:X:ACTIVITY)", "MATCH (s:GATEWAY)", "MATCH p0=(a)-[r0*2..]->(s)",
      "OPTIONAL MATCH (b:EVENT)",
      "WHERE r0.condition=\"\\\" OR true\\nRETURN a\\\\\"",
      "AND NONE (n IN nodes(p0) WHERE n=b)", "RETURN p0"] ∧
    Full (linesOf hostileCondition.compile.query) ∧
    ∃ text, hostileCondition.compile.predecessor = some text ∧
      linesOf text = ["OPTIONAL MATCH (b:EVENT)", "RETURN b"] ∧ Existence (linesOf text) := by
  obtain ⟨hlines, hfull, hpredecessor⟩ := hostileCondition.compile_lines_grammatical
  have htext : hostileCondition.compile.predecessor =
      some "OPTIONAL MATCH (b:EVENT)\nRETURN b" := by decide
  obtain ⟨q, hq, hlines', hexistence⟩ := hpredecessor _ htext
  obtain rfl : ⟨[⟨"b", none, .event⟩]⟩ = q := Option.some.inj (Eq.trans (by decide) hq)
  exact ⟨hlines.trans (by decide), hfull, _, htext, hlines'.trans (by decide), hexistence⟩

end Template

end FlawQuery
