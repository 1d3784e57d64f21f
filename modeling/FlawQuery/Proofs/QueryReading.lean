/-
# FlawQuery.Proofs.QueryReading -- the text of a query says what its parts are

Every part of a query has a reader here that knows nothing of templates. A name ends at the first
character that no name contains, a number at the first that is no digit, a literal at its closing
quote, and a line at its break, so nothing in the text can be taken in two ways:
`read?_compile_query` reads the whole query back. Two templates whose queries have the same text
therefore have the same query, part by part.
-/

import FlawQuery.Proofs.AbsenceTests

namespace FlawQuery

open NodeTest (readName? readName?_append readName?_eq_none)

/-! ## Repeat modifiers -/

namespace Grammar

/-- What a repeat modifier says about the number of repetitions: the least number and the bound. -/
inductive Denotes : String → Nat → UpperBound → Prop
  | once : Denotes "" 1 (.bounded 1)
  | any : Denotes "*" 1 .unbounded
  | atLeast (lower : Nat) : Denotes ("*" ++ toString lower ++ "..") lower .unbounded
  | between (lower upper : Nat) :
      Denotes ("*" ++ toString lower ++ ".." ++ toString upper) lower (.bounded upper)

theorem denotes_repeatModifier (lower : Nat) (upper : UpperBound) :
    Denotes (repeatModifier lower upper) lower upper := by
  unfold repeatModifier
  split
  · exact .once
  · exact .any
  · exact .between _ _
  · exact .atLeast _

end Grammar

/-- The number that some digits spell. -/
def numberOf (digits : List Char) : Nat := Nat.ofDigitChars 10 digits 0

/-- The upper bound that the digits after the two dots spell; without digits there is none. -/
def upperOf (digits : List Char) : UpperBound :=
  if digits = [] then .unbounded else .bounded (numberOf digits)

/-- The bounds that the repeat modifier at the front denotes, and what comes after it. -/
def readRepeats : List Char → (Nat × UpperBound) × List Char
  | '*' :: rest =>
    match rest.dropWhile Char.isDigit with
    | '.' :: '.' :: bound =>
      ((numberOf (rest.takeWhile Char.isDigit), upperOf (bound.takeWhile Char.isDigit)),
        bound.dropWhile Char.isDigit)
    | rest => ((1, .unbounded), rest)
  | rest => ((1, .bounded 1), rest)

theorem numberOf_toString (n : Nat) : numberOf (toString n).toList = n := by
  have hdigits : (toString n).toList = Nat.toDigits 10 n := by simp
  rw [numberOf, hdigits, Nat.ofDigitChars_ten_toDigits]

theorem upperOf_toString (n : Nat) : upperOf (toString n).toList = .bounded n := by
  have hsome : (toString n).toList ≠ [] := by
    intro hnil
    have hlength := congrArg List.length hnil
    simp at hlength
  rw [upperOf, if_neg hsome, numberOf_toString]

/-- The digits of a number end at the first character that is none. -/
theorem takeWhile_dropWhile_toString (n : Nat) {c : Char} (hc : c.isDigit = false)
    (rest : List Char) :
    ((toString n).toList ++ c :: rest).takeWhile Char.isDigit = (toString n).toList ∧
      ((toString n).toList ++ c :: rest).dropWhile Char.isDigit = c :: rest := by
  apply NodeTest.takeWhile_dropWhile_append
  · exact fun d hd => isDigit_of_mem_toString hd
  · rintro d ⟨⟩
    exact hc

/-- A repeat modifier is read up to the bracket that closes the relationship. -/
theorem readRepeats_append {modifier : String} {lower : Nat} {upper : UpperBound}
    (h : Grammar.Denotes modifier lower upper) (rest : List Char) :
    readRepeats (modifier.toList ++ ']' :: rest) = ((lower, upper), ']' :: rest) := by
  cases h with
  | once => rfl
  | any => rfl
  | atLeast =>
      have htext : ("*" ++ toString lower ++ "..").toList ++ ']' :: rest =
          '*' :: ((toString lower).toList ++ '.' :: '.' :: ']' :: rest) := by
        simp
      obtain ⟨htake, hdrop⟩ :=
        takeWhile_dropWhile_toString lower (c := '.') rfl ('.' :: ']' :: rest)
      rw [htext, readRepeats, hdrop, htake, numberOf_toString]
      rfl
  | between lower upper =>
      have htext : ("*" ++ toString lower ++ ".." ++ toString upper).toList ++ ']' :: rest =
          '*' :: ((toString lower).toList ++
            '.' :: '.' :: ((toString upper).toList ++ ']' :: rest)) := by
        simp
      obtain ⟨htake, hdrop⟩ := takeWhile_dropWhile_toString lower (c := '.') rfl
        ('.' :: ((toString upper).toList ++ ']' :: rest))
      obtain ⟨htake', hdrop'⟩ := takeWhile_dropWhile_toString upper (c := ']') rfl rest
      rw [htext, readRepeats, hdrop, htake, numberOf_toString]
      show ((lower, upperOf (((toString upper).toList ++ ']' :: rest).takeWhile Char.isDigit)),
        ((toString upper).toList ++ ']' :: rest).dropWhile Char.isDigit) = _
      rw [htake', hdrop', upperOf_toString]

/-- A repeat modifier denotes one pair of bounds. -/
theorem Grammar.Denotes.unique {modifier : String} {lower lower' : Nat} {upper upper' : UpperBound}
    (h : Denotes modifier lower upper) (h' : Denotes modifier lower' upper') :
    lower = lower' ∧ upper = upper' := by
  have hread := (readRepeats_append h []).symm.trans (readRepeats_append h' [])
  have hbounds := congrArg Prod.fst hread
  exact ⟨congrArg Prod.fst hbounds, congrArg Prod.snd hbounds⟩

/-! ## Node patterns and edge matches -/

/-- The node pattern that makes up the whole text. -/
def NodePattern.read? (cs : List Char) : Option NodePattern := do
  let (name, rest) ← readName? "(" cs
  let (label, rest) ← readName? ":" rest
  if rest = [')'] then
    (VertexType.ofLabel? label).map fun kind => ⟨name, none, kind⟩
  else
    let (type, rest) ← readName? ":" rest
    if rest = [')'] then (VertexType.ofLabel? type).map fun kind => ⟨name, some label, kind⟩
    else none

/-- The edge match that makes up the whole text, its keyword left aside. -/
def EdgeMatch.read? (cs : List Char) : Option EdgeMatch := do
  let (path, rest) ← readName? "" cs
  let (source, rest) ← readName? "=(" rest
  let (relation, rest) ← readName? ")-[" rest
  let ((lower, upper), rest) := readRepeats rest
  let (target, rest) ← readName? "]->(" rest
  if rest = [')'] then some ⟨path, relation, source, target, lower, upper⟩ else none

theorem isIdentifier_label (kind : VertexType) : isIdentifier kind.label = true := by
  cases kind <;> decide

theorem NodePattern.read?_text {n : NodePattern} (h : n.Plain) :
    read? n.text.toList = some n := by
  obtain ⟨name, variant, kind⟩ := n
  obtain ⟨hname, hvariant⟩ := h
  cases variant with
  | none =>
      have htext : (NodePattern.text ⟨name, none, kind⟩).toList =
          "(".toList ++ (name.toList ++ (":".toList ++ (kind.label.toList ++ [')']))) := by
        unfold text
        simp only [String.toList_append, List.append_assoc]
        rfl
      rw [read?, htext, readName?_append _ hname rfl (by decide)]
      show (readName? _ _).bind _ = _
      rw [readName?_append _ (isIdentifier_label kind) rfl (by decide)]
      show (VertexType.ofLabel? kind.label).map _ = _
      rw [VertexType.ofLabel?_label]
      rfl
  | some variant =>
      have htext : (NodePattern.text ⟨name, some variant, kind⟩).toList =
          "(".toList ++ (name.toList ++ (":".toList ++ (variant.toList ++
            (":".toList ++ (kind.label.toList ++ [')']))))) := by
        unfold text
        simp only [String.toList_append, List.append_assoc]
        rfl
      rw [read?, htext, readName?_append _ hname rfl (by decide)]
      show (readName? _ _).bind _ = _
      rw [readName?_append _ (hvariant variant rfl) rfl (by decide)]
      show (readName? _ _).bind _ = _
      rw [readName?_append _ (isIdentifier_label kind) rfl (by decide)]
      show (VertexType.ofLabel? kind.label).map _ = _
      rw [VertexType.ofLabel?_label]
      rfl

/-- The text of an edge match after its keyword. -/
def EdgeMatch.body (m : EdgeMatch) : List Char :=
  m.path.toList ++ ("=(".toList ++ (m.relationship.source.toList ++ (")-[".toList ++
    (m.relationship.name.toList ++
      ((repeatModifier m.relationship.lower m.relationship.upper).toList ++
        ']' :: ("->(".toList ++ (m.relationship.target.toList ++ [')'])))))))

theorem EdgeMatch.toList_text (m : EdgeMatch) : m.text.toList = "MATCH ".toList ++ m.body := by
  unfold text RelationshipPattern.text body
  simp only [String.toList_append, List.append_assoc]
  rfl

/-- A relationship name ends where its repeat modifier or the closing bracket begins. -/
theorem exists_head_of_denotes {modifier : String} {lower : Nat} {upper : UpperBound}
    (h : Grammar.Denotes modifier lower upper) (rest : List Char) :
    ∃ c, (modifier.toList ++ ']' :: rest).head? = some c ∧ isNameChar c = false := by
  cases h with
  | once => exact ⟨']', rfl, by decide⟩
  | any => exact ⟨'*', rfl, by decide⟩
  | atLeast lower => exact ⟨'*', by simp, by decide⟩
  | between lower upper => exact ⟨'*', by simp, by decide⟩

theorem EdgeMatch.read?_body {m : EdgeMatch} (h : m.Plain) : read? m.body = some m := by
  have hdenotes := Grammar.denotes_repeatModifier m.relationship.lower m.relationship.upper
  obtain ⟨c, hhead, hc⟩ := exists_head_of_denotes hdenotes
    ("->(".toList ++ (m.relationship.target.toList ++ [')']))
  show (readName? "" ("".toList ++ (m.path.toList ++ _))).bind _ = _
  rw [readName?_append _ h.path rfl (by decide)]
  show (readName? _ _).bind _ = _
  rw [readName?_append _ h.source rfl (by decide)]
  show (readName? _ _).bind _ = _
  rw [readName?_append _ h.relation hhead hc]
  -- the closing bracket ends the modifier, and the text before the target begins with it
  dsimp only [Option.bind_some]
  rw [readRepeats_append hdenotes]
  show (readName? "]->(" ("]->(".toList ++ (m.relationship.target.toList ++ [')']))).bind _ = _
  rw [readName?_append _ h.target rfl (by decide)]
  rfl

/-- An edge match does not begin with a bracket. -/
theorem EdgeMatch.nodePattern_read?_body {m : EdgeMatch} (h : m.Plain) :
    NodePattern.read? m.body = none := by
  cases hpath : m.path.toList with
  | nil =>
      have hplain := h.path
      simp [isIdentifier, hpath] at hplain
  | cons c rest =>
      have hc : isNameChar c = true :=
        isNameChar_of_isIdentifier h.path c (hpath ▸ List.mem_cons_self)
      have hne : c ≠ '(' := by
        rintro rfl
        exact absurd hc (by decide)
      rw [NodePattern.read?, body, hpath, List.cons_append, readName?_eq_none rfl hne]
      rfl

/-! ## Constraints -/

namespace Constraint

/-- The absence that makes up the whole text. -/
def readAbsence? (cs : List Char) : Option Constraint := do
  let test ← NodeTest.read? (String.ofList cs)
  if test.bound = "n" ∧ test.left = "n" then some (.absence test.path test.right) else none

/-- The equality of labels that makes up the whole text. -/
def readSameLabels? (cs : List Char) : Option Constraint := do
  let (first, rest) ← readName? "labels(" cs
  let (second, rest) ← readName? ")=labels(" rest
  if rest = [')'] then some (.sameLabels first second) else none

/-- The value of a condition that makes up the whole text. -/
def readCondition? (cs : List Char) : Option Constraint := do
  let (relation, rest) ← readName? "" cs
  let rest ← rest.dropPrefix? ".condition=\"".toList
  let (value, rest) ← Literal.read? rest
  if rest = [] then some (.condition relation (String.ofList value)) else none

/-- The constraint that makes up the whole text. -/
def read? (cs : List Char) : Option Constraint :=
  (readAbsence? cs).or ((readSameLabels? cs).or (readCondition? cs))

theorem readSameLabels?_text_condition (relation : Nat) (value : String) :
    readSameLabels? (condition (relationName relation) value).text.toList = none := by
  have htext := toList_text_condition (relationName relation) value
  rw [toList_relationName] at htext
  rw [readSameLabels?, htext, List.cons_append, readName?_eq_none rfl (by decide)]
  rfl

theorem readSameLabels?_text {first second : String} (hfirst : isIdentifier first = true)
    (hsecond : isIdentifier second = true) :
    readSameLabels? (sameLabels first second).text.toList = some (.sameLabels first second) := by
  rw [readSameLabels?, toList_text_sameLabels, readName?_append _ hfirst rfl (by decide)]
  show (readName? _ _).bind _ = _
  rw [readName?_append _ hsecond rfl (by decide)]
  rfl

/-- The value of a condition is read back whatever it is. -/
theorem readCondition?_text {relation : String} (hrelation : isIdentifier relation = true)
    (value : String) :
    readCondition? (condition relation value).text.toList = some (.condition relation value) := by
  rw [readCondition?, toList_text_condition]
  show (readName? "" ("".toList ++ (relation.toList ++ _))).bind _ = _
  rw [readName?_append _ hrelation rfl (by decide)]
  dsimp only [Option.bind_eq_bind, Option.bind_some]
  rw [List.dropPrefix?_append_of_beq _ BEq.rfl, Option.bind_some, Literal.read?_escape,
    Option.bind_some, if_pos rfl, String.ofList_toList]

theorem read?_text {c : Constraint} (h : c.Compiled) : read? c.text.toList = some c := by
  cases h with
  | absence path hvertex =>
      rw [read?, readAbsence?, String.ofList_toList, read?_text_absence path hvertex]
      rfl
  | condition relation value =>
      rw [read?, readAbsence?, String.ofList_toList, read?_text_condition,
        readSameLabels?_text_condition, readCondition?_text (isIdentifier_relationName relation)]
      rfl
  | sameLabels hfirst hsecond =>
      rw [read?, readAbsence?, String.ofList_toList, read?_text_sameLabels,
        readSameLabels?_text hfirst hsecond]
      rfl

end Constraint

/-! ## Lines -/

/-- One line of a query. The first constraint opens the conjunction, the others go on with it. -/
inductive QueryLine where
  | vertex (m : VertexMatch)
  | edge (m : EdgeMatch)
  | constraint (first : Bool) (c : Constraint)
  | returned (names : List String)
  deriving DecidableEq, Repr

namespace QueryLine

/-- The line in query text. -/
def text : QueryLine → String
  | vertex m => m.text
  | edge m => m.text
  | constraint first c => (if first then "WHERE " else "AND ") ++ c.text
  | returned names => returnLine names

/-- What follows the word in a line, read by the given reader. -/
def after? (word : String) (line : List Char) (reader : List Char → Option QueryLine) :
    Option QueryLine :=
  (line.dropPrefix? word.toList).bind reader

/-- The line that makes up the whole text. -/
def read? (line : List Char) : Option QueryLine :=
  match line.head? with
  | some 'O' => after? "OPTIONAL MATCH " line fun cs =>
    (NodePattern.read? cs).map (vertex ⟨·, true⟩)
  | some 'M' => after? "MATCH " line fun cs =>
    ((NodePattern.read? cs).map (vertex ⟨·, false⟩)).or ((EdgeMatch.read? cs).map edge)
  | some 'W' => after? "WHERE " line fun cs => (Constraint.read? cs).map (constraint true)
  | some 'A' => after? "AND " line fun cs => (Constraint.read? cs).map (constraint false)
  | some 'R' => after? "RETURN " line fun cs => some (returned ((cs.splitOn ',').map String.ofList))
  | _ => none

/-- The lines that compiled queries are made of. -/
inductive Compiled : QueryLine → Prop
  | vertex {m : VertexMatch} (h : m.node.Plain) : Compiled (.vertex m)
  | edge {m : EdgeMatch} (h : m.Plain) : Compiled (.edge m)
  | constraint (first : Bool) {c : Constraint} (h : c.Compiled) : Compiled (.constraint first c)
  | returned {names : List String} (hsome : names ≠ [])
      (hnames : ∀ name ∈ names, isIdentifier name = true) : Compiled (.returned names)

theorem after?_append (word : String) (cs : List Char) (reader : List Char → Option QueryLine) :
    after? word (word.toList ++ cs) reader = reader cs := by
  rw [after?, List.dropPrefix?_append_of_beq cs BEq.rfl]
  rfl

theorem read?_text {line : QueryLine} (h : line.Compiled) : read? line.text.toList = some line := by
  cases h with
  | @vertex m h =>
      obtain ⟨node, optional⟩ := m
      have hnode := NodePattern.read?_text h
      cases optional with
      | true =>
          have htext : (VertexMatch.text ⟨node, true⟩).toList =
            "OPTIONAL MATCH ".toList ++ node.text.toList := String.toList_append
          rw [text, htext]
          show after? _ _ _ = _
          rw [after?_append, hnode]
          rfl
      | false =>
          have htext : (VertexMatch.text ⟨node, false⟩).toList =
            "MATCH ".toList ++ node.text.toList := String.toList_append
          rw [text, htext]
          show after? _ _ _ = _
          rw [after?_append, hnode]
          rfl
  | edge h =>
      rw [text, EdgeMatch.toList_text]
      show after? _ _ _ = _
      rw [after?_append, EdgeMatch.nodePattern_read?_body h, EdgeMatch.read?_body h]
      rfl
  | constraint first h =>
      cases first with
      | true =>
          rw [text, if_pos rfl, String.toList_append]
          show after? _ _ _ = _
          rw [after?_append, Constraint.read?_text h]
          rfl
      | false =>
          rw [text, if_neg Bool.false_ne_true, String.toList_append]
          show after? _ _ _ = _
          rw [after?_append, Constraint.read?_text h]
          rfl
  | @returned names hsome hnames =>
      have hcommas : ((",".intercalate names).toList.splitOn ',').map String.ofList = names :=
        map_ofList_splitOn_intercalate rfl hsome fun name hname hcomma =>
          absurd (isNameChar_of_isIdentifier (hnames name hname) _ hcomma) (by decide)
      rw [text, returnLine, String.toList_append]
      show after? _ _ _ = _
      rw [after?_append, hcommas]

/-- The pattern of a vertex that must be matched. -/
def mandatory? : QueryLine → Option NodePattern
  | vertex ⟨node, false⟩ => some node
  | _ => none

/-- The pattern of a vertex that may be matched. -/
def optional? : QueryLine → Option NodePattern
  | vertex ⟨node, true⟩ => some node
  | _ => none

/-- The match of an edge. -/
def edge? : QueryLine → Option EdgeMatch
  | edge m => some m
  | _ => none

/-- The constraint of the conjunction. -/
def constraint? : QueryLine → Option Constraint
  | constraint _ c => some c
  | _ => none

/-- The names that are returned. -/
def returned? : QueryLine → Option (List String)
  | returned names => some names
  | _ => none

/-- The lines of a conjunction. -/
def conjunction : List Constraint → List QueryLine
  | [] => []
  | c :: rest => constraint true c :: rest.map (constraint false)

theorem map_text_conjunction (constraints : List Constraint) :
    (conjunction constraints).map text = constraintLines constraints := by
  cases constraints with
  | nil => rfl
  | cons c rest =>
      rw [conjunction, List.map_cons, List.map_map]
      rfl

theorem mem_conjunction {line : QueryLine} {constraints : List Constraint}
    (h : line ∈ conjunction constraints) :
    ∃ first, ∃ c ∈ constraints, line = constraint first c := by
  cases constraints with
  | nil => exact absurd h List.not_mem_nil
  | cons c rest =>
      rcases List.mem_cons.1 h with rfl | h
      · exact ⟨true, c, List.mem_cons_self, rfl⟩
      · obtain ⟨c', hc', rfl⟩ := List.mem_map.1 h
        exact ⟨false, c', List.mem_cons_of_mem c hc', rfl⟩

/-- What the lines of a conjunction hold does not depend on the words that open them. -/
theorem filterMap_conjunction {α : Type} {f : QueryLine → Option α} {g : Constraint → Option α}
    (h : ∀ first c, f (constraint first c) = g c) (constraints : List Constraint) :
    (conjunction constraints).filterMap f = constraints.filterMap g := by
  cases constraints with
  | nil => rfl
  | cons c rest =>
      rw [conjunction, List.filterMap_cons, List.filterMap_map, List.filterMap_cons, h,
        ← funext (h false)]
      rfl

/-- No line is lost where a text is read line by line. -/
theorem mapM_read?_text {parts : List QueryLine} (h : ∀ line ∈ parts, line.Compiled) :
    (parts.map text).mapM (fun line => read? line.toList) = some parts := by
  induction parts with
  | nil => rfl
  | cons line rest ih =>
      have hline := read?_text (h line List.mem_cons_self)
      have hrest := ih fun l hl => h l (List.mem_cons_of_mem line hl)
      rw [List.map_cons, List.mapM_cons, hline, hrest]
      rfl

end QueryLine

/-! ## Whole queries -/

namespace Query

open QueryLine

/-- The lines of the query as data. -/
def parts (q : Query) : List QueryLine :=
  q.mandatory.map (vertex ⟨·, false⟩) ++ q.edges.map edge ++ q.optional.map (vertex ⟨·, true⟩) ++
    conjunction q.constraints ++ [.returned q.returned]

/-- The query whose lines these are, sorted by kind. -/
def ofParts (parts : List QueryLine) : Query where
  mandatory := parts.filterMap mandatory?
  edges := parts.filterMap edge?
  optional := parts.filterMap optional?
  constraints := parts.filterMap constraint?
  returned := (parts.filterMap returned?).flatten

/-- The query that makes up the whole text: each line is read, and the lines stand in their order. -/
def read? (text : String) : Option Query := do
  let parts ← (linesOf text).mapM fun line => QueryLine.read? line.toList
  if (ofParts parts).parts = parts then some (ofParts parts) else none

theorem lines_eq_map_text (q : Query) : q.lines = q.parts.map QueryLine.text := by
  simp only [parts, List.map_append, List.map_map, map_text_conjunction]
  rfl

/-- What the lines of a query hold, part by part. -/
theorem filterMap_parts {α : Type} {f : QueryLine → Option α} {g : Constraint → Option α}
    (h : ∀ first c, f (constraint first c) = g c) (q : Query) :
    q.parts.filterMap f = q.mandatory.filterMap (fun n => f (vertex ⟨n, false⟩)) ++
      q.edges.filterMap (fun m => f (edge m)) ++
      q.optional.filterMap (fun n => f (vertex ⟨n, true⟩)) ++ q.constraints.filterMap g ++
      (f (.returned q.returned)).toList := by
  simp only [parts, List.filterMap_append, List.filterMap_map, filterMap_conjunction h,
    Function.comp_def, List.filterMap_cons, List.filterMap_nil]
  cases f (.returned q.returned) <;> rfl

theorem filterMap_edge?_parts (q : Query) : q.parts.filterMap edge? = q.edges := by
  rw [filterMap_parts (g := fun _ => none) fun _ _ => rfl]
  simp [edge?]

theorem filterMap_returned?_parts (q : Query) : q.parts.filterMap returned? = [q.returned] := by
  rw [filterMap_parts (g := fun _ => none) fun _ _ => rfl]
  simp [returned?]

theorem ofParts_parts (q : Query) : ofParts q.parts = q := by
  have hmandatory : q.parts.filterMap mandatory? = q.mandatory := by
    rw [filterMap_parts (g := fun _ => none) fun _ _ => rfl]
    simp [mandatory?]
  have hoptional : q.parts.filterMap optional? = q.optional := by
    rw [filterMap_parts (g := fun _ => none) fun _ _ => rfl]
    simp [optional?]
  have hconstraints : q.parts.filterMap constraint? = q.constraints := by
    rw [filterMap_parts (g := some) fun _ _ => rfl]
    simp [constraint?]
  rw [ofParts, hmandatory, filterMap_edge?_parts, hoptional, hconstraints,
    filterMap_returned?_parts, List.flatten_singleton]

/-- A query is read back from its text if each of its lines can be. -/
theorem read?_text {q : Query} (h : ∀ line ∈ q.parts, line.Compiled)
    (hlines : linesOf q.text = q.lines) : read? q.text = some q := by
  rw [read?, hlines, lines_eq_map_text, mapM_read?_text h]
  show (if (ofParts q.parts).parts = q.parts then some (ofParts q.parts) else none) = _
  rw [ofParts_parts, if_pos rfl]

end Query

namespace Template

/-! ## Compiled queries -/

theorem pathNames_ne_nil (t : Template) : t.pathNames ≠ [] := by
  have hpos := t.presentCount_pos
  rw [pathNames, ne_eq, List.map_eq_nil_iff, List.range_eq_nil]
  omega

/-- Every line of a compiled query can be read. -/
theorem compiled_of_mem_parts {t : Template} {line : QueryLine} (h : line ∈ t.plan.query.parts) :
    line.Compiled := by
  simp only [Query.parts, List.mem_append, List.mem_singleton] at h
  rcases h with (((h | h) | h) | h) | rfl
  · obtain ⟨n, hn, rfl⟩ := List.mem_map.1 h
    exact .vertex (plain_of_mem_mandatory hn)
  · obtain ⟨m, hm, rfl⟩ := List.mem_map.1 h
    exact .edge (plain_of_mem_edges hm)
  · obtain ⟨n, hn, rfl⟩ := List.mem_map.1 h
    exact .vertex (plain_of_mem_optional hn)
  · obtain ⟨first, c, hc, rfl⟩ := QueryLine.mem_conjunction h
    exact .constraint first (compiled_of_mem_constraints hc)
  · rw [query_returned]
    refine .returned t.pathNames_ne_nil fun name hname => ?_
    obtain ⟨k, _, rfl⟩ := List.mem_map.1 hname
    exact isIdentifier_pathName k

theorem read?_compile_query (t : Template) : Query.read? t.compile.query = some t.plan.query := by
  rw [compile_query]
  exact Query.read?_text (fun _ => compiled_of_mem_parts) t.linesOf_query_text

/-- A compiled query is read back from its text. So two templates have queries of the same text exactly
if their queries agree in every part: the vertices that must be matched, the edges, the vertices that
may be matched, and the constraints, each in order. -/
theorem compile_query_eq_iff_parts (t₁ t₂ : Template) :
    Query.read? t₁.compile.query = some t₁.plan.query ∧
    (t₁.compile.query = t₂.compile.query ↔
      t₁.plan.query.mandatory = t₂.plan.query.mandatory ∧
      t₁.plan.query.edges = t₂.plan.query.edges ∧
      t₁.plan.query.optional = t₂.plan.query.optional ∧
      t₁.plan.query.constraints = t₂.plan.query.constraints) := by
  refine ⟨t₁.read?_compile_query, ?_, ?_⟩
  · intro htext
    have hquery : t₁.plan.query = t₂.plan.query := by
      have hread := t₁.read?_compile_query
      rw [htext, read?_compile_query] at hread
      exact (Option.some.inj hread).symm
    rw [hquery]
    exact ⟨rfl, rfl, rfl, rfl⟩
  · rintro ⟨hmandatory, hedges, hoptional, hconstraints⟩
    -- the returned paths are those of the edges
    have hreturned : t₁.plan.query.returned = t₂.plan.query.returned := by
      rw [query_returned, query_returned, ← query_paths, ← query_paths, hedges]
    rw [compile_query, compile_query, Query.text, Query.text, Query.lines, Query.lines,
      hmandatory, hedges, hoptional, hconstraints, hreturned]

/-- The vertices of `interleaved` in another order, under another group name, and one that no edge
touches. -/
def interleavedRenamed : Template where
  vertices := [
    { id := "d", kind := .event, variant := "T", placeholder := true },
    { id := "c", kind := .event, variant := "T", placeholder := true },
    { id := "b", kind := .activity }, { id := "a", kind := .activity },
    { id := "z", kind := .gateway }]
  edges := interleaved.edges
  accepted := by decide +kernel

theorem compile_query_eq_iff_parts_interleaved :
    Query.read? interleaved.compile.query = some interleaved.plan.query ∧
    interleaved.vertices ≠ interleavedRenamed.vertices ∧
    interleaved.plan.query.constraints = interleavedRenamed.plan.query.constraints ∧
    interleaved.plan.query.constraints = [
      .condition "r0" "say \"hi\"", .absence "p0" "c", .condition "r1" "y", .absence "p0" "d",
      .absence "p1" "d", .sameLabels "c" "d"] := by
  obtain ⟨hread, hparts⟩ := compile_query_eq_iff_parts interleaved interleavedRenamed
  obtain ⟨_, _, _, hconstraints⟩ := hparts.1 (by decide +kernel)
  exact ⟨hread, by decide, hconstraints, by decide⟩

end Template

end FlawQuery
