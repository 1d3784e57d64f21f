/-
# FlawQuery.Proofs.FirstViolation -- which graphs are templates, and why the others are not

The check walks over vertices and edges with what it has seen so far, and stops. Here the rules are
stated without the walk: `WellFormed` says what a graph must satisfy, and `violations` lists every
breach of it, where each vertex and each edge is held against those before it. The check accepts
exactly the well-formed graphs (`violations_eq_nil_iff`), and what it answers otherwise is the first
entry of that list (`firstFault?_eq_head?_violations`), however many faults a graph has at once.
-/

import FlawQuery.Template.Build
import Mathlib.Data.List.Induction
import Mathlib.Data.List.Nodup

namespace FlawQuery

/-! ## Plain names by their characters -/

/-- An ASCII letter. -/
def IsLetter (c : Char) : Prop := ('A' ≤ c ∧ c ≤ 'Z') ∨ ('a' ≤ c ∧ c ≤ 'z')

/-- An ASCII digit. -/
def IsDigit (c : Char) : Prop := '0' ≤ c ∧ c ≤ '9'

/-- The names `[A-Za-z_][A-Za-z0-9_]*`. -/
def PlainName (s : String) : Prop :=
  ∃ first rest, s.toList = first :: rest ∧ (IsLetter first ∨ first = '_') ∧
    ∀ c ∈ rest, IsLetter c ∨ IsDigit c ∨ c = '_'

theorem isAlpha_iff (c : Char) : c.isAlpha = true ↔ IsLetter c := by
  show (decide ('A'.val ≤ c.val ∧ c.val ≤ 'Z'.val) ||
    (decide ('a'.val ≤ c.val) && decide (c.val ≤ 'z'.val))) = true ↔ _
  rw [Bool.or_eq_true, Bool.and_eq_true, decide_eq_true_iff, decide_eq_true_iff, decide_eq_true_iff]
  rfl

theorem isDigit_iff (c : Char) : c.isDigit = true ↔ IsDigit c := by
  show (decide ('0'.val ≤ c.val) && decide (c.val ≤ '9'.val)) = true ↔ _
  rw [Bool.and_eq_true, decide_eq_true_iff, decide_eq_true_iff]
  rfl

theorem isNameStart_iff (c : Char) : isNameStart c = true ↔ IsLetter c ∨ c = '_' := by
  rw [isNameStart, Bool.or_eq_true, isAlpha_iff, beq_iff_eq]

theorem isNameChar_iff (c : Char) : isNameChar c = true ↔ IsLetter c ∨ IsDigit c ∨ c = '_' := by
  rw [isNameChar, Bool.or_eq_true, Char.isAlphanum, Bool.or_eq_true, isAlpha_iff, isDigit_iff,
    beq_iff_eq, or_assoc]

theorem isIdentifier_iff (s : String) : isIdentifier s = true ↔ PlainName s := by
  unfold isIdentifier PlainName
  cases s.toList with
  | nil => simp
  | cons first rest => simp [isNameStart_iff, isNameChar_iff]

instance : DecidablePred PlainName := fun s => decidable_of_iff _ (isIdentifier_iff s)

/-! ## Lists seen entry by entry -/

theorem mem_of_eq_append_cons {α : Type} {l before after : List α} {a : α}
    (h : l = before ++ a :: after) : a ∈ l := by
  rw [h]
  exact List.mem_append_right before List.mem_cons_self

/-- A place among the images is the place of an entry. -/
theorem exists_split_of_map_eq {α β : Type} {f : α → β} {l : List α} {before after : List β} {b : β}
    (h : l.map f = before ++ b :: after) :
    ∃ l₁ a l₂, l = l₁ ++ a :: l₂ ∧ l₁.map f = before ∧ f a = b := by
  obtain ⟨l₁, rest, hl, hbefore, hrest⟩ := List.map_eq_append_iff.1 h
  obtain ⟨a, l₂, rfl, ha, _⟩ := List.map_eq_cons_iff.1 hrest
  exact ⟨l₁, a, l₂, hl, hbefore, ha⟩

/-- What the entries of a list give in turn, where each entry is seen with those before it. -/
def inTurn {α β : Type} (f : List α → α → List β) : List α → List α → List β
  | _, [] => []
  | before, a :: rest => f before a ++ inTurn f (before ++ [a]) rest

/-- Distinct values: none of them occurs before its place. -/
theorem nodup_map_iff_split {α β : Type} {f : α → β} {l : List α} :
    (l.map f).Nodup ↔ ∀ before a after, l = before ++ a :: after → f a ∉ before.map f := by
  constructor
  · rintro h before a after rfl hmem
    rw [List.map_append, List.map_cons] at h
    exact (List.nodup_append.1 h).2.2 (f a) hmem (f a) List.mem_cons_self rfl
  · induction l using List.reverseRecOn with
    | nil => intro _; exact List.nodup_nil
    | append_singleton l a ih =>
        intro h
        have hlast : f a ∉ l.map f := h l a [] rfl
        have hinit : (l.map f).Nodup := ih fun before b after hsplit =>
          h before b (after ++ [a]) (by rw [hsplit, List.append_assoc, List.cons_append])
        rw [List.map_append, List.map_singleton]
        exact List.nodup_append.2 ⟨hinit, List.nodup_singleton _, fun b hb c hc => by
          rw [List.mem_singleton.1 hc]
          exact fun hbc => hlast (hbc ▸ hb)⟩

theorem inTurn_eq_nil_iff {α β : Type} {f : List α → α → List β} {l : List α} :
    ∀ {seen : List α}, inTurn f seen l = [] ↔
      ∀ before a after, l = before ++ a :: after → f (seen ++ before) a = [] := by
  induction l with
  | nil => intro seen; simp [inTurn]
  | cons b rest ih =>
      intro seen
      rw [inTurn, List.append_eq_nil_iff, ih]
      constructor
      · rintro ⟨hb, hrest⟩ before a after hsplit
        cases before with
        | nil =>
            obtain ⟨rfl, rfl⟩ := List.cons.inj hsplit
            simpa using hb
        | cons c before =>
            obtain ⟨rfl, rfl⟩ := List.cons.inj hsplit
            simpa using hrest before a after rfl
      · intro h
        refine ⟨by simpa using h [] b rest rfl, ?_⟩
        rintro before a after rfl
        simpa using h (b :: before) a after rfl

/-! ## Every breach of the rules, in order -/

/-- The fault of a broken rule. -/
def breach (broken : Prop) [Decidable broken] (fault : TemplateFault) : List TemplateFault :=
  if broken then [fault] else []

theorem breach_eq_nil_iff {broken : Prop} [Decidable broken] {fault : TemplateFault} :
    breach broken fault = [] ↔ ¬ broken := by
  unfold breach
  split
  next h => simp [h]
  next h => simp [h]

theorem head?_breach {broken : Prop} [Decidable broken] (fault : TemplateFault) :
    (breach broken fault).head? = if broken then some fault else none := by
  unfold breach
  split <;> rfl

theorem head?_breach_append {broken : Prop} [Decidable broken] (fault : TemplateFault)
    (later : List TemplateFault) :
    (breach broken fault ++ later).head? = if broken then some fault else later.head? := by
  unfold breach
  split <;> rfl

/-- What is wrong with a vertex that stands after the vertices `before`: its id, its variant or group,
and whether its id is taken. -/
def Vertex.violations (before : List Vertex) (v : Vertex) : List TemplateFault :=
  breach (¬ PlainName v.id) (.invalidIdentifier .vertexId v.id) ++
    (breach (v.variant ≠ "" ∧ ¬ PlainName v.variant)
      (.invalidIdentifier (if v.placeholder then .placeholderGroup else .variant) v.variant) ++
    breach (v.id ∈ before.map Vertex.id) (.duplicateVertex v.id))

/-- The upper bound of the edge is a number below its lower bound. -/
def Edge.Crossed (e : Edge) : Prop := ∃ n, e.upper = .bounded n ∧ n < e.lower

theorem Edge.crossed_iff (e : Edge) : e.Crossed ↔ e.upper.admits e.lower = false := by
  unfold Crossed UpperBound.admits
  cases e.upper with
  | bounded n => simp
  | unbounded => simp

instance (e : Edge) : Decidable e.Crossed := decidable_of_iff _ e.crossed_iff.symm

/-- What is wrong with an edge that stands after the edges `before`: its source, its target, its bounds,
and whether it is missing without a present edge before it. -/
def Edge.violations (vertices : List Vertex) (before : List Edge) (e : Edge) : List TemplateFault :=
  breach (e.source ∉ vertices.map Vertex.id) (.unknownVertex before.length e.source) ++
    (breach (e.target ∉ vertices.map Vertex.id) (.unknownVertex before.length e.target) ++
    (breach e.Crossed (.invalidBounds before.length e.lower e.upper) ++
    breach (e.missing = true ∧ ∀ b ∈ before, b.missing = true) (.unanchoredMissingEdge before.length)))

/-- Everything that is wrong with a graph: vertex by vertex, then the lack of edges, then edge by
edge. -/
def violations (vertices : List Vertex) (edges : List Edge) : List TemplateFault :=
  inTurn Vertex.violations [] vertices ++ (breach (edges = []) .noEdges ++
    inTurn (Edge.violations vertices) [] edges)

/-! ## The walk answers with the first breach -/

/-- The walk keeps the ids that it has seen, in any order. -/
theorem Vertex.fault?_eq_head?_violations {seen : List String} {before : List Vertex}
    (hseen : ∀ id, id ∈ seen ↔ id ∈ before.map Vertex.id) (v : Vertex) :
    v.fault? seen = (v.violations before).head? := by
  have hname : ∀ s, isIdentifier s = false ↔ ¬ PlainName s := fun s => by
    rw [← isIdentifier_iff, Bool.not_eq_true]
  unfold fault? violations
  rw [head?_breach_append, head?_breach_append, head?_breach]
  simp only [hname, hseen]
  rfl

theorem Vertex.firstFault?_eq_head?_inTurn (vertices : List Vertex) :
    ∀ {seen : List String} {before : List Vertex},
      (∀ id, id ∈ seen ↔ id ∈ before.map Vertex.id) →
        Vertex.firstFault? seen vertices = (inTurn Vertex.violations before vertices).head? := by
  induction vertices with
  | nil => intro seen before _; rfl
  | cons v rest ih =>
      intro seen before hseen
      have hnext : ∀ id, id ∈ v.id :: seen ↔ id ∈ (before ++ [v]).map Vertex.id := by
        intro id
        rw [List.mem_cons, hseen, List.map_append, List.mem_append, or_comm]
        simp
      rw [firstFault?, inTurn, List.head?_append, ← fault?_eq_head?_violations hseen, ← ih hnext]
      cases v.fault? seen with
      | some fault => rfl
      | none => rfl

/-- The walk keeps its position and whether a present edge has come by. -/
theorem Edge.fault?_eq_head?_violations {vertices : List Vertex} {before : List Edge}
    {anchored : Bool} (hanchored : anchored = before.any fun b => !b.missing) (e : Edge) :
    e.fault? (vertices.map Vertex.id) before.length anchored =
      (e.violations vertices before).head? := by
  have hloose : anchored = false ↔ ∀ b ∈ before, b.missing = true := by
    rw [hanchored]
    simp
  unfold fault? violations
  rw [head?_breach_append, head?_breach_append, head?_breach_append, head?_breach]
  simp only [crossed_iff, hloose]

theorem Edge.firstFault?_eq_head?_inTurn (vertices : List Vertex) (edges : List Edge) :
    ∀ {before : List Edge} {anchored : Bool}, anchored = (before.any fun b => !b.missing) →
      Edge.firstFault? (vertices.map Vertex.id) before.length anchored edges =
        (inTurn (Edge.violations vertices) before edges).head? := by
  induction edges with
  | nil => intro before anchored _; rfl
  | cons e rest ih =>
      intro before anchored hanchored
      have hnext : (anchored || !e.missing) = (before ++ [e]).any fun b => !b.missing := by
        rw [hanchored, List.any_append]
        simp
      have hrest := ih hnext
      rw [List.length_append, List.length_singleton] at hrest
      rw [firstFault?, inTurn, List.head?_append, ← fault?_eq_head?_violations hanchored, hrest]
      cases e.fault? (vertices.map Vertex.id) before.length anchored with
      | some fault => rfl
      | none => rfl

/-- The check answers with the first violation. -/
theorem firstFault?_eq_head?_violations (vertices : List Vertex) (edges : List Edge) :
    firstFault? vertices edges = (violations vertices edges).head? := by
  have hvertices : Vertex.firstFault? [] vertices = (inTurn Vertex.violations [] vertices).head? :=
    Vertex.firstFault?_eq_head?_inTurn vertices fun _ => by simp
  have hedges : Edge.firstFault? (vertices.map Vertex.id) 0 false edges =
      (inTurn (Edge.violations vertices) [] edges).head? :=
    Edge.firstFault?_eq_head?_inTurn vertices edges
      (show false = ([] : List Edge).any fun b => !b.missing from rfl)
  unfold firstFault? violations
  rw [List.head?_append, head?_breach_append, ← hvertices, ← hedges]
  cases Vertex.firstFault? [] vertices with
  | some fault => rfl
  | none => rfl

/-! ## Graphs without violations -/

/-- Every missing edge comes after some present edge. -/
def Anchored (edges : List Edge) : Prop :=
  ∀ before e after, edges = before ++ e :: after → e.missing = true →
    ∃ anchor ∈ before, anchor.missing = false

/-- The first edge anchors all others, and nothing anchors the first one. -/
theorem anchored_iff (edges : List Edge) :
    Anchored edges ↔ ∀ first, edges.head? = some first → first.missing = false := by
  constructor
  · intro h first hfirst
    obtain ⟨rest, rfl⟩ := List.head?_eq_some_iff.1 hfirst
    refine Bool.of_not_eq_true fun hmissing => ?_
    obtain ⟨anchor, hanchor, _⟩ := h [] first rest rfl hmissing
    exact List.not_mem_nil hanchor
  · rintro h before e after rfl hmissing
    cases before with
    | nil =>
        have hpresent := h e rfl
        rw [hmissing] at hpresent
        cases hpresent
    | cons first before => exact ⟨first, List.mem_cons_self, h first rfl⟩

/-- What a graph must satisfy to be a template. -/
structure WellFormed (vertices : List Vertex) (edges : List Edge) : Prop where
  ids_plain : ∀ v ∈ vertices, PlainName v.id
  variants_plain : ∀ v ∈ vertices, v.variant = "" ∨ PlainName v.variant
  ids_distinct : (vertices.map Vertex.id).Nodup
  edges_some : edges ≠ []
  endpoints_known : ∀ e ∈ edges, (∃ v ∈ vertices, v.id = e.source) ∧ ∃ v ∈ vertices, v.id = e.target
  bounds_ordered : ∀ e ∈ edges, ∀ n, e.upper = .bounded n → e.lower ≤ n
  anchored : Anchored edges

theorem Vertex.violations_eq_nil_iff {before : List Vertex} {v : Vertex} :
    v.violations before = [] ↔
      PlainName v.id ∧ (v.variant = "" ∨ PlainName v.variant) ∧ v.id ∉ before.map Vertex.id := by
  unfold violations
  rw [List.append_eq_nil_iff, List.append_eq_nil_iff, breach_eq_nil_iff, breach_eq_nil_iff,
    breach_eq_nil_iff, not_not, not_and_not_right, ← or_iff_not_imp_left]

theorem Edge.violations_eq_nil_iff {vertices : List Vertex} {before : List Edge} {e : Edge} :
    e.violations vertices before = [] ↔
      (∃ v ∈ vertices, v.id = e.source) ∧ (∃ v ∈ vertices, v.id = e.target) ∧
        (∀ n, e.upper = .bounded n → e.lower ≤ n) ∧
          (e.missing = true → ∃ anchor ∈ before, anchor.missing = false) := by
  have hbounds : ¬ e.Crossed ↔ ∀ n, e.upper = .bounded n → e.lower ≤ n :=
    not_exists.trans (forall_congr' fun n => by rw [not_and, Nat.not_lt])
  unfold violations
  rw [List.append_eq_nil_iff, List.append_eq_nil_iff, List.append_eq_nil_iff, breach_eq_nil_iff,
    breach_eq_nil_iff, breach_eq_nil_iff, breach_eq_nil_iff, hbounds, not_not, not_not, not_and]
  simp

/-- The graphs without violations are the well-formed ones. -/
theorem violations_eq_nil_iff {vertices : List Vertex} {edges : List Edge} :
    violations vertices edges = [] ↔ WellFormed vertices edges := by
  unfold violations
  rw [List.append_eq_nil_iff, List.append_eq_nil_iff, inTurn_eq_nil_iff, inTurn_eq_nil_iff,
    breach_eq_nil_iff]
  simp only [List.nil_append, Vertex.violations_eq_nil_iff, Edge.violations_eq_nil_iff]
  constructor
  · rintro ⟨hvertices, hsome, hedges⟩
    refine ⟨?_, ?_, ?_, hsome, ?_, ?_, ?_⟩
    · intro v hv
      obtain ⟨before, after, hsplit⟩ := List.append_of_mem hv
      exact (hvertices before v after hsplit).1
    · intro v hv
      obtain ⟨before, after, hsplit⟩ := List.append_of_mem hv
      exact (hvertices before v after hsplit).2.1
    · exact nodup_map_iff_split.2 fun before v after hsplit => (hvertices before v after hsplit).2.2
    · intro e he
      obtain ⟨before, after, hsplit⟩ := List.append_of_mem he
      obtain ⟨hsource, htarget, _⟩ := hedges before e after hsplit
      exact ⟨hsource, htarget⟩
    · intro e he
      obtain ⟨before, after, hsplit⟩ := List.append_of_mem he
      exact (hedges before e after hsplit).2.2.1
    · exact fun before e after hsplit => (hedges before e after hsplit).2.2.2
  · intro h
    refine ⟨?_, h.edges_some, ?_⟩
    · intro before v after hsplit
      have hv := mem_of_eq_append_cons hsplit
      exact ⟨h.ids_plain v hv, h.variants_plain v hv,
        nodup_map_iff_split.1 h.ids_distinct before v after hsplit⟩
    · intro before e after hsplit
      have he := mem_of_eq_append_cons hsplit
      obtain ⟨hsource, htarget⟩ := h.endpoints_known e he
      exact ⟨hsource, htarget, h.bounds_ordered e he, h.anchored before e after hsplit⟩

/-! ## Building -/

namespace Template

/-- Building answers with the first violation if there is one. -/
theorem build_eq_error_iff_head? {vertices : List Vertex} {edges : List Edge}
    {fault : TemplateFault} :
    build vertices edges = .error fault ↔ (violations vertices edges).head? = some fault := by
  rw [build_eq_error_iff, firstFault?_eq_head?_violations]

/-- Building succeeds on the well-formed graphs. -/
theorem exists_build_eq_ok_iff {vertices : List Vertex} {edges : List Edge} :
    (∃ t, build vertices edges = .ok t) ↔ WellFormed vertices edges := by
  rw [← violations_eq_nil_iff, ← List.head?_eq_none_iff, ← firstFault?_eq_head?_violations]
  constructor
  · rintro ⟨t, ht⟩
    exact (build_eq_ok_iff.1 ht).1
  · intro h
    exact ⟨⟨vertices, edges, h⟩, build_eq_ok_iff.2 ⟨h, rfl, rfl⟩⟩

end Template

end FlawQuery
