/-
# FlawQuery.Proofs.DetectionCourse -- how a detection goes, exchange by exchange

A detection sends queries to an executor and acts on the answers. `Course` lists the four ways in
which it can go, each with its result, and every detection goes one of them (`exists_course`). All
that may be relied upon is read off these: `Protocol` says which queries are sent and in which order,
how the result follows from the answers, and that an error ends the detection. For a compiled template
the two queries are different texts, so a query that was sent tells its phase.
-/

import FlawQuery.Proofs.Expectations
import FlawQuery.Proofs.MissingTargets

namespace FlawQuery

variable {σ ε : Type}

/-- A query that was sent, and the answer to it. -/
structure Exchange (ε : Type) where
  query : String
  answer : Except ε Nat

/-- Exchanges with an executor, one after another: each answer is given in the state that the answer
before it has left. -/
inductive Executor.Exchanges (x : Executor σ ε) : List (Exchange ε) → σ → σ → Prop
  | nil (state : σ) : Exchanges x [] state state
  | cons {query : String} {answer : Except ε Nat} {rest : List (Exchange ε)} {state mid final : σ}
      (hanswer : x query state = (answer, mid)) (hrest : Exchanges x rest mid final) :
      Exchanges x (⟨query, answer⟩ :: rest) state final

theorem Executor.Exchanges.single {x : Executor σ ε} {query : String} {answer : Except ε Nat}
    {state final : σ} (h : x query state = (answer, final)) :
    x.Exchanges [⟨query, answer⟩] state final :=
  .cons h (.nil final)

namespace CompiledPattern

/-! ## The ways a detection can go -/

/-- What comes before the full query: nothing where there is no predecessor query, and else that query
with at least one row. -/
inductive Opening (p : CompiledPattern) : List (Exchange ε) → Prop
  | empty (hnone : p.predecessor = none) : Opening p []
  | rows {first : String} {rows : Nat} (hfirst : p.predecessor = some first) (hrows : 0 < rows) :
      Opening p [⟨first, .ok rows⟩]

/-- The exchanges of a detection together with its result. -/
inductive Course (p : CompiledPattern) :
    List (Exchange ε) → Except (DetectionFault ε) Detection → Prop
  | noRows {first : String} (hfirst : p.predecessor = some first) :
      Course p [⟨first, .ok 0⟩]
        (.ok { found := true, decidedBy := .predecessor, queriesRun := 1 })
  | firstFails {first : String} {cause : ε} (hfirst : p.predecessor = some first) :
      Course p [⟨first, .error cause⟩] (.error ⟨.predecessor, cause⟩)
  | answered {before : List (Exchange ε)} {rows : Nat} (hbefore : p.Opening before) :
      Course p (before ++ [⟨p.query, .ok rows⟩])
        (.ok { found := 0 < rows, decidedBy := .full, queriesRun := before.length + 1 })
  | fullFails {before : List (Exchange ε)} {cause : ε} (hbefore : p.Opening before) :
      Course p (before ++ [⟨p.query, .error cause⟩]) (.error ⟨.full, cause⟩)

/-- Every detection goes one of these ways. -/
theorem exists_course (p : CompiledPattern) (x : Executor σ ε) (state : σ) :
    ∃ exchanges, x.Exchanges exchanges state (p.detect x state).2 ∧
      p.Course exchanges (p.detect x state).1 := by
  cases hp : p.predecessor with
  | none =>
      simp only [detect, hp, detectFull]
      rcases hfull : x p.query state with ⟨answer, final⟩
      cases answer with
      | error cause => exact ⟨_, .single hfull, .fullFails (.empty hp)⟩
      | ok rows => exact ⟨_, .single hfull, .answered (.empty hp)⟩
  | some first =>
      simp only [detect, hp, detectFull]
      rcases hfirst : x first state with ⟨answer, mid⟩
      cases answer with
      | error cause => exact ⟨_, .single hfirst, .firstFails hp⟩
      | ok rows =>
          cases rows with
          | zero => exact ⟨_, .single hfirst, .noRows hp⟩
          | succ rows =>
              have hopening : p.Opening [⟨first, .ok (rows + 1)⟩] :=
                .rows (ε := ε) hp (Nat.succ_pos rows)
              dsimp only
              rcases hfull : x p.query mid with ⟨answer, final⟩
              cases answer with
              | error cause => exact ⟨_, .cons hfirst (.single hfull), .fullFails hopening⟩
              | ok full => exact ⟨_, .cons hfirst (.single hfull), .answered hopening⟩

theorem Opening.queries_eq {p : CompiledPattern} {before : List (Exchange ε)}
    (h : p.Opening before) : p.queries = before.map Exchange.query ++ [p.query] := by
  cases h with
  | empty hnone => rw [queries, hnone]; rfl
  | rows hfirst _ => rw [queries, hfirst]; rfl

/-- Before the full query there is no other query than the predecessor, and it had rows. -/
theorem Opening.of_mem {p : CompiledPattern} {before : List (Exchange ε)} (h : p.Opening before)
    {e : Exchange ε} (he : e ∈ before) :
    p.predecessor = some e.query ∧ ∃ rows, e.answer = .ok rows ∧ 0 < rows := by
  cases h with
  | empty _ => exact absurd he List.not_mem_nil
  | rows hfirst hrows =>
      obtain rfl := List.mem_singleton.1 he
      exact ⟨hfirst, _, rfl, hrows⟩

/-! ## The protocol -/

/-- The query of a phase. -/
def queryOf? (p : CompiledPattern) : Phase → Option String
  | .predecessor => p.predecessor
  | .full => some p.query

/-- What a detection keeps to in its exchanges and its result. -/
structure Protocol (p : CompiledPattern) (exchanges : List (Exchange ε))
    (result : Except (DetectionFault ε) Detection) : Prop where
  /-- Some query is sent. -/
  some_sent : exchanges ≠ []
  /-- The queries are sent in the order of their execution. -/
  in_order : exchanges.map Exchange.query <+: p.queries
  /-- No query is sent twice. -/
  once : (exchanges.map Exchange.query).Nodup
  /-- The full query is sent exactly if no predecessor query comes first or it had some row. -/
  full_sent_iff : p.query ∈ exchanges.map Exchange.query ↔ p.predecessor = none ∨
    ∃ first rows, p.predecessor = some first ∧ ⟨first, .ok rows⟩ ∈ exchanges ∧ 0 < rows
  /-- The flaw is found if the predecessor query had no row or the full query had some. -/
  found_iff : ∀ d, result = .ok d → (d.found = true ↔
    (∃ first, p.predecessor = some first ∧ ⟨first, .ok 0⟩ ∈ exchanges) ∨
      ∃ rows, ⟨p.query, .ok rows⟩ ∈ exchanges ∧ 0 < rows)
  /-- The query that decides is the last one. -/
  decided_by_last : ∀ d, result = .ok d →
    exchanges.getLast?.map Exchange.query = p.queryOf? d.decidedBy
  /-- The queries are counted. -/
  counted : ∀ d, result = .ok d → d.queriesRun = exchanges.length
  /-- An error of the executor ends the detection and is its result, under the phase of its query. -/
  error_ends : ∀ query cause, ⟨query, .error cause⟩ ∈ exchanges →
    ∃ phase, p.queryOf? phase = some query ∧ result = .error ⟨phase, cause⟩ ∧
      exchanges.getLast? = some ⟨query, .error cause⟩
  /-- There is no other way for a detection to fail. -/
  error_answered : ∀ fault, result = .error fault →
    ∃ query, p.queryOf? fault.phase = some query ∧
      exchanges.getLast? = some ⟨query, .error fault.cause⟩

section

variable {p : CompiledPattern} {exchanges : List (Exchange ε)}
  {result : Except (DetectionFault ε) Detection}

/-- The queries that were sent are those of the exchanges. -/
theorem Course.sent_eq (h : p.Course exchanges result) :
    p.sent result = exchanges.map Exchange.query := by
  cases h with
  | noRows hfirst => rw [sent, queries, hfirst]; rfl
  | firstFails hfirst => rw [sent, hfirst]; rfl
  | answered hbefore =>
      rw [sent, hbefore.queries_eq, List.map_append]
      exact List.take_of_length_le (by simp)
  | fullFails hbefore => rw [sent, hbefore.queries_eq, List.map_append]; rfl

/-- Either the predecessor query is the only one, and it had no row, or the full query is the last. -/
theorem Course.last_query (h : p.Course exchanges result) :
    (∃ first answer, p.predecessor = some first ∧ exchanges = [⟨first, answer⟩] ∧
      ∀ rows, answer = .ok rows → rows = 0) ∨
    ∃ before answer, p.Opening before ∧ exchanges = before ++ [⟨p.query, answer⟩] := by
  cases h with
  | noRows hfirst => exact Or.inl ⟨_, .ok 0, hfirst, rfl, fun rows h => (Except.ok.inj h).symm⟩
  | firstFails hfirst => exact Or.inl ⟨_, .error _, hfirst, rfl, fun rows h => nomatch h⟩
  | answered hbefore => exact Or.inr ⟨_, _, hbefore, rfl⟩
  | fullFails hbefore => exact Or.inr ⟨_, _, hbefore, rfl⟩

theorem Course.isPrefix (h : p.Course exchanges result) :
    exchanges.map Exchange.query <+: p.queries := by
  rcases h.last_query with ⟨first, answer, hfirst, rfl, _⟩ | ⟨before, answer, hbefore, rfl⟩
  · rw [queries, hfirst]
    exact List.prefix_append _ _
  · rw [hbefore.queries_eq, List.map_append]
    exact List.prefix_refl _

theorem Course.full_sent_iff (hp : p.predecessor ≠ some p.query) (h : p.Course exchanges result) :
    p.query ∈ exchanges.map Exchange.query ↔ p.predecessor = none ∨
      ∃ first rows, p.predecessor = some first ∧ ⟨first, .ok rows⟩ ∈ exchanges ∧ 0 < rows := by
  rcases h.last_query with ⟨first, answer, hfirst, rfl, hanswer⟩ | ⟨before, answer, hbefore, rfl⟩
  · have hne : p.query ≠ first := fun heq => hp (heq ▸ hfirst)
    refine iff_of_false (by simpa using hne) ?_
    rintro (hnone | ⟨first', rows, _, hmem, hrows⟩)
    · rw [hfirst] at hnone
      cases hnone
    · cases List.mem_singleton.1 hmem
      have hzero := hanswer rows rfl
      omega
  · refine iff_of_true (by simp) ?_
    cases hbefore with
    | empty hnone => exact Or.inl hnone
    | rows hfirst hrows => exact Or.inr ⟨_, _, hfirst, List.mem_cons_self, hrows⟩

theorem Course.found_iff (hp : p.predecessor ≠ some p.query) {d : Detection}
    (h : p.Course exchanges (.ok d)) :
    d.found = true ↔ (∃ first, p.predecessor = some first ∧ ⟨first, .ok 0⟩ ∈ exchanges) ∨
      ∃ rows, ⟨p.query, .ok rows⟩ ∈ exchanges ∧ 0 < rows := by
  cases h with
  | noRows hfirst => exact iff_of_true rfl (Or.inl ⟨_, hfirst, List.mem_cons_self⟩)
  | @answered before rows hbefore =>
      -- no exchange before the full query is an empty one, and none of them is of the full query
      have hopening : ∀ e ∈ before, e.query ≠ p.query ∧ e.answer ≠ .ok 0 := by
        intro e he
        obtain ⟨hfirst, n, hn, hpos⟩ := hbefore.of_mem he
        refine ⟨fun heq => hp (heq ▸ hfirst), fun hzero => ?_⟩
        cases hn.symm.trans hzero
        exact absurd hpos (Nat.lt_irrefl 0)
      rw [decide_eq_true_iff]
      constructor
      · intro hrows
        exact Or.inr ⟨rows, by simp, hrows⟩
      · rintro (⟨first, hfirst, hmem⟩ | ⟨n, hmem, hn⟩)
        · rcases List.mem_append.1 hmem with hmem | hmem
          · exact absurd rfl (hopening _ hmem).2
          · cases List.mem_singleton.1 hmem
            exact absurd hfirst hp
        · rcases List.mem_append.1 hmem with hmem | hmem
          · exact absurd rfl (hopening _ hmem).1
          · cases List.mem_singleton.1 hmem
            exact hn

/-- An error can only be the last answer, for nothing but rows opens the way to the full query. -/
theorem Course.error_ends {query : String} {cause : ε} (h : p.Course exchanges result)
    (he : ⟨query, .error cause⟩ ∈ exchanges) :
    ∃ phase, p.queryOf? phase = some query ∧ result = .error ⟨phase, cause⟩ ∧
      exchanges.getLast? = some ⟨query, .error cause⟩ := by
  have hopening : ∀ {before : List (Exchange ε)}, p.Opening before →
      (⟨query, .error cause⟩ : Exchange ε) ∉ before := by
    intro before hbefore hmem
    obtain ⟨_, rows, hrows, _⟩ := hbefore.of_mem hmem
    cases hrows
  cases h with
  | noRows hfirst => cases List.mem_singleton.1 he
  | firstFails hfirst =>
      cases List.mem_singleton.1 he
      exact ⟨.predecessor, hfirst, rfl, rfl⟩
  | answered hbefore =>
      rcases List.mem_append.1 he with hmem | hmem
      · exact absurd hmem (hopening hbefore)
      · cases List.mem_singleton.1 hmem
  | fullFails hbefore =>
      rcases List.mem_append.1 he with hmem | hmem
      · exact absurd hmem (hopening hbefore)
      · cases List.mem_singleton.1 hmem
        exact ⟨.full, rfl, rfl, List.getLast?_append_of_ne_nil _ (by simp)⟩

theorem nodup_queries (hp : p.predecessor ≠ some p.query) : p.queries.Nodup := by
  rw [queries]
  cases hfirst : p.predecessor with
  | none => exact List.nodup_singleton _
  | some first =>
      rw [hfirst, ne_eq, Option.some.injEq] at hp
      simpa using hp

/-- A detection keeps to the protocol if its two queries are different texts. -/
theorem Course.protocol (hp : p.predecessor ≠ some p.query) (h : p.Course exchanges result) :
    p.Protocol exchanges result where
  some_sent := by
    rcases h.last_query with ⟨_, _, _, rfl, _⟩ | ⟨before, _, _, rfl⟩
    · exact List.cons_ne_nil _ _
    · exact List.append_ne_nil_of_right_ne_nil before (List.cons_ne_nil _ _)
  in_order := h.isPrefix
  once := h.isPrefix.sublist.nodup (nodup_queries hp)
  full_sent_iff := h.full_sent_iff hp
  found_iff := fun d hd => Course.found_iff hp (hd ▸ h)
  decided_by_last := by
    intro d hd
    cases h with
    | noRows hfirst => cases hd; exact hfirst.symm
    | firstFails hfirst => cases hd
    | answered hbefore => cases hd; simp [queryOf?]
    | fullFails hbefore => cases hd
  counted := by
    intro d hd
    cases h with
    | noRows hfirst => cases hd; rfl
    | firstFails hfirst => cases hd
    | answered hbefore => cases hd; simp
    | fullFails hbefore => cases hd
  error_ends := fun _ _ => h.error_ends
  error_answered := by
    intro fault hfault
    cases h with
    | noRows hfirst => cases hfault
    | firstFails hfirst => cases hfault; exact ⟨_, hfirst, rfl⟩
    | answered hbefore => cases hfault
    | fullFails hbefore => cases hfault; exact ⟨_, rfl, by simp⟩

end

end CompiledPattern

namespace Template

/-! ## Compiled templates -/

/-- The full query matches some edge, the predecessor query matches none. -/
theorem predecessor_ne_query (t : Template) : t.compile.predecessor ≠ some t.compile.query := by
  intro h
  obtain ⟨m, hm⟩ := List.exists_mem_of_length_pos (t.length_query_edges ▸ t.presentCount_pos)
  have hline : m.text ∈ linesOf t.compile.query := by
    rw [linesOf_compile_query]
    simp only [List.mem_append, List.mem_map]
    exact Or.inl (Or.inl (Or.inl (Or.inr ⟨m, hm, rfl⟩)))
  rw [linesOf_predecessor h, List.mem_append, List.mem_map, List.mem_singleton] at hline
  rcases hline with ⟨v, _, hv⟩ | hreturn
  · have hhead := congrArg (fun line => line.toList.head?) hv
    simp [EdgeMatch.text] at hhead
  · have hhead := congrArg (fun line => line.toList.head?) hreturn
    simp [EdgeMatch.text] at hhead

/-- Running a compiled template sends its queries to the executor in their order, each once at most,
and keeps to the protocol in all that it sends and returns. -/
theorem detect_keeps_protocol (t : Template) (x : Executor σ ε) (log : List String) (state : σ) :
    ∃ exchanges result final, t.compile.detect x state = (result, final) ∧
      t.compile.detect x.recording (log, state) =
        (result, log ++ exchanges.map Exchange.query, final) ∧
      x.Exchanges exchanges state final ∧ exchanges.map Exchange.query <+: t.queries ∧
      t.compile.Protocol exchanges result := by
  obtain ⟨exchanges, hexchanges, hcourse⟩ := t.compile.exists_course x state
  refine ⟨exchanges, (t.compile.detect x state).1, (t.compile.detect x state).2, rfl, ?_, hexchanges,
    hcourse.isPrefix, hcourse.protocol t.predecessor_ne_query⟩
  rw [CompiledPattern.detect_recording, hcourse.sent_eq]

/-- The executor finds a row for the predecessor query and is down when the full query arrives. -/
theorem detect_keeps_protocol_fullQueryFails :
    Catalogue.missingReversal.template.compile.detect Catalogue.downAtThird.recording ([], 1) =
      (.error ⟨.full, "down"⟩, Catalogue.missingReversal.template.queries, 3) ∧
    ∃ exchanges, Catalogue.downAtThird.Exchanges exchanges 1 3 ∧
      exchanges.map Exchange.query = Catalogue.missingReversal.template.queries ∧
      Catalogue.missingReversal.template.compile.Protocol exchanges (.error ⟨.full, "down"⟩) := by
  have hdetect : Catalogue.missingReversal.template.compile.detect Catalogue.downAtThird.recording
      ([], 1) = (.error ⟨.full, "down"⟩, Catalogue.missingReversal.template.queries, 3) := by
    decide +kernel
  obtain ⟨exchanges, result, final, _, hrun, hexchanges, _, hprotocol⟩ :=
    Catalogue.missingReversal.template.detect_keeps_protocol Catalogue.downAtThird [] 1
  rw [hdetect, Prod.mk.injEq, Prod.mk.injEq] at hrun
  obtain ⟨rfl, hsent, rfl⟩ := hrun
  exact ⟨hdetect, exchanges, hexchanges, hsent.symm, hprotocol⟩

end Template

end FlawQuery
