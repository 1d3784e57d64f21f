/-
# FlawQuery.Proofs.Expectations -- checking expectations query by query

Expectations are checked in order, each on the state in which those before it left the executor.
`Checked` says what a list of expectations that go well gives: the verdicts, the queries that the
executor has seen, and the state afterwards. `Refused` says how one expectation ends the check. A
check gives verdicts exactly if all expectations go well, and else the fault of the first that does
not, after the queries of those before it and its own up to the one that failed.
-/

import FlawQuery.Detection
import FlawQuery.Proofs.CatalogueRuns
import Mathlib.Algebra.Ring.Nat

namespace FlawQuery

variable {σ ε : Type}

/-! ## Detection -/

/-- The executor answers queries one after another, each with at least one row. -/
inductive Executor.Finds (x : Executor σ ε) : List String → σ → σ → Prop
  | nil (state : σ) : Finds x [] state state
  | cons {query : String} {queries : List String} {rows : Nat} {state mid state' : σ}
      (hanswer : x query state = (.ok rows, mid)) (hrows : 0 < rows)
      (hrest : Finds x queries mid state') : Finds x (query :: queries) state state'

namespace CompiledPattern

variable {p : CompiledPattern} {x : Executor σ ε}

/-- The queries that were sent when a detection has ended: as many as it says, or those up to the
one that failed. -/
def sent (p : CompiledPattern) : Except (DetectionFault ε) Detection → List String
  | .ok detection => p.queries.take detection.queriesRun
  | .error ⟨.predecessor, _⟩ => p.predecessor.toList
  | .error ⟨.full, _⟩ => p.queries

/-- How a detection fails: the queries up to the failing one have been sent, and those before it had
rows. -/
inductive Fails (p : CompiledPattern) (x : Executor σ ε) (state : σ) :
    DetectionFault ε → List String → σ → Prop
  | intro {earlier later : List String} {query : String} {mid state' : σ} {cause : ε}
      (hqueries : p.queries = earlier ++ query :: later) (hfinds : x.Finds earlier state mid)
      (hfails : x query mid = (.error cause, state')) :
      Fails p x state ⟨if later = [] then .full else .predecessor, cause⟩ (earlier ++ [query])
        state'

/-- Noting the queries changes nothing else. -/
theorem detect_recording (p : CompiledPattern) (x : Executor σ ε) (log : List String) (state : σ) :
    p.detect x.recording (log, state) =
      ((p.detect x state).1, log ++ p.sent (p.detect x state).1, (p.detect x state).2) := by
  obtain ⟨predecessor, query⟩ := p
  cases predecessor with
  | none =>
      simp only [detect, detectFull, Executor.recording]
      rcases x query state with ⟨answer, state'⟩
      cases answer with
      | error cause => rfl
      | ok rows => rfl
  | some first =>
      simp only [detect, detectFull, Executor.recording]
      rcases x first state with ⟨answer, mid⟩
      cases answer with
      | error cause => rfl
      | ok rows =>
          cases rows with
          | zero => rfl
          | succ rows =>
              dsimp only
              rcases x query mid with ⟨answer, state'⟩
              cases answer with
              | error cause => simp [sent, queries]
              | ok rows => simp [sent, queries]

/-- A detection that ends well says how many queries it sent. -/
theorem length_sent_of_detect_eq_ok {state state' : σ} {detection : Detection}
    (h : p.detect x state = (.ok detection, state')) :
    (p.queries.take detection.queriesRun).length = detection.queriesRun := by
  obtain ⟨predecessor, query⟩ := p
  cases predecessor with
  | none =>
      simp only [detect, detectFull] at h
      split at h
      · cases h
      · cases h
        rfl
  | some first =>
      simp only [detect, detectFull] at h
      split at h
      · cases h
      · cases h
        rfl
      · split at h
        · cases h
        · cases h
          rfl

theorem fails_of_detect_eq_error {state state' : σ} {fault : DetectionFault ε}
    (h : p.detect x state = (.error fault, state')) :
    p.Fails x state fault (p.sent (.error fault)) state' := by
  obtain ⟨predecessor, query⟩ := p
  cases predecessor with
  | none =>
      simp only [detect, detectFull] at h
      split at h
      next cause after hanswer =>
        cases h
        have hqueries : (⟨none, query⟩ : CompiledPattern).queries = [] ++ query :: [] := rfl
        exact .intro hqueries (.nil state) hanswer
      next => cases h
  | some first =>
      simp only [detect, detectFull] at h
      split at h
      next cause after hanswer =>
        cases h
        have hqueries : (⟨some first, query⟩ : CompiledPattern).queries = [] ++ first :: [query] :=
          rfl
        exact .intro hqueries (.nil state) hanswer
      next => cases h
      next rows mid hrows =>
        split at h
        next cause after hanswer =>
          cases h
          have hqueries : (⟨some first, query⟩ : CompiledPattern).queries =
              [first] ++ query :: [] := rfl
          exact .intro hqueries (.cons hrows (Nat.succ_pos rows) (.nil mid)) hanswer
        next => cases h

theorem detect_of_fails {state state' : σ} {fault : DetectionFault ε} {queries : List String}
    (h : p.Fails x state fault queries state') :
    p.detect x state = (.error fault, state') ∧ p.sent (.error fault) = queries := by
  obtain ⟨predecessor, full⟩ := p
  obtain ⟨hqueries, hfinds, hfails⟩ := h
  cases hfinds with
  | nil =>
      -- the first query fails
      cases predecessor with
      | none =>
          cases hqueries
          simp only [detect, detectFull, hfails]
          exact ⟨rfl, rfl⟩
      | some first =>
          cases hqueries
          simp only [detect, hfails]
          exact ⟨rfl, rfl⟩
  | @cons _ earlier rows _ mid _ hanswer hrows hrest =>
      cases predecessor with
      | none =>
          have hlength := congrArg List.length hqueries
          simp [queries] at hlength
      | some first =>
          obtain ⟨rfl, hfull⟩ := List.cons_eq_cons.1 hqueries
          cases earlier with
          | cons _ _ =>
              have hlength := congrArg List.length hfull
              simp at hlength
          | nil =>
              cases hrest
              cases hfull
              obtain ⟨rows, rfl⟩ := Nat.exists_eq_succ_of_ne_zero (Nat.ne_of_gt hrows)
              simp only [detect, detectFull, hanswer, hfails]
              exact ⟨rfl, rfl⟩

end CompiledPattern

/-! ## Expectations -/

namespace Catalogue

variable {c : Catalogue} {x : Executor σ ε}

/-- Expectations that go well one after another, with their verdicts and the queries sent. Each
pattern is there, and its detection runs on the state that the expectations before it left. -/
inductive Checked (c : Catalogue) (x : Executor σ ε) :
    List (String × Bool) → σ → List Verdict → List String → σ → Prop
  | nil (state : σ) : Checked c x [] state [] [] state
  | cons {id : String} {expected : Bool} {rest : List (String × Bool)} {e : CatalogueEntry}
      {detection : Detection} {verdicts : List Verdict} {queries : List String}
      {state mid state' : σ} (hentry : c.get? id = some e)
      (hdetect : e.template.compile.detect x state = (.ok detection, mid))
      (hrest : Checked c x rest mid verdicts queries state') :
      Checked c x ((id, expected) :: rest) state
        ({ pattern := id, detection, expected } :: verdicts)
        (e.template.queries.take detection.queriesRun ++ queries) state'

/-- An expectation that ends the check: its pattern is unknown and nothing is sent for it, or one of
its queries fails. -/
inductive Refused (c : Catalogue) (x : Executor σ ε) :
    String × Bool → σ → CheckFault ε → List String → σ → Prop
  | unknown {id : String} {expected : Bool} {state : σ} (hentry : c.get? id = none) :
      Refused c x (id, expected) state (.catalogue (.unknownPattern id)) [] state
  | failed {id : String} {expected : Bool} {e : CatalogueEntry} {fault : DetectionFault ε}
      {queries : List String} {state state' : σ} (hentry : c.get? id = some e)
      (hfails : e.template.compile.Fails x state fault queries state') :
      Refused c x (id, expected) state (.detection fault) queries state'

theorem check_cons_of_get?_eq_none {id : String} {expected : Bool} {rest : List (String × Bool)}
    {state : σ} (h : c.get? id = none) :
    c.check x ((id, expected) :: rest) state =
      (.error (.catalogue (.unknownPattern id)), state) := by
  rw [check, find, h]

/-- One step of a check. -/
theorem check_cons {id : String} {expected : Bool} {rest : List (String × Bool)} {state : σ}
    {e : CatalogueEntry} (h : c.get? id = some e) :
    c.check x ((id, expected) :: rest) state =
      match e.template.compile.detect x state with
      | (.error fault, mid) => (.error (.detection fault), mid)
      | (.ok detection, mid) =>
        match c.check x rest mid with
        | (.error fault, final) => (.error fault, final)
        | (.ok verdicts, final) =>
          (.ok ({ pattern := id, detection, expected } :: verdicts), final) := by
  have hid := id_eq_of_get?_eq_some h
  rewrite [check, find, h]
  dsimp only
  rewrite [hid]
  rfl

/-- One step of a check that notes its queries. -/
theorem check_recording_cons {id : String} {expected : Bool} {rest : List (String × Bool)}
    {log : List String} {state : σ} {e : CatalogueEntry} (h : c.get? id = some e) :
    c.check x.recording ((id, expected) :: rest) (log, state) =
      match e.template.compile.detect x state with
      | (.error fault, mid) =>
        (.error (.detection fault), log ++ e.template.compile.sent (.error fault), mid)
      | (.ok detection, mid) =>
        match c.check x.recording rest
          (log ++ e.template.queries.take detection.queriesRun, mid) with
        | (.error fault, final) => (.error fault, final)
        | (.ok verdicts, final) =>
          (.ok ({ pattern := id, detection, expected } :: verdicts), final) := by
  rw [check_cons h, CompiledPattern.detect_recording]
  rcases e.template.compile.detect x state with ⟨result, mid⟩
  cases result with
  | error fault => rfl
  | ok detection =>
      dsimp only [CompiledPattern.sent, Template.queries]
      rcases c.check x.recording rest _ with ⟨answer, final⟩
      cases answer with
      | error fault => rfl
      | ok verdicts => rfl

/-- Noting the queries changes neither the answer nor the state in which the executor is left. -/
theorem check_eq_of_recording (c : Catalogue) (x : Executor σ ε)
    (expectations : List (String × Bool)) :
    ∀ log state, c.check x expectations state =
      ((c.check x.recording expectations (log, state)).1,
        (c.check x.recording expectations (log, state)).2.2) := by
  induction expectations with
  | nil => intro log state; rfl
  | cons expectation rest ih =>
      intro log state
      obtain ⟨id, expected⟩ := expectation
      cases hentry : c.get? id with
      | none => rw [check_cons_of_get?_eq_none hentry, check_cons_of_get?_eq_none hentry]
      | some e =>
          rw [check_cons hentry, check_recording_cons hentry]
          rcases e.template.compile.detect x state with ⟨result, mid⟩
          cases result with
          | error fault => rfl
          | ok detection =>
              dsimp only
              rw [ih (log ++ e.template.queries.take detection.queriesRun) mid]
              rcases c.check x.recording rest _ with ⟨answer, final⟩
              cases answer with
              | error fault => rfl
              | ok verdicts => rfl

/-! ## The whole check -/

theorem check_of_checked {expectations : List (String × Bool)} {state state' : σ}
    {verdicts : List Verdict} {queries : List String}
    (h : Checked c x expectations state verdicts queries state') :
    ∀ log, c.check x.recording expectations (log, state) =
      (.ok verdicts, log ++ queries, state') := by
  induction h with
  | nil state => intro log; rw [check, List.append_nil]
  | cons hentry hdetect _ ih =>
      intro log
      rw [check_recording_cons hentry, hdetect]
      dsimp only
      rw [ih, List.append_assoc]

theorem check_of_refused {before after : List (String × Bool)} {expectation : String × Bool}
    {state mid state' : σ} {verdicts : List Verdict} {queries last : List String}
    {fault : CheckFault ε} (hbefore : Checked c x before state verdicts queries mid)
    (hrefused : Refused c x expectation mid fault last state') :
    ∀ log, c.check x.recording (before ++ expectation :: after) (log, state) =
      (.error fault, log ++ (queries ++ last), state') := by
  induction hbefore with
  | nil state =>
      -- the refused expectation is at the front; nothing is sent after it
      intro log
      cases hrefused with
      | unknown hentry => rw [List.nil_append, check_cons_of_get?_eq_none hentry]; simp
      | failed hentry hfails =>
          obtain ⟨hdetect, hsent⟩ := CompiledPattern.detect_of_fails hfails
          rw [List.nil_append, check_recording_cons hentry, hdetect]
          dsimp only
          rw [hsent, List.nil_append]
  | cons hentry hdetect _ ih =>
      intro log
      rw [List.cons_append, check_recording_cons hentry, hdetect]
      dsimp only
      rw [ih hrefused]
      simp only [List.append_assoc]

/-- Every list of expectations goes well, or there is a first one that ends the check. -/
theorem exists_checked_or_refused (c : Catalogue) (x : Executor σ ε)
    (expectations : List (String × Bool)) :
    ∀ state, (∃ verdicts queries state', Checked c x expectations state verdicts queries state') ∨
      ∃ before expectation after verdicts queries mid fault last state',
        expectations = before ++ expectation :: after ∧
          Checked c x before state verdicts queries mid ∧
            Refused c x expectation mid fault last state' := by
  induction expectations with
  | nil => intro state; exact Or.inl ⟨[], [], state, .nil state⟩
  | cons expectation rest ih =>
      intro state
      obtain ⟨id, expected⟩ := expectation
      cases hentry : c.get? id with
      | none =>
          exact Or.inr ⟨[], _, rest, [], [], state, _, _, _, rfl, .nil state, .unknown hentry⟩
      | some e =>
          rcases hdetect : e.template.compile.detect x state with ⟨result, mid⟩
          cases result with
          | error fault =>
              have hfails := CompiledPattern.fails_of_detect_eq_error hdetect
              exact Or.inr ⟨[], _, rest, [], [], state, _, _, _, rfl, .nil state,
                .failed hentry hfails⟩
          | ok detection =>
              rcases ih mid with ⟨verdicts, queries, state', hchecked⟩ |
                ⟨before, next, after, verdicts, queries, mid', fault, last, state', hsplit,
                  hchecked, hrefused⟩
              · exact Or.inl ⟨_, _, _, .cons hentry hdetect hchecked⟩
              · exact Or.inr ⟨_ :: before, next, after, _, _, mid', fault, last, state',
                  by rw [hsplit, List.cons_append], .cons hentry hdetect hchecked, hrefused⟩

/-- Verdicts carry the ids and expectations in order, and count the queries sent. -/
theorem Checked.verdicts_spec {expectations : List (String × Bool)} {state state' : σ}
    {verdicts : List Verdict} {queries : List String}
    (h : Checked c x expectations state verdicts queries state') :
    verdicts.map (fun v => (v.pattern, v.expected)) = expectations ∧
      queries.length = (verdicts.map fun v => v.detection.queriesRun).sum := by
  induction h with
  | nil => exact ⟨rfl, rfl⟩
  | cons _ hdetect _ ih =>
      refine ⟨by rw [List.map_cons, ih.1], ?_⟩
      rw [List.length_append, ih.2, List.map_cons, List.sum_cons]
      exact congrArg (· + _) (CompiledPattern.length_sent_of_detect_eq_ok hdetect)

/-- A check gives verdicts exactly if every expectation goes well, one verdict for each in their
order and with as many queries sent as the verdicts say. Otherwise it gives the fault of the first
expectation that is refused, and the executor has been sent the queries of the expectations before
it, its own up to the one that failed, and nothing for those behind it. A check that does not
note its queries gives the same and leaves the executor in the same state. -/
theorem check_eq_ok_or_first_refusal (c : Catalogue) (x : Executor σ ε)
    (expectations : List (String × Bool)) (log : List String) (state : σ) :
    (∀ verdicts log' state',
      c.check x.recording expectations (log, state) = (.ok verdicts, log', state') ↔
        ∃ queries, Checked c x expectations state verdicts queries state' ∧
          log' = log ++ queries) ∧
    (∀ fault log' state',
      c.check x.recording expectations (log, state) = (.error fault, log', state') ↔
        ∃ before expectation after verdicts queries mid last,
          expectations = before ++ expectation :: after ∧
            Checked c x before state verdicts queries mid ∧
              Refused c x expectation mid fault last state' ∧ log' = log ++ (queries ++ last)) ∧
    (∀ verdicts queries state', Checked c x expectations state verdicts queries state' →
      verdicts.map (fun v => (v.pattern, v.expected)) = expectations ∧
        queries.length = (verdicts.map fun v => v.detection.queriesRun).sum) ∧
    c.check x expectations state =
      ((c.check x.recording expectations (log, state)).1,
        (c.check x.recording expectations (log, state)).2.2) := by
  refine ⟨fun verdicts log' state' => ⟨fun h => ?_, ?_⟩, fun fault log' state' => ⟨fun h => ?_, ?_⟩,
    fun _ _ _ hchecked => hchecked.verdicts_spec, c.check_eq_of_recording x expectations log state⟩
  · rcases exists_checked_or_refused c x expectations state with
      ⟨verdicts', queries, final, hchecked⟩ |
        ⟨before, next, after, verdicts', queries, mid, fault, last, final, rfl, hbefore, hrefused⟩
    · rw [check_of_checked hchecked] at h
      cases h
      exact ⟨queries, hchecked, rfl⟩
    · rw [check_of_refused hbefore hrefused] at h
      cases h
  · rintro ⟨queries, hchecked, rfl⟩
    exact check_of_checked hchecked log
  · rcases exists_checked_or_refused c x expectations state with
      ⟨verdicts', queries, final, hchecked⟩ |
        ⟨before, next, after, verdicts', queries, mid, fault, last, final, rfl, hbefore, hrefused⟩
    · rw [check_of_checked hchecked] at h
      cases h
    · rw [check_of_refused hbefore hrefused] at h
      cases h
      exact ⟨before, next, after, verdicts', queries, mid, last, rfl, hbefore, hrefused, rfl⟩
  · rintro ⟨before, next, after, verdicts, queries, mid, last, rfl, hbefore, hrefused, rfl⟩
    exact check_of_refused hbefore hrefused log

/-- An executor that counts queries, finds one row for each, and fails at the third. -/
def downAtThird : Executor Nat String :=
  fun _ n => (if n = 2 then .error "down" else .ok 1, n + 1)

/-- The first pattern takes two queries, so the second one meets the failure, and the third, which
is unknown, is never reached. -/
def thirdQueryFails : List (String × Bool) :=
  [("apMissingReversal", true), ("apDoubleOpt", false), ("apUnknown", true)]

theorem check_eq_ok_or_first_refusal_thirdQueryFails :
    builtin.check downAtThird.recording thirdQueryFails ([], 0) =
      (.error (.detection ⟨.full, "down"⟩),
        missingReversal.template.queries ++ doubleOptimization.template.queries, 3) ∧
    ∃ before expectation after verdicts queries mid last,
      thirdQueryFails = before ++ expectation :: after ∧
        Checked builtin downAtThird before 0 verdicts queries mid ∧
          Refused builtin downAtThird expectation mid (.detection ⟨.full, "down"⟩) last 3 ∧
            missingReversal.template.queries ++ doubleOptimization.template.queries =
              [] ++ (queries ++ last) := by
  have hcheck : builtin.check downAtThird.recording thirdQueryFails ([], 0) =
      (.error (.detection ⟨.full, "down"⟩),
        missingReversal.template.queries ++ doubleOptimization.template.queries, 3) := by
    decide +kernel
  exact ⟨hcheck, ((check_eq_ok_or_first_refusal builtin downAtThird thirdQueryFails [] 0).2.1
    _ _ _).1 hcheck⟩

end Catalogue

end FlawQuery
