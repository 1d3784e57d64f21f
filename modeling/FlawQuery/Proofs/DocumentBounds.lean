/-
# FlawQuery.Proofs.DocumentBounds -- documents mean what building from their parts gives

A document has the parts of a template, but its bounds are any integers or keywords. `BoundsValid` says
which bounds stand for a number of repetitions, `Means` says which edge an entry stands for, and
`BoundFault` what an entry is refused for. Bounds come first: a document with a bad bound is refused for
the first edge that has one, whatever else is wrong with it, and any other document is built from its
vertices and the edges that its entries mean.
-/

import FlawQuery.Template.Document
import Mathlib.Data.List.Forall2

namespace FlawQuery

/-! ## What bounds mean -/

/-- The number is a bound that a document may ask for. -/
def InRange (n : Int) : Prop := 0 ≤ n ∧ n ≤ 4294967295

instance (n : Int) : Decidable (InRange n) := inferInstanceAs (Decidable (0 ≤ n ∧ n ≤ 4294967295))

namespace BoundEntry

/-- The upper bound is a number in range, or one of the two keywords. -/
def Valid : BoundEntry → Prop
  | count n => InRange n
  | keyword s => s = "unbounded" ∨ s = "*"

instance : DecidablePred Valid
  | count n => inferInstanceAs (Decidable (InRange n))
  | keyword s => inferInstanceAs (Decidable (s = "unbounded" ∨ s = "*"))

/-- The upper bound that is meant: a number keeps its value, and both keywords lift the bound. -/
inductive Means : BoundEntry → UpperBound → Prop
  | count (n : Nat) : Means (.count n) (.bounded n)
  | unbounded : Means (.keyword "unbounded") .unbounded
  | star : Means (.keyword "*") .unbounded

end BoundEntry

namespace EdgeEntry

/-- Both bounds of the entry can be met. -/
def BoundsValid (e : EdgeEntry) : Prop := InRange e.lower ∧ e.upper.Valid

instance : DecidablePred BoundsValid := fun e =>
  inferInstanceAs (Decidable (InRange e.lower ∧ e.upper.Valid))

/-- The edge that an entry means: its lower bound keeps its value, and all else is taken over. -/
structure Means (e : EdgeEntry) (edge : Edge) : Prop where
  source : edge.source = e.source
  target : edge.target = e.target
  lower : (edge.lower : Int) = e.lower
  upper : e.upper.Means edge.upper
  missing : edge.missing = e.missing
  condition : edge.condition = e.condition

/-- What the entry at a position is refused for. The upper bound is looked at only if the lower one is
in range. -/
inductive BoundFault (index : Nat) (e : EdgeEntry) : TemplateFault → Prop
  | negativeLower (h : e.lower < 0) : BoundFault index e (.negativeBound index .lower e.lower)
  | excessiveLower (h : 4294967295 < e.lower) :
      BoundFault index e (.boundOutOfRange index .lower e.lower)
  | negativeUpper {n : Int} (hlower : InRange e.lower) (hupper : e.upper = .count n) (h : n < 0) :
      BoundFault index e (.negativeBound index .upper n)
  | excessiveUpper {n : Int} (hlower : InRange e.lower) (hupper : e.upper = .count n)
      (h : 4294967295 < n) : BoundFault index e (.boundOutOfRange index .upper n)
  | unknownKeyword {s : String} (hlower : InRange e.lower) (hupper : e.upper = .keyword s)
      (h : s ≠ "unbounded" ∧ s ≠ "*") : BoundFault index e (.invalidUpperBound index s)

end EdgeEntry

/-! ## One bound -/

/-- A step that may fail, followed by another one. -/
theorem bind_eq_ok_iff {ε α β : Type} {x : Except ε α} {f : α → Except ε β} {b : β} :
    x >>= f = .ok b ↔ ∃ a, x = .ok a ∧ f a = .ok b := by
  cases x with
  | error fault => simp [bind, Except.bind]
  | ok a => simp [bind, Except.bind]

theorem bind_eq_error_iff {ε α β : Type} {x : Except ε α} {f : α → Except ε β} {fault : ε} :
    x >>= f = .error fault ↔ x = .error fault ∨ ∃ a, x = .ok a ∧ f a = .error fault := by
  cases x with
  | error fault => simp [bind, Except.bind]
  | ok a => simp [bind, Except.bind]

theorem boundValue_eq_ok_iff {edge : Nat} {side : BoundSide} {n : Int} {m : Nat} :
    boundValue edge side n = .ok m ↔ InRange n ∧ (m : Int) = n := by
  unfold boundValue InRange maxBound
  split
  next hneg =>
    simp only [reduceCtorEq, false_iff, not_and]
    omega
  next hpos =>
    split
    next hlarge =>
      simp only [reduceCtorEq, false_iff, not_and]
      omega
    next hsmall =>
      rw [Except.ok.injEq]
      omega

theorem boundValue_eq_error_iff {edge : Nat} {side : BoundSide} {n : Int} {fault : TemplateFault} :
    boundValue edge side n = .error fault ↔
      (n < 0 ∧ fault = .negativeBound edge side n) ∨
        (4294967295 < n ∧ fault = .boundOutOfRange edge side n) := by
  unfold boundValue maxBound
  split
  next hneg =>
    rw [Except.error.injEq]
    constructor
    · rintro rfl
      exact Or.inl ⟨hneg, rfl⟩
    · rintro (⟨_, rfl⟩ | ⟨hlarge, _⟩)
      · rfl
      · omega
  next hpos =>
    split
    next hlarge =>
      rw [Except.error.injEq]
      constructor
      · rintro rfl
        exact Or.inr ⟨by omega, rfl⟩
      · rintro (⟨hneg, _⟩ | ⟨_, rfl⟩)
        · omega
        · rfl
    next hsmall =>
      constructor
      · intro h
        cases h
      · rintro (⟨hneg, _⟩ | ⟨hlarge, _⟩)
        · omega
        · omega

namespace BoundEntry

theorem resolve_count (edge : Nat) (n : Int) :
    (count n).resolve edge = boundValue edge .upper n >>= fun n => .ok (.bounded n) := rfl

theorem resolve_keyword (edge : Nat) (s : String) :
    (keyword s).resolve edge =
      if s = "unbounded" ∨ s = "*" then .ok .unbounded else .error (.invalidUpperBound edge s) := by
  have hkeyword : s ∈ unboundedKeywords ↔ s = "unbounded" ∨ s = "*" := by simp [unboundedKeywords]
  simp only [resolve, hkeyword]

theorem resolve_eq_ok_iff {edge : Nat} {u : BoundEntry} {bound : UpperBound} :
    u.resolve edge = .ok bound ↔ u.Valid ∧ u.Means bound := by
  cases u with
  | count n =>
      rw [resolve_count, bind_eq_ok_iff]
      constructor
      · rintro ⟨m, hm, hbound⟩
        obtain ⟨hrange, rfl⟩ := boundValue_eq_ok_iff.1 hm
        cases hbound
        exact ⟨hrange, .count m⟩
      · rintro ⟨hrange, hmeans⟩
        cases hmeans with
        | count m => exact ⟨m, boundValue_eq_ok_iff.2 ⟨hrange, rfl⟩, rfl⟩
  | keyword s =>
      rw [resolve_keyword]
      constructor
      · intro h
        split at h
        next hs =>
          cases h
          refine ⟨hs, ?_⟩
          rcases hs with rfl | rfl
          · exact .unbounded
          · exact .star
        next => cases h
      · rintro ⟨hs, hmeans⟩
        rw [if_pos (show s = "unbounded" ∨ s = "*" from hs)]
        cases hmeans with
        | unbounded => rfl
        | star => rfl

theorem resolve_eq_error_iff {edge : Nat} {u : BoundEntry} {fault : TemplateFault} :
    u.resolve edge = .error fault ↔
      (∃ n, u = .count n ∧ n < 0 ∧ fault = .negativeBound edge .upper n) ∨
        (∃ n, u = .count n ∧ 4294967295 < n ∧ fault = .boundOutOfRange edge .upper n) ∨
          ∃ s, u = .keyword s ∧ (s ≠ "unbounded" ∧ s ≠ "*") ∧ fault = .invalidUpperBound edge s := by
  cases u with
  | count n =>
      rw [resolve_count, bind_eq_error_iff, boundValue_eq_error_iff]
      simp
  | keyword s =>
      rw [resolve_keyword]
      split
      next hs =>
        rcases hs with rfl | rfl
        · simp
        · simp
      next hs =>
        rw [not_or] at hs
        simp [hs, eq_comm]

end BoundEntry

/-! ## One edge -/

namespace EdgeEntry

theorem resolve_eq_ok_iff {index : Nat} {e : EdgeEntry} {edge : Edge} :
    e.resolve index = .ok edge ↔ e.BoundsValid ∧ e.Means edge := by
  unfold resolve
  rw [bind_eq_ok_iff]
  constructor
  · rintro ⟨lower, hlower, h⟩
    obtain ⟨upper, hupper, h⟩ := bind_eq_ok_iff.1 h
    obtain ⟨hrange, hvalue⟩ := boundValue_eq_ok_iff.1 hlower
    obtain ⟨hvalid, hmeans⟩ := BoundEntry.resolve_eq_ok_iff.1 hupper
    cases h
    exact ⟨⟨hrange, hvalid⟩, ⟨rfl, rfl, hvalue, hmeans, rfl, rfl⟩⟩
  · rintro ⟨⟨hrange, hvalid⟩, hmeans⟩
    refine ⟨edge.lower, boundValue_eq_ok_iff.2 ⟨hrange, hmeans.lower⟩, bind_eq_ok_iff.2
      ⟨edge.upper, BoundEntry.resolve_eq_ok_iff.2 ⟨hvalid, hmeans.upper⟩, ?_⟩⟩
    rw [← hmeans.source, ← hmeans.target, ← hmeans.missing, ← hmeans.condition]
    rfl

theorem resolve_eq_error_iff {index : Nat} {e : EdgeEntry} {fault : TemplateFault} :
    e.resolve index = .error fault ↔ e.BoundFault index fault := by
  unfold resolve
  rw [bind_eq_error_iff, boundValue_eq_error_iff]
  constructor
  · rintro ((⟨hneg, rfl⟩ | ⟨hlarge, rfl⟩) | ⟨lower, hlower, h⟩)
    · exact .negativeLower hneg
    · exact .excessiveLower hlarge
    · have hrange := (boundValue_eq_ok_iff.1 hlower).1
      rcases bind_eq_error_iff.1 h with h | ⟨upper, _, h⟩
      · rcases BoundEntry.resolve_eq_error_iff.1 h with
          ⟨n, hupper, hneg, rfl⟩ | ⟨n, hupper, hlarge, rfl⟩ | ⟨s, hupper, hs, rfl⟩
        · exact .negativeUpper hrange hupper hneg
        · exact .excessiveUpper hrange hupper hlarge
        · exact .unknownKeyword hrange hupper hs
      · cases h
  · intro h
    -- an upper bound is refused only after the lower one has been read
    have hupper : ∀ {g : TemplateFault}, InRange e.lower → e.upper.resolve index = .error g →
        ∃ lower, boundValue index .lower e.lower = .ok lower ∧
          (e.upper.resolve index >>= fun upper => (.ok
            { source := e.source, target := e.target, lower, upper, missing := e.missing,
              condition := e.condition } : Except TemplateFault Edge)) = .error g := by
      intro g hrange hg
      have hnat : (e.lower.toNat : Int) = e.lower := Int.toNat_of_nonneg hrange.1
      exact ⟨e.lower.toNat, boundValue_eq_ok_iff.2 ⟨hrange, hnat⟩, bind_eq_error_iff.2 (Or.inl hg)⟩
    cases h with
    | negativeLower hneg => exact Or.inl (Or.inl ⟨hneg, rfl⟩)
    | excessiveLower hlarge => exact Or.inl (Or.inr ⟨hlarge, rfl⟩)
    | negativeUpper hrange hcount hneg =>
        exact Or.inr (hupper hrange (BoundEntry.resolve_eq_error_iff.2
          (Or.inl ⟨_, hcount, hneg, rfl⟩)))
    | excessiveUpper hrange hcount hlarge =>
        exact Or.inr (hupper hrange (BoundEntry.resolve_eq_error_iff.2
          (Or.inr (Or.inl ⟨_, hcount, hlarge, rfl⟩))))
    | unknownKeyword hrange hkeyword hs =>
        exact Or.inr (hupper hrange (BoundEntry.resolve_eq_error_iff.2
          (Or.inr (Or.inr ⟨_, hkeyword, hs, rfl⟩))))

/-- An entry is refused for its bounds unless they are valid. -/
theorem exists_boundFault_iff {index : Nat} {e : EdgeEntry} :
    (∃ fault, e.BoundFault index fault) ↔ ¬ e.BoundsValid := by
  constructor
  · rintro ⟨fault, hfault⟩ ⟨hlower, hupper⟩
    unfold InRange at hlower
    cases hfault with
    | negativeLower hneg => omega
    | excessiveLower hlarge => omega
    | negativeUpper _ hcount hneg =>
        rw [hcount] at hupper
        exact absurd hupper.1 (by omega)
    | excessiveUpper _ hcount hlarge =>
        rw [hcount] at hupper
        exact absurd hupper.2 (by omega)
    | unknownKeyword _ hkeyword hs =>
        rw [hkeyword] at hupper
        exact not_or.2 hs hupper
  · intro hinvalid
    cases h : e.resolve index with
    | error fault => exact ⟨fault, resolve_eq_error_iff.1 h⟩
    | ok edge => exact absurd (resolve_eq_ok_iff.1 h).1 hinvalid

/-! ## All edges in turn -/

theorem means_of_resolveAll_eq_ok {entries : List EdgeEntry} :
    ∀ {index : Nat} {edges : List Edge}, resolveAll index entries = .ok edges →
      (∀ e ∈ entries, e.BoundsValid) ∧ List.Forall₂ Means entries edges := by
  induction entries with
  | nil =>
      intro index edges h
      cases h
      exact ⟨by simp, .nil⟩
  | cons e rest ih =>
      intro index edges h
      obtain ⟨edge, hedge, h⟩ := bind_eq_ok_iff.1 h
      obtain ⟨others, hothers, h⟩ := bind_eq_ok_iff.1 h
      cases h
      obtain ⟨hvalid, hmeans⟩ := resolve_eq_ok_iff.1 hedge
      obtain ⟨hvalid', hmeans'⟩ := ih hothers
      exact ⟨List.forall_mem_cons.2 ⟨hvalid, hvalid'⟩, .cons hmeans hmeans'⟩

/-- The first entry with a bad bound decides, and its position goes into the fault. -/
theorem boundFault_of_resolveAll_eq_error {entries : List EdgeEntry} :
    ∀ {index : Nat} {fault : TemplateFault}, resolveAll index entries = .error fault →
      ∃ before e after, entries = before ++ e :: after ∧ (∀ b ∈ before, b.BoundsValid) ∧
        e.BoundFault (index + before.length) fault := by
  induction entries with
  | nil => intro index fault h; cases h
  | cons e rest ih =>
      intro index fault h
      rcases bind_eq_error_iff.1 h with h | ⟨edge, hedge, h⟩
      · exact ⟨[], e, rest, rfl, by simp, resolve_eq_error_iff.1 h⟩
      · rcases bind_eq_error_iff.1 h with h | ⟨others, _, h⟩
        · obtain ⟨before, b, after, rfl, hvalid, hfault⟩ := ih h
          have hindex : index + 1 + before.length = index + (e :: before).length := by
            rw [List.length_cons]
            omega
          refine ⟨e :: before, b, after, rfl, ?_, hindex ▸ hfault⟩
          exact List.forall_mem_cons.2 ⟨(resolve_eq_ok_iff.1 hedge).1, hvalid⟩
        · cases h

end EdgeEntry

/-! ## The document -/

namespace TemplateDocument

/-- A document with a bound out of range or an unknown keyword is refused for the first edge that has
one, at that edge's position and for its lower bound before its upper one; nothing else about the
document matters. Every other document gives what its vertices and the edges that its entries mean
give when a template is built from them, be it a template or a fault. -/
theorem toTemplate_eq_boundFault_or_build (d : TemplateDocument) :
    ((∃ e ∈ d.edges, ¬ e.BoundsValid) →
      ∃ before e after fault, d.edges = before ++ e :: after ∧ (∀ b ∈ before, b.BoundsValid) ∧
        ¬ e.BoundsValid ∧ e.BoundFault before.length fault ∧ d.toTemplate = .error fault) ∧
    ((∀ e ∈ d.edges, e.BoundsValid) →
      ∃ edges, List.Forall₂ EdgeEntry.Means d.edges edges ∧
        d.toTemplate = Template.build d.vertices edges) := by
  unfold toTemplate
  cases hedges : EdgeEntry.resolveAll 0 d.edges with
  | ok edges =>
      obtain ⟨hvalid, hmeans⟩ := EdgeEntry.means_of_resolveAll_eq_ok hedges
      refine ⟨?_, fun _ => ⟨edges, hmeans, rfl⟩⟩
      rintro ⟨e, he, hinvalid⟩
      exact absurd (hvalid e he) hinvalid
  | error fault =>
      obtain ⟨before, e, after, hsplit, hvalid, hfault⟩ :=
        EdgeEntry.boundFault_of_resolveAll_eq_error hedges
      rw [Nat.zero_add] at hfault
      have hinvalid := EdgeEntry.exists_boundFault_iff.1 ⟨fault, hfault⟩
      refine ⟨fun _ => ⟨before, e, after, fault, hsplit, hvalid, hinvalid, hfault, rfl⟩, ?_⟩
      intro hall
      exact absurd (hall e (hsplit ▸ List.mem_append_right before List.mem_cons_self)) hinvalid

/-- A document whose ids are no names, whose only vertex is twice there, and whose second edge asks for
a negative number of repetitions; its third edge is worse still. -/
def faultyEverywhere : TemplateDocument where
  vertices := [{ id := "1", kind := .event }, { id := "1", kind := .event }]
  edges := [
    { source := "x", target := "y", lower := 5, upper := .count 4294967295 },
    { source := "x", target := "y", lower := 4294967295, upper := .count (-1) },
    { source := "x", target := "y", lower := -9, upper := .keyword "many" }]

/-- A document with bounds at the ends of the range and with both keywords, but without a present edge
at the front. -/
def boundsAtLimits : TemplateDocument where
  vertices := [{ id := "a", kind := .event }]
  edges := [
    { source := "a", target := "a", lower := 0, upper := .count 4294967295, missing := true },
    { source := "a", target := "a", upper := .keyword "unbounded" },
    { source := "a", target := "a", upper := .keyword "*", condition := some "c" }]

theorem toTemplate_eq_boundFault_or_build_faultyAndAtLimits :
    ((∃ e ∈ faultyEverywhere.edges, ¬ e.BoundsValid) ∧
      ∃ before e after fault, faultyEverywhere.edges = before ++ e :: after ∧
        (∀ b ∈ before, b.BoundsValid) ∧ ¬ e.BoundsValid ∧ e.BoundFault before.length fault ∧
        faultyEverywhere.toTemplate = .error fault ∧ fault = .negativeBound 1 .upper (-1)) ∧
    (∀ e ∈ boundsAtLimits.edges, e.BoundsValid) ∧
      ∃ edges, List.Forall₂ EdgeEntry.Means boundsAtLimits.edges edges ∧
        boundsAtLimits.toTemplate = Template.build boundsAtLimits.vertices edges ∧
        boundsAtLimits.toTemplate = .error (.unanchoredMissingEdge 0) := by
  have hbad : ∃ e ∈ faultyEverywhere.edges, ¬ e.BoundsValid := by decide
  have hgood : ∀ e ∈ boundsAtLimits.edges, e.BoundsValid := by decide
  have hnegative : faultyEverywhere.toTemplate = .error (.negativeBound 1 .upper (-1)) := by decide
  have hloose : boundsAtLimits.toTemplate = .error (.unanchoredMissingEdge 0) := by decide
  obtain ⟨before, e, after, fault, hsplit, hvalid, hinvalid, hfault, herror⟩ :=
    (toTemplate_eq_boundFault_or_build faultyEverywhere).1 hbad
  obtain ⟨edges, hmeans, hbuild⟩ := (toTemplate_eq_boundFault_or_build boundsAtLimits).2 hgood
  have hcause : fault = .negativeBound 1 .upper (-1) :=
    Except.error.inj (herror.symm.trans hnegative)
  exact ⟨⟨hbad, before, e, after, fault, hsplit, hvalid, hinvalid, hfault, herror, hcause⟩, hgood,
    edges, hmeans, hbuild, hloose⟩

end TemplateDocument

end FlawQuery
