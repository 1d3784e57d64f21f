/-
# FlawQuery.Proofs.ReaderResults -- what a reader can answer

A reader of numbers refuses or turns into a decimal whatever lies below 64 signed bits, so the
integers that come out of a document are within bounds. The bounds pass from scalars to the drafts
of records, and from there to the records and the lists of them.
-/

import FlawQuery.Proofs.DocumentBounds
import FlawQuery.Proofs.ReaderStability

namespace FlawQuery.Json

/-! ## Numbers -/

/-- A signed 64-bit integer. -/
def Within64Bits (n : Int) : Prop :=
  -(minMagnitude : Int) ≤ n ∧ n ≤ Reader.maxInteger

/-- An integer that is no less than the least signed 64-bit integer, or no integer at all. -/
def Found.AboveMinimum : Found → Prop
  | .integer n => -(minMagnitude : Int) ≤ n
  | _ => True

/-- The same for a number that was read: it is a decimal otherwise. -/
def Number.AboveMinimum (n : Number) : Prop := n.found.AboveMinimum

section Number

variable {negative down : Bool} {significand dropped : Nat} {start exponent : Int}
  {s rest : List Char} {n : Number}

theorem aboveMinimum_of_double_eq_ok (h : double negative significand exponent = .ok n) :
    n.AboveMinimum := by
  unfold double at h
  dsimp only at h
  split at h
  · cases h
    trivial
  split at h
  · cases h
    trivial
  split at h
  · cases h
  split at h
  · cases h
  · cases h
    trivial

theorem aboveMinimum_of_wholeNumber_eq_ok (h : wholeNumber negative significand = .ok n) :
    n.AboveMinimum := by
  unfold wholeNumber at h
  split at h
  · cases h
    exact Int.le_trans (by decide) (Int.natCast_nonneg significand)
  split at h
  next hmagnitude =>
    cases h
    exact Int.neg_le_neg (Int.ofNat_le.2 hmagnitude.2)
  next => exact aboveMinimum_of_double_eq_ok h

/-- A number that was made before the rest was looked at. -/
theorem aboveMinimum_of_before {x : Except Fault Number} {s' : List Char}
    (hx : ∀ m, x = .ok m → m.AboveMinimum)
    (h : (do let m ← x; return (m, s')) = .ok (n, rest)) : n.AboveMinimum := by
  cases x with
  | error fault => cases h
  | ok m =>
      cases h
      exact hx _ rfl

theorem aboveMinimum_of_readPower_eq_ok
    (h : readPower negative significand start down s = .ok (n, rest)) : n.AboveMinimum := by
  have hdouble {significand : Nat} {exponent : Int} {s' : List Char}
      (h : (do let m ← double negative significand exponent; return (m, s')) = .ok (n, rest)) :
      n.AboveMinimum :=
    aboveMinimum_of_before (fun _ => aboveMinimum_of_double_eq_ok) h
  cases s with
  | nil => cases h
  | cons c s =>
      rw [readPower] at h
      generalize takeDigits 2147483647 (digitValue c) 0 s = digits at h
      dsimp only at h
      split at h
      · split at h
        · split at h
          · cases h
          · exact hdouble h
        · exact hdouble h
      · cases h

theorem aboveMinimum_of_readExponent_eq_ok
    (h : readExponent negative significand start s = .ok (n, rest)) : n.AboveMinimum := by
  unfold readExponent at h
  split at h
  all_goals exact aboveMinimum_of_readPower_eq_ok h

theorem aboveMinimum_of_readScale_eq_ok
    (h : readScale negative significand exponent s = .ok (n, rest)) : n.AboveMinimum := by
  unfold readScale at h
  split at h
  · exact aboveMinimum_of_readExponent_eq_ok h
  · exact aboveMinimum_of_readExponent_eq_ok h
  · exact aboveMinimum_of_before (fun _ => aboveMinimum_of_double_eq_ok) h

theorem aboveMinimum_of_readFraction_eq_ok
    (h : readFraction negative significand exponent s = .ok (n, rest)) : n.AboveMinimum := by
  unfold readFraction at h
  dsimp only at h
  split at h
  · exact aboveMinimum_of_readScale_eq_ok h
  split at h
  · cases h
  · exact aboveMinimum_of_readScale_eq_ok h

theorem aboveMinimum_of_readAfterWhole_eq_ok
    (h : readAfterWhole negative significand s = .ok (n, rest)) : n.AboveMinimum := by
  unfold readAfterWhole at h
  split at h
  · exact aboveMinimum_of_readFraction_eq_ok h
  · exact aboveMinimum_of_readExponent_eq_ok h
  · exact aboveMinimum_of_readExponent_eq_ok h
  · exact aboveMinimum_of_before (fun _ => aboveMinimum_of_wholeNumber_eq_ok) h

theorem aboveMinimum_of_readAfterLong_eq_ok
    (h : readAfterLong negative significand dropped s = .ok (n, rest)) : n.AboveMinimum := by
  unfold readAfterLong at h
  split at h
  · exact aboveMinimum_of_readFraction_eq_ok h
  · exact aboveMinimum_of_readScale_eq_ok h

theorem aboveMinimum_of_readUnsigned_eq_ok (h : readUnsigned negative s = .ok (n, rest)) :
    n.AboveMinimum := by
  cases s with
  | nil => cases h
  | cons c s =>
      rw [readUnsigned] at h
      dsimp only at h
      split at h
      · split at h
        · cases h
        · exact aboveMinimum_of_readAfterWhole_eq_ok h
      split at h
      · split at h
        · exact aboveMinimum_of_readAfterLong_eq_ok h
        · exact aboveMinimum_of_readAfterWhole_eq_ok h
      · cases h

/-- No whole number below the signed 64-bit integers is read: it becomes a decimal. -/
theorem aboveMinimum_of_readNumber_eq_ok (h : readNumber s = .ok (n, rest)) :
    n.AboveMinimum := by
  unfold readNumber at h
  split at h
  all_goals exact aboveMinimum_of_readUnsigned_eq_ok h

end Number

/-! ## Readers -/

namespace Reader

variable {α β δ : Type} {P : α → Prop} {Q : β → Prop}

/-- Whatever the reader accepts, its answer has the property. -/
def Yields (P : α → Prop) (r : Reader α) : Prop :=
  ∀ room s a rest, r room s = .ok (a, rest) → P a

theorem yields_pure {a : α} (h : P a) : Yields P (pure a : Reader α) := by
  intro room s b rest hread
  cases hread
  exact h

theorem yields_fail (fault : Fault) : Yields P (fail fault : Reader α) := by
  intro room s a rest hread
  cases hread

/-- What one reader yields is what the next can go on from. -/
theorem Yields.bind {r : Reader α} {f : α → Reader β} (hr : Yields P r)
    (hf : ∀ a, P a → Yields Q (f a)) : Yields Q (r >>= f) := by
  intro room s b rest hread
  obtain ⟨a, mid, hfirst, hnext⟩ := bind_eq_ok_iff.1 hread
  exact hf a (hr _ _ _ _ hfirst) _ _ _ _ hnext

/-- A last step that has the property whatever went before it. -/
theorem yields_bind {r : Reader α} {f : α → Reader β} (hf : ∀ a, Yields Q (f a)) :
    Yields Q (r >>= f) := by
  intro room s b rest hread
  obtain ⟨a, mid, _, hnext⟩ := bind_eq_ok_iff.1 hread
  exact hf a _ _ _ _ hnext

theorem yields_ite {p : Prop} [Decidable p] {r r' : Reader α} (hr : p → Yields P r)
    (hr' : ¬ p → Yields P r') : Yields P (if p then r else r') := by
  split
  next hp => exact hr hp
  next hp => exact hr' hp

theorem Yields.nested {r : Reader α} (hr : Yields P r) : Yields P (nested r) := by
  intro room s a rest hread
  cases room with
  | zero => cases hread
  | succ room => exact hr _ _ _ _ hread

/-- What is true of the answers of a reader is true of the documents that it reads. -/
theorem Yields.of_run_eq_ok {r : Reader α} (hr : Yields P r) {s : String} {a : α}
    (h : r.run s = .ok a) : P a := by
  unfold run at h
  split at h
  next => cases h
  next b rest hread =>
    split at h
    next =>
      cases h
      exact hr _ _ _ _ hread
    next => cases h

/-! ## Scalars -/

/-- An integer that stands where something was wanted is no less than the least of 64 bits. -/
theorem yields_found : Yields Found.AboveMinimum found := by
  refine yields_bind fun next => ?_
  cases next with
  | none => exact yields_fail _
  | some c =>
      -- one case for each character that a value can begin with
      refine yields_ite (fun _ => yields_bind fun _ => yields_pure trivial) fun _ => ?_
      refine yields_ite (fun _ => yields_bind fun _ => yields_pure trivial) fun _ => ?_
      refine yields_ite (fun _ => yields_bind fun _ => yields_pure trivial) fun _ => ?_
      refine yields_ite (fun _ => ?_) fun _ => ?_
      · have hnumber : Yields Number.AboveMinimum (step readNumber) :=
          fun _ _ _ _ hread => aboveMinimum_of_readNumber_eq_ok hread
        exact hnumber.bind fun _ hn => yields_pure hn
      refine yields_ite (fun _ => ?_) fun _ => ?_
      · exact yields_bind fun _ => yields_bind fun _ => yields_pure trivial
      refine yields_ite (fun _ => yields_pure trivial) fun _ => ?_
      exact yields_ite (fun _ => yields_pure trivial) fun _ => yields_fail _

theorem yields_integer : Yields Within64Bits integer := by
  refine yields_found.bind fun x hx => ?_
  cases x with
  | integer n => exact yields_ite (fun hle => yields_pure ⟨hx, hle⟩) fun _ => yields_fail _
  | _ => exact yields_fail _

/-! ## Lists and records -/

theorem yields_listItems {item : Reader α} (hitem : Yields P item) {fuel : Nat} :
    ∀ {first : Bool}, Yields (fun as => ∀ a ∈ as, P a) (listItems item fuel first) := by
  induction fuel with
  | zero => exact fun {_} => yields_fail _
  | succ fuel ih =>
      intro first
      refine yields_bind fun more => yields_ite (fun _ => ?_) fun _ => yields_pure (by simp)
      exact hitem.bind fun a ha => ih.bind fun as has =>
        yields_pure (List.forall_mem_cons.2 ⟨ha, has⟩)

/-- What is true of every item is true of all of them. -/
theorem yields_list {item : Reader α} (hitem : Yields P item) :
    Yields (fun as => ∀ a ∈ as, P a) (list item) := by
  refine yields_bind fun x => ?_
  cases x with
  | list =>
      refine yields_bind fun _ => Yields.nested (yields_bind fun _ => ?_)
      exact (yields_listItems hitem).bind fun as has => yields_bind fun _ => yields_pure has
  | _ => exact yields_fail _

/-- What every member keeps is true of a draft after all of them. -/
theorem yields_members {I : δ → Prop} {member : δ → String → Reader δ}
    (hmember : ∀ d key, I d → Yields I (member d key)) {fuel : Nat} :
    ∀ {first : Bool} {d : δ}, I d → Yields I (members member fuel first d) := by
  induction fuel with
  | zero => exact fun {_ _} _ => yields_fail _
  | succ fuel ih =>
      intro first d hd
      refine yields_bind fun key => ?_
      cases key with
      | none => exact yields_pure hd
      | some key => exact (hmember d key hd).bind fun d' hd' => ih hd'

end Reader

namespace Shape

open Reader

variable {α β δ : Type} {shape : Shape δ α} {I : δ → Prop} {P : α → Prop}

theorem yields_ofOption {R : β → Prop} {key : String} {required : Bool} {get : δ → Option β}
    {set : δ → β → δ} {read : Reader β} {d : δ} (hread : Yields R read)
    (hset : ∀ b, R b → I (set d b)) :
    Yields I ((Field.ofOption key required get set read).read d) :=
  hread.bind fun b hb => yields_pure (hset b hb)

theorem yields_member (hfields : ∀ field ∈ shape.fields, ∀ d, I d → Yields I (field.read d))
    (d : δ) (key : String) (hd : I d) : Yields I (shape.member d key) := by
  unfold member
  split
  next field hfield =>
    refine yields_ite (fun _ => yields_fail _) fun _ => yields_bind fun _ => ?_
    exact hfields field (List.mem_of_find?_eq_some hfield) d hd
  next => exact yields_bind fun _ => yields_bind fun _ => yields_pure hd

theorem yields_positional {fields : List (Field δ)}
    (hfields : ∀ field ∈ fields, ∀ d, I d → Yields I (field.read d)) :
    ∀ index d, I d → Yields I (shape.positional fields index d) := by
  induction fields with
  | nil => exact fun _ d hd => yields_pure hd
  | cons field rest ih =>
      intro index d hd
      obtain ⟨hfield, hrest⟩ := List.forall_mem_cons.1 hfields
      refine yields_bind fun more => yields_ite (fun _ => ?_) fun _ => ?_
      · exact (hfield d hd).bind fun d' hd' => ih hrest (index + 1) d' hd'
      · exact yields_ite (fun _ => yields_fail _) fun _ => ih hrest (index + 1) d hd

theorem yields_complete {d : δ} (hfinish : ∀ a, shape.finish d = .ok a → P a) :
    Yields P (shape.complete d) := by
  unfold complete
  split
  next a ha => exact yields_pure (hfinish a ha)
  next => exact yields_fail _

/-- A property of drafts that every field keeps carries over to the finished record, in whichever
spelling it is read. -/
theorem yields_reader (hblank : I shape.blank)
    (hfields : ∀ field ∈ shape.fields, ∀ d, I d → Yields I (field.read d))
    (hfinish : ∀ d a, I d → shape.finish d = .ok a → P a) : Yields P shape.reader := by
  refine yields_bind fun x => ?_
  cases x with
  | record =>
      -- by name
      refine yields_bind fun _ => Yields.nested ?_
      have hbody : Yields I (recordBody shape.member shape.blank) :=
        yields_bind fun _ => yields_members (yields_member hfields) hblank
      refine hbody.bind fun d hd => (yields_complete fun a => hfinish d a hd).bind fun a ha => ?_
      exact yields_bind fun _ => yields_pure ha
  | list =>
      -- by position
      refine yields_bind fun _ => Yields.nested ?_
      refine (yields_positional hfields 0 _ hblank).bind fun d hd => ?_
      refine (yields_complete fun a => hfinish d a hd).bind fun a ha => ?_
      exact yields_bind fun _ => yields_pure ha
  | _ => exact yields_fail _

end Shape

end Json

/-! ## Documents -/

open Json Json.Reader

/-- An upper bound that is a keyword or a signed 64-bit integer. -/
def BoundEntry.Within64Bits : BoundEntry → Prop
  | .count n => Json.Within64Bits n
  | .keyword _ => True

/-- The bounds of the edge are signed 64-bit integers, where they are numbers. -/
def EdgeEntry.Within64Bits (e : EdgeEntry) : Prop :=
  Json.Within64Bits e.lower ∧ e.upper.Within64Bits

/-- All bounds in the document are signed 64-bit integers, where they are numbers. -/
def TemplateDocument.Within64Bits (d : TemplateDocument) : Prop :=
  ∀ e ∈ d.edges, e.Within64Bits

theorem BoundEntry.yields_reader : Yields BoundEntry.Within64Bits BoundEntry.reader := by
  intro room s u rest hread
  have hfound : Yields BoundEntry.Within64Bits (found >>= ofFound) := by
    refine yields_found.bind fun x hx => ?_
    cases x with
    | integer n => exact yields_ite (fun hle => yields_pure ⟨hx, hle⟩) fun _ => yields_fail _
    | text s => exact yields_pure trivial
    | _ => exact yields_fail _
  exact hfound _ _ _ _ (reader_eq_ok_iff.1 hread)

/-- The bounds that are filled in are signed 64-bit integers, where they are numbers. -/
def EdgeDraft.Within64Bits (d : EdgeDraft) : Prop :=
  (∀ n ∈ d.lower, Json.Within64Bits n) ∧ ∀ u ∈ d.upper, u.Within64Bits

/-- No member of an edge puts a bound beyond 64 bits into the draft. -/
theorem EdgeEntry.yields_fields : ∀ field ∈ EdgeEntry.shape.fields, ∀ d : EdgeDraft,
    d.Within64Bits → Yields EdgeDraft.Within64Bits (field.read d) := by
  intro field hfield d hd
  have hany {β : Type} (r : Reader β) : Yields (fun _ => True) r := fun _ _ _ _ _ => trivial
  simp only [EdgeEntry.shape, List.mem_cons, List.not_mem_nil, or_false] at hfield
  rcases hfield with rfl | rfl | rfl | rfl | rfl | rfl
  · exact Shape.yields_ofOption (hany _) fun _ _ => hd
  · exact Shape.yields_ofOption (hany _) fun _ _ => hd
  · exact Shape.yields_ofOption yields_integer fun n hn => ⟨by rintro _ ⟨⟩; exact hn, hd.2⟩
  · exact Shape.yields_ofOption BoundEntry.yields_reader
      fun u hu => ⟨hd.1, by rintro _ ⟨⟩; exact hu⟩
  · exact Shape.yields_ofOption (hany _) fun _ _ => hd
  · exact Shape.yields_ofOption (hany _) fun _ _ => hd

theorem eq_some_of_required_eq_ok {β : Type} {key : String} {o : Option β} {b : β}
    (h : Json.required key o = .ok b) : o = some b := by
  cases o with
  | none => cases h
  | some b' =>
      cases h
      rfl

theorem EdgeEntry.yields_reader : Yields EdgeEntry.Within64Bits EdgeEntry.shape.reader := by
  refine Shape.yields_reader ?_ EdgeEntry.yields_fields fun d e hd hfinish => ?_
  · exact ⟨by rintro _ ⟨⟩, by rintro _ ⟨⟩⟩
  · obtain ⟨source, _, hfinish⟩ := FlawQuery.bind_eq_ok_iff.1 hfinish
    obtain ⟨target, _, hfinish⟩ := FlawQuery.bind_eq_ok_iff.1 hfinish
    cases hfinish
    constructor
    · show Json.Within64Bits (d.lower.getD 1)
      cases hlower : d.lower with
      | none => exact ⟨by decide, by decide⟩
      | some n => exact hd.1 n hlower
    · show (d.upper.getD (.count 1)).Within64Bits
      cases hupper : d.upper with
      | none => exact ⟨by decide, by decide⟩
      | some u => exact hd.2 u hupper

/-- A document that is read holds no bound beyond 64 bits. -/
theorem TemplateDocument.within64Bits_of_ofJson_eq_ok {s : String} {d : TemplateDocument}
    (h : ofJson s = .ok d) : d.Within64Bits := by
  have hreader : Yields TemplateDocument.Within64Bits TemplateDocument.shape.reader := by
    refine Shape.yields_reader (I := fun d => ∀ es ∈ d.edges, ∀ e ∈ es, e.Within64Bits)
      (by rintro _ ⟨⟩) ?_ fun d doc hd hfinish => ?_
    · intro field hfield d hd
      simp only [TemplateDocument.shape, List.mem_cons, List.not_mem_nil, or_false] at hfield
      rcases hfield with rfl | rfl
      · exact Shape.yields_ofOption (R := fun _ => True) (fun _ _ _ _ _ => trivial) fun _ _ => hd
      · exact Shape.yields_ofOption (yields_list EdgeEntry.yields_reader)
          fun es hes => by rintro _ ⟨⟩; exact hes
    · obtain ⟨vertices, _, hfinish⟩ := FlawQuery.bind_eq_ok_iff.1 hfinish
      obtain ⟨edges, hedges, hfinish⟩ := FlawQuery.bind_eq_ok_iff.1 hfinish
      cases hfinish
      exact hd edges (eq_some_of_required_eq_ok hedges)
  exact hreader.of_run_eq_ok h

end FlawQuery
