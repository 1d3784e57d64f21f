/-
# FlawQuery.Proofs.DocumentRoundTrip -- documents read back from what is written

A document may be written with all its members, or with members left out that hold their default.
Either way it reads back as the same document, whatever characters its texts have and whatever
signed 64-bit integers its bounds are. No other document comes out of reading, so writing what was
read and reading it again changes nothing more.
-/

import FlawQuery.Proofs.ReaderResults
import FlawQuery.Proofs.RecordRoundTrip

namespace FlawQuery

namespace Json

/-! ## Members that may be left out -/

/-- The same members in the same order, of which those among `defaults` may be left out. -/
inductive OmitsDefaults (defaults : List (String × Value)) :
    List (String × Value) → List (String × Value) → Prop
  | nil : OmitsDefaults defaults [] []
  | keep {m : String × Value} {full written : List (String × Value)}
      (hrest : OmitsDefaults defaults full written) :
      OmitsDefaults defaults (m :: full) (m :: written)
  | drop {m : String × Value} {full written : List (String × Value)} (hdefault : m ∈ defaults)
      (hrest : OmitsDefaults defaults full written) : OmitsDefaults defaults (m :: full) written

/-- A record that may leave out members among `defaults`. -/
inductive Value.Abridges (defaults : List (String × Value)) : Value → Value → Prop
  | record {full written : List (String × Value)} (h : OmitsDefaults defaults full written) :
      Abridges defaults (.record full) (.record written)

/-- A member that is there if its value is given. -/
def optionalMember {β : Type} (key : String) (toValue : β → Value) :
    Option β → List (String × Value)
  | some b => [(key, toValue b)]
  | none => []

namespace OmitsDefaults

variable {β : Type} {defaults full written : List (String × Value)}

theorem refl (members : List (String × Value)) : OmitsDefaults defaults members members := by
  induction members with
  | nil => exact .nil
  | cons m members ih => exact .keep ih

/-- A member without a default is written. -/
theorem cons_required {key : String} {v : Value}
    (h : OmitsDefaults defaults ((key, v) :: full) written) (hkey : key ∉ defaults.map Prod.fst) :
    ∃ rest, written = (key, v) :: rest ∧ OmitsDefaults defaults full rest := by
  cases h with
  | keep hrest => exact ⟨_, rfl, hrest⟩
  | drop hdefault _ => exact absurd (List.mem_map_of_mem hdefault) hkey

/-- A member with a default is written, or has the default as value. -/
theorem cons_optional {key : String} {toValue : β → Value} {b : β}
    (h : OmitsDefaults defaults ((key, toValue b) :: full) written) (a : β)
    (hdefault : (key, toValue b) ∈ defaults → b = a) :
    ∃ o rest, written = optionalMember key toValue o ++ rest ∧ o.getD a = b ∧
      OmitsDefaults defaults full rest := by
  cases h with
  | keep hrest => exact ⟨some b, _, rfl, rfl, hrest⟩
  | drop hmem hrest => exact ⟨none, _, rfl, (hdefault hmem).symm, hrest⟩

/-- A last member without a default is written if there is one. -/
theorem eq_optionalMember {key : String} {toValue : β → Value} {o : Option β}
    (h : OmitsDefaults defaults (optionalMember key toValue o) written)
    (hkey : key ∉ defaults.map Prod.fst) : written = optionalMember key toValue o := by
  cases o with
  | none =>
      cases h
      rfl
  | some b =>
      obtain ⟨_, rfl, hrest⟩ := h.cons_required hkey
      cases hrest
      rfl

end OmitsDefaults

/-! ## Filling fields -/

namespace Shape

open Reader

variable {α β δ : Type} {depth : Nat} {shape : Shape δ α} {key : String} {required : Bool}
  {get : δ → Option β} {set : δ → β → δ} {read : Reader β}

/-- A member that may be missing fills its field as far as it is there. -/
theorem fills_optionalMember {d d' : δ} {toValue : β → Value} {o : Option β}
    (hfield : shape.fields.find? (·.key = key) = some (.ofOption key required get set read))
    (hempty : get d = none) (hread : ∀ b ∈ o, Reads depth read (toValue b).compact.toList b)
    (hset : o.elim d (set d) = d') :
    Fills depth shape.member d (Value.memberTexts (optionalMember key toValue o)) d' := by
  subst hset
  cases o with
  | none => exact .nil d
  | some b => exact fills_field (b := b) hfield hempty (hread b rfl) rfl

/-- Members are filled in one after the other. -/
theorem fills_memberTexts_append {d d₁ d₂ : δ} {before after : List (String × Value)}
    (h : Fills depth shape.member d (Value.memberTexts before) d₁)
    (h' : Fills depth shape.member d₁ (Value.memberTexts after) d₂) :
    Fills depth shape.member d (Value.memberTexts (before ++ after)) d₂ := by
  rw [Value.memberTexts, List.map_append]
  exact h.append h'

end Shape

end Json

/-! ## What may stand for a document -/

open Json Json.Reader

/-- The members that a vertex may leave out. -/
def Vertex.defaults : List (String × Value) :=
  [("variant", .text ""), ("placeholder", .boolean false)]

/-- The members that an edge may leave out; an absent condition is never written. -/
def EdgeEntry.defaults : List (String × Value) :=
  [("lower", .integer 1), ("upper", .integer 1), ("missing", .boolean false)]

/-- The value is the document as it is written, but for members of vertices and edges that are left
out where they hold their default. -/
def TemplateDocument.WrittenAs (d : TemplateDocument) (v : Value) : Prop :=
  ∃ vertices edges, v = .record [("vertices", .list vertices), ("edges", .list edges)] ∧
    List.Forall₂ (fun x w => Value.Abridges Vertex.defaults x.toValue w) d.vertices vertices ∧
    List.Forall₂ (fun e w => Value.Abridges EdgeEntry.defaults e.toValue w) d.edges edges

theorem TemplateDocument.writtenAs_toValue (d : TemplateDocument) : d.WrittenAs d.toValue := by
  refine ⟨_, _, rfl, ?_, ?_⟩
  · exact List.forall₂_map_right_iff.2 (List.forall₂_same.2 fun v _ => .record (.refl _))
  · exact List.forall₂_map_right_iff.2 (List.forall₂_same.2 fun e _ => .record (.refl _))

/-! ## Reading them back -/

theorem VertexType.reads_reader {depth : Nat} (kind : VertexType) :
    Reads depth VertexType.reader (Value.text kind.label).compact.toList kind := by
  have htag : VertexType.ofTag kind.label = pure kind := by
    cases kind <;> rfl
  obtain ⟨gap, hgap, hread⟩ : Reads depth (textAs "variant identifier" >>= VertexType.ofTag)
      (Value.text kind.label).compact.toList kind := by
    refine Reads.bind (a := kind.label) ?_ htag
    exact (reads_found (x := .text kind.label) trivial).bind rfl
  refine ⟨gap, hgap, fun room tail hroom htail => ?_⟩
  rw [← hread room tail hroom htail, Value.compact, toList_quote]
  rfl

/-- The members of a vertex fill its draft, as far as they are there. -/
theorem Vertex.fills_members (id : String) (kind : VertexType) (variant : Option String)
    (placeholder : Option Bool) :
    Fills 0 Vertex.shape.member {}
      (Value.memberTexts (("id", .text id) :: ("type", .text kind.label) ::
        (optionalMember "variant" .text variant ++
          (optionalMember "placeholder" .boolean placeholder ++ []))))
      { id := some id, kind := some kind, variant, placeholder } := by
  have hid : Fills 0 Vertex.shape.member {} (Value.memberTexts [("id", .text id)])
      { id := some id } :=
    Shape.fills_field rfl rfl (reads_text id) rfl
  have hkind : Fills 0 Vertex.shape.member { id := some id }
      (Value.memberTexts [("type", .text kind.label)]) { id := some id, kind := some kind } :=
    Shape.fills_field rfl rfl kind.reads_reader rfl
  have hvariant : Fills 0 Vertex.shape.member { id := some id, kind := some kind }
      (Value.memberTexts (optionalMember "variant" .text variant))
      { id := some id, kind := some kind, variant } :=
    Shape.fills_optionalMember rfl rfl (fun s _ => reads_text s) (by cases variant <;> rfl)
  have hplaceholder : Fills 0 Vertex.shape.member { id := some id, kind := some kind, variant }
      (Value.memberTexts (optionalMember "placeholder" .boolean placeholder))
      { id := some id, kind := some kind, variant, placeholder } :=
    Shape.fills_optionalMember rfl rfl (fun b _ => reads_boolean b)
      (by cases placeholder <;> rfl)
  exact Shape.fills_memberTexts_append hid <| Shape.fills_memberTexts_append hkind <|
    Shape.fills_memberTexts_append hvariant <| Shape.fills_memberTexts_append hplaceholder (.nil _)

/-- A vertex reads back, whichever of its members with a default value are left out. -/
theorem Vertex.reads_reader {v : Vertex} {w : Value} (h : Value.Abridges defaults v.toValue w) :
    Reads 1 Vertex.shape.reader w.compact.toList v := by
  cases h with
  | record h =>
      obtain ⟨_, rfl, h₁⟩ := h.cons_required (by decide)
      obtain ⟨_, rfl, h₂⟩ := h₁.cons_required (by decide)
      obtain ⟨variant, _, rfl, hvariant, h₃⟩ := h₂.cons_optional ""
        fun hmem => by simpa [defaults] using hmem
      obtain ⟨placeholder, _, rfl, hplaceholder, h₄⟩ := h₃.cons_optional false
        fun hmem => by simpa [defaults] using hmem
      cases h₄
      rw [Value.toList_compact_record]
      refine Shape.reads_reader (fills_members v.id v.kind variant placeholder) ?_
      have hfinish : Vertex.shape.finish { id := v.id, kind := v.kind, variant, placeholder } =
          .ok { v with variant := variant.getD "", placeholder := placeholder.getD false } := rfl
      rw [hfinish, hvariant, hplaceholder]

theorem BoundEntry.reads_reader {depth : Nat} {u : BoundEntry} (hu : u.Within64Bits) :
    Reads depth BoundEntry.reader u.toValue.compact.toList u := by
  have hfound : Reads depth (found >>= ofFound) u.toValue.compact.toList u := by
    cases u with
    | count n =>
        have hexact : (Found.integer n).IsExact := ⟨hu.1, Int.le_trans hu.2 (by decide)⟩
        exact (reads_found hexact).bind (if_pos hu.2)
    | keyword s => exact (reads_found (x := .text s) trivial).bind rfl
  obtain ⟨gap, hgap, hread⟩ := hfound
  exact ⟨gap, hgap, fun room tail hroom htail =>
    reader_eq_ok_iff.2 (hread room tail hroom htail)⟩

/-- The members of an edge fill its draft, as far as they are there. -/
theorem EdgeEntry.fills_members (source target : String) {lower : Option Int}
    {upper : Option BoundEntry} (missing : Option Bool) (condition : Option String)
    (hlower : ∀ n ∈ lower, Json.Within64Bits n) (hupper : ∀ u ∈ upper, u.Within64Bits) :
    Fills 0 EdgeEntry.shape.member {}
      (Value.memberTexts (("from", .text source) :: ("to", .text target) ::
        (optionalMember "lower" .integer lower ++
          (optionalMember "upper" BoundEntry.toValue upper ++
            (optionalMember "missing" .boolean missing ++
              optionalMember "condition" .text condition)))))
      { source := some source, target := some target, lower, upper, missing,
        condition := condition.map some } := by
  have hsource : Fills 0 EdgeEntry.shape.member {} (Value.memberTexts [("from", .text source)])
      { source := some source } :=
    Shape.fills_field rfl rfl (reads_text source) rfl
  have htarget : Fills 0 EdgeEntry.shape.member { source := some source }
      (Value.memberTexts [("to", .text target)])
      { source := some source, target := some target } :=
    Shape.fills_field rfl rfl (reads_text target) rfl
  have hlowers : Fills 0 EdgeEntry.shape.member { source := some source, target := some target }
      (Value.memberTexts (optionalMember "lower" .integer lower))
      { source := some source, target := some target, lower } :=
    Shape.fills_optionalMember rfl rfl (fun n hn => reads_integer (hlower n hn).1 (hlower n hn).2)
      (by cases lower <;> rfl)
  have huppers : Fills 0 EdgeEntry.shape.member
      { source := some source, target := some target, lower }
      (Value.memberTexts (optionalMember "upper" BoundEntry.toValue upper))
      { source := some source, target := some target, lower, upper } :=
    Shape.fills_optionalMember rfl rfl (fun u hu => BoundEntry.reads_reader (hupper u hu))
      (by cases upper <;> rfl)
  have hmissing : Fills 0 EdgeEntry.shape.member
      { source := some source, target := some target, lower, upper }
      (Value.memberTexts (optionalMember "missing" .boolean missing))
      { source := some source, target := some target, lower, upper, missing } :=
    Shape.fills_optionalMember rfl rfl (fun b _ => reads_boolean b) (by cases missing <;> rfl)
  have hcondition : Fills 0 EdgeEntry.shape.member
      { source := some source, target := some target, lower, upper, missing }
      (Value.memberTexts (optionalMember "condition" .text condition))
      { source := some source, target := some target, lower, upper, missing,
        condition := condition.map some } := by
    cases condition with
    | none => exact .nil _
    | some s => exact Shape.fills_field rfl rfl (reads_optionalText s) rfl
  exact Shape.fills_memberTexts_append hsource <| Shape.fills_memberTexts_append htarget <|
    Shape.fills_memberTexts_append hlowers <| Shape.fills_memberTexts_append huppers <|
      Shape.fills_memberTexts_append hmissing hcondition

/-- Only one upper bound is left out. -/
theorem BoundEntry.eq_of_mem_defaults {u : BoundEntry}
    (h : ("upper", u.toValue) ∈ EdgeEntry.defaults) : u = .count 1 := by
  cases u with
  | count n => simpa [EdgeEntry.defaults, toValue] using h
  | keyword s => simp [EdgeEntry.defaults, toValue] at h

/-- The members of an edge, the last of which may be missing. -/
theorem EdgeEntry.toValue_eq_record (e : EdgeEntry) :
    e.toValue = .record (("from", .text e.source) :: ("to", .text e.target) ::
      ("lower", .integer e.lower) :: ("upper", e.upper.toValue) ::
        ("missing", .boolean e.missing) :: optionalMember "condition" .text e.condition) := by
  unfold toValue
  cases e.condition <;> rfl

/-- A draft is finished with the defaults for what is left out. -/
theorem EdgeEntry.finish_shape (source target : String) (lower : Option Int)
    (upper : Option BoundEntry) (missing : Option Bool) (condition : Option String) :
    EdgeEntry.shape.finish
        { source, target, lower, upper, missing, condition := condition.map some } =
      .ok
        { source, target, lower := lower.getD 1, upper := upper.getD (.count 1),
          missing := missing.getD false, condition } := by
  cases condition <;> rfl

/-- An edge within 64 bits reads back, whichever members with a default value are left out. -/
theorem EdgeEntry.reads_reader {e : EdgeEntry} {w : Value} (he : e.Within64Bits)
    (h : Value.Abridges defaults e.toValue w) :
    Reads 1 EdgeEntry.shape.reader w.compact.toList e := by
  rw [toValue_eq_record] at h
  cases h with
  | record h =>
      obtain ⟨_, rfl, h₁⟩ := h.cons_required (by decide)
      obtain ⟨_, rfl, h₂⟩ := h₁.cons_required (by decide)
      obtain ⟨lower, _, rfl, hlower, h₃⟩ := h₂.cons_optional 1
        fun hmem => by simpa [defaults] using hmem
      obtain ⟨upper, _, rfl, hupper, h₄⟩ := h₃.cons_optional (.count 1)
        BoundEntry.eq_of_mem_defaults
      obtain ⟨missing, rest, rfl, hmissing, h₅⟩ := h₄.cons_optional false
        fun hmem => by simpa [defaults] using hmem
      rw [h₅.eq_optionalMember (by decide), Value.toList_compact_record]
      refine Shape.reads_reader (fills_members e.source e.target missing e.condition ?_ ?_) ?_
      · rintro n rfl
        rw [show n = e.lower from hlower]
        exact he.1
      · rintro u rfl
        rw [show u = e.upper from hupper]
        exact he.2
      · rw [finish_shape, hlower, hupper, hmissing]

/-- The text of a record begins an item. -/
theorem Json.Value.Abridges.beginsItem {defaults : List (String × Value)} {v w : Value}
    (h : Value.Abridges defaults v w) : BeginsItem w.compact.toList := by
  cases h with
  | record h =>
      rw [Value.toList_compact_record]
      exact ⟨'\x7b', _, rfl, by decide, by decide⟩

/-- A list of records reads back if each of them does. -/
theorem Json.Reader.reads_list_of_abridges {α : Type} {depth : Nat} {item : Reader α}
    {defaults : List (String × Value)} {toValue : α → Value} {as : List α} {ws : List Value}
    (h : List.Forall₂ (fun a w => Value.Abridges defaults (toValue a) w) as ws)
    (hitem : ∀ a ∈ as, ∀ w, Value.Abridges defaults (toValue a) w →
      Reads depth item w.compact.toList a) :
    Reads (depth + 1) (Reader.list item) (Value.list ws).compact.toList as := by
  have hitems : List.Forall₂ (Reads depth item) (ws.map fun w => w.compact.toList) as ∧
      ∀ text ∈ ws.map fun w => w.compact.toList, BeginsItem text := by
    induction h with
    | nil => exact ⟨.nil, by simp⟩
    | cons hw _ ih =>
        obtain ⟨ha, has⟩ := List.forall_mem_cons.1 hitem
        obtain ⟨hreads, hbegins⟩ := ih has
        exact ⟨.cons (ha _ hw) hreads, List.forall_mem_cons.2 ⟨hw.beginsItem, hbegins⟩⟩
  rw [Value.toList_compact_list]
  exact reads_list hitems.1 hitems.2

/-- A document within 64 bits reads back from everything that it may be written as. -/
theorem TemplateDocument.ofJson_of_writtenAs {d : TemplateDocument} {v : Value}
    (hd : d.Within64Bits) (h : d.WrittenAs v) : ofJson v.compact = .ok d := by
  obtain ⟨vertices, edges, rfl, hvertices, hedges⟩ := h
  have hreadVertices := reads_list_of_abridges hvertices fun v _ w hw => Vertex.reads_reader hw
  have hreadEdges := reads_list_of_abridges hedges fun e he w hw =>
    EdgeEntry.reads_reader (hd e he) hw
  have hfillVertices : Fills 2 TemplateDocument.shape.member {}
      (Value.memberTexts [("vertices", .list vertices)]) { vertices := some d.vertices } :=
    Shape.fills_field rfl rfl hreadVertices rfl
  have hfillEdges : Fills 2 TemplateDocument.shape.member { vertices := some d.vertices }
      (Value.memberTexts [("edges", .list edges)])
      { vertices := some d.vertices, edges := some d.edges } :=
    Shape.fills_field rfl rfl hreadEdges rfl
  have hread : Reads 3 TemplateDocument.shape.reader _ d :=
    Shape.reads_reader (Shape.fills_memberTexts_append hfillVertices hfillEdges) rfl
  rw [← Value.toList_compact_record] at hread
  exact hread.run_eq_ok (by decide)

/-- The text of the document that a text is read as. -/
def TemplateDocument.reserialise (s : String) : Except Json.Fault String :=
  (ofJson s).map toJson

/-- Reading undoes writing, also where members with a default value are left out; and a text that
was read and written once stays as it is when that is done again. -/
theorem TemplateDocument.ofJson_writtenAs_and_reserialise_idempotent :
    (∀ d : TemplateDocument, d.Within64Bits →
      ofJson d.toJson = .ok d ∧ ∀ v, d.WrittenAs v → ofJson v.compact = .ok d) ∧
    ∀ s t, reserialise s = .ok t → reserialise t = .ok t := by
  have hread : ∀ d : TemplateDocument, d.Within64Bits → ofJson d.toJson = .ok d := fun d hd =>
    ofJson_of_writtenAs hd d.writtenAs_toValue
  refine ⟨fun d hd => ⟨hread d hd, fun v hv => ofJson_of_writtenAs hd hv⟩, fun s t h => ?_⟩
  unfold reserialise at h ⊢
  cases hs : ofJson s with
  | error fault =>
      rw [hs] at h
      cases h
  | ok d =>
      rw [hs] at h
      cases h
      rw [hread d (within64Bits_of_ofJson_eq_ok hs)]
      rfl

namespace TemplateDocument

/-- A document with texts that have to be escaped, bounds at both ends of the range, and members
that hold their default. -/
def atTheEnds : TemplateDocument where
  vertices := [
    { id := "a\"\\\n\u0001", kind := .activity },
    { id := "é😀", kind := .gateway, variant := "/\t", placeholder := true }]
  edges := [
    { source := "é😀", target := "a\"\\\n\u0001", lower := -9223372036854775808,
      upper := .count 9223372036854775807, missing := true, condition := some "null" },
    { source := "é😀", target := "é😀", upper := .keyword "1" }]

/-- The same document without the members that hold their default, one of them apart. -/
def atTheEndsAbridged : Value :=
  .record [
    ("vertices", .list [
      .record [("id", .text "a\"\\\n\u0001"), ("type", .text "ACTIVITY")],
      .record [("id", .text "é😀"), ("type", .text "GATEWAY"), ("variant", .text "/\t"),
        ("placeholder", .boolean true)]]),
    ("edges", .list [
      .record [("from", .text "é😀"), ("to", .text "a\"\\\n\u0001"),
        ("lower", .integer (-9223372036854775808)), ("upper", .integer 9223372036854775807),
        ("missing", .boolean true), ("condition", .text "null")],
      .record [("from", .text "é😀"), ("to", .text "é😀"), ("upper", .text "1"),
        ("missing", .boolean false)]])]

/-- A document with spaces, an escape, a vertex by position, and a member that is passed over. -/
def spacedText : String :=
  " \x7b \"edges\" : [ ] ,\n\"vertices\":[[\"\\u0061\",\"EVENT\"]],\"x\":[1.5e3]\x7d "

/-- What is written for it. -/
def plainText : String :=
  "\x7b\"vertices\":[\x7b\"id\":\"a\",\"type\":\"EVENT\",\"variant\":\"\"," ++
    "\"placeholder\":false\x7d],\"edges\":[]\x7d"

theorem ofJson_writtenAs_and_reserialise_idempotent_atTheEnds :
    (atTheEnds.Within64Bits ∧ atTheEnds.WrittenAs atTheEndsAbridged ∧
      ofJson atTheEnds.toJson = .ok atTheEnds ∧
        ofJson atTheEndsAbridged.compact = .ok atTheEnds) ∧
    reserialise spacedText = .ok plainText ∧ reserialise plainText = .ok plainText := by
  have hbounds : atTheEnds.Within64Bits := by
    intro e he
    simp only [atTheEnds, List.mem_cons, List.not_mem_nil, or_false] at he
    rcases he with rfl | rfl
    · exact ⟨⟨by decide, by decide⟩, by decide, by decide⟩
    · exact ⟨⟨by decide, by decide⟩, trivial⟩
  have hfirst : OmitsDefaults Vertex.defaults
      [("id", .text "a\"\\\n\u0001"), ("type", .text "ACTIVITY"), ("variant", .text ""),
        ("placeholder", .boolean false)]
      [("id", .text "a\"\\\n\u0001"), ("type", .text "ACTIVITY")] :=
    .keep (.keep (.drop (by simp [Vertex.defaults]) (.drop (by simp [Vertex.defaults]) .nil)))
  have hlast : OmitsDefaults EdgeEntry.defaults
      [("from", .text "é😀"), ("to", .text "é😀"), ("lower", .integer 1), ("upper", .text "1"),
        ("missing", .boolean false)]
      [("from", .text "é😀"), ("to", .text "é😀"), ("upper", .text "1"),
        ("missing", .boolean false)] :=
    .keep (.keep (.drop (by simp [EdgeEntry.defaults]) (.keep (.keep .nil))))
  have hwritten : atTheEnds.WrittenAs atTheEndsAbridged :=
    ⟨_, _, rfl, .cons (.record hfirst) (.cons (.record (.refl _)) .nil),
      .cons (.record (.refl _)) (.cons (.record hlast) .nil)⟩
  have hspaced : reserialise spacedText = .ok plainText := by decide +kernel
  obtain ⟨hread, hidempotent⟩ := ofJson_writtenAs_and_reserialise_idempotent
  obtain ⟨hfull, habridged⟩ := hread atTheEnds hbounds
  exact ⟨⟨hbounds, hwritten, hfull, habridged _ hwritten⟩, hspaced, hidempotent _ _ hspaced⟩

end TemplateDocument

end FlawQuery
