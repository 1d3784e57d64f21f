/-
# FlawQuery.Proofs.RecordRoundTrip -- lists and records read back from their compact text

The text of a list or record is built from the texts of its items or members. If each of these is
read as intended, so is the whole: items are read one after the other, and members fill the draft of
a shape from blank to finished.
-/

import FlawQuery.Proofs.ScalarRoundTrip
import Mathlib.Data.List.Forall2

namespace FlawQuery.Json

/-! ## The texts of lists and records -/

/-- A list of items by their texts. -/
def listText (texts : List (List Char)) : List Char :=
  '[' :: ([','].intercalate texts ++ [']'])

/-- A member by its key and the text of its value. -/
def memberText (m : String × List Char) : List Char :=
  (quote m.1).toList ++ ':' :: m.2

/-- A record by its keys and the texts of its values. -/
def recordText (members : List (String × List Char)) : List Char :=
  '\x7b' :: ([','].intercalate (members.map memberText) ++ ['\x7d'])

theorem intercalate_comma (text : List Char) (texts : List (List Char)) :
    [','].intercalate (text :: texts) = text ++ texts.flatMap (',' :: ·) := by
  induction texts generalizing text with
  | nil => simp
  | cons next texts ih =>
      rw [List.intercalate_cons_cons, ih, List.flatMap_cons, List.append_assoc]
      rfl

namespace Value

theorem compactItems_eq_map (items : List Value) : compactItems items = items.map compact := by
  induction items with
  | nil => rfl
  | cons v items ih => rw [compactItems, ih, List.map_cons]

theorem compactMembers_eq_map (members : List (String × Value)) :
    compactMembers members = members.map fun m => quote m.1 ++ ":" ++ m.2.compact := by
  induction members with
  | nil => rfl
  | cons m members ih => rw [compactMembers, ih, List.map_cons]

theorem toList_compact_list (items : List Value) :
    (Value.list items).compact.toList = listText (items.map fun v => v.compact.toList) := by
  rw [compact, compactItems_eq_map, String.toList_append, String.toList_append,
    String.toList_intercalate, List.map_map]
  rfl

/-- The members of a record with their values as texts. -/
def memberTexts (members : List (String × Value)) : List (String × List Char) :=
  members.map fun m => (m.1, m.2.compact.toList)

theorem toList_compact_record (members : List (String × Value)) :
    (Value.record members).compact.toList = recordText (memberTexts members) := by
  have hmember : ∀ m : String × Value, (quote m.1 ++ ":" ++ m.2.compact).toList =
      memberText (m.1, m.2.compact.toList) := by
    intro m
    rw [String.toList_append, String.toList_append, List.append_assoc]
    rfl
  rw [compact, compactMembers_eq_map, String.toList_append, String.toList_append,
    String.toList_intercalate, List.map_map, recordText, memberTexts, List.map_map]
  simp only [Function.comp_def, hmember]
  rfl

end Value

namespace Reader

variable {α β δ : Type} {depth : Nat}

/-- Space before a reader that first looks at the next character changes nothing. -/
theorem peek_bind_of_space {f : Option Char → Reader β} {gap : List Char}
    (hgap : ∀ c ∈ gap, isSpace c = true) (room : Nat) (s : List Char) :
    (peek >>= f) room (gap ++ s) = (peek >>= f) room s := by
  have hpeek : ∀ s, (peek >>= f) room s =
      f (s.dropWhile isSpace).head? room (s.dropWhile isSpace) := fun _ => rfl
  rw [hpeek, hpeek, dropWhile_isSpace_of_forall hgap]

/-! ## Lists -/

/-- The text begins with neither space nor the end of a list. -/
def BeginsItem (text : List Char) : Prop :=
  ∃ c rest, text = c :: rest ∧ isSpace c = false ∧ c ≠ ']'

theorem peek_of_beginsItem {text : List Char} (h : BeginsItem text) :
    ∃ c, c ≠ ']' ∧ ∀ room tail, peek room (text ++ tail) = .ok (some c, text ++ tail) := by
  obtain ⟨c, rest, rfl, hspace, hc⟩ := h
  refine ⟨c, hc, fun room tail => ?_⟩
  simp only [peek, List.cons_append, List.dropWhile_cons, hspace, Bool.false_eq_true, if_false,
    List.head?_cons]

theorem nextItem_first {text : List Char} (h : BeginsItem text) (room : Nat) (tail : List Char) :
    nextItem true room (text ++ tail) = .ok (true, text ++ tail) := by
  obtain ⟨c, hc, hpeek⟩ := peek_of_beginsItem h
  rw [nextItem, bind_of_eq_ok (hpeek room tail)]
  simp only [if_neg hc]
  rfl

theorem nextItem_next {text gap : List Char} (h : BeginsItem text)
    (hgap : ∀ c ∈ gap, isSpace c = true) (room : Nat) (tail : List Char) :
    nextItem false room (gap ++ ',' :: (text ++ tail)) = .ok (true, text ++ tail) := by
  obtain ⟨c, hc, hpeek⟩ := peek_of_beginsItem h
  have hcomma : peek room (',' :: (text ++ tail)) = .ok (some ',', ',' :: (text ++ tail)) := rfl
  have hadvance : advance room (',' :: (text ++ tail)) = .ok ((), text ++ tail) := rfl
  rw [nextItem, peek_bind_of_space hgap, bind_of_eq_ok hcomma]
  dsimp only
  rw [if_neg (by decide), if_neg Bool.false_ne_true, if_pos rfl, bind_of_eq_ok hadvance,
    bind_of_eq_ok (hpeek room tail)]
  dsimp only
  rw [if_neg hc]
  rfl

theorem nextItem_end {first : Bool} {gap : List Char} (hgap : ∀ c ∈ gap, isSpace c = true)
    (room : Nat) (tail : List Char) :
    nextItem first room (gap ++ ']' :: tail) = .ok (false, ']' :: tail) := by
  rw [nextItem, peek_bind_of_space hgap]
  rfl

theorem endsNumber_flatMap {closer : Char} (hcloser : closer ∈ [',', ']', '\x7d'])
    (texts : List (List Char)) (tail : List Char) :
    EndsNumber (texts.flatMap (',' :: ·) ++ closer :: tail) := by
  cases texts with
  | nil => exact endsNumber_cons hcloser _
  | cons text texts => exact endsNumber_cons (by decide) _

/-- Items behind the first one, each after its comma. -/
theorem listItems_of_reads {item : Reader α} {texts : List (List Char)} {as : List α}
    (h : List.Forall₂ (Reads depth item) texts as) (htexts : ∀ text ∈ texts, BeginsItem text)
    {room : Nat} (hroom : depth ≤ room) (tail : List Char) :
    ∀ {fuel : Nat} {gap : List Char}, texts.length < fuel → (∀ c ∈ gap, isSpace c = true) →
      listItems item fuel false room (gap ++ (texts.flatMap (',' :: ·) ++ ']' :: tail)) =
        .ok (as, ']' :: tail) := by
  induction h with
  | nil =>
      intro fuel gap hfuel hgap
      obtain ⟨fuel, rfl⟩ : ∃ k, fuel = k + 1 := ⟨fuel - 1, by omega⟩
      exact bind_of_eq_ok (nextItem_end hgap room tail)
  | @cons text a texts as hread _ ih =>
      intro fuel gap hfuel hgap
      obtain ⟨fuel, rfl⟩ : ∃ k, fuel = k + 1 := ⟨fuel - 1, by omega⟩
      obtain ⟨hbegins, hrest⟩ := List.forall_mem_cons.1 htexts
      obtain ⟨gap', hgap', hread⟩ := hread
      -- the space that an item leaves is passed over with the comma behind it
      have hnext : nextItem false room
          (gap ++ ((text :: texts).flatMap (',' :: ·) ++ ']' :: tail)) =
            .ok (true, text ++ (texts.flatMap (',' :: ·) ++ ']' :: tail)) := by
        rw [List.flatMap_cons, List.append_assoc]
        exact nextItem_next hbegins hgap room _
      have hitem := hread room (texts.flatMap (',' :: ·) ++ ']' :: tail) hroom
        (endsNumber_flatMap (by decide) texts tail)
      rw [listItems, bind_of_eq_ok hnext]
      show (item >>= _) room _ = _
      rw [bind_of_eq_ok hitem, bind_of_eq_ok (ih hrest (by simpa using hfuel) hgap')]
      rfl

theorem length_le_length_flatMap (texts : List (List Char)) :
    texts.length ≤ (texts.flatMap (',' :: ·)).length := by
  induction texts with
  | nil => exact Nat.le_refl 0
  | cons text texts ih =>
      rw [List.flatMap_cons, List.length_append, List.length_cons, List.length_cons]
      omega

/-- The body of a list is read item by item, up to its closing bracket. -/
theorem listBody_of_reads {item : Reader α} {texts : List (List Char)} {as : List α}
    (h : List.Forall₂ (Reads depth item) texts as) (htexts : ∀ text ∈ texts, BeginsItem text)
    {room : Nat} (hroom : depth ≤ room) (tail : List Char) :
    listBody item room ([','].intercalate texts ++ ']' :: tail) = .ok (as, tail) := by
  have hitems : listItems item (([','].intercalate texts ++ ']' :: tail).length + 1) true room
      ([','].intercalate texts ++ ']' :: tail) = .ok (as, ']' :: tail) := by
    cases h with
    | nil => rfl
    | @cons text a texts as hread hreads =>
        obtain ⟨hbegins, hrest⟩ := List.forall_mem_cons.1 htexts
        obtain ⟨gap, hgap, hread⟩ := hread
        rw [intercalate_comma, List.append_assoc]
        -- each further item takes a comma at least, so there are rounds enough
        have hfuel : texts.length < (text ++ (texts.flatMap (',' :: ·) ++ ']' :: tail)).length := by
          have := length_le_length_flatMap texts
          simp only [List.length_append, List.length_cons]
          omega
        rw [listItems, bind_of_eq_ok (nextItem_first hbegins room _)]
        show (item >>= _) room _ = _
        rw [bind_of_eq_ok (hread room _ hroom (endsNumber_flatMap (by decide) texts tail)),
          bind_of_eq_ok (listItems_of_reads hreads hrest hroom tail hfuel hgap)]
        rfl
  have hremaining : ∀ s, remaining room s = .ok (s.length, s) := fun _ => rfl
  rw [listBody, bind_of_eq_ok (hremaining _), bind_of_eq_ok hitems]
  rfl

/-- The items of a list in brackets, wherever one more list or record may be opened. -/
theorem reads_list {item : Reader α} {texts : List (List Char)} {as : List α}
    (h : List.Forall₂ (Reads depth item) texts as) (htexts : ∀ text ∈ texts, BeginsItem text) :
    Reads (depth + 1) (list item) (listText texts) as := by
  refine ⟨[], by simp, fun room tail hroom htail => ?_⟩
  obtain ⟨room, rfl⟩ : ∃ k, room = k + 1 := ⟨room - 1, by omega⟩
  rw [listText, List.cons_append, List.append_assoc, List.singleton_append]
  exact listBody_of_reads h htexts (by omega) tail

/-! ## Records -/

/-- Members with these keys and values, in this order, take one draft to the other. -/
inductive Fills (depth : Nat) (member : δ → String → Reader δ) :
    δ → List (String × List Char) → δ → Prop
  | nil (d : δ) : Fills depth member d [] d
  | cons {d d₁ d₂ : δ} {key : String} {text : List Char} {members : List (String × List Char)}
      (hread : Reads depth (member d key) (':' :: text) d₁)
      (hrest : Fills depth member d₁ members d₂) : Fills depth member d ((key, text) :: members) d₂

/-- Members that fill a draft one part after the other fill it as a whole. -/
theorem Fills.append {member : δ → String → Reader δ} {d d₁ d₂ : δ}
    {before after : List (String × List Char)} (h : Fills depth member d before d₁)
    (h' : Fills depth member d₁ after d₂) : Fills depth member d (before ++ after) d₂ := by
  induction h with
  | nil d => exact h'
  | cons hread _ ih => exact .cons hread (ih h')

theorem nextKey_first (key : String) (room : Nat) (tail : List Char) :
    nextKey true room ((quote key).toList ++ tail) = .ok (some key, tail) := by
  rw [toList_quote, List.cons_append, List.append_assoc, List.singleton_append]
  show (textBody >>= fun key => pure (some key)) room
    (key.toList.flatMap escapeChar ++ '"' :: tail) = _
  exact bind_of_eq_ok (textBody_quote key room tail)

theorem nextKey_next (key : String) {gap : List Char} (hgap : ∀ c ∈ gap, isSpace c = true)
    (room : Nat) (tail : List Char) :
    nextKey false room (gap ++ ',' :: ((quote key).toList ++ tail)) = .ok (some key, tail) := by
  rw [nextKey, peek_bind_of_space hgap, toList_quote, List.cons_append, List.append_assoc,
    List.singleton_append]
  show (textBody >>= fun key => pure (some key)) room
    (key.toList.flatMap escapeChar ++ '"' :: tail) = _
  exact bind_of_eq_ok (textBody_quote key room tail)

theorem nextKey_end {first : Bool} {gap : List Char} (hgap : ∀ c ∈ gap, isSpace c = true)
    (room : Nat) (tail : List Char) :
    nextKey first room (gap ++ '\x7d' :: tail) = .ok (none, '\x7d' :: tail) := by
  rw [nextKey, peek_bind_of_space hgap]
  rfl

/-- Members behind the first one, each after its comma. -/
theorem members_of_fills {member : δ → String → Reader δ} {d d' : δ}
    {ms : List (String × List Char)} (h : Fills depth member d ms d') {room : Nat}
    (hroom : depth ≤ room) (tail : List Char) :
    ∀ {fuel : Nat} {gap : List Char}, ms.length < fuel → (∀ c ∈ gap, isSpace c = true) →
      members member fuel false d room
        (gap ++ ((ms.map memberText).flatMap (',' :: ·) ++ '\x7d' :: tail)) =
          .ok (d', '\x7d' :: tail) := by
  induction h with
  | nil d =>
      intro fuel gap hfuel hgap
      obtain ⟨fuel, rfl⟩ : ∃ k, fuel = k + 1 := ⟨fuel - 1, by omega⟩
      exact bind_of_eq_ok (nextKey_end hgap room tail)
  | @cons d d₁ d₂ key text ms hread _ ih =>
      intro fuel gap hfuel hgap
      obtain ⟨fuel, rfl⟩ : ∃ k, fuel = k + 1 := ⟨fuel - 1, by omega⟩
      obtain ⟨gap', hgap', hread⟩ := hread
      have hkey : nextKey false room
          (gap ++ ((((key, text) :: ms).map memberText).flatMap (',' :: ·) ++ '\x7d' :: tail)) =
            .ok (some key,
              ':' :: text ++ ((ms.map memberText).flatMap (',' :: ·) ++ '\x7d' :: tail)) := by
        rw [List.map_cons, List.flatMap_cons, List.append_assoc, memberText, List.cons_append,
          List.append_assoc]
        exact nextKey_next key hgap room _
      have hmember := hread room ((ms.map memberText).flatMap (',' :: ·) ++ '\x7d' :: tail) hroom
        (endsNumber_flatMap (by decide) _ tail)
      rw [members, bind_of_eq_ok hkey]
      show (member d key >>= _) room _ = _
      rw [bind_of_eq_ok hmember]
      exact ih (by simpa using hfuel) hgap'

/-- The body of a record takes the draft through its members, up to its closing brace. -/
theorem recordBody_of_fills {member : δ → String → Reader δ} {d d' : δ}
    {ms : List (String × List Char)} (h : Fills depth member d ms d') {room : Nat}
    (hroom : depth ≤ room) (tail : List Char) :
    recordBody member d room ([','].intercalate (ms.map memberText) ++ '\x7d' :: tail) =
      .ok (d', '\x7d' :: tail) := by
  have hremaining : ∀ s, remaining room s = .ok (s.length, s) := fun _ => rfl
  rw [recordBody, bind_of_eq_ok (hremaining _)]
  cases h with
  | nil d => rfl
  | @cons _ d₁ _ key text ms hread hrest =>
      obtain ⟨gap, hgap, hread⟩ := hread
      rw [List.map_cons, intercalate_comma, memberText, List.append_assoc, List.append_assoc]
      have hfuel : ms.length < ((quote key).toList ++
          (':' :: text ++ ((ms.map memberText).flatMap (',' :: ·) ++ '\x7d' :: tail))).length := by
        have := length_le_length_flatMap (ms.map memberText)
        simp only [List.length_append, List.length_cons, List.length_map] at this ⊢
        omega
      rw [members, bind_of_eq_ok (nextKey_first key room _)]
      show (member d key >>= _) room _ = _
      rw [bind_of_eq_ok (hread room _ hroom (endsNumber_flatMap (by decide) _ tail))]
      exact members_of_fills hrest hroom tail hfuel hgap

end Reader

namespace Shape

open Reader

variable {α β δ : Type} {depth : Nat} {shape : Shape δ α}

/-- A member that fills an empty field. -/
theorem reads_member {key : String} {field : Field δ} {d d' : δ} {text : List Char}
    (hfield : shape.fields.find? (·.key = key) = some field) (hempty : field.filled d = false)
    (hread : Reads depth (field.read d) text d') :
    Reads depth (shape.member d key) (':' :: text) d' := by
  obtain ⟨gap, hgap, hread⟩ := hread
  refine ⟨gap, hgap, fun room tail hroom htail => ?_⟩
  have hcolon : colon room (':' :: text ++ tail) = .ok ((), text ++ tail) := rfl
  rw [member, hfield]
  dsimp only
  rw [hempty, if_neg (by decide), bind_of_eq_ok hcolon]
  exact hread room tail hroom htail

/-- A member fills its field in a draft that lacks it. -/
theorem fills_field {key : String} {required : Bool} {get : δ → Option β} {set : δ → β → δ}
    {read : Reader β} {d d' : δ} {text : List Char} {b : β}
    (hfield : shape.fields.find? (·.key = key) = some (.ofOption key required get set read))
    (hempty : get d = none) (hread : Reads depth read text b) (hset : set d b = d') :
    Fills depth shape.member d [(key, text)] d' := by
  subst hset
  refine .cons (reads_member hfield ?_ (hread.bind rfl)) (.nil _)
  show (get d).isSome = false
  rw [hempty]
  rfl

/-- Members that fill a blank draft to one that can be finished are a record of the shape. -/
theorem reads_reader {ms : List (String × List Char)} {d : δ} {a : α}
    (h : Fills depth shape.member shape.blank ms d) (hfinish : shape.finish d = .ok a) :
    Reads (depth + 1) shape.reader (recordText ms) a := by
  refine ⟨[], by simp, fun room tail hroom htail => ?_⟩
  obtain ⟨room, rfl⟩ : ∃ k, room = k + 1 := ⟨room - 1, by omega⟩
  rw [recordText, List.cons_append, List.append_assoc, List.singleton_append]
  -- the closing brace stays in the text until the draft is finished
  have hbody := recordBody_of_fills h (show depth ≤ room by omega) tail
  show shape.byName room ([','].intercalate (ms.map memberText) ++ '\x7d' :: tail) = _
  rw [byName, bind_of_eq_ok hbody, complete, hfinish]
  rfl

end Shape

end FlawQuery.Json
