/-
# FlawQuery.Proofs.ReaderStability -- a value means the same alone and inside a document

A reader is stable if what it accepts it accepts in the same way in front of any text and in any
place, as long as the place has room for the lists and records that the value opens itself. All
readers of templates are: a document of one template reads as that template wherever it stands in
another document.
-/

import FlawQuery.Proofs.PrefixStability
import FlawQuery.Template.Document

namespace FlawQuery

namespace Json

/-- Something other than a list or a record. -/
def Found.IsScalar : Found → Prop
  | .list | .record => False
  | _ => True

namespace Reader

variable {α β δ : Type} {depth : Nat}

/-! ## Stable readers -/

/-- What the reader accepts it accepts in front of any text and wherever `depth` lists and records
may still be opened. -/
def Stable (depth : Nat) (r : Reader α) : Prop :=
  ∀ room s a rest, r room s = .ok (a, rest) →
    ∀ room' tail, depth ≤ room' → EndsNumber tail → r room' (s ++ tail) = .ok (a, rest ++ tail)

/-- The same for texts that begin with `c`, of which the reader may drop that character unseen. -/
def StableAt (depth : Nat) (c : Char) (r : Reader α) : Prop :=
  ∀ room s a rest, r room (c :: s) = .ok (a, rest) →
    ∀ room' tail, depth ≤ room' → EndsNumber tail → r room' (c :: s ++ tail) = .ok (a, rest ++ tail)

theorem bind_eq_ok_iff {r : Reader α} {f : α → Reader β} {room : Nat} {s rest : List Char} {b : β} :
    (r >>= f) room s = .ok (b, rest) ↔
      ∃ a mid, r room s = .ok (a, mid) ∧ f a room mid = .ok (b, rest) := by
  simp only [bind]
  cases r room s with
  | error fault => simp
  | ok p =>
      obtain ⟨a, mid⟩ := p
      constructor
      · exact fun h => ⟨a, mid, rfl, h⟩
      · rintro ⟨_, _, ⟨⟩, h⟩
        exact h

theorem bind_of_eq_ok {r : Reader α} {f : α → Reader β} {room : Nat} {s mid : List Char} {a : α}
    (h : r room s = .ok (a, mid)) : (r >>= f) room s = f a room mid := by
  simp only [bind, h]

/-- A reader that distinguishes two cases succeeds in one of them. -/
theorem ite_eq_ok_elim {p q : Prop} [Decidable p] {r r' : Reader α} {room : Nat}
    {s rest : List Char} {a : α} (h : (if p then r else r') room s = .ok (a, rest))
    (hr : p → r room s = .ok (a, rest) → q) (hr' : ¬ p → r' room s = .ok (a, rest) → q) : q := by
  split at h
  next hp => exact hr hp h
  next hp => exact hr' hp h

theorem Stable.at {r : Reader α} (h : Stable depth r) (c : Char) : StableAt depth c r :=
  fun room s => h room (c :: s)

theorem stable_pure (a : α) : Stable depth (pure a : Reader α) := by
  intro room s b rest h room' tail _ _
  cases h
  rfl

theorem stable_fail (fault : Fault) : Stable depth (fail fault : Reader α) := by
  intro room s b rest h
  cases h

theorem Stable.bind {r : Reader α} {f : α → Reader β} (hr : Stable depth r)
    (hf : ∀ a, Stable depth (f a)) : Stable depth (r >>= f) := by
  intro room s b rest h room' tail hroom htail
  obtain ⟨a, mid, hread, hnext⟩ := bind_eq_ok_iff.1 h
  exact bind_eq_ok_iff.2 ⟨a, mid ++ tail, hr _ _ _ _ hread _ _ hroom htail,
    hf a _ _ _ _ hnext _ _ hroom htail⟩

theorem StableAt.bind {c : Char} {r : Reader α} {f : α → Reader β} (hr : StableAt depth c r)
    (hf : ∀ a, Stable depth (f a)) : StableAt depth c (r >>= f) := by
  intro room s b rest h room' tail hroom htail
  obtain ⟨a, mid, hread, hnext⟩ := bind_eq_ok_iff.1 h
  exact bind_eq_ok_iff.2 ⟨a, mid ++ tail, hr _ _ _ _ hread _ _ hroom htail,
    hf a _ _ _ _ hnext _ _ hroom htail⟩

/-- A character that is known to be there may be dropped. -/
theorem stableAt_advance (c : Char) : StableAt depth c advance := by
  intro room s b rest h room' tail _ _
  cases h
  rfl

/-- Looking ahead is stable if the end of the text is refused. -/
theorem stable_peek_bind {f : Option Char → Reader β} {fault : Fault} (hnone : f none = fail fault)
    (hsome : ∀ c, StableAt depth c (f (some c))) : Stable depth (peek >>= f) := by
  intro room s b rest h room' tail hroom htail
  have hpeek : ∀ s, (peek >>= f) room s =
      f (s.dropWhile isSpace).head? room (s.dropWhile isSpace) := fun _ => rfl
  have hpeek' : ∀ s, (peek >>= f) room' s =
      f (s.dropWhile isSpace).head? room' (s.dropWhile isSpace) := fun _ => rfl
  rw [hpeek] at h
  rw [hpeek']
  cases hrest : s.dropWhile isSpace with
  | nil =>
      rw [hrest, List.head?_nil, hnone] at h
      cases h
  | cons c after =>
      rw [hrest, List.head?_cons] at h
      rw [dropWhile_isSpace_append hrest, List.head?_cons]
      exact hsome c _ _ _ _ h _ _ hroom htail

theorem stableAt_ite {c : Char} {p : Prop} [Decidable p] {r r' : Reader α}
    (hr : p → StableAt depth c r) (hr' : ¬ p → StableAt depth c r') :
    StableAt depth c (if p then r else r') := by
  split
  next hp => exact hr hp
  next hp => exact hr' hp

theorem stable_ite {p : Prop} [Decidable p] {r r' : Reader α} (hr : Stable depth r)
    (hr' : Stable depth r') : Stable depth (if p then r else r') := by
  split
  next => exact hr
  next => exact hr'

theorem Stable.nested {r : Reader α} (hr : Stable depth r) : Stable (depth + 1) (nested r) := by
  intro room s a rest h room' tail hroom htail
  obtain ⟨room', rfl⟩ : ∃ k, room' = k + 1 := ⟨room' - 1, by omega⟩
  cases room with
  | zero => cases h
  | succ room => exact hr _ _ _ _ h _ _ (by omega) htail

/-! ## Scalars -/

theorem stable_word (w : String) (a : α) : Stable depth (word w a) := by
  refine Stable.bind ?_ fun _ => stable_pure a
  intro room s b rest h room' tail _ _
  exact takeWord_append h tail

theorem stable_textBody : Stable depth textBody := by
  refine Stable.bind ?_ fun _ => stable_pure _
  intro room s b rest h room' tail _ _
  exact readText_append h tail

theorem stable_readNumber : Stable depth (step readNumber) := by
  intro room s n rest h room' tail _ htail
  exact readNumber_append h htail

theorem stable_found : Stable depth found := by
  refine stable_peek_bind rfl fun c => ?_
  -- one case for each character that a value can begin with
  refine stableAt_ite (fun _ => (stable_word _ _).at c) fun _ => ?_
  refine stableAt_ite (fun _ => (stable_word _ _).at c) fun _ => ?_
  refine stableAt_ite (fun _ => (stable_word _ _).at c) fun _ => ?_
  refine stableAt_ite (fun _ => (stable_readNumber.bind fun _ => stable_pure _).at c) fun _ => ?_
  refine stableAt_ite (fun _ => ?_) fun _ => ?_
  · exact (stableAt_advance c).bind fun _ => stable_textBody.bind fun _ => stable_pure _
  refine stableAt_ite (fun _ => (stable_pure _).at c) fun _ => ?_
  exact stableAt_ite (fun _ => (stable_pure _).at c) fun _ => (stable_fail _).at c

theorem result_of_word_eq_ok {w : String} {a b : α} {room : Nat} {s rest : List Char}
    (h : word w a room s = .ok (b, rest)) : b = a := by
  obtain ⟨_, _, _, hpure⟩ := bind_eq_ok_iff.1 h
  cases hpure
  rfl

/-- A list or record that is found is still there, from its opening character on. -/
theorem found_cases {room : Nat} {s rest : List Char} {x : Found}
    (h : found room s = .ok (x, rest)) :
    x.IsScalar ∨ (x = .list ∧ ∃ after, rest = '[' :: after) ∨
      (x = .record ∧ ∃ after, rest = '\x7b' :: after) := by
  obtain ⟨next, mid, hpeek, h⟩ := bind_eq_ok_iff.1 h
  cases hpeek
  cases hmid : s.dropWhile isSpace with
  | nil =>
      rw [hmid] at h
      cases h
  | cons c after =>
      rw [hmid] at h
      have hword {w : String} {y : Found} (h : word w y room (c :: after) = .ok (x, rest))
          (hy : y.IsScalar) : x.IsScalar :=
        result_of_word_eq_ok h ▸ hy
      refine ite_eq_ok_elim h (fun _ h => Or.inl (hword h trivial)) fun _ h => ?_
      refine ite_eq_ok_elim h (fun _ h => Or.inl (hword h trivial)) fun _ h => ?_
      refine ite_eq_ok_elim h (fun _ h => Or.inl (hword h trivial)) fun _ h => ?_
      refine ite_eq_ok_elim h (fun _ h => ?_) fun _ h => ?_
      · obtain ⟨n, _, _, hpure⟩ := bind_eq_ok_iff.1 h
        cases hpure
        cases n with
        | whole n => exact Or.inl trivial
        | real decimal => exact Or.inl trivial
      refine ite_eq_ok_elim h (fun _ h => ?_) fun _ h => ?_
      · obtain ⟨_, _, _, h⟩ := bind_eq_ok_iff.1 h
        obtain ⟨_, _, _, hpure⟩ := bind_eq_ok_iff.1 h
        cases hpure
        exact Or.inl trivial
      refine ite_eq_ok_elim h (fun hlist h => ?_) fun _ h => ?_
      · cases h
        exact Or.inr (Or.inl ⟨rfl, after, by rw [hlist]⟩)
      refine ite_eq_ok_elim h (fun hrecord h => ?_) fun _ h => ?_
      · cases h
        exact Or.inr (Or.inr ⟨rfl, after, by rw [hrecord]⟩)
      · cases h

/-- After `found`, a list or record may drop its opening character unseen. -/
theorem stable_found_bind {f : Found → Reader β} (hscalar : ∀ x, x.IsScalar → Stable depth (f x))
    (hlist : StableAt depth '[' (f .list)) (hrecord : StableAt depth '\x7b' (f .record)) :
    Stable depth (found >>= f) := by
  intro room s b rest h room' tail hroom htail
  obtain ⟨x, mid, hfound, hnext⟩ := bind_eq_ok_iff.1 h
  refine bind_eq_ok_iff.2 ⟨x, mid ++ tail, stable_found _ _ _ _ hfound _ _ hroom htail, ?_⟩
  rcases found_cases hfound with hx | ⟨rfl, after, rfl⟩ | ⟨rfl, after, rfl⟩
  · exact hscalar x hx _ _ _ _ hnext _ _ hroom htail
  · exact hlist _ _ _ _ hnext _ _ hroom htail
  · exact hrecord _ _ _ _ hnext _ _ hroom htail

theorem stable_textAs (wanted : String) : Stable depth (textAs wanted) := by
  refine stable_found.bind fun x => ?_
  cases x with
  | text s => exact stable_pure s
  | _ => exact stable_fail _

theorem stable_text : Stable depth text := stable_textAs _

theorem stable_optionalText : Stable depth optionalText := by
  refine stable_found.bind fun x => ?_
  cases x with
  | null => exact stable_pure _
  | text s => exact stable_pure _
  | _ => exact stable_fail _

theorem stable_boolean : Stable depth boolean := by
  refine stable_found.bind fun x => ?_
  cases x with
  | boolean b => exact stable_pure _
  | _ => exact stable_fail _

theorem stable_null : Stable depth null := by
  refine stable_found.bind fun x => ?_
  cases x with
  | null => exact stable_pure _
  | _ => exact stable_fail _

theorem stable_integer : Stable depth integer := by
  refine stable_found.bind fun x => ?_
  cases x with
  | integer n => exact stable_ite (stable_pure _) (stable_fail _)
  | _ => exact stable_fail _

/-! ## Lists and records -/

theorem stable_nextItem (first : Bool) : Stable depth (nextItem first) := by
  refine stable_peek_bind rfl fun c => ?_
  refine stableAt_ite (fun _ => (stable_pure _).at c) fun _ => ?_
  refine stableAt_ite (fun _ => (stable_pure _).at c) fun _ => ?_
  refine stableAt_ite (fun _ => ?_) fun _ => (stable_fail _).at c
  refine (stableAt_advance c).bind fun _ => stable_peek_bind rfl fun d => ?_
  exact stableAt_ite (fun _ => (stable_fail _).at d) fun _ => (stable_pure _).at d

theorem stable_closeList : Stable depth closeList := by
  refine stable_peek_bind rfl fun c => ?_
  refine stableAt_ite (fun _ => stableAt_advance c) fun _ => ?_
  refine stableAt_ite (fun _ => ?_) fun _ => (stable_fail _).at c
  -- whatever follows the comma is refused
  intro room s a rest h
  obtain ⟨_, _, _, h⟩ := bind_eq_ok_iff.1 h
  obtain ⟨next, mid, _, h⟩ := bind_eq_ok_iff.1 h
  exact ite_eq_ok_elim h (fun _ h => by cases h) fun _ h => by cases h

theorem stable_nextKey (first : Bool) : Stable depth (nextKey first) := by
  refine stable_peek_bind rfl fun c => ?_
  refine stableAt_ite (fun _ => (stable_pure _).at c) fun _ => ?_
  refine stableAt_ite (fun _ => ?_) fun _ => ?_
  · refine stableAt_ite (fun _ => ?_) fun _ => (stable_fail _).at c
    exact (stableAt_advance c).bind fun _ => stable_textBody.bind fun _ => stable_pure _
  · refine stableAt_ite (fun _ => ?_) fun _ => (stable_fail _).at c
    refine (stableAt_advance c).bind fun _ => stable_peek_bind rfl fun d => ?_
    refine stableAt_ite (fun _ => ?_) fun _ => ?_
    · exact (stableAt_advance d).bind fun _ => stable_textBody.bind fun _ => stable_pure _
    · exact stableAt_ite (fun _ => (stable_fail _).at d) fun _ => (stable_fail _).at d

theorem stable_colon : Stable depth colon := by
  refine stable_peek_bind rfl fun c => ?_
  exact stableAt_ite (fun _ => stableAt_advance c) fun _ => (stable_fail _).at c

theorem stable_skip : Stable depth skip := by
  intro room s a rest h room' tail _ htail
  exact skipValues_append htail h (by rw [List.length_append]; omega)

/-- More text leaves room for more rounds, of which no more are needed. -/
theorem listItems_append {item : Reader α} (hitem : Stable depth item) {room' : Nat}
    {tail : List Char} (hroom : depth ≤ room') (htail : EndsNumber tail) {room fuel : Nat} :
    ∀ {first : Bool} {s rest : List Char} {as : List α},
      listItems item fuel first room s = .ok (as, rest) → ∀ {fuel' : Nat}, fuel ≤ fuel' →
        listItems item fuel' first room' (s ++ tail) = .ok (as, rest ++ tail) := by
  induction fuel with
  | zero => intro first s rest as h; cases h
  | succ fuel ih =>
      intro first s rest as h fuel' hle
      obtain ⟨fuel', rfl⟩ : ∃ k, fuel' = k + 1 := ⟨fuel' - 1, by omega⟩
      obtain ⟨more, mid, hmore, h⟩ := bind_eq_ok_iff.1 h
      refine bind_eq_ok_iff.2 ⟨more, mid ++ tail,
        stable_nextItem first _ _ _ _ hmore _ _ hroom htail, ?_⟩
      cases more with
      | false =>
          cases h
          rfl
      | true =>
          obtain ⟨a, after, hread, h⟩ := bind_eq_ok_iff.1 h
          obtain ⟨others, end', hothers, hpure⟩ := bind_eq_ok_iff.1 h
          cases hpure
          exact bind_eq_ok_iff.2 ⟨a, after ++ tail, hitem _ _ _ _ hread _ _ hroom htail,
            bind_eq_ok_iff.2 ⟨others, rest ++ tail, ih hothers (by omega), rfl⟩⟩

theorem stable_listBody {item : Reader α} (hitem : Stable depth item) :
    Stable depth (listBody item) := by
  intro room s as rest h room' tail hroom htail
  obtain ⟨_, _, hlength, h⟩ := bind_eq_ok_iff.1 h
  cases hlength
  obtain ⟨items, mid, hitems, h⟩ := bind_eq_ok_iff.1 h
  have hfuel : s.length + 1 ≤ (s ++ tail).length + 1 := by
    rw [List.length_append]
    omega
  refine bind_eq_ok_iff.2 ⟨_, _, rfl, bind_eq_ok_iff.2 ⟨items, mid ++ tail,
    listItems_append hitem hroom htail hitems hfuel, ?_⟩⟩
  exact (stable_closeList.bind fun _ => stable_pure items) _ _ _ _ h _ _ hroom htail

theorem stable_list {item : Reader α} (hitem : Stable depth item) :
    Stable (depth + 1) (list item) := by
  refine stable_found_bind (fun x hx => ?_) ?_ ((stable_fail _).at _)
  · cases x with
    | list => exact absurd hx id
    | _ => exact stable_fail _
  · exact (stableAt_advance _).bind fun _ => (stable_listBody hitem).nested

theorem key_of_textBody {room : Nat} {s rest : List Char} {key : Option String}
    (h : (do let key ← textBody; return some key : Reader (Option String)) room s =
      .ok (key, rest)) :
    key ≠ none := by
  obtain ⟨_, _, _, hpure⟩ := bind_eq_ok_iff.1 h
  cases hpure
  exact Option.some_ne_none _

/-- The closing brace of a record is still there when its members have been read. -/
theorem closing_of_nextKey_eq_none {room : Nat} {first : Bool} {s rest : List Char}
    (h : nextKey first room s = .ok (none, rest)) : ∃ after, rest = '\x7d' :: after := by
  obtain ⟨next, mid, hpeek, h⟩ := bind_eq_ok_iff.1 h
  cases hpeek
  cases hmid : s.dropWhile isSpace with
  | nil =>
      rw [hmid] at h
      cases h
  | cons c after =>
      rw [hmid] at h
      refine ite_eq_ok_elim h (fun hc h => ?_) fun _ h => ?_
      · cases h
        exact ⟨after, by rw [hc]⟩
      refine ite_eq_ok_elim h (fun _ h => ?_) fun _ h => ?_
      · refine ite_eq_ok_elim h (fun _ h => ?_) fun _ h => by cases h
        exact absurd rfl (key_of_textBody h)
      refine ite_eq_ok_elim h (fun _ h => ?_) fun _ h => by cases h
      obtain ⟨_, _, _, h⟩ := bind_eq_ok_iff.1 h
      obtain ⟨next, mid, _, h⟩ := bind_eq_ok_iff.1 h
      cases next with
      | none => cases h
      | some d =>
          refine ite_eq_ok_elim h (fun _ h => ?_) fun _ h => ?_
          · exact absurd rfl (key_of_textBody h)
          · exact ite_eq_ok_elim h (fun _ h => by cases h) fun _ h => by cases h

theorem members_append {member : β → String → Reader β}
    (hmember : ∀ b key, Stable depth (member b key)) {room' : Nat} {tail : List Char}
    (hroom : depth ≤ room') (htail : EndsNumber tail) {room fuel : Nat} :
    ∀ {first : Bool} {b b' : β} {s rest : List Char},
      members member fuel first b room s = .ok (b', rest) →
        (∃ after, rest = '\x7d' :: after) ∧ ∀ {fuel' : Nat}, fuel ≤ fuel' →
          members member fuel' first b room' (s ++ tail) = .ok (b', rest ++ tail) := by
  induction fuel with
  | zero => intro first b b' s rest h; cases h
  | succ fuel ih =>
      intro first b b' s rest h
      obtain ⟨key, mid, hkey, h⟩ := bind_eq_ok_iff.1 h
      have hkey' := stable_nextKey first _ _ _ _ hkey _ _ hroom htail
      cases key with
      | none =>
          cases h
          refine ⟨closing_of_nextKey_eq_none hkey, fun {fuel'} hle => ?_⟩
          obtain ⟨fuel', rfl⟩ : ∃ k, fuel' = k + 1 := ⟨fuel' - 1, by omega⟩
          exact bind_eq_ok_iff.2 ⟨none, _, hkey', rfl⟩
      | some key =>
          obtain ⟨b₁, after, hread, h⟩ := bind_eq_ok_iff.1 h
          obtain ⟨hend, hrest⟩ := ih h
          refine ⟨hend, fun {fuel'} hle => ?_⟩
          obtain ⟨fuel', rfl⟩ : ∃ k, fuel' = k + 1 := ⟨fuel' - 1, by omega⟩
          exact bind_eq_ok_iff.2 ⟨some key, _, hkey', bind_eq_ok_iff.2 ⟨b₁, _,
            hmember b key _ _ _ _ hread _ _ hroom htail, hrest (by omega)⟩⟩

/-- After the members of a record, its closing brace may be dropped unseen. -/
theorem stable_recordBody_bind {member : δ → String → Reader δ} {d : δ} {f : δ → Reader β}
    (hmember : ∀ d key, Stable depth (member d key)) (hf : ∀ d, StableAt depth '\x7d' (f d)) :
    Stable depth (recordBody member d >>= f) := by
  intro room s b rest h room' tail hroom htail
  obtain ⟨d', mid, hbody, h⟩ := bind_eq_ok_iff.1 h
  obtain ⟨_, _, hlength, hmembers⟩ := bind_eq_ok_iff.1 hbody
  cases hlength
  obtain ⟨⟨after, rfl⟩, happend⟩ := members_append hmember hroom htail hmembers
  have hfuel : s.length + 1 ≤ (s ++ tail).length + 1 := by
    rw [List.length_append]
    omega
  exact bind_eq_ok_iff.2 ⟨d', _, bind_eq_ok_iff.2 ⟨_, _, rfl, happend hfuel⟩,
    hf d' _ _ _ _ h _ _ hroom htail⟩

/-! ## Any value -/

/-- A scalar is read by `value` as by `found`. -/
theorem value_of_found_eq_ok {room : Nat} {s rest : List Char} {x : Found}
    (h : found room s = .ok (x, rest)) (hx : x.IsScalar) :
    value room s = .ok (x.toValue, rest) := by
  have hpure : ∀ {r : Found → Reader Value}, r x = pure x.toValue →
      (found >>= r) room s = .ok (x.toValue, rest) := by
    intro r hr
    rw [bind_of_eq_ok h, hr]
    rfl
  show valueWithin room s = _
  cases room with
  | zero =>
      rw [valueWithin]
      apply hpure
      cases x with
      | list => exact absurd hx id
      | record => exact absurd hx id
      | _ => rfl
  | succ room =>
      rw [valueWithin]
      apply hpure
      cases x with
      | list => exact absurd hx id
      | record => exact absurd hx id
      | _ => rfl

/-- What `value` reads is a list, a record, or a scalar that `found` reads. -/
theorem value_cases {room : Nat} {s rest : List Char} {v : Value}
    (h : value room s = .ok (v, rest)) :
    (∃ items, v = .list items) ∨ (∃ members, v = .record members) ∨
      ∃ x, found room s = .ok (x, rest) ∧ x.IsScalar ∧ v = x.toValue := by
  change valueWithin room s = _ at h
  cases room with
  | zero =>
      rw [valueWithin] at h
      obtain ⟨x, mid, hfound, h⟩ := bind_eq_ok_iff.1 h
      cases x with
      | list => cases h
      | record => cases h
      | _ =>
          cases h
          exact Or.inr (Or.inr ⟨_, hfound, trivial, rfl⟩)
  | succ room =>
      rw [valueWithin] at h
      obtain ⟨x, mid, hfound, h⟩ := bind_eq_ok_iff.1 h
      cases x with
      | list =>
          obtain ⟨_, _, _, h⟩ := bind_eq_ok_iff.1 h
          obtain ⟨items, _, _, hpure⟩ := bind_eq_ok_iff.1 h
          cases hpure
          exact Or.inl ⟨items, rfl⟩
      | record =>
          obtain ⟨_, _, _, h⟩ := bind_eq_ok_iff.1 h
          obtain ⟨members, _, _, h⟩ := bind_eq_ok_iff.1 h
          obtain ⟨_, _, _, hpure⟩ := bind_eq_ok_iff.1 h
          cases hpure
          exact Or.inr (Or.inl ⟨members, rfl⟩)
      | _ =>
          cases h
          exact Or.inr (Or.inr ⟨_, hfound, trivial, rfl⟩)

end Reader

/-! ## Shapes -/

namespace Shape

open Reader

variable {α δ : Type} {depth : Nat} {shape : Shape δ α}

/-- All fields of the shape are read in a stable way. -/
def StableFields (depth : Nat) (shape : Shape δ α) : Prop :=
  ∀ field ∈ shape.fields, ∀ d, Stable depth (field.read d)

theorem stable_ofOption {β : Type} {key : String} {required : Bool} {get : δ → Option β}
    {set : δ → β → δ} {read : Reader β} (hread : Stable depth read) (d : δ) :
    Stable depth ((Field.ofOption key required get set read).read d) :=
  hread.bind fun _ => stable_pure _

theorem stable_member (hfields : shape.StableFields depth) (d : δ) (key : String) :
    Stable depth (shape.member d key) := by
  unfold member
  split
  next field hfield =>
    refine stable_ite (stable_fail _) (stable_colon.bind fun _ => ?_)
    exact hfields field (List.mem_of_find?_eq_some hfield) d
  next => exact stable_colon.bind fun _ => stable_skip.bind fun _ => stable_pure d

theorem stable_positional {fields : List (Field δ)}
    (hfields : ∀ field ∈ fields, ∀ d, Stable depth (field.read d)) :
    ∀ index d, Stable depth (shape.positional fields index d) := by
  induction fields with
  | nil => exact fun _ d => stable_pure d
  | cons field rest ih =>
      intro index d
      obtain ⟨hfield, hrest⟩ := List.forall_mem_cons.1 hfields
      refine (stable_nextItem _).bind fun more => ?_
      refine stable_ite ((hfield d).bind fun d => ih hrest (index + 1) d) ?_
      exact stable_ite (stable_fail _) (ih hrest (index + 1) d)

theorem stable_complete (d : δ) : Stable depth (shape.complete d) := by
  unfold complete
  split
  next a _ => exact stable_pure a
  next => exact stable_fail _

theorem stableAt_complete_bind {β : Type} {c : Char} {f : α → Reader β} (d : δ)
    (hf : ∀ a, StableAt depth c (f a)) : StableAt depth c (shape.complete d >>= f) := by
  unfold complete
  split
  next a _ => exact hf a
  next =>
    intro room s b rest h
    cases h

/-- A record is read in a stable way if its fields are, inside which there is one more list or
record. -/
theorem stable_reader (hfields : shape.StableFields depth) : Stable (depth + 1) shape.reader := by
  refine stable_found_bind (fun x hx => ?_) ?_ ?_
  · cases x with
    | list => exact absurd hx id
    | record => exact absurd hx id
    | _ => exact stable_fail _
  · refine (stableAt_advance _).bind fun _ => Stable.nested ?_
    refine (stable_positional hfields 0 shape.blank).bind fun d =>
      (stable_complete d).bind fun a => ?_
    exact stable_closeList.bind fun _ => stable_pure a
  · refine (stableAt_advance _).bind fun _ => Stable.nested ?_
    refine stable_recordBody_bind (stable_member hfields) fun d =>
      stableAt_complete_bind d fun a => ?_
    exact (stableAt_advance _).bind fun _ => stable_pure a

end Shape

end Json

/-! ## Documents -/

open Json Json.Reader

theorem VertexType.stable_ofTag {depth : Nat} (s : String) : Stable depth (ofTag s) := by
  unfold ofTag
  split
  next kind _ => exact stable_pure kind
  next => exact stable_fail _

theorem VertexType.stable_reader {depth : Nat} : Stable depth VertexType.reader := by
  refine stable_peek_bind rfl fun c => ?_
  refine stableAt_ite (fun _ => ?_) fun _ => ?_
  · exact ((stable_textAs _).bind fun tag => stable_ofTag tag).at c
  refine stableAt_ite (fun _ => ?_) fun _ => (stable_fail _).at c
  refine (stableAt_advance c).bind fun _ => (stable_nextKey true).bind fun key => ?_
  cases key with
  | none => exact stable_fail _
  | some tag =>
      refine (stable_ofTag tag).bind fun kind => stable_colon.bind fun _ =>
        stable_null.bind fun _ => ?_
      refine stable_peek_bind rfl fun d => stableAt_ite (fun _ => ?_) fun _ => ?_
      · exact (stableAt_advance d).bind fun _ => stable_pure kind
      · exact ((stable_fail _).bind fun _ => stable_pure kind).at d

/-- The upper bound that a scalar stands for. -/
def BoundEntry.ofFound : Found → Reader BoundEntry
  | .integer n => if n ≤ maxInteger then return .count n else .fail (.noAlternative "UpperDef")
  | .text s => return .keyword s
  | _ => .fail (.noAlternative "UpperDef")

/-- An upper bound is accepted exactly as the scalar that it is. -/
theorem BoundEntry.reader_eq_ok_iff {room : Nat} {s rest : List Char} {u : BoundEntry} :
    BoundEntry.reader room s = .ok (u, rest) ↔ (found >>= ofFound) room s = .ok (u, rest) := by
  constructor
  · intro h
    obtain ⟨v, mid, hvalue, h⟩ := Reader.bind_eq_ok_iff.1 h
    rcases value_cases hvalue with ⟨_, rfl⟩ | ⟨_, rfl⟩ | ⟨x, hfound, hx, rfl⟩
    · cases h
    · cases h
    · refine Reader.bind_eq_ok_iff.2 ⟨x, mid, hfound, ?_⟩
      cases x with
      | list => exact absurd hx id
      | record => exact absurd hx id
      | _ => exact h
  · intro h
    obtain ⟨x, mid, hfound, h⟩ := Reader.bind_eq_ok_iff.1 h
    cases x with
    | list => cases h
    | record => cases h
    | _ => exact Reader.bind_eq_ok_iff.2 ⟨_, mid, value_of_found_eq_ok hfound trivial, h⟩

theorem BoundEntry.stable_reader {depth : Nat} : Stable depth BoundEntry.reader := by
  intro room s u rest h room' tail hroom htail
  have hfound : Stable depth (found >>= ofFound) := by
    refine stable_found.bind fun x => ?_
    cases x with
    | integer n => exact stable_ite (stable_pure _) (stable_fail _)
    | text s => exact stable_pure _
    | _ => exact stable_fail _
  exact reader_eq_ok_iff.2 (hfound _ _ _ _ (reader_eq_ok_iff.1 h) _ _ hroom htail)

theorem Vertex.stableFields_shape : Vertex.shape.StableFields 0 := by
  intro field hfield d
  simp only [Vertex.shape, List.mem_cons, List.not_mem_nil, or_false] at hfield
  rcases hfield with rfl | rfl | rfl | rfl
  · exact Shape.stable_ofOption stable_text d
  · exact Shape.stable_ofOption VertexType.stable_reader d
  · exact Shape.stable_ofOption stable_text d
  · exact Shape.stable_ofOption stable_boolean d

theorem EdgeEntry.stableFields_shape : EdgeEntry.shape.StableFields 0 := by
  intro field hfield d
  simp only [EdgeEntry.shape, List.mem_cons, List.not_mem_nil, or_false] at hfield
  rcases hfield with rfl | rfl | rfl | rfl | rfl | rfl
  · exact Shape.stable_ofOption stable_text d
  · exact Shape.stable_ofOption stable_text d
  · exact Shape.stable_ofOption stable_integer d
  · exact Shape.stable_ofOption BoundEntry.stable_reader d
  · exact Shape.stable_ofOption stable_boolean d
  · exact Shape.stable_ofOption stable_optionalText d

theorem TemplateDocument.stableFields_shape : TemplateDocument.shape.StableFields 2 := by
  intro field hfield d
  simp only [TemplateDocument.shape, List.mem_cons, List.not_mem_nil, or_false] at hfield
  rcases hfield with rfl | rfl
  · exact Shape.stable_ofOption (stable_list (Shape.stable_reader Vertex.stableFields_shape)) d
  · exact Shape.stable_ofOption (stable_list (Shape.stable_reader EdgeEntry.stableFields_shape)) d

/-- A document of one template is a record with lists of records, and reads alike wherever these
three may be opened inside one another. -/
theorem TemplateDocument.stable_reader : Stable 3 TemplateDocument.shape.reader :=
  Shape.stable_reader TemplateDocument.stableFields_shape

end FlawQuery
