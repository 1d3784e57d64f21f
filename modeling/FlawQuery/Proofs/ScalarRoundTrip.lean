/-
# FlawQuery.Proofs.ScalarRoundTrip -- a scalar reads back from its compact text

Texts come back character by character, whatever has to be escaped in them, and whole numbers come
back over all of 64 bits. A reader that asks for one kind of scalar follows, since it only looks at
what was found.
-/

import FlawQuery.Proofs.ReaderStability
import Mathlib.Data.List.TakeWhile

namespace FlawQuery.Json

/-! ## Reading one text -/

/-- The reader takes the text for `a` wherever `depth` lists and records may be opened, up to some
space at the end of the text. -/
def Reader.Reads {α : Type} (depth : Nat) (r : Reader α) (text : List Char) (a : α) : Prop :=
  ∃ gap, (∀ c ∈ gap, isSpace c = true) ∧
    ∀ room tail, depth ≤ room → EndsNumber tail → r room (text ++ tail) = .ok (a, gap ++ tail)

theorem endsNumber_nil : EndsNumber [] := by
  intro c hc
  cases hc

/-- What stands between the values of a document ends a number. -/
theorem endsNumber_cons {c : Char} (hc : c ∈ [',', ']', '\x7d']) (s : List Char) :
    EndsNumber (c :: s) := by
  rintro d ⟨⟩
  simp only [List.mem_cons, List.not_mem_nil, or_false] at hc
  rcases hc with rfl | rfl | rfl
  all_goals decide

theorem dropWhile_isSpace_of_forall {gap : List Char} (h : ∀ c ∈ gap, isSpace c = true)
    (s : List Char) : (gap ++ s).dropWhile isSpace = s.dropWhile isSpace := by
  rw [List.dropWhile_append, List.dropWhile_eq_nil_iff.2 h]
  rfl

namespace Reader

variable {α β : Type} {depth : Nat} {r : Reader α} {text : List Char} {a : α}

/-- What is read inside a document is read as a whole one. -/
theorem Reads.run_eq_ok {s : String} (h : Reads depth r s.toList a) (hdepth : depth ≤ maxNesting) :
    r.run s = .ok a := by
  obtain ⟨gap, hgap, hread⟩ := h
  have hall := hread maxNesting [] hdepth endsNumber_nil
  rw [List.append_nil, List.append_nil] at hall
  have hend : gap.dropWhile isSpace = [] := List.dropWhile_eq_nil_iff.2 hgap
  simp only [run, hall, if_pos hend]

/-- A reader that only looks at what another one found. -/
theorem Reads.bind {f : α → Reader β} {b : β} (h : Reads depth r text a) (hf : f a = pure b) :
    Reads depth (r >>= f) text b := by
  obtain ⟨gap, hgap, hread⟩ := h
  refine ⟨gap, hgap, fun room tail hroom htail => ?_⟩
  rw [bind_of_eq_ok (hread room tail hroom htail), hf]
  rfl

end Reader

/-! ## Texts -/

/-- A character comes back from the way it is written inside a text. -/
theorem readText_escapeChar (c : Char) (s : List Char) :
    readText (escapeChar c ++ s) = consText c (readText s) := by
  unfold escapeChar
  -- the characters with an escape of one letter
  split
  next h => subst h; exact readText_escape rfl
  split
  next h => subst h; exact readText_escape rfl
  split
  next h => subst h; exact readText_escape rfl
  split
  next h => subst h; exact readText_escape rfl
  split
  next h => subst h; exact readText_escape rfl
  split
  next h => subst h; exact readText_escape rfl
  split
  next h => subst h; exact readText_escape rfl
  split
  next hcontrol =>
    -- other control characters are written as code units, none of which is half of a pair
    refine readText_escape ?_
    have hunit : readUnit (Hex.fourDigits c.toNat ++ s) = .ok (c.toNat, s) := by
      simp only [Hex.fourDigits, List.cons_append, List.nil_append, readUnit,
        Hex.ofFourDigits?_fourDigits (show c.toNat < 65536 by omega)]
    have hlow : isLowSurrogate c.toNat = false := by
      simp only [isLowSurrogate, Bool.and_eq_false_iff, decide_eq_false_iff_not]
      omega
    have hhigh : isHighSurrogate c.toNat = false := by
      simp only [isHighSurrogate, Bool.and_eq_false_iff, decide_eq_false_iff_not]
      omega
    show readEscape ('u' :: (Hex.fourDigits c.toNat ++ s)) = _
    rw [readEscape, if_pos rfl, hunit]
    simp only [pairUnit, hlow, hhigh, Bool.false_eq_true, if_false, Char.ofNat_toNat]
  next hquote hbackslash _ _ _ _ _ hspace => exact readText_plain hquote hbackslash hspace

theorem readText_flatMap_escapeChar (s tail : List Char) :
    readText (s.flatMap escapeChar ++ '"' :: tail) = .ok (s, tail) := by
  induction s with
  | nil => exact readText_quote tail
  | cons c s ih =>
      rw [List.flatMap_cons, List.append_assoc, readText_escapeChar, ih]
      rfl

theorem toList_quote (s : String) :
    (quote s).toList = '"' :: (s.toList.flatMap escapeChar ++ ['"']) := by
  simp [quote]

/-- The text after the opening quote, whatever follows the closing one. -/
theorem textBody_quote (s : String) (room : Nat) (tail : List Char) :
    Reader.textBody room (s.toList.flatMap escapeChar ++ '"' :: tail) = .ok (s, tail) := by
  have hread : Reader.step readText room (s.toList.flatMap escapeChar ++ '"' :: tail) =
      .ok (s.toList, tail) := readText_flatMap_escapeChar s.toList tail
  rw [Reader.textBody, Reader.bind_of_eq_ok hread, String.ofList_toList]
  rfl

/-! ## Whole numbers -/

/-- Digits are taken to their end if the number that they spell stays within the limit. -/
theorem takeDigits_digits {limit : Nat} {digits tail : List Char} (htail : EndsNumber tail)
    (hdigits : ∀ c ∈ digits, c.isDigit = true) : ∀ acc taken,
      Nat.ofDigitChars 10 digits acc ≤ limit → takeDigits limit acc taken (digits ++ tail) =
        (Nat.ofDigitChars 10 digits acc, taken + digits.length, tail) := by
  induction digits with
  | nil =>
      intro acc taken _
      cases tail with
      | nil => rfl
      | cons c tail => simp [takeDigits, (htail c rfl).1]
  | cons c digits ih =>
      intro acc taken hlimit
      obtain ⟨hc, hrest⟩ := List.forall_mem_cons.1 hdigits
      have hnext : 10 * acc + (c.toNat - '0'.toNat) = acc * 10 + digitValue c := by
        rw [digitValue, Nat.mul_comm]
      rw [Nat.ofDigitChars_cons, hnext] at hlimit ⊢
      -- more digits only make the number greater, so it is within the limit already
      have hmono : acc * 10 + digitValue c ≤ limit := by
        refine Nat.le_trans ?_ hlimit
        rw [Nat.ofDigitChars_eq_ofDigitChars_zero]
        exact Nat.le_add_right_of_le (Nat.le_mul_of_pos_left _ (Nat.pow_pos (by decide)))
      rw [List.cons_append, takeDigits, if_pos ⟨hc, hmono⟩, ih hrest _ _ hlimit,
        List.length_cons, Nat.add_assoc, Nat.add_comm 1]

theorem isDigit_of_mem_toDigits_ten {n : Nat} {c : Char} (h : c ∈ Nat.toDigits 10 n) :
    c.isDigit = true :=
  Nat.isDigit_of_mem_toDigits (by decide) (by decide) h

/-- A number has a first digit. -/
theorem exists_toDigits_eq_cons (n : Nat) :
    ∃ c digits, Nat.toDigits 10 n = c :: digits ∧ c.isDigit = true := by
  obtain ⟨c, digits, h⟩ := List.exists_cons_of_ne_nil (Nat.toDigits_ne_nil (n := n) (b := 10))
  exact ⟨c, digits, h, isDigit_of_mem_toDigits_ten (h ▸ List.mem_cons_self)⟩

/-- The first digit of a positive number is no zero. -/
theorem toDigits_eq_cons {n : Nat} (hn : 0 < n) :
    ∃ c digits, Nat.toDigits 10 n = c :: digits ∧ c ≠ '0' := by
  induction n using Nat.strongRecOn with
  | ind n ih =>
      rw [Nat.toDigits_eq_if (by decide)]
      split
      next hlt =>
        refine ⟨n.digitChar, [], rfl, fun h => ?_⟩
        have := (Nat.digitChar_eq_zero).1 h
        omega
      next hle =>
        obtain ⟨c, digits, hdigits, hc⟩ := ih (n / 10) (by omega) (by omega)
        exact ⟨c, digits ++ [(n % 10).digitChar], by rw [hdigits]; rfl, hc⟩

theorem readAfterWhole_of_endsNumber {negative : Bool} {n : Nat} {tail : List Char}
    (htail : EndsNumber tail) : readAfterWhole negative n tail =
      (do let x ← wholeNumber negative n; return (x, tail)) := by
  cases tail with
  | nil => rfl
  | cons c tail =>
      obtain ⟨_, hpoint, hlower, hupper⟩ := htail c rfl
      rw [readAfterWhole_cons, if_neg hpoint, if_neg (not_or.2 ⟨hlower, hupper⟩)]

theorem startsWithDigit_of_endsNumber {tail : List Char} (htail : EndsNumber tail) :
    startsWithDigit tail = false :=
  startsWithDigit_append htail []

/-- The digits of a number within 64 bits are read to their end. -/
theorem readUnsigned_toDigits {negative : Bool} {n : Nat} {tail : List Char} (hn : n ≤ maxWord)
    (htail : EndsNumber tail) : readUnsigned negative (Nat.toDigits 10 n ++ tail) =
      (do let x ← wholeNumber negative n; return (x, tail)) := by
  have hdigits : ∀ c ∈ Nat.toDigits 10 n, c.isDigit = true :=
    fun _ => isDigit_of_mem_toDigits_ten
  have hvalue : Nat.ofDigitChars 10 (Nat.toDigits 10 n) 0 = n := Nat.ofDigitChars_ten_toDigits
  -- only zero begins with a zero, which stands alone
  rcases Nat.eq_zero_or_pos n with rfl | hpos
  · rw [Nat.toDigits_zero, List.singleton_append, readUnsigned, if_pos rfl,
      startsWithDigit_of_endsNumber htail, if_neg (by decide), readAfterWhole_of_endsNumber htail]
  · obtain ⟨c, digits, heq, hc⟩ := toDigits_eq_cons hpos
    rw [heq] at hdigits hvalue ⊢
    obtain ⟨hfirst, hrest⟩ := List.forall_mem_cons.1 hdigits
    rw [Nat.ofDigitChars_cons] at hvalue
    have hstart : 10 * 0 + (c.toNat - '0'.toNat) = digitValue c := by
      rw [digitValue, Nat.mul_zero, Nat.zero_add]
    rw [hstart] at hvalue
    rw [List.cons_append, readUnsigned, if_neg hc, if_pos hfirst,
      takeDigits_digits htail hrest _ _ (hvalue.symm ▸ hn)]
    dsimp only
    rw [startsWithDigit_of_endsNumber htail, if_neg (by decide), hvalue,
      readAfterWhole_of_endsNumber htail]

theorem toList_toString_natCast (n : Nat) : (toString (n : Int)).toList = Nat.toDigits 10 n := by
  show (Int.repr (n : Int)).toList = _
  rw [Int.repr_eq_if, if_pos (Int.natCast_nonneg n), Int.toNat_natCast,
    Nat.repr_eq_ofList_toDigits, String.toList_ofList]

theorem toList_toString_neg {n : Int} (hn : n < 0) :
    (toString n).toList = '-' :: Nat.toDigits 10 n.natAbs := by
  show (Int.repr n).toList = _
  rw [Int.repr_eq_if, if_neg (by omega), show (-n).toNat = n.natAbs by omega,
    Nat.repr_eq_ofList_toDigits, String.toList_append]
  exact congrArg ("-".toList ++ ·) String.toList_ofList

/-- A number begins with its sign or a digit. -/
theorem toList_toString_eq_cons (n : Int) :
    ∃ c rest, (toString n).toList = c :: rest ∧ (c = '-' ∨ c.isDigit = true) := by
  rcases Int.lt_or_le n 0 with hneg | hnonneg
  · exact ⟨'-', _, toList_toString_neg hneg, Or.inl rfl⟩
  · obtain ⟨k, rfl⟩ := Int.eq_ofNat_of_zero_le hnonneg
    obtain ⟨c, digits, h, hc⟩ := exists_toDigits_eq_cons k
    exact ⟨c, digits, by rw [toList_toString_natCast, h], Or.inr hc⟩

/-- Whole numbers within 64 bits come back from their digits. -/
theorem readNumber_toString {n : Int} {tail : List Char} (hlow : -(minMagnitude : Int) ≤ n)
    (hhigh : n ≤ maxWord) (htail : EndsNumber tail) :
    readNumber ((toString n).toList ++ tail) = .ok (.whole n, tail) := by
  rcases Int.lt_or_le n 0 with hneg | hnonneg
  · have hmagnitude : n.natAbs ≠ 0 ∧ n.natAbs ≤ minMagnitude := by omega
    have hword : n.natAbs ≤ maxWord := Nat.le_trans hmagnitude.2 (by decide)
    rw [toList_toString_neg hneg, List.cons_append, readNumber_cons, if_pos rfl,
      readUnsigned_toDigits hword htail, wholeNumber, if_neg (by decide), if_pos hmagnitude,
      show (-(n.natAbs : Int)) = n by omega]
    rfl
  · obtain ⟨k, rfl⟩ := Int.eq_ofNat_of_zero_le hnonneg
    have hword : k ≤ maxWord := by omega
    have hunsigned : readUnsigned false (Nat.toDigits 10 k ++ tail) = .ok (.whole k, tail) :=
      readUnsigned_toDigits hword htail
    obtain ⟨c, digits, h, hc⟩ := exists_toDigits_eq_cons k
    have hsign : c ≠ '-' := by
      rintro rfl
      exact absurd hc (by decide)
    rw [h] at hunsigned
    rw [toList_toString_natCast, h, List.cons_append, readNumber_cons, if_neg hsign,
      ← List.cons_append, hunsigned]

/-! ## Scalars -/

/-- Scalars that are written without loss: all but decimals and numbers beyond 64 bits. -/
def Found.IsExact : Found → Prop
  | .null | .boolean _ | .text _ => True
  | .integer n => -(minMagnitude : Int) ≤ n ∧ n ≤ maxWord
  | .real _ | .list | .record => False

namespace Reader

variable {α : Type} {depth : Nat}

/-- A sign or digit is the beginning of a number. -/
theorem found_number {c : Char} (hc : c = '-' ∨ c.isDigit = true) (room : Nat) (s : List Char) :
    found room (c :: s) = (step readNumber >>= fun n => pure n.found) room (c :: s) := by
  have hne : ∀ d : Char, (d ≠ '-' ∧ d.isDigit = false) → c ≠ d := by
    rintro d ⟨hsign, hdigit⟩ rfl
    rcases hc with hc | hc
    · exact hsign hc
    · rw [hdigit] at hc
      cases hc
  have hspace : isSpace c = false := by
    simp only [isSpace, Bool.or_eq_false_iff, decide_eq_false_iff_not]
    exact ⟨⟨⟨hne _ (by decide), hne _ (by decide)⟩, hne _ (by decide)⟩, hne _ (by decide)⟩
  have hpeek : peek room (c :: s) = .ok (some c, c :: s) := by
    simp only [peek, List.dropWhile_cons, hspace, Bool.false_eq_true, if_false, List.head?_cons]
  rw [found, bind_of_eq_ok hpeek]
  simp only [hne 'n' (by decide), hne 't' (by decide), hne 'f' (by decide), hc, if_true, if_false]

/-- An exact scalar is found again in its compact text. -/
theorem reads_found {x : Found} (hx : x.IsExact) :
    Reads depth found x.toValue.compact.toList x := by
  refine ⟨[], by simp, fun room tail _ htail => ?_⟩
  cases x with
  | null => rfl
  | boolean b =>
      cases b with
      | false => rfl
      | true => rfl
  | integer n =>
      show found room ((toString n).toList ++ tail) = _
      have hnumber : step readNumber room ((toString n).toList ++ tail) = .ok (.whole n, tail) :=
        readNumber_toString hx.1 hx.2 htail
      obtain ⟨c, rest, hcons, hc⟩ := toList_toString_eq_cons n
      rw [hcons, List.cons_append] at hnumber ⊢
      rw [found_number hc, bind_of_eq_ok hnumber]
      rfl
  | text s =>
      show found room ((quote s).toList ++ tail) = _
      rw [toList_quote, List.cons_append, List.append_assoc, List.singleton_append]
      show (textBody >>= fun s => pure (Found.text s)) room
        (s.toList.flatMap escapeChar ++ '"' :: tail) = _
      exact bind_of_eq_ok (textBody_quote s room tail)
  | real decimal => exact absurd hx id
  | list => exact absurd hx id
  | record => exact absurd hx id

theorem reads_text (s : String) : Reads depth text (quote s).toList s :=
  (reads_found (x := .text s) trivial).bind rfl

theorem reads_optionalText (s : String) : Reads depth optionalText (quote s).toList (some s) :=
  (reads_found (x := .text s) trivial).bind rfl

theorem reads_boolean (b : Bool) :
    Reads depth boolean (Value.boolean b).compact.toList b :=
  (reads_found (x := .boolean b) trivial).bind rfl

theorem reads_integer {n : Int} (hlow : -(minMagnitude : Int) ≤ n) (hhigh : n ≤ maxInteger) :
    Reads depth integer (Value.integer n).compact.toList n := by
  have hexact : (Found.integer n).IsExact := ⟨hlow, Int.le_trans hhigh (by decide)⟩
  exact (reads_found hexact).bind (if_pos hhigh)

end Reader

end FlawQuery.Json
