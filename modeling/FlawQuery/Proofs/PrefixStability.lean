/-
# FlawQuery.Proofs.PrefixStability -- what is scanned does not depend on what follows

Once the front of a text has been accepted as a text literal, a number or a value to be passed over,
more text behind it changes nothing: the same is found, and the same rest is left with the new text
at its end. The one exception is a number, which the new text must not go on with. This module says
so for the scanners below the readers.
-/

import FlawQuery.Json.Skip

namespace FlawQuery.Json

variable {s rest tail : List Char}

/-- The text cannot go on with a number that stands before it. -/
def EndsNumber (s : List Char) : Prop :=
  ∀ c ∈ s.head?, c.isDigit = false ∧ c ≠ '.' ∧ c ≠ 'e' ∧ c ≠ 'E'

/-- A success on either side of a case distinction carries over. -/
theorem ite_eq_ok_imp {α β ε : Type} {p : Prop} [Decidable p] {x y : Except ε α}
    {x' y' : Except ε β} {a : α} {b : β} (h : (if p then x else y) = .ok a)
    (hx : p → x = .ok a → x' = .ok b) (hy : ¬ p → y = .ok a → y' = .ok b) :
    (if p then x' else y') = .ok b := by
  by_cases hp : p
  · rw [if_pos hp] at h ⊢
    exact hx hp h
  · rw [if_neg hp] at h ⊢
    exact hy hp h

/-- A failure is no success, so anything follows from taking it for one. -/
theorem error_ne_ok {α β ε : Type} {fault : ε} {a : α} {x : Except ε β} {b : β}
    (h : (.error fault : Except ε α) = .ok a) : x = .ok b := by
  cases h

/-! ## Texts -/

/-- A code unit is read from its four digits alone; more text is left behind the rest. -/
theorem readUnit_append {unit : Nat} (h : readUnit s = .ok (unit, rest)) (tail : List Char) :
    readUnit (s ++ tail) = .ok (unit, rest ++ tail) := by
  unfold readUnit at h
  split at h
  next a b c d after =>
    split at h
    next n hn =>
      cases h
      simp only [List.cons_append, readUnit, hn]
    next => cases h
  next => cases h

/-- The one or two code units of a character settle it; more text is left behind the rest. -/
theorem pairUnit_append {unit : Nat} {c : Char} (h : pairUnit unit s = .ok (c, rest))
    (tail : List Char) : pairUnit unit (s ++ tail) = .ok (c, rest ++ tail) := by
  unfold pairUnit at h ⊢
  refine ite_eq_ok_imp h (fun _ => error_ne_ok) fun _ h => ?_
  refine ite_eq_ok_imp h (fun _ h => ?_) fun _ h => ?_
  · -- only a second escape makes a pair
    split at h
    next => cases h
    next => cases h
    next after =>
      split at h
      next low after' hunit =>
        simp only [List.cons_append, readUnit_append hunit]
        refine ite_eq_ok_imp h (fun _ h => ?_) fun _ => error_ne_ok
        simp only [Except.ok.injEq, Prod.mk.injEq] at h ⊢
        exact ⟨h.1, by rw [h.2]⟩
      next => cases h
    next => cases h
  · cases h
    rfl

/-- An escape stands for the same character before more text. -/
theorem readEscape_append {c : Char} (h : readEscape s = .ok (c, rest)) (tail : List Char) :
    readEscape (s ++ tail) = .ok (c, rest ++ tail) := by
  cases s with
  | nil => cases h
  | cons d s =>
      rw [readEscape] at h
      rw [List.cons_append, readEscape]
      refine ite_eq_ok_imp h (fun _ h => ?_) fun _ h => ?_
      · split at h
        next unit after hunit =>
          rw [readUnit_append hunit]
          exact pairUnit_append h tail
        next => cases h
      · split at h
        next => cases h; rfl
        next => cases h

/-- An escape that is passed over ends at the same place. -/
theorem skipEscape_append (h : skipEscape s = .ok rest) (tail : List Char) :
    skipEscape (s ++ tail) = .ok (rest ++ tail) := by
  cases s with
  | nil => cases h
  | cons d s =>
      rw [skipEscape] at h
      rw [List.cons_append, skipEscape]
      refine ite_eq_ok_imp h (fun _ h => ?_) fun _ h =>
        ite_eq_ok_imp h (fun _ h => ?_) fun _ => error_ne_ok
      · split at h
        next unit after hunit =>
          cases h
          rw [readUnit_append hunit]
        next => cases h
      · cases h
        rfl

/-- A character put in front of a text changes neither whether it is read nor what is left. -/
theorem consText_eq_ok_iff {c : Char} {body : List Char}
    {r : Except Fault (List Char × List Char)} :
    consText c r = .ok (body, rest) ↔ ∃ body', r = .ok (body', rest) ∧ body = c :: body' := by
  cases r with
  | error fault => simp [consText]
  | ok p =>
      obtain ⟨body', rest'⟩ := p
      simp only [consText, Except.ok.injEq, Prod.mk.injEq]
      constructor
      · rintro ⟨rfl, rfl⟩
        exact ⟨body', ⟨rfl, rfl⟩, rfl⟩
      · rintro ⟨_, ⟨rfl, rfl⟩, rfl⟩
        exact ⟨rfl, rfl⟩

theorem readText_quote (s : List Char) : readText ('"' :: s) = .ok ([], s) := by
  rw [readText, if_pos rfl]

theorem readText_escape {c : Char} (h : readEscape s = .ok (c, rest)) :
    readText ('\\' :: s) = consText c (readText rest) := by
  rw [readText, if_neg (by decide), if_pos rfl]
  split
  next hread =>
    rw [h] at hread
    cases hread
    rfl
  next hread =>
    rw [h] at hread
    cases hread

theorem readText_plain {c : Char} (hquote : c ≠ '"') (hbackslash : c ≠ '\\')
    (hspace : ¬ c.toNat < 0x20) : readText (c :: s) = consText c (readText s) := by
  rw [readText, if_neg hquote, if_neg hbackslash, if_neg hspace]

/-- A text literal ends at its closing quote: the same is read, whatever is put behind. -/
theorem readText_append {body : List Char} (h : readText s = .ok (body, rest)) (tail : List Char) :
    readText (s ++ tail) = .ok (body, rest ++ tail) := by
  fun_induction readText s generalizing body with
  | case1 => cases h
  | case2 after =>
      cases h
      exact readText_quote _
  | case3 after c after' hread _ _ ih =>
      obtain ⟨body', hbody, rfl⟩ := consText_eq_ok_iff.1 h
      rw [List.cons_append, readText_escape (readEscape_append hread tail), ih hbody]
      rfl
  | case4 => cases h
  | case5 => cases h
  | case6 c after hquote hbackslash hspace ih =>
      obtain ⟨body', hbody, rfl⟩ := consText_eq_ok_iff.1 h
      rw [List.cons_append, readText_plain hquote hbackslash hspace, ih hbody]
      rfl

/-- A text literal that is passed over ends at the same quote. -/
theorem skipText_append (h : skipText s = .ok rest) (tail : List Char) :
    skipText (s ++ tail) = .ok (rest ++ tail) := by
  fun_induction skipText s with
  | case1 => cases h
  | case2 after =>
      cases h
      rw [List.cons_append, skipText, if_pos rfl]
  | case3 after after' hskip _ hne ih =>
      rw [List.cons_append, skipText, if_neg hne, if_pos rfl]
      split
      next hskip' =>
        rw [skipEscape_append hskip tail] at hskip'
        cases hskip'
        exact ih h
      next hskip' =>
        rw [skipEscape_append hskip tail] at hskip'
        cases hskip'
  | case4 => cases h
  | case5 => cases h
  | case6 c after hquote hbackslash hspace ih =>
      rw [List.cons_append, skipText, if_neg hquote, if_neg hbackslash, if_neg hspace]
      exact ih h

/-! ## Numbers -/

/-- The new text puts no digit where there was none. -/
theorem startsWithDigit_append (htail : EndsNumber tail) (s : List Char) :
    startsWithDigit (s ++ tail) = startsWithDigit s := by
  cases s with
  | cons c s => rfl
  | nil =>
      cases tail with
      | nil => rfl
      | cons c tail => exact (htail c rfl).1

/-- A run of digits ends where it did, and the new text is left. -/
theorem dropWhile_isDigit_append (htail : EndsNumber tail) (s : List Char) :
    (s ++ tail).dropWhile Char.isDigit = s.dropWhile Char.isDigit ++ tail := by
  induction s with
  | nil =>
      cases tail with
      | nil => rfl
      | cons c tail => simp [(htail c rfl).1]
  | cons c s ih =>
      rw [List.cons_append, List.dropWhile_cons, List.dropWhile_cons]
      split
      · exact ih
      · rfl

theorem takeWhile_isDigit_append (htail : EndsNumber tail) (s : List Char) :
    (s ++ tail).takeWhile Char.isDigit = s.takeWhile Char.isDigit := by
  induction s with
  | nil =>
      cases tail with
      | nil => rfl
      | cons c tail => simp [(htail c rfl).1]
  | cons c s ih =>
      rw [List.cons_append, List.takeWhile_cons, List.takeWhile_cons]
      split
      · rw [ih]
      · rfl

/-- The same digits are taken, to the same value, and the new text is left behind the rest. -/
theorem takeDigits_append (htail : EndsNumber tail) (limit : Nat) (s : List Char) :
    ∀ acc taken, takeDigits limit acc taken (s ++ tail) =
      ((takeDigits limit acc taken s).1, (takeDigits limit acc taken s).2.1,
        (takeDigits limit acc taken s).2.2 ++ tail) := by
  induction s with
  | nil =>
      intro acc taken
      cases tail with
      | nil => rfl
      | cons c tail => simp [takeDigits, (htail c rfl).1]
  | cons c s ih =>
      intro acc taken
      rw [List.cons_append, takeDigits, takeDigits]
      split
      · exact ih _ _
      · rfl

/-- A number that was found before `s`. -/
theorem before_append {x : Except Fault Number} {n : Number}
    (h : (do let n ← x; return (n, s)) = .ok (n, rest)) (tail : List Char) :
    (do let n ← x; return (n, s ++ tail)) = .ok (n, rest ++ tail) := by
  cases x with
  | error fault => cases h
  | ok m =>
      cases h
      rfl

section Number

variable {negative down : Bool} {significand dropped : Nat} {start exponent : Int} {n : Number}

/-- The digits of an exponent are the same, and so is the number that they scale. -/
theorem readPower_append (h : readPower negative significand start down s = .ok (n, rest))
    (htail : EndsNumber tail) :
    readPower negative significand start down (s ++ tail) = .ok (n, rest ++ tail) := by
  cases s with
  | nil => cases h
  | cons c s =>
      rw [readPower] at h
      rw [List.cons_append, readPower, takeDigits_append htail]
      generalize takeDigits 2147483647 (digitValue c) 0 s = digits at h ⊢
      dsimp only at h ⊢
      rw [startsWithDigit_append htail, dropWhile_isDigit_append htail]
      refine ite_eq_ok_imp h (fun _ h => ?_) fun _ => error_ne_ok
      refine ite_eq_ok_imp h (fun _ h => ?_) fun _ h => before_append h tail
      exact ite_eq_ok_imp h (fun _ => error_ne_ok) fun _ h => before_append h tail

theorem readExponent_cons (c : Char) (s : List Char) :
    readExponent negative significand start (c :: s) =
      if c = '+' then readPower negative significand start false s
      else if c = '-' then readPower negative significand start true s
      else readPower negative significand start false (c :: s) := by
  unfold readExponent
  split <;> simp_all

/-- An exponent with its sign is read as before. -/
theorem readExponent_append (h : readExponent negative significand start s = .ok (n, rest))
    (htail : EndsNumber tail) :
    readExponent negative significand start (s ++ tail) = .ok (n, rest ++ tail) := by
  cases s with
  | nil => cases h
  | cons c s =>
      rw [readExponent_cons] at h
      rw [List.cons_append, readExponent_cons]
      refine ite_eq_ok_imp h (fun _ h => readPower_append h htail) fun _ h => ?_
      exact ite_eq_ok_imp h (fun _ h => readPower_append h htail) fun _ h =>
        readPower_append h htail

theorem readScale_cons (c : Char) (s : List Char) :
    readScale negative significand exponent (c :: s) =
      if c = 'e' ∨ c = 'E' then readExponent negative significand exponent s
      else (do let n ← double negative significand exponent; return (n, c :: s)) := by
  unfold readScale
  split <;> simp_all

/-- A number without exponent gets none, since the new text does not begin with an `e`. -/
theorem readScale_append (h : readScale negative significand exponent s = .ok (n, rest))
    (htail : EndsNumber tail) :
    readScale negative significand exponent (s ++ tail) = .ok (n, rest ++ tail) := by
  cases s with
  | nil =>
      have hdone := before_append h tail
      cases tail with
      | nil => exact hdone
      | cons c tail =>
          obtain ⟨_, _, hlower, hupper⟩ := htail c rfl
          rw [List.nil_append, readScale_cons, if_neg (not_or.2 ⟨hlower, hupper⟩)]
          exact hdone
  | cons c s =>
      rw [readScale_cons] at h
      rw [List.cons_append, readScale_cons]
      exact ite_eq_ok_imp h (fun _ h => readExponent_append h htail) fun _ h => before_append h tail

/-- The digits behind the point are the same, and then comes the same exponent or none. -/
theorem readFraction_append (h : readFraction negative significand exponent s = .ok (n, rest))
    (htail : EndsNumber tail) :
    readFraction negative significand exponent (s ++ tail) = .ok (n, rest ++ tail) := by
  unfold readFraction at h ⊢
  rw [takeDigits_append htail]
  generalize takeDigits maxWord significand 0 s = digits at h ⊢
  dsimp only at h ⊢
  rw [startsWithDigit_append htail, dropWhile_isDigit_append htail]
  refine ite_eq_ok_imp h (fun _ h => readScale_append h htail) fun _ h => ?_
  exact ite_eq_ok_imp h (fun _ => error_ne_ok) fun _ h => readScale_append h htail

theorem readAfterWhole_cons (c : Char) (s : List Char) :
    readAfterWhole negative significand (c :: s) =
      if c = '.' then readFraction negative significand 0 s
      else if c = 'e' ∨ c = 'E' then readExponent negative significand 0 s
      else (do let n ← wholeNumber negative significand; return (n, c :: s)) := by
  unfold readAfterWhole
  split <;> simp_all

/-- A whole number stays one, since the new text begins with neither a point nor an `e`. -/
theorem readAfterWhole_append (h : readAfterWhole negative significand s = .ok (n, rest))
    (htail : EndsNumber tail) :
    readAfterWhole negative significand (s ++ tail) = .ok (n, rest ++ tail) := by
  cases s with
  | nil =>
      have hdone := before_append h tail
      cases tail with
      | nil => exact hdone
      | cons c tail =>
          obtain ⟨_, hpoint, hlower, hupper⟩ := htail c rfl
          rw [List.nil_append, readAfterWhole_cons, if_neg hpoint,
            if_neg (not_or.2 ⟨hlower, hupper⟩)]
          exact hdone
  | cons c s =>
      rw [readAfterWhole_cons] at h
      rw [List.cons_append, readAfterWhole_cons]
      refine ite_eq_ok_imp h (fun _ h => readFraction_append h htail) fun _ h => ?_
      exact ite_eq_ok_imp h (fun _ h => readExponent_append h htail) fun _ h => before_append h tail

theorem readAfterLong_cons (c : Char) (s : List Char) :
    readAfterLong negative significand dropped (c :: s) =
      if c = '.' then readFraction negative significand dropped s
      else readScale negative significand dropped (c :: s) := by
  unfold readAfterLong
  split <;> simp_all

/-- The same holds behind whole digits that were too many to keep. -/
theorem readAfterLong_append (h : readAfterLong negative significand dropped s = .ok (n, rest))
    (htail : EndsNumber tail) :
    readAfterLong negative significand dropped (s ++ tail) = .ok (n, rest ++ tail) := by
  cases s with
  | nil =>
      have hscale : readScale negative significand dropped [] = .ok (n, rest) := h
      have hdone := readScale_append hscale htail
      cases tail with
      | nil => exact hdone
      | cons c tail =>
          rw [List.nil_append, readAfterLong_cons, if_neg (htail c rfl).2.1]
          exact hdone
  | cons c s =>
      rw [readAfterLong_cons] at h
      rw [List.cons_append, readAfterLong_cons]
      exact ite_eq_ok_imp h (fun _ h => readFraction_append h htail) fun _ h =>
        readScale_append h htail

/-- All digits of a number stand before the new text, and the same of them are kept. -/
theorem readUnsigned_append (h : readUnsigned negative s = .ok (n, rest))
    (htail : EndsNumber tail) : readUnsigned negative (s ++ tail) = .ok (n, rest ++ tail) := by
  cases s with
  | nil => cases h
  | cons c s =>
      rw [readUnsigned] at h
      rw [List.cons_append, readUnsigned, startsWithDigit_append htail, takeDigits_append htail]
      generalize takeDigits maxWord (digitValue c) 0 s = digits at h ⊢
      dsimp only at h ⊢
      rw [startsWithDigit_append htail, takeWhile_isDigit_append htail,
        dropWhile_isDigit_append htail]
      refine ite_eq_ok_imp h (fun _ h => ?_) fun _ h =>
        ite_eq_ok_imp h (fun _ h => ?_) fun _ => error_ne_ok
      · exact ite_eq_ok_imp h (fun _ => error_ne_ok) fun _ h => readAfterWhole_append h htail
      · exact ite_eq_ok_imp h (fun _ h => readAfterLong_append h htail) fun _ h =>
          readAfterWhole_append h htail

theorem readNumber_cons (c : Char) (s : List Char) :
    readNumber (c :: s) =
      if c = '-' then readUnsigned true s else readUnsigned false (c :: s) := by
  unfold readNumber
  split <;> simp_all

/-- A number has the same value before text that does not go on with it. -/
theorem readNumber_append (h : readNumber s = .ok (n, rest)) (htail : EndsNumber tail) :
    readNumber (s ++ tail) = .ok (n, rest ++ tail) := by
  cases s with
  | nil => cases h
  | cons c s =>
      rw [readNumber_cons] at h
      rw [List.cons_append, readNumber_cons]
      exact ite_eq_ok_imp h (fun _ h => readUnsigned_append h htail) fun _ h =>
        readUnsigned_append h htail

end Number

/-! ## Values that nobody asks for -/

theorem skipDigits_append (h : skipDigits s = .ok rest) (htail : EndsNumber tail) :
    skipDigits (s ++ tail) = .ok (rest ++ tail) := by
  unfold skipDigits at h ⊢
  rw [startsWithDigit_append htail, dropWhile_isDigit_append htail]
  refine ite_eq_ok_imp h (fun _ h => ?_) fun _ => error_ne_ok
  cases h
  rfl

theorem skipExponent_cons (c : Char) (s : List Char) :
    skipExponent (c :: s) = if c = '+' ∨ c = '-' then skipDigits s else skipDigits (c :: s) := by
  unfold skipExponent
  split <;> simp_all

theorem skipExponent_append (h : skipExponent s = .ok rest) (htail : EndsNumber tail) :
    skipExponent (s ++ tail) = .ok (rest ++ tail) := by
  cases s with
  | nil => cases h
  | cons c s =>
      rw [skipExponent_cons] at h
      rw [List.cons_append, skipExponent_cons]
      exact ite_eq_ok_imp h (fun _ h => skipDigits_append h htail) fun _ h =>
        skipDigits_append h htail

theorem skipScale_cons (c : Char) (s : List Char) :
    skipScale (c :: s) = if c = 'e' ∨ c = 'E' then skipExponent s else .ok (c :: s) := by
  unfold skipScale
  split <;> simp_all

theorem skipScale_append (h : skipScale s = .ok rest) (htail : EndsNumber tail) :
    skipScale (s ++ tail) = .ok (rest ++ tail) := by
  cases s with
  | nil =>
      cases h
      cases tail with
      | nil => rfl
      | cons c tail =>
          obtain ⟨_, _, hlower, hupper⟩ := htail c rfl
          rw [List.nil_append, skipScale_cons, if_neg (not_or.2 ⟨hlower, hupper⟩)]
  | cons c s =>
      rw [skipScale_cons] at h
      rw [List.cons_append, skipScale_cons]
      refine ite_eq_ok_imp h (fun _ h => skipExponent_append h htail) fun _ h => ?_
      cases h
      rfl

theorem skipAfterWhole_cons (c : Char) (s : List Char) :
    skipAfterWhole (c :: s) =
      if c = '.' then
        if startsWithDigit s then skipScale (s.dropWhile Char.isDigit) else .error .invalidNumber
      else skipScale (c :: s) := by
  unfold skipAfterWhole
  split <;> simp_all

theorem skipAfterWhole_append (h : skipAfterWhole s = .ok rest) (htail : EndsNumber tail) :
    skipAfterWhole (s ++ tail) = .ok (rest ++ tail) := by
  cases s with
  | nil =>
      have hscale : skipScale [] = .ok rest := h
      have hdone := skipScale_append hscale htail
      cases tail with
      | nil => exact hdone
      | cons c tail =>
          rw [List.nil_append, skipAfterWhole_cons, if_neg (htail c rfl).2.1]
          exact hdone
  | cons c s =>
      rw [skipAfterWhole_cons] at h
      rw [List.cons_append, skipAfterWhole_cons, startsWithDigit_append htail,
        dropWhile_isDigit_append htail]
      refine ite_eq_ok_imp h (fun _ h => ?_) fun _ h => skipScale_append h htail
      exact ite_eq_ok_imp h (fun _ h => skipScale_append h htail) fun _ => error_ne_ok

theorem skipUnsigned_append (h : skipUnsigned s = .ok rest) (htail : EndsNumber tail) :
    skipUnsigned (s ++ tail) = .ok (rest ++ tail) := by
  cases s with
  | nil => cases h
  | cons c s =>
      rw [skipUnsigned] at h
      rw [List.cons_append, skipUnsigned, startsWithDigit_append htail,
        dropWhile_isDigit_append htail]
      refine ite_eq_ok_imp h (fun _ h => ?_) fun _ => error_ne_ok
      exact ite_eq_ok_imp h (fun _ => error_ne_ok) fun _ h => skipAfterWhole_append h htail

theorem skipNumber_cons (c : Char) (s : List Char) :
    skipNumber (c :: s) = if c = '-' then skipUnsigned s else skipUnsigned (c :: s) := by
  unfold skipNumber
  split <;> simp_all

/-- A number that is passed over ends at the same place before such a text. -/
theorem skipNumber_append (h : skipNumber s = .ok rest) (htail : EndsNumber tail) :
    skipNumber (s ++ tail) = .ok (rest ++ tail) := by
  cases s with
  | nil => cases h
  | cons c s =>
      rw [skipNumber_cons] at h
      rw [List.cons_append, skipNumber_cons]
      exact ite_eq_ok_imp h (fun _ h => skipUnsigned_append h htail) fun _ h =>
        skipUnsigned_append h htail

/-- A word is told by its own letters. -/
theorem takeWord_append {w : List Char} (h : Reader.takeWord w s = .ok ((), rest))
    (tail : List Char) : Reader.takeWord w (s ++ tail) = .ok ((), rest ++ tail) := by
  induction w generalizing s with
  | nil =>
      cases h
      rfl
  | cons x w ih =>
      cases s with
      | nil => cases h
      | cons c s => exact ite_eq_ok_imp h (fun _ h => ih h) fun _ => error_ne_ok

/-- A word that is passed over takes nothing of the new text. -/
theorem skipWord_append {w : String} (h : skipWord w s = .ok rest) (tail : List Char) :
    skipWord w (s ++ tail) = .ok (rest ++ tail) := by
  unfold skipWord at h ⊢
  cases hword : Reader.takeWord w.toList s with
  | error fault =>
      rw [hword] at h
      cases h
  | ok p =>
      rw [hword] at h
      cases h
      rw [takeWord_append hword tail]
      rfl

/-- Blanks are passed over up to the same character. -/
theorem dropWhile_isSpace_append {c : Char} (h : s.dropWhile isSpace = c :: rest)
    (tail : List Char) : (s ++ tail).dropWhile isSpace = c :: (rest ++ tail) := by
  rw [List.dropWhile_append, h]
  rfl

/-- The way to the next value of a list or record is the same. -/
theorem Frame.enter_append {frame : Frame} (h : frame.enter s = .ok rest) (tail : List Char) :
    frame.enter (s ++ tail) = .ok (rest ++ tail) := by
  cases frame with
  | list =>
      cases h
      rfl
  | record =>
      simp only [enter] at h ⊢
      split at h
      next => cases h
      next c after hkey =>
        rw [dropWhile_isSpace_append hkey]
        refine ite_eq_ok_imp h (fun _ h => ?_) fun _ => error_ne_ok
        split at h
        next => cases h
        next after' htext =>
          rw [skipText_append htext]
          dsimp only
          split at h
          next => cases h
          next d after'' hcolon =>
            rw [dropWhile_isSpace_append hcolon]
            refine ite_eq_ok_imp h (fun _ h => ?_) fun _ => error_ne_ok
            cases h
            rfl

section Frames

variable {frames frames' : List Frame}

theorem enter_map_append {frame : Frame}
    (h : (frame.enter s).map (fun rest => (frames, rest)) = .ok (frames', rest))
    (tail : List Char) :
    (frame.enter (s ++ tail)).map (fun rest => (frames, rest)) = .ok (frames', rest ++ tail) := by
  cases henter : frame.enter s with
  | error fault =>
      rw [henter] at h
      cases h
  | ok after =>
      rw [henter] at h
      cases h
      rw [Frame.enter_append henter]
      rfl

/-- Behind a value the same frames close, up to the same comma. -/
theorem afterValue_append (tail : List Char) :
    ∀ {frames : List Frame} {s : List Char}, afterValue frames s = .ok (frames', rest) →
      afterValue frames (s ++ tail) = .ok (frames', rest ++ tail)
  | [], s, h => by
      cases h
      rfl
  | frame :: outer, s, h => by
      rw [afterValue] at h ⊢
      split at h
      next => cases h
      next c after hnext =>
        rw [dropWhile_isSpace_append hnext]
        refine ite_eq_ok_imp h (fun _ h => enter_map_append h tail) fun _ h => ?_
        exact ite_eq_ok_imp h (fun _ h => afterValue_append tail h) fun _ => error_ne_ok

/-- An opened list or record closes at once or goes on with the same value. -/
theorem afterOpening_append {frame : Frame} (h : afterOpening frame frames s = .ok (frames', rest))
    (tail : List Char) : afterOpening frame frames (s ++ tail) = .ok (frames', rest ++ tail) := by
  unfold afterOpening at h ⊢
  split at h
  next => cases h
  next c after hnext =>
    rw [dropWhile_isSpace_append hnext]
    exact ite_eq_ok_imp h (fun _ h => afterValue_append tail h) fun _ h => enter_map_append h tail

/-- If a scalar is passed over as before, the same frames are open behind it. -/
theorem afterScalar_append {step step' : Except Fault (List Char)}
    (h : afterScalar frames step = .ok (frames', rest))
    (hstep : ∀ after, step = .ok after → step' = .ok (after ++ tail)) :
    afterScalar frames step' = .ok (frames', rest ++ tail) := by
  cases step with
  | error fault => cases h
  | ok after =>
      rw [hstep after rfl]
      exact afterValue_append tail h

/-- One round passes over the same scalar or opening and leaves the same frames open. -/
theorem skipStep_append (h : skipStep frames s = .ok (frames', rest)) (htail : EndsNumber tail) :
    skipStep frames (s ++ tail) = .ok (frames', rest ++ tail) := by
  unfold skipStep at h ⊢
  split at h
  next => cases h
  next c after hnext =>
    rw [dropWhile_isSpace_append hnext]
    have hword {w : String}
        (h : afterScalar frames (skipWord w (c :: after)) = .ok (frames', rest)) :
        afterScalar frames (skipWord w (c :: (after ++ tail))) = .ok (frames', rest ++ tail) :=
      afterScalar_append h fun _ hskip => skipWord_append hskip tail
    -- one case for each character that a value can begin with
    refine ite_eq_ok_imp h (fun _ => hword) fun _ h => ?_
    refine ite_eq_ok_imp h (fun _ => hword) fun _ h => ?_
    refine ite_eq_ok_imp h (fun _ => hword) fun _ h => ?_
    refine ite_eq_ok_imp h (fun _ h => ?_) fun _ h => ?_
    · exact afterScalar_append h fun _ hskip => skipNumber_append hskip htail
    refine ite_eq_ok_imp h (fun _ h => ?_) fun _ h => ?_
    · exact afterScalar_append h fun _ hskip => skipText_append hskip tail
    refine ite_eq_ok_imp h (fun _ h => afterOpening_append h tail) fun _ h => ?_
    exact ite_eq_ok_imp h (fun _ h => afterOpening_append h tail) fun _ => error_ne_ok

/-- More text leaves room for more rounds, of which no more are needed. -/
theorem skipValues_append (htail : EndsNumber tail) {fuel : Nat} :
    ∀ {frames : List Frame} {s : List Char}, skipValues fuel frames s = .ok ((), rest) →
      ∀ {fuel' : Nat}, fuel ≤ fuel' →
        skipValues fuel' frames (s ++ tail) = .ok ((), rest ++ tail) := by
  induction fuel with
  | zero => intro frames s h; cases h
  | succ fuel ih =>
      intro frames s h fuel' hle
      obtain ⟨fuel', rfl⟩ : ∃ k, fuel' = k + 1 := ⟨fuel' - 1, by omega⟩
      rw [skipValues] at h ⊢
      cases hstep : skipStep frames s with
      | error fault =>
          rw [hstep] at h
          cases h
      | ok p =>
          obtain ⟨frames', after⟩ := p
          rw [hstep] at h
          rw [skipStep_append hstep htail]
          cases frames' with
          | nil =>
              cases h
              rfl
          | cons frame outer => exact ih h (by omega)

end Frames

end FlawQuery.Json
