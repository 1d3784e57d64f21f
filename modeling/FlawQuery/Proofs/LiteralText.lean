/-
# FlawQuery.Proofs.LiteralText -- a literal ends where its text ends

Inside a double-quoted literal a backslash takes the character after it out of its usual role.
`afterQuote?` reads a literal that way, up to the first quote that stands for itself. An escaped
text holds no such quote, whatever the text was, and no control character either: it can neither end
the literal early nor break the line. `ReadsLiterals` says what undoing the escapes on the way means;
every reader that does so gives back the text that the literal was written for, and `read?` is one.
-/

import FlawQuery.Text.Literal

namespace FlawQuery

/-! ## Hexadecimal digits -/

/-- A digit is none of the characters that a reader of hexadecimal numbers refuses. -/
theorem Hex.digit_ne {c : Char} (h : Hex.value? c = none) (n : Nat) : Hex.digit n ≠ c := by
  intro hc
  have hvalue := Hex.value?_digit n
  rw [hc, h] at hvalue
  cases hvalue

namespace Literal

/-! ## Where a literal ends -/

/-- What is left after the first quote that no backslash takes for itself. -/
def afterQuote? : List Char → Option (List Char)
  | [] => none
  | ['\\'] => none
  | '\\' :: _ :: rest => afterQuote? rest
  | c :: rest => if c = '"' then some rest else afterQuote? rest

theorem afterQuote?_cons {c : Char} (hquote : c ≠ '"') (hbackslash : c ≠ '\\')
    (rest : List Char) : afterQuote? (c :: rest) = afterQuote? rest := by
  rw [afterQuote?]
  · exact if_neg hquote
  · intro h _
    exact absurd h hbackslash
  · intro _ _ h
    exact absurd h hbackslash

/-- No escaped character contains the end of the literal. -/
theorem afterQuote?_escapeChar (c : Char) (rest : List Char) :
    afterQuote? (escapeChar c ++ rest) = afterQuote? rest := by
  have hdigit : ∀ n tail, afterQuote? (Hex.digit n :: tail) = afterQuote? tail := fun n =>
    afterQuote?_cons (Hex.digit_ne (by decide) n) (Hex.digit_ne (by decide) n)
  unfold escapeChar
  split
  · rfl
  split
  · rfl
  split
  · rfl
  split
  · rfl
  split
  · rfl
  split
  · -- `\u` is skipped as a pair, its four digits one by one
    simp only [List.cons_append, Hex.fourDigits, List.nil_append, afterQuote?, hdigit]
  · rename_i hbackslash hquote _ _ _ _
    exact afterQuote?_cons hquote hbackslash rest

/-- The body of a literal is passed over as a whole. -/
theorem afterQuote?_escape (s : String) (rest : List Char) :
    afterQuote? ((escape s).toList ++ rest) = afterQuote? rest := by
  rw [escape, String.toList_ofList]
  induction s.toList with
  | nil => rfl
  | cons c cs ih => rw [List.flatMap_cons, List.append_assoc, afterQuote?_escapeChar, ih]

/-! ## Control characters -/

theorem not_isControl_digit (n : Nat) : isControl (Hex.digit n) = false := by
  unfold Hex.digit
  split <;> rfl

/-- An escaped character is written without control characters. -/
theorem not_isControl_of_mem_escapeChar {c d : Char} (h : d ∈ escapeChar c) :
    isControl d = false := by
  have hpair : ∀ {a b : Char}, isControl a = false → isControl b = false → d ∈ [a, b] →
      isControl d = false := by
    intro a b ha hb hd
    simp only [List.mem_cons, List.not_mem_nil, or_false] at hd
    rcases hd with rfl | rfl
    · exact ha
    · exact hb
  unfold escapeChar at h
  split at h
  · exact hpair rfl rfl h
  split at h
  · exact hpair rfl rfl h
  split at h
  · exact hpair rfl rfl h
  split at h
  · exact hpair rfl rfl h
  split at h
  · exact hpair rfl rfl h
  split at h
  · simp only [Hex.fourDigits, List.mem_cons, List.not_mem_nil, or_false] at h
    rcases h with rfl | rfl | rfl | rfl | rfl | rfl
    · rfl
    · rfl
    all_goals exact not_isControl_digit _
  · rename_i hplain
    rw [List.mem_singleton.1 h]
    exact Bool.of_not_eq_true hplain

theorem not_isControl_of_mem_escape {s : String} {d : Char} (h : d ∈ (escape s).toList) :
    isControl d = false := by
  rw [escape, String.toList_ofList] at h
  obtain ⟨c, _, hd⟩ := List.mem_flatMap.1 h
  exact not_isControl_of_mem_escapeChar hd

/-! ## What a literal says -/

/-- The character that a backslash and one more character stand for. -/
def shortEscape? : Char → Option Char
  | '\\' => some '\\'
  | '"' => some '"'
  | 'n' => some '\n'
  | 'r' => some '\r'
  | 't' => some '\t'
  | _ => none

/-- Reads on after the opening quote, up to the first quote that stands for itself: the text that the
literal stands for, and what is left after that quote. -/
def read? : List Char → Option (List Char × List Char)
  | [] => none
  | '"' :: rest => some ([], rest)
  | '\\' :: 'u' :: a :: b :: c :: d :: rest =>
    (Hex.ofFourDigits? a b c d).bind fun n => (read? rest).map (Prod.map (Char.ofNat n :: ·) id)
  | '\\' :: c :: rest => (shortEscape? c).bind fun e => (read? rest).map (Prod.map (e :: ·) id)
  | c :: rest => (read? rest).map (Prod.map (c :: ·) id)

theorem read?_cons {c : Char} (hquote : c ≠ '"') (hbackslash : c ≠ '\\') (rest : List Char) :
    read? (c :: rest) = (read? rest).map (Prod.map (c :: ·) id) := by
  rw [read?]
  · exact hquote
  · intro _ _ _ _ _ h _
    exact absurd h hbackslash
  · intro _ _ h
    exact absurd h hbackslash

theorem lt_of_isControl {c : Char} (h : isControl c = true) : c.toNat < 65536 := by
  simp only [isControl, Bool.or_eq_true, Bool.and_eq_true, decide_eq_true_eq] at h
  omega

/-- What every reader of literals keeps to, whatever it makes of other texts: it ends at a quote that
stands for itself, undoes the escapes, and takes any other character as it is. -/
structure ReadsLiterals (read : List Char → Option (List Char × List Char)) : Prop where
  closing (rest : List Char) : read ('"' :: rest) = some ([], rest)
  short {c e : Char} (h : shortEscape? c = some e) (rest : List Char) :
    read ('\\' :: c :: rest) = (read rest).map (Prod.map (e :: ·) id)
  /-- Only numbers of characters count; nothing is said about surrogates. -/
  unicode {a b c d : Char} {n : Nat} (h : Hex.ofFourDigits? a b c d = some n)
    (hvalid : n.isValidChar) (rest : List Char) :
    read ('\\' :: 'u' :: a :: b :: c :: d :: rest) =
      (read rest).map (Prod.map (Char.ofNat n :: ·) id)
  plain {c : Char} (hquote : c ≠ '"') (hbackslash : c ≠ '\\') (rest : List Char) :
    read (c :: rest) = (read rest).map (Prod.map (c :: ·) id)

theorem readsLiterals_read? : ReadsLiterals read? where
  closing _ := rfl
  short {c e} h rest := by
    have hunicode : c ≠ 'u' := by
      rintro rfl
      cases h
    rw [read?, h]
    · rfl
    · intro _ _ _ _ _ hc _
      exact absurd hc hunicode
  unicode {a b c d n} h _ rest := by
    show (Hex.ofFourDigits? a b c d).bind _ = _
    rw [h]
    rfl
  plain hquote hbackslash rest := read?_cons hquote hbackslash rest

namespace ReadsLiterals

variable {read : List Char → Option (List Char × List Char)}

/-- An escaped character is read as that character. -/
theorem read_escapeChar (h : ReadsLiterals read) (c : Char) (rest : List Char) :
    read (escapeChar c ++ rest) = (read rest).map (Prod.map (c :: ·) id) := by
  unfold escapeChar
  split
  next hc => rw [hc]; exact h.short rfl rest
  split
  next hc => rw [hc]; exact h.short rfl rest
  split
  next hc => rw [hc]; exact h.short rfl rest
  split
  next hc => rw [hc]; exact h.short rfl rest
  split
  next hc => rw [hc]; exact h.short rfl rest
  split
  next hcontrol =>
    -- `\u` and four digits, which spell the number of the character
    have hdigits := Hex.ofFourDigits?_fourDigits (lt_of_isControl hcontrol)
    have hread := h.unicode hdigits c.valid rest
    rw [Char.ofNat_toNat] at hread
    exact hread
  next hbackslash hquote _ _ _ _ => exact h.plain hquote hbackslash rest

/-- A literal is read as the text that it was written for, and what comes after it is left. -/
theorem read_escape (h : ReadsLiterals read) (s : String) (rest : List Char) :
    read ((escape s).toList ++ '"' :: rest) = some (s.toList, rest) := by
  rw [escape, String.toList_ofList]
  induction s.toList with
  | nil => exact h.closing rest
  | cons c cs ih =>
      rw [List.flatMap_cons, List.append_assoc, h.read_escapeChar, ih]
      rfl

end ReadsLiterals

theorem read?_escape (s : String) (rest : List Char) :
    read? ((escape s).toList ++ '"' :: rest) = some (s.toList, rest) :=
  readsLiterals_read?.read_escape s rest

/-- Whoever reads literals by the rules gets the text back that was escaped, and goes on right behind
the quote that was put after it; there are such readers. The escaped text has no control character:
none below space, and none from delete to the end of the second control block. -/
theorem escape_undone_by_every_reader (s rest : String) :
    ReadsLiterals read? ∧
    (∀ read, ReadsLiterals read →
      read (escape s ++ "\"" ++ rest).toList = some (s.toList, rest.toList)) ∧
    ∀ c ∈ (escape s).toList, ¬ (c.toNat ≤ 0x1F ∨ 0x7F ≤ c.toNat ∧ c.toNat ≤ 0x9F) := by
  refine ⟨readsLiterals_read?, fun read hread => ?_, fun c hc hcontrol => ?_⟩
  · rw [String.toList_append, String.toList_append, List.append_assoc]
    exact hread.read_escape s rest.toList
  · have hplain := not_isControl_of_mem_escape hc
    simp only [isControl, Bool.or_eq_false_iff, Bool.and_eq_false_iff, decide_eq_false_iff_not]
      at hplain
    omega

/-- A text that tries to end its literal, with a character of each control block and one that needs no
escape. -/
def hostileText : String := "\"\\\n\u0001\u0085é"

theorem escape_undone_by_every_reader_hostileText :
    escape hostileText = "\\\"\\\\\\n\\u0001\\u0085é" ∧
    ReadsLiterals read? ∧
      read? (escape hostileText ++ "\"" ++ "\" AND").toList =
        some (hostileText.toList, ['"', ' ', 'A', 'N', 'D']) ∧
    '\\' ∈ (escape hostileText).toList ∧
      ¬ (('\\').toNat ≤ 0x1F ∨ 0x7F ≤ ('\\').toNat ∧ ('\\').toNat ≤ 0x9F) := by
  obtain ⟨hreader, hread, hcontrol⟩ := escape_undone_by_every_reader hostileText "\" AND"
  have hmem : '\\' ∈ (escape hostileText).toList := by decide +kernel
  exact ⟨by decide +kernel, hreader, hread read? hreader, hmem, hcontrol _ hmem⟩

end Literal

end FlawQuery
