/-
# FlawQuery.Json.Text -- reading a JSON text literal

Reading starts after the opening quote and ends after the closing one. A character beyond the basic
plane may be written as a pair of surrogate escapes; a half of a pair stands for nothing and is
refused. A text that is only passed over has to be well formed, but its surrogates are not paired.
-/

import FlawQuery.Json.Fault

namespace FlawQuery.Json

/-- The character that a one-letter escape stands for. -/
def shortEscape? (c : Char) : Option Char :=
  if c = '"' ∨ c = '\\' ∨ c = '/' then some c
  else if c = 'b' then some '\x08'
  else if c = 'f' then some '\x0c'
  else if c = 'n' then some '\n'
  else if c = 'r' then some '\r'
  else if c = 't' then some '\t'
  else none

/-- What is wrong with an escape that has fewer than four hexadecimal digits: the text ends if fewer
than four bytes follow, and else a byte is no digit. -/
def hexFault (s : List Char) : Fault :=
  if (String.ofList (s.take 4)).utf8ByteSize < 4 then .endInText else .invalidEscape

/-- The code unit is the first half of a pair. -/
def isHighSurrogate (n : Nat) : Bool := 0xD800 ≤ n && n ≤ 0xDBFF

/-- The code unit is the second half of a pair. -/
def isLowSurrogate (n : Nat) : Bool := 0xDC00 ≤ n && n ≤ 0xDFFF

/-- The character that a pair of surrogates stands for. -/
def joinSurrogates (high low : Nat) : Char :=
  Char.ofNat (0x10000 + (high - 0xD800) * 0x400 + (low - 0xDC00))

/-- The code unit that four hexadecimal digits spell. -/
def readUnit : List Char → Except Fault (Nat × List Char)
  | a :: b :: c :: d :: rest =>
    match Hex.ofFourDigits? a b c d with
    | some unit => .ok (unit, rest)
    | none => .error .invalidEscape
  | s => .error (hexFault s)

/-- The character of a code unit, which takes a second escape if it is the first half of a pair. -/
def pairUnit (unit : Nat) (s : List Char) : Except Fault (Char × List Char) :=
  if isLowSurrogate unit then .error .loneSurrogate
  else if isHighSurrogate unit then
    match s with
    | [] | ['\\'] => .error .endInText
    | '\\' :: 'u' :: rest =>
      match readUnit rest with
      | .ok (low, rest) =>
        if isLowSurrogate low then .ok (joinSurrogates unit low, rest) else .error .loneSurrogate
      | .error fault => .error fault
    | _ => .error .cutSurrogatePair
  else .ok (Char.ofNat unit, s)

/-- The character of an escape after its backslash. -/
def readEscape : List Char → Except Fault (Char × List Char)
  | [] => .error .endInText
  | c :: rest =>
    if c = 'u' then
      match readUnit rest with
      | .ok (unit, rest) => pairUnit unit rest
      | .error fault => .error fault
    else
      match shortEscape? c with
      | some meaning => .ok (meaning, rest)
      | none => .error .invalidEscape

/-- Passes over an escape after its backslash. -/
def skipEscape : List Char → Except Fault (List Char)
  | [] => .error .endInText
  | c :: rest =>
    if c = 'u' then
      match readUnit rest with
      | .ok (_, rest) => .ok rest
      | .error fault => .error fault
    else if (shortEscape? c).isSome then .ok rest
    else .error .invalidEscape

theorem length_readUnit {s rest : List Char} {unit : Nat} (h : readUnit s = .ok (unit, rest)) :
    rest.length < s.length := by
  unfold readUnit at h
  split at h
  · split at h
    · cases h
      simp only [List.length_cons]
      omega
    · cases h
  · cases h

theorem length_pairUnit {s rest : List Char} {unit : Nat} {c : Char}
    (h : pairUnit unit s = .ok (c, rest)) : rest.length ≤ s.length := by
  unfold pairUnit at h
  split at h
  · cases h
  · split at h
    · split at h
      · cases h
      · cases h
      · split at h
        · rename_i hlow
          have := length_readUnit hlow
          split at h
          · simp only [Except.ok.injEq, Prod.mk.injEq] at h
            rw [← h.2]
            simp only [List.length_cons]
            omega
          · cases h
        · cases h
      · cases h
    · simp only [Except.ok.injEq, Prod.mk.injEq] at h
      exact Nat.le_of_eq (by rw [h.2])

/-- An escape takes at least one character. -/
theorem length_readEscape {s rest : List Char} {c : Char} (h : readEscape s = .ok (c, rest)) :
    rest.length < s.length := by
  unfold readEscape at h
  split at h
  · cases h
  · split at h
    · split at h
      · rename_i hunit
        have h₁ := length_readUnit hunit
        have h₂ := length_pairUnit h
        simp only [List.length_cons]
        omega
      · cases h
    · split at h
      · cases h
        simp
      · cases h

/-- An escape that is passed over takes at least one character. -/
theorem length_skipEscape {s rest : List Char} (h : skipEscape s = .ok rest) :
    rest.length < s.length := by
  unfold skipEscape at h
  split at h
  · cases h
  · split at h
    · split at h
      · rename_i hunit
        have := length_readUnit hunit
        cases h
        simp only [List.length_cons]
        omega
      · cases h
    · split at h
      · cases h
        simp
      · cases h

/-- Puts a character before a text that was read. -/
def consText (c : Char) :
    Except Fault (List Char × List Char) → Except Fault (List Char × List Char)
  | .ok (body, rest) => .ok (c :: body, rest)
  | .error fault => .error fault

/-- Reads a text up to its closing quote and gives what follows it. -/
def readText (s : List Char) : Except Fault (List Char × List Char) :=
  match s with
  | [] => .error .endInText
  | c :: rest =>
    if c = '"' then .ok ([], rest)
    else if c = '\\' then
      match h : readEscape rest with
      | .ok (meaning, after) =>
        have : after.length < rest.length := length_readEscape h
        consText meaning (readText after)
      | .error fault => .error fault
    else if c.toNat < 0x20 then .error .controlCharacter
    else consText c (readText rest)
termination_by s.length

/-- Passes over a text up to its closing quote. -/
def skipText (s : List Char) : Except Fault (List Char) :=
  match s with
  | [] => .error .endInText
  | c :: rest =>
    if c = '"' then .ok rest
    else if c = '\\' then
      match h : skipEscape rest with
      | .ok after =>
        have : after.length < rest.length := length_skipEscape h
        skipText after
      | .error fault => .error fault
    else if c.toNat < 0x20 then .error .controlCharacter
    else skipText rest
termination_by s.length

end FlawQuery.Json
