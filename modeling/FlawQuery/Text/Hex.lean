/-
# FlawQuery.Text.Hex -- hexadecimal digits of a code unit

Escapes of the form `\uXXXX` carry four hexadecimal digits. Writing uses lower case, reading takes
both cases.
-/

namespace FlawQuery.Hex

/-- The lower-case digit of `n % 16`. -/
def digit (n : Nat) : Char :=
  match n % 16 with
  | 0 => '0' | 1 => '1' | 2 => '2' | 3 => '3' | 4 => '4' | 5 => '5' | 6 => '6' | 7 => '7'
  | 8 => '8' | 9 => '9' | 10 => 'a' | 11 => 'b' | 12 => 'c' | 13 => 'd' | 14 => 'e' | _ => 'f'

/-- The value of a digit, in either case. -/
def value? (c : Char) : Option Nat :=
  if '0' ≤ c ∧ c ≤ '9' then some (c.toNat - '0'.toNat)
  else if 'a' ≤ c ∧ c ≤ 'f' then some (c.toNat - 'a'.toNat + 10)
  else if 'A' ≤ c ∧ c ≤ 'F' then some (c.toNat - 'A'.toNat + 10)
  else none

/-- The last four hexadecimal digits of `n`, padded with zeros. -/
def fourDigits (n : Nat) : List Char :=
  [digit (n / 4096), digit (n / 256), digit (n / 16), digit n]

/-- The number that four digits spell. -/
def ofFourDigits? (a b c d : Char) : Option Nat := do
  let a ← value? a
  let b ← value? b
  let c ← value? c
  let d ← value? d
  return a * 4096 + b * 256 + c * 16 + d

/-- The digits of `n` without padding, at least one. -/
def digits (n : Nat) : List Char :=
  Nat.toDigits 16 n

theorem value?_digit (n : Nat) : value? (digit n) = some (n % 16) := by
  have h : n % 16 < 16 := Nat.mod_lt _ (by decide)
  unfold digit
  generalize n % 16 = k at h
  match k, h with
  | 0, _ | 1, _ | 2, _ | 3, _ | 4, _ | 5, _ | 6, _ | 7, _
  | 8, _ | 9, _ | 10, _ | 11, _ | 12, _ | 13, _ | 14, _ | 15, _ => rfl
  | k + 16, h => omega

/-- Four digits read back as the number they were written for. -/
theorem ofFourDigits?_fourDigits {n : Nat} (h : n < 65536) :
    ofFourDigits? (digit (n / 4096)) (digit (n / 256)) (digit (n / 16)) (digit n) = some n := by
  simp only [ofFourDigits?, value?_digit, Option.bind_eq_bind, Option.bind_some, Option.pure_def,
    Option.some.injEq]
  omega

end FlawQuery.Hex
