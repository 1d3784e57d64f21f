/-
# FlawQuery.Decimal.Shortest -- the fewest decimal digits that identify a binary fraction

A binary floating-point number stands for all reals that round to it. Among the decimals in that
interval, `shortest` picks one with the fewest digits, and of those the nearest. All arithmetic is
on natural numbers.
-/

namespace FlawQuery.Decimal

/-- The positive number `mantissa · 2 ^ exponent`. The reals that round to it reach half a unit of
the mantissa to either side, but only a quarter below if `narrow`, and include both ends if the
mantissa is even. -/
structure Binary where
  mantissa : Nat
  exponent : Int
  narrow : Bool
  deriving DecidableEq, Repr

/-- The leading bit of a mantissa, `2 ^ 52`, which a double does not store. -/
def hiddenBit : Nat := 4503599627370496

/-- The number that the bits of a finite double stand for, without its sign; `none` for zero. -/
def Binary.ofBits? (bits : UInt64) : Option Binary :=
  let fraction := (bits &&& 0xFFFFFFFFFFFFF).toNat
  let biased := ((bits >>> 52) &&& 0x7FF).toNat
  if biased = 0 then
    if fraction = 0 then none else some ⟨fraction, -1074, false⟩
  else some ⟨fraction + hiddenBit, (biased : Int) - 1075, fraction = 0 && 1 < biased⟩

/-- The decimal `digits · 10 ^ exponent`. -/
structure Scaled where
  digits : Nat
  exponent : Int
  deriving DecidableEq, Repr

/-- The power `base ^ e` as a fraction of natural numbers. -/
def powerFraction (base : Nat) (e : Int) : Nat × Nat :=
  (Nat.pow base e.toNat, Nat.pow base (-e).toNat)

/-- The least number of tenfold steps from `num` to at least `den`, within `fuel` steps. -/
def stepsUpTo : (fuel num den : Nat) → Nat
  | 0, _, _ => 0
  | fuel + 1, num, den => if den ≤ num then 0 else stepsUpTo fuel (num * 10) den + 1

/-- The exponent of the leading decimal digit of `num / den`. -/
def leadingExponent (num den : Nat) : Int :=
  if den ≤ num then ((Nat.toDigits 10 (num / den)).length : Int) - 1
  else - (stepsUpTo 400 num den : Int)

/-- A neighbour of the number on the grid of `count` digits, if one rounds to the number: the nearer
one if both do, and of two that are equally near the even one. -/
def candidate? (b : Binary) (count : Nat) : Option Scaled :=
  let (up, down) := powerFraction 2 b.exponent
  let unit := 4 * down
  let value := 4 * b.mantissa * up
  let low := (4 * b.mantissa - (if b.narrow then 1 else 2)) * up
  let high := (4 * b.mantissa + 2) * up
  let exponent := leadingExponent value unit - count + 1
  let (tens, tenths) := powerFraction 10 exponent
  let below := value * tenths / (unit * tens)
  let admitted (c : Nat) : Bool :=
    let point := c * tens * unit
    if b.mantissa % 2 = 0 then low * tenths ≤ point && point ≤ high * tenths
    else low * tenths < point && point < high * tenths
  let gapBelow := value * tenths - below * tens * unit
  let gapAbove := (below + 1) * tens * unit - value * tenths
  let prefersBelow : Bool := gapBelow < gapAbove || (gapBelow = gapAbove && below % 2 = 0)
  if admitted below && (prefersBelow || !admitted (below + 1)) then some ⟨below, exponent⟩
  else if admitted (below + 1) then some ⟨below + 1, exponent⟩
  else none

/-- Drops trailing zero digits, at most `fuel` of them. -/
def Scaled.trim : (fuel : Nat) → Scaled → Scaled
  | 0, s => s
  | fuel + 1, s =>
    if s.digits ≠ 0 ∧ s.digits % 10 = 0 then Scaled.trim fuel ⟨s.digits / 10, s.exponent + 1⟩ else s

/-- The decimal with the fewest digits that rounds to the number; 17 digits always suffice. -/
def shortest (b : Binary) : Scaled :=
  match (List.range 17).findSome? fun k => candidate? b (k + 1) with
  | some s => s.trim 20
  | none => ⟨b.mantissa, 0⟩

end FlawQuery.Decimal
