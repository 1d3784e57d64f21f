/-
# FlawQuery.Json.Number -- reading a JSON number

A whole number within 64 bits stays exact. Everything else, minus zero included, becomes a double:
at most 64 bits of digits are kept, and the decimal exponent is applied by one multiplication or
division, so the last bit may differ from correct rounding. A double is kept as its decimal text.
-/

import FlawQuery.Decimal.Shortest
import FlawQuery.Json.Fault

namespace FlawQuery.Json

/-- A number as it was read. -/
inductive Number where
  /-- A whole number, at least `-2 ^ 63` and below `2 ^ 64`. -/
  | whole (n : Int)
  /-- A double by its decimal text. -/
  | real (decimal : String)
  deriving DecidableEq, Repr

namespace Number

/-- The number as something found in the place of another. -/
def found : Number → Found
  | whole n => .integer n
  | real decimal => .real decimal

end Number

/-! ## Doubles as text -/

/-- A decimal as text: positional while the leading digit stands between `10 ^ -5` and `10 ^ 15`,
with at least one digit after the point, and else with a signed exponent. -/
def decimalText (s : Decimal.Scaled) : String :=
  let digits := Nat.toDigits 10 s.digits
  let leading : Int := s.exponent + digits.length - 1
  let zeros (n : Int) : List Char := List.replicate n.toNat '0'
  String.ofList <|
    if 0 ≤ leading ∧ leading < 16 then
      if 0 ≤ s.exponent then digits ++ zeros s.exponent ++ ['.', '0']
      else digits.take (leading + 1).toNat ++ ['.'] ++ digits.drop (leading + 1).toNat
    else if -5 ≤ leading ∧ leading < 0 then
      ['0', '.'] ++ zeros (-leading - 1) ++ digits
    else
      let point := if digits.length = 1 then [] else ['.']
      digits.take 1 ++ point ++ digits.drop 1 ++ ['e', if leading < 0 then '-' else '+'] ++
        Nat.toDigits 10 leading.natAbs

/-- A finite double as text, by its fewest digits. -/
def doubleText (x : Float) : String :=
  let sign := if x.toBits >>> 63 = 1 then "-" else ""
  match Decimal.Binary.ofBits? x.toBits with
  | none => sign ++ "0.0"
  | some b => sign ++ decimalText (Decimal.shortest b)

/-- The double next to `10 ^ n`. -/
def powerOfTen (n : Nat) : Float :=
  Float.ofScientific 1 false n

/-- Divides by `10 ^ -exponent` in steps that a double can hold. Three steps take every 64-bit
number to zero. -/
def scaleDown : (fuel : Nat) → Float → Int → Float
  | 0, _, _ => 0
  | fuel + 1, x, exponent =>
    if -308 ≤ exponent then x / powerOfTen (-exponent).toNat
    else scaleDown fuel (x / powerOfTen 308) (exponent + 308)

/-- The double near `significand · 10 ^ exponent`, unless it is too large. -/
def double (negative : Bool) (significand : Nat) (exponent : Int) : Except Fault Number :=
  let x := (UInt64.ofNat significand).toFloat
  let signed (y : Float) : Number := .real (doubleText (if negative then -y else y))
  if exponent < 0 then .ok (signed (scaleDown 3 x exponent))
  else if significand = 0 then .ok (signed 0)
  else if 308 < exponent then .error .numberOutOfRange
  else
    let y := x * powerOfTen exponent.toNat
    if y.isInf then .error .numberOutOfRange else .ok (signed y)

/-! ## Digits -/

/-- The value of an ASCII digit. -/
def digitValue (c : Char) : Nat := c.toNat - '0'.toNat

/-- The text goes on with a digit. -/
def startsWithDigit : List Char → Bool
  | c :: _ => c.isDigit
  | [] => false

/-- Appends digits to `acc` while the number stays within `limit`; gives the number, how many digits
were taken, and the rest. -/
def takeDigits (limit : Nat) (acc taken : Nat) : List Char → Nat × Nat × List Char
  | [] => (acc, taken, [])
  | c :: rest =>
    if c.isDigit ∧ acc * 10 + digitValue c ≤ limit then
      takeDigits limit (acc * 10 + digitValue c) (taken + 1) rest
    else (acc, taken, c :: rest)

/-- The greatest 64-bit number. -/
def maxWord : Nat := 18446744073709551615

/-! ## Parts of a number -/

/-- The digits of an exponent that is counted down from zero or not, for a number whose digits stand
for `significand · 10 ^ start`. -/
def readPower (negative : Bool) (significand : Nat) (start : Int) (down : Bool) :
    List Char → Except Fault (Number × List Char)
  | [] => .error .endInValue
  | c :: rest =>
    if c.isDigit then
      let (power, _, rest) := takeDigits 2147483647 (digitValue c) 0 rest
      if startsWithDigit rest then
        if significand ≠ 0 ∧ down = false then .error .numberOutOfRange
        else do
          let zero ← double negative 0 0
          return (zero, rest.dropWhile Char.isDigit)
      else do
        let x ← double negative significand (if down then start - power else start + power)
        return (x, rest)
    else .error .invalidNumber

/-- The exponent after its `e`. -/
def readExponent (negative : Bool) (significand : Nat) (start : Int) :
    List Char → Except Fault (Number × List Char)
  | '+' :: rest => readPower negative significand start false rest
  | '-' :: rest => readPower negative significand start true rest
  | s => readPower negative significand start false s

/-- The exponent if there is one, and else the number as it is. -/
def readScale (negative : Bool) (significand : Nat) (exponent : Int) (s : List Char) :
    Except Fault (Number × List Char) :=
  match s with
  | 'e' :: rest | 'E' :: rest => readExponent negative significand exponent rest
  | _ => do
    let x ← double negative significand exponent
    return (x, s)

/-- The digits after the point. Digits beyond 64 bits are dropped. -/
def readFraction (negative : Bool) (significand : Nat) (exponent : Int) (s : List Char) :
    Except Fault (Number × List Char) :=
  let (significand, taken, rest) := takeDigits maxWord significand 0 s
  if startsWithDigit rest then
    readScale negative significand (exponent - taken) (rest.dropWhile Char.isDigit)
  else if taken = 0 then .error (if rest = [] then .endInValue else .invalidNumber)
  else readScale negative significand (exponent - taken) rest

/-- The magnitude of the least signed 64-bit integer. -/
def minMagnitude : Nat := 9223372036854775808

/-- A whole number without fraction and exponent. -/
def wholeNumber (negative : Bool) (significand : Nat) : Except Fault Number :=
  if negative = false then .ok (.whole significand)
  else if significand ≠ 0 ∧ significand ≤ minMagnitude then .ok (.whole (-significand))
  else double true significand 0

/-- What follows the whole digits. -/
def readAfterWhole (negative : Bool) (significand : Nat) (s : List Char) :
    Except Fault (Number × List Char) :=
  match s with
  | '.' :: rest => readFraction negative significand 0 rest
  | 'e' :: rest | 'E' :: rest => readExponent negative significand 0 rest
  | _ => do
    let x ← wholeNumber negative significand
    return (x, s)

/-- What follows whole digits that went on beyond 64 bits; `dropped` of them were not kept. -/
def readAfterLong (negative : Bool) (significand dropped : Nat) (s : List Char) :
    Except Fault (Number × List Char) :=
  match s with
  | '.' :: rest => readFraction negative significand dropped rest
  | _ => readScale negative significand dropped s

/-- A number after its sign. A leading zero stands alone. -/
def readUnsigned (negative : Bool) : List Char → Except Fault (Number × List Char)
  | [] => .error .endInValue
  | c :: rest =>
    if c = '0' then
      if startsWithDigit rest then .error .invalidNumber else readAfterWhole negative 0 rest
    else if c.isDigit then
      let (significand, _, rest) := takeDigits maxWord (digitValue c) 0 rest
      if startsWithDigit rest then
        readAfterLong negative significand (rest.takeWhile Char.isDigit).length
          (rest.dropWhile Char.isDigit)
      else readAfterWhole negative significand rest
    else .error .invalidNumber

/-- A number, from its sign or first digit on. -/
def readNumber : List Char → Except Fault (Number × List Char)
  | '-' :: rest => readUnsigned true rest
  | s => readUnsigned false s

/-! ## Numbers that nobody asks for -/

/-- Passes over digits, of which there is at least one. -/
def skipDigits (s : List Char) : Except Fault (List Char) :=
  if startsWithDigit s then .ok (s.dropWhile Char.isDigit) else .error .invalidNumber

/-- Passes over an exponent after its `e`. -/
def skipExponent : List Char → Except Fault (List Char)
  | '+' :: rest | '-' :: rest => skipDigits rest
  | s => skipDigits s

/-- Passes over an exponent if there is one. -/
def skipScale (s : List Char) : Except Fault (List Char) :=
  match s with
  | 'e' :: rest | 'E' :: rest => skipExponent rest
  | _ => .ok s

/-- Passes over what may follow the whole digits. -/
def skipAfterWhole : List Char → Except Fault (List Char)
  | '.' :: rest =>
    if startsWithDigit rest then skipScale (rest.dropWhile Char.isDigit) else .error .invalidNumber
  | s => skipScale s

/-- Passes over a number after its sign; only its form is checked, not its size. -/
def skipUnsigned : List Char → Except Fault (List Char)
  | [] => .error .invalidNumber
  | c :: rest =>
    if c.isDigit then
      if c = '0' ∧ startsWithDigit rest then .error .invalidNumber
      else skipAfterWhole (rest.dropWhile Char.isDigit)
    else .error .invalidNumber

/-- Passes over a number, from its sign or first digit on. -/
def skipNumber : List Char → Except Fault (List Char)
  | '-' :: rest => skipUnsigned rest
  | s => skipUnsigned s

end FlawQuery.Json
