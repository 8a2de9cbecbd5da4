import Troupe.Binary64

/-!
# The shortest decimal that reads back

A positive double stands for every real number that rounds to it.  Among the decimals in
that interval the ones with the fewest digits are looked for, one digit count after the
other: on the grid of decimals with `n` digits only the two neighbours of the double can be
the nearest, so the first grid with a neighbour in the interval gives the answer.  All tests
are exact comparisons of natural numbers.
-/

namespace Troupe

/-- The decimal number `coefficient · 10 ^ exponent`. -/
structure Decimal where
  /-- The digits, read as one number. -/
  coefficient : Nat
  /-- The power of ten. -/
  exponent : Int
deriving DecidableEq, Repr

namespace Decimal

/-- Which of two equally near decimals is taken. -/
inductive Tie where
  /-- The one with the even last digit. -/
  | even
  /-- The larger one. -/
  | up
deriving DecidableEq

/-- A positive number `value / unit` with the interval of the numbers that round to it, on
one scale of natural numbers. -/
structure Interval where
  /-- The number, in units. -/
  value : Nat
  /-- The lower end, in units. -/
  low : Nat
  /-- The upper end, in units. -/
  high : Nat
  /-- How many units make one. -/
  unit : Nat
  /-- Whether the ends round to the number as well. -/
  closed : Bool

/-- The interval of a positive double.  Its neighbours are one step of the last place away;
below a power of two the step is half as long, unless the exponent is the lowest. -/
def Interval.ofParts (parts : Binary64) : Interval :=
  let narrow :=
    decide (parts.significand = 0x10000000000000 ∧ Binary64.lowestExponent < parts.exponent)
  let up := 1 <<< parts.exponent.toNat
  ⟨4 * parts.significand * up,
    (4 * parts.significand - (if narrow then 1 else 2)) * up,
    (4 * parts.significand + 2) * up,
    4 <<< (-parts.exponent).toNat,
    parts.significand % 2 == 0⟩

/-- Whether a count of decimal steps of size `10 ^ exponent` lies in the interval. -/
def Interval.holds (interval : Interval) (count : Nat) (exponent : Int) : Bool :=
  let point := count * Nat.pow 10 exponent.toNat * interval.unit
  let scale := Nat.pow 10 (-exponent).toNat
  if interval.closed then
    decide (interval.low * scale ≤ point ∧ point ≤ interval.high * scale)
  else decide (interval.low * scale < point ∧ point < interval.high * scale)

/-- How many decimal digits a number has. -/
def digitCount (n : Nat) : Nat := (Nat.toDigits 10 n).length

/-- The exponent `e` with `10 ^ e ≤ value < 10 ^ (e + 1)`. -/
def Interval.magnitude (interval : Interval) : Int :=
  if interval.unit ≤ interval.value then
    (digitCount (interval.value / interval.unit) : Int) - 1
  else
    let inverse := (interval.unit + interval.value - 1) / interval.value
    Int.negOfNat (digitCount (inverse - 1))

/-- The best decimal on one grid, if a grid point lies in the interval. -/
def Interval.onGrid? (interval : Interval) (tie : Tie) (exponent : Int) : Option Decimal :=
  let step := Nat.pow 10 exponent.toNat * interval.unit
  let value := interval.value * Nat.pow 10 (-exponent).toNat
  let below := value / step
  let rest := value % step
  match interval.holds below exponent, interval.holds (below + 1) exponent with
  | true, true =>
    if 2 * rest < step then some ⟨below, exponent⟩
    else if step < 2 * rest then some ⟨below + 1, exponent⟩
    else
      match tie with
      | .up => some ⟨below + 1, exponent⟩
      | .even => some ⟨below + below % 2, exponent⟩
  | true, false => some ⟨below, exponent⟩
  | false, true => some ⟨below + 1, exponent⟩
  | false, false => none

/-- Try grids with more and more digits. -/
def Interval.search (interval : Interval) (tie : Tie) : (fuel : Nat) → Int → Decimal
  | 0, exponent =>
    ⟨interval.value * Nat.pow 10 (-exponent).toNat /
      (Nat.pow 10 exponent.toNat * interval.unit), exponent⟩
  | fuel + 1, exponent =>
    match interval.onGrid? tie exponent with
    | some decimal => decimal
    | none => interval.search tie fuel (exponent - 1)

/-- Drop trailing zeros of the coefficient. -/
def trim : (fuel : Nat) → Decimal → Decimal
  | 0, decimal => decimal
  | fuel + 1, decimal =>
    if decimal.coefficient ≠ 0 ∧ decimal.coefficient % 10 = 0 then
      trim fuel ⟨decimal.coefficient / 10, decimal.exponent + 1⟩
    else decimal

/-- The shortest decimal that reads back as a positive double: seventeen digits always
suffice. -/
def shortest (parts : Binary64) (tie : Tie) : Decimal :=
  let interval := Interval.ofParts parts
  trim 17 (interval.search tie 17 interval.magnitude)

end Decimal

end Troupe
