import ScopeQuery.Number.Basic

/-!
# Shortest decimal digits

The fewest decimal digits that read back as a given binary64 value. Every value
owns the interval of reals that round to it. For one digit, two digits and so
on up to seventeen, the two grid points next to the value are tested against
that interval; the first grid with a point inside gives the digits, of two
points the nearer one, and an exact tie goes the way the caller asks.
-/

namespace ScopeQuery

/-- Which of two equally near decimals is taken. -/
inductive Tie where
  /-- The larger one. -/
  | up
  /-- The one whose last digit is even. -/
  | even
deriving DecidableEq

/-- A positive decimal: its digits as one number and the power of ten that
scales them. -/
structure Decimal where
  /-- The digits, read as a natural number. -/
  digits : Nat
  /-- The power of ten of the last digit. -/
  exponent : Int
deriving DecidableEq

namespace Number

/-- The reals that round to a value, in quarters of a unit. -/
structure Interval where
  /-- The lower end. -/
  low : Nat
  /-- The value itself. -/
  value : Nat
  /-- The upper end. -/
  high : Nat
  /-- Whether the ends round to the value as well. -/
  closed : Bool

/-- The interval of a positive count. Below a power of two the neighbour is
half as far away as above it. -/
def interval (units : Nat) : Interval :=
  let power := units.log2 - 52
  let step := twoPower power
  let significand := units / step
  let below := if significand = twoPower 52 ∧ 0 < power then step else 2 * step
  ⟨4 * units - below, 4 * units, 4 * units + 2 * step, significand % 2 == 0⟩

/-- Quarters of a unit in one step of the grid of a power of ten, and the factor
that the interval has to be multiplied by to make the step whole. -/
def gridStep (exponent : Int) : Nat × Nat :=
  if 0 ≤ exponent then (4 * unitsPerOne * tenPower exponent.toNat, 1)
  else (4 * unitsPerOne, tenPower (-exponent).toNat)

/-- The point of a grid that lies in the interval and is nearest to the value. -/
def gridPoint? (tie : Tie) (range : Interval) (exponent : Int) : Option Nat :=
  let (step, factor) := gridStep exponent
  let value := range.value * factor
  let below := value / step
  let inside (x y : Nat) : Bool := if range.closed then x ≤ y else x < y
  let lowFits := inside (range.low * factor) (below * step)
  let highFits := inside ((below + 1) * step) (range.high * factor)
  let downward := value - below * step
  let upward := (below + 1) * step - value
  if lowFits && highFits then
    if downward < upward then some below
    else if upward < downward then some (below + 1)
    else if tie == .even && below % 2 == 0 then some below
    else some (below + 1)
  else if lowFits then some below
  else if highFits then some (below + 1)
  else none

/-- The power of ten of the leading digit, searched downwards from a power
that is not too small. -/
def leadingPower (units : Nat) (exponent : Int) : Nat → Int
  | 0 => exponent
  | more + 1 =>
    let (step, factor) := gridStep exponent
    if step ≤ 4 * units * factor then exponent else leadingPower units (exponent - 1) more

/-- A power of ten above every positive count with this binary logarithm, at
most three too large: 30103 is a little more than 100000 times log₁₀ 2. -/
def powerAbove (log : Nat) : Int := ((log : Int) - 1073) * 30103 / 100000 + 1

/-- The first grid, from `exponent` downwards, with a point in the interval. -/
def firstGridPoint (tie : Tie) (range : Interval) (exponent : Int) : Nat → Decimal
  | 0 => ⟨range.value, exponent⟩
  | more + 1 =>
    match gridPoint? tie range exponent with
    | some digits => ⟨digits, exponent⟩
    | none => firstGridPoint tie range (exponent - 1) more

/-- A decimal without zeros at its end. -/
def withoutTrailingZeros (digits : Nat) (exponent : Int) : Nat → Decimal
  | 0 => ⟨digits, exponent⟩
  | more + 1 =>
    if digits % 10 = 0 ∧ digits ≠ 0 then withoutTrailingZeros (digits / 10) (exponent + 1) more
    else ⟨digits, exponent⟩

/-- The shortest decimal that rounds to a positive count of units. -/
def shortest (tie : Tie) (units : Nat) : Decimal :=
  let found := firstGridPoint tie (interval units) (leadingPower units (powerAbove units.log2) 3) 17
  withoutTrailingZeros found.digits found.exponent 17

end Number

end ScopeQuery
