/-!
# Binary64 numbers

A finite binary64 value is a whole number of units of 2 to the power -1074, so
it is kept as its sign and that count. Order and equality then are those of the
integers, and rounding is a division of natural numbers. Two zeros exist, equal
in order and told apart by their sign alone.
-/

namespace ScopeQuery

/-- A binary64 value. The count of a finite one is always a result of
`Number.roundUnits`. -/
inductive Number where
  /-- The value that is equal to nothing, itself included. -/
  | nan
  /-- Beyond every finite value, on the side its sign says. -/
  | infinite (negative : Bool)
  /-- A signed count of units of 2 to the power -1074. -/
  | finite (negative : Bool) (units : Nat)
deriving DecidableEq

namespace Number

/-- A power of two. -/
def twoPower (n : Nat) : Nat := Nat.pow 2 n

/-- A power of ten. -/
def tenPower (n : Nat) : Nat := Nat.pow 10 n

/-- The number of units in one. -/
def unitsPerOne : Nat := twoPower 1074

/-- The first count that is too large for a finite value. -/
def overflowUnits : Nat := twoPower 2098

/-- A quotient rounded to the nearest whole number, a half to the even one. -/
def roundDiv (num den : Nat) : Nat :=
  let quotient := num / den
  let twice := 2 * (num % den)
  if twice < den then quotient
  else if den < twice then quotient + 1
  else if quotient % 2 = 0 then quotient else quotient + 1

/-- A quotient of units rounded to 53 significant bits. -/
def roundUnits (num den : Nat) : Nat :=
  let step := twoPower ((num / den).log2 - 52)
  roundDiv num (den * step) * step

/-- The value nearest to a quotient of units; too large a one is infinite. -/
def ofUnits (negative : Bool) (num den : Nat) : Number :=
  let units := roundUnits num den
  if overflowUnits ≤ units then .infinite negative else .finite negative units

/-- The value nearest to a natural number. -/
def ofNat (n : Nat) : Number := ofUnits false (n * unitsPerOne) 1

/-- The value nearest to `digits * 10 ^ exponent`. Exponents so far out that
the result is zero or infinite anyway are answered without the power. -/
def ofDecimal (negative : Bool) (digits : Nat) (exponent : Int) : Number :=
  if digits = 0 then .finite negative 0
  else if 400 < exponent then .infinite negative
  else if 0 ≤ exponent then ofUnits negative (digits * tenPower exponent.toNat * unitsPerOne) 1
  else if (digits.log2 : Int) + 1 + 3 * exponent < -1080 then .finite negative 0
  else ofUnits negative (digits * unitsPerOne) (tenPower (-exponent).toNat)

/-- The count of a finite value with its sign, the same for both zeros. -/
def signedUnits (negative : Bool) (units : Nat) : Int := if negative then -units else units

/-- The order of two values; the one that equals nothing has none. -/
def compare : Number → Number → Option Ordering
  | .nan, _ => none
  | _, .nan => none
  | .infinite left, .infinite right =>
    some (if left = right then .eq else if left then .lt else .gt)
  | .infinite left, .finite _ _ => some (if left then .lt else .gt)
  | .finite _ _, .infinite right => some (if right then .gt else .lt)
  | .finite left m, .finite right n =>
    some (Ord.compare (signedUnits left m) (signedUnits right n))

/-- Numeric equality: the two zeros are equal, and NaN differs from itself. -/
def eq (left right : Number) : Bool := compare left right == some .eq

/-- Two numbers are equal in either order. -/
theorem eq_swap (left right : Number) : left.eq right = right.eq left := by
  cases left with
  | nan => cases right <;> rfl
  | infinite left =>
    cases right with
    | nan => rfl
    | infinite right => cases left <;> cases right <;> rfl
    | finite right n => cases left <;> rfl
  | finite left m =>
    cases right with
    | nan => rfl
    | infinite right => cases right <;> rfl
    | finite right n =>
      rw [Bool.eq_iff_iff]
      simp only [eq, compare, beq_iff_eq, Option.some.injEq, Std.LawfulEqOrd.compare_eq_iff_eq]
      exact ⟨Eq.symm, Eq.symm⟩

/-- Both zeros. -/
def isZero : Number → Bool
  | .finite _ units => units == 0
  | _ => false

/-- The other sign. -/
def negated : Number → Number
  | .nan => .nan
  | .infinite negative => .infinite (!negative)
  | .finite negative units => .finite (!negative) units

/-- The product, rounded. -/
def mul : Number → Number → Number
  | .nan, _ => .nan
  | _, .nan => .nan
  | .infinite left, .infinite right => .infinite (left != right)
  | .infinite left, .finite right units =>
    if units = 0 then .nan else .infinite (left != right)
  | .finite left units, .infinite right =>
    if units = 0 then .nan else .infinite (left != right)
  | .finite left m, .finite right n => ofUnits (left != right) (m * n) unitsPerOne

/-- The count of a magnitude divided by another, rounded. -/
def divUnits (num den : Nat) : Nat := roundUnits (num * unitsPerOne) den

end Number

end ScopeQuery
