import Mathlib.Tactic.Ring
import ScopeQuery.Number.Basic

/-!
# Whole numbers as binary64 numbers

A binary64 number has 53 significant bits, so a whole number is kept as the nearest multiple of
the power of two that leaves it so many. Whole numbers of 64 bits are never too large. One is kept
as it is exactly when that power divides it, which holds up to 2 to the 53.
-/

namespace ScopeQuery.Number

/-! ### Rounding divisions -/

section Division

variable {num den : Nat}

/-- A rounded quotient is off by half at most. -/
theorem roundDiv_close (num : Nat) (hden : 0 < den) :
    2 * ((roundDiv num den * den : Nat) - (num : Int)).natAbs ≤ den := by
  have hquotient := Nat.div_add_mod num den
  have hremainder := Nat.mod_lt num hden
  have hbelow : num / den * den = den * (num / den) := Nat.mul_comm _ _
  have habove : (num / den + 1) * den = den * (num / den) + den := by ring
  unfold roundDiv
  dsimp only
  -- The quotient is taken from below unless the remainder is more than half, or half of an odd one.
  split
  · omega
  · split
    · omega
    · split <;> omega

/-- A quotient without a remainder is not rounded. -/
theorem roundDiv_mul_of_dvd (hden : 0 < den) (h : den ∣ num) : roundDiv num den * den = num := by
  have hrest : num % den = 0 := Nat.mod_eq_zero_of_dvd h
  rw [roundDiv, hrest, if_pos (by omega), Nat.div_mul_cancel h]

/-- A quotient is rounded alike when both of its parts are multiplied. -/
theorem roundDiv_mul_mul (num den : Nat) {factor : Nat} (hfactor : 0 < factor) :
    roundDiv (num * factor) (den * factor) = roundDiv num den := by
  have hless (a b : Nat) : 2 * (a * factor) < b * factor ↔ 2 * a < b := by
    rw [← Nat.mul_assoc, Nat.mul_lt_mul_right hfactor]
  have hmore (a b : Nat) : b * factor < 2 * (a * factor) ↔ b < 2 * a := by
    rw [← Nat.mul_assoc, Nat.mul_lt_mul_right hfactor]
  simp only [roundDiv, Nat.mul_div_mul_right _ _ hfactor, Nat.mul_mod_mul_right, hless, hmore]

end Division

/-! ### Rounding whole numbers -/

/-- The power of two that the whole numbers near to one are multiples of, where they have 53
significant bits. -/
def grain (n : Nat) : Nat := twoPower (n.log2 - 52)

/-- A power of two is positive. -/
theorem twoPower_pos (k : Nat) : 0 < twoPower k := Nat.two_pow_pos k

/-- Powers of two are multiplied. -/
theorem twoPower_add (j k : Nat) : twoPower (j + k) = twoPower j * twoPower k := Nat.pow_add 2 j k

/-- Powers of two grow. -/
theorem twoPower_le {j k : Nat} (h : j ≤ k) : twoPower j ≤ twoPower k :=
  Nat.pow_le_pow_right (by decide) h

/-- A whole number is rounded to a multiple of its grain. -/
theorem roundUnits_one (n : Nat) : roundUnits n 1 = roundDiv n (grain n) * grain n := by
  rw [roundUnits, Nat.div_one, Nat.one_mul, grain]

/-- A multiple of its own grain is not rounded. -/
theorem roundUnits_of_dvd {n : Nat} (h : grain n ∣ n) : roundUnits n 1 = n := by
  rw [roundUnits_one]
  exact roundDiv_mul_of_dvd (twoPower_pos _) h

/-- A power of two as a factor adds its exponent to the logarithm. -/
theorem log2_mul_twoPower {n : Nat} (hn : n ≠ 0) (k : Nat) :
    (n * twoPower k).log2 = n.log2 + k := by
  have hpositive := twoPower_pos k
  have hlow : 2 ^ n.log2 * twoPower k ≤ n * twoPower k :=
    Nat.mul_le_mul_right _ (Nat.log2_self_le hn)
  have hhigh : n * twoPower k < 2 ^ (n.log2 + 1) * twoPower k :=
    Nat.mul_lt_mul_of_pos_right Nat.lt_log2_self hpositive
  rw [Nat.log2_eq_iff (Nat.mul_ne_zero hn hpositive.ne'), Nat.add_right_comm, Nat.pow_add _ _ k,
    Nat.pow_add _ _ k]
  exact ⟨hlow, hhigh⟩

/-- A whole number of large units is rounded as the number is. -/
theorem roundUnits_mul_twoPower (n : Nat) {k : Nat} (hk : 52 ≤ k) :
    roundUnits (n * twoPower k) 1 = roundUnits n 1 * twoPower k := by
  by_cases hn : n = 0
  · subst hn
    rw [Nat.zero_mul, roundUnits_of_dvd (Nat.dvd_zero _), Nat.zero_mul]
  · have hlog := log2_mul_twoPower hn k
    by_cases hlarge : 52 ≤ n.log2
    · have hgrain : grain (n * twoPower k) = grain n * twoPower k := by
        rw [grain, grain, hlog, ← twoPower_add]
        congr 1
        omega
      rw [roundUnits_one, roundUnits_one, hgrain, roundDiv_mul_mul _ _ (twoPower_pos k),
        Nat.mul_assoc]
    · -- A number of at most 53 bits is not rounded, in whatever units.
      have hsmall : grain n ∣ n := by
        have hone : grain n = 1 := by
          rw [grain, Nat.sub_eq_zero_of_le (by omega)]
          rfl
        rw [hone]
        exact Nat.one_dvd n
      have hsplit : twoPower k = grain (n * twoPower k) * twoPower (52 - n.log2) := by
        rw [grain, hlog, ← twoPower_add]
        congr 1
        omega
      have hunits : grain (n * twoPower k) ∣ n * twoPower k :=
        Dvd.dvd.mul_left ⟨_, hsplit⟩ n
      rw [roundUnits_of_dvd hunits, roundUnits_of_dvd hsmall]

/-- A whole number and what it is kept as: the nearest multiple of its grain. -/
structure Keeps (n kept : Nat) : Prop where
  /-- It is a multiple of the grain. -/
  granular : grain n ∣ kept
  /-- It is off by half of the grain at most. -/
  close : 2 * ((kept : Int) - n).natAbs ≤ grain n

/-- A whole number is kept as what it is rounded to. -/
theorem keeps_roundUnits (n : Nat) : Keeps n (roundUnits n 1) := by
  rw [roundUnits_one]
  exact ⟨Nat.dvd_mul_left _ _, roundDiv_close n (twoPower_pos _)⟩

/-- A whole number is kept as it is exactly when its grain divides it. -/
theorem Keeps.eq_iff {n kept : Nat} (h : Keeps n kept) : kept = n ↔ grain n ∣ n := by
  constructor
  · rintro rfl
    exact h.granular
  · rintro hdvd
    have hgrain : (grain n : Int) ∣ (kept : Int) - n :=
      Int.dvd_sub (Int.natCast_dvd_natCast.2 h.granular) (Int.natCast_dvd_natCast.2 hdvd)
    have hpositive : 0 < grain n := twoPower_pos _
    have hclose := h.close
    have hzero : (kept : Int) - n = 0 := by
      refine Int.eq_zero_of_abs_lt_dvd hgrain ?_
      rw [Int.abs_eq_natAbs]
      omega
    omega

/-- A whole number up to 2 to the 53 is a multiple of its grain. -/
theorem grain_dvd_of_le {n : Nat} (h : n ≤ 2 ^ 53) : grain n ∣ n := by
  by_cases htop : n = 2 ^ 53
  · subst htop
    exact ⟨2 ^ 52, by decide +kernel⟩
  · have hlog : n.log2 - 52 = 0 := by
      by_cases hn : n = 0
      · subst hn
        rfl
      · have hbound := (Nat.log2_lt hn).2 (Nat.lt_of_le_of_ne h htop)
        omega
    rw [grain, hlog]
    exact Nat.one_dvd n

/-- A whole number as a binary64 number of just that value. -/
def whole (n : Nat) : Number := .finite false (n * unitsPerOne)

/-- Different whole numbers are different values. -/
theorem whole_inj {m n : Nat} : whole m = whole n ↔ m = n := by
  rw [whole, whole, finite.injEq, and_iff_right rfl]
  exact Nat.mul_left_inj (twoPower_pos 1074).ne'

/-- A whole number of 64 bits is kept within the range of finite numbers. -/
theorem ofNat_eq {n : Nat} (h : n < 2 ^ 64) : ofNat n = whole (roundUnits n 1) := by
  have hround : roundUnits (n * unitsPerOne) 1 = roundUnits n 1 * unitsPerOne :=
    roundUnits_mul_twoPower n (by decide)
  have hdouble : roundUnits n 1 ≤ 2 * n := by
    by_cases hn : n = 0
    · subst hn
      exact Nat.le_of_eq (roundUnits_of_dvd (Nat.dvd_zero _))
    · have hgrain : grain n ≤ n :=
        (twoPower_le (Nat.sub_le _ _)).trans (Nat.log2_self_le hn)
      have hclose := (keeps_roundUnits n).close
      omega
  have hfits : roundUnits n 1 * unitsPerOne < overflowUnits := by
    have hpower : overflowUnits = twoPower 1024 * unitsPerOne := by
      rw [overflowUnits, unitsPerOne, ← twoPower_add]
    have hbits : roundUnits n 1 < twoPower 65 := by
      have hvalue : twoPower 65 = 2 ^ 65 := rfl
      omega
    rw [hpower]
    exact Nat.mul_lt_mul_of_pos_right (hbits.trans_le (twoPower_le (by decide)))
      (twoPower_pos 1074)
  rw [ofNat, ofUnits, hround]
  exact if_neg (Nat.not_le.2 hfits)

/-- A whole number of 64 bits that its grain divides is kept as it is. -/
theorem ofNat_of_dvd {n : Nat} (h : n < 2 ^ 64) (hdvd : grain n ∣ n) : ofNat n = whole n := by
  rw [ofNat_eq h, roundUnits_of_dvd hdvd]

end ScopeQuery.Number
