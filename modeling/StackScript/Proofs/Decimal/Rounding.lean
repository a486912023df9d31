import StackScript.Decimal.Basic
import StackScript.Proofs.Binary32.Rounding

/-!
# Rounding a decimal

Before a decimal is rounded its power of ten is cut off, so that no number grows far beyond the format.
This changes no result: where a great power is cut off the number is infinite before and after, and where
a small one is cut off it is zero.

* `Decimal.nearestRank_eq`: the rank is that of the exact value;
* `Decimal.isNearest_nearestRank`: so it is the nearest, a tie going to the even one.
-/

namespace StackScript.Decimal

open Binary32 (infinityRank unit units)

/-- The value of a decimal in quanta, without its sign, as a fraction. -/
def numerator (d : Decimal) : Nat :=
  d.coefficient * 10 ^ d.exponent.toNat * unit

def denominator (d : Decimal) : Nat :=
  10 ^ (-d.exponent).toNat

theorem denominator_pos (d : Decimal) : 0 < d.denominator :=
  Nat.pow_pos (by decide)

/-- From the greatest power on, every coefficient but zero is beyond the format. -/
theorem units_infinityRank_le {coefficient power : Nat} (hc : 0 < coefficient)
    (hp : greatestPower ≤ power) : units infinityRank * 1 ≤ coefficient * 10 ^ power * unit :=
  calc units infinityRank * 1 ≤ 10 ^ greatestPower * unit := by decide +kernel
    _ ≤ 10 ^ power * unit := Nat.mul_le_mul_right _ (Nat.pow_le_pow_right (by decide) hp)
    _ ≤ coefficient * 10 ^ power * unit :=
      Nat.mul_le_mul_right _ (Nat.le_mul_of_pos_left _ hc)

theorem nearestRank_of_greatestPower_le {coefficient power : Nat} (h : greatestPower ≤ power) :
    Binary32.nearestRank (coefficient * 10 ^ power * unit) 1 =
      Binary32.nearestRank (coefficient * 10 ^ greatestPower * unit) 1 := by
  rcases Nat.eq_zero_or_pos coefficient with rfl | hc
  · simp only [Nat.zero_mul]
  · rw [Binary32.nearestRank_of_le Nat.one_pos (units_infinityRank_le hc h),
      Binary32.nearestRank_of_le Nat.one_pos (units_infinityRank_le hc (Nat.le_refl _))]

/-- From the least power on, a coefficient is less than half a quantum. -/
theorem two_mul_lt_of_leastPower_le {coefficient power : Nat}
    (h : leastPower coefficient.log2 ≤ power) : 2 * (coefficient * unit) < 10 ^ power := by
  obtain ⟨n, hn⟩ : ∃ n, n = coefficient.log2 := ⟨_, rfl⟩
  have hc : coefficient < 2 ^ (n + 1) := hn ▸ Nat.lt_log2_self
  have htwo : coefficient * 2 ^ 150 < 2 ^ (n + 47) * 2 ^ 104 :=
    calc coefficient * 2 ^ 150 < 2 ^ (n + 1) * 2 ^ 150 :=
          Nat.mul_lt_mul_of_pos_right hc (Nat.two_pow_pos _)
      _ = 2 ^ (n + 47) * 2 ^ 104 := by rw [← Nat.pow_add, ← Nat.pow_add, Nat.add_assoc]
  have hfive : 2 ^ 104 ≤ 5 ^ (n + 47) :=
    calc 2 ^ 104 ≤ 5 ^ 47 := by decide
      _ ≤ 5 ^ (n + 47) := Nat.pow_le_pow_right (by decide) (Nat.le_add_left _ _)
  calc 2 * (coefficient * unit) = coefficient * 2 ^ 150 := by
        rw [unit, Nat.pow_eq]
        ring
    _ < 2 ^ (n + 47) * 2 ^ 104 := htwo
    _ ≤ 2 ^ (n + 47) * 5 ^ (n + 47) := Nat.mul_le_mul_left _ hfive
    _ = 10 ^ (n + 47) := by rw [← Nat.mul_pow]
    _ ≤ 10 ^ power := Nat.pow_le_pow_right (by decide) (hn ▸ h)

theorem nearestRank_of_leastPower_le {coefficient power : Nat}
    (h : leastPower coefficient.log2 ≤ power) :
    Binary32.nearestRank (coefficient * unit) (10 ^ power) =
      Binary32.nearestRank (coefficient * unit) (10 ^ leastPower coefficient.log2) := by
  refine Fin.ext ?_
  rw [Binary32.nearestRank_of_lt (two_mul_lt_of_leastPower_le h),
    Binary32.nearestRank_of_lt (two_mul_lt_of_leastPower_le (Nat.le_refl _))]

/-- That powers of ten are cut off changes no result. -/
theorem nearestRank_eq (d : Decimal) :
    d.nearestRank = Binary32.nearestRank d.numerator d.denominator := by
  rw [nearestRank, numerator, denominator, Nat.pow_eq, Nat.pow_eq]
  rcases Int.le_total 0 d.exponent with hexp | hexp
  · -- a whole number
    have hden : (-d.exponent).toNat = 0 := by omega
    rw [hden, Nat.zero_min, Nat.pow_zero]
    rcases Nat.le_total d.exponent.toNat greatestPower with hle | hge
    · rw [Nat.min_eq_left hle]
    · rw [Nat.min_eq_right hge, nearestRank_of_greatestPower_le hge]
  · -- a fraction
    have hnum : d.exponent.toNat = 0 := by omega
    rw [hnum, Nat.zero_min, Nat.pow_zero, Nat.mul_one]
    rcases Nat.le_total (-d.exponent).toNat (leastPower d.coefficient.log2) with hle | hge
    · rw [Nat.min_eq_left hle]
    · rw [Nat.min_eq_right hge, nearestRank_of_leastPower_le hge]

/-- A decimal is rounded to the nearest rank. -/
theorem isNearest_nearestRank (d : Decimal) :
    Binary32.IsNearest d.numerator d.denominator d.nearestRank.val :=
  nearestRank_eq d ▸ Binary32.isNearest_nearestRank d.numerator d.denominator_pos

end StackScript.Decimal
