import StackScript.Decimal.Shortest
import StackScript.Proofs.Decimal.Rounding

/-!
# The shortest decimal reads back

Whatever grid the search stops at, the decimal that it finds there reads back as the number; and it stops,
because the finest grid holds the number itself.

* `Decimal.readsBack_finest`: on the grid `10⁻¹⁴⁹` every finite magnitude is exact;
* `Decimal.exists_shortest`: so the search ends with a decimal that reads back.
-/

namespace StackScript.Decimal

open Binary32 (infinityRank unit units)

theorem readsBack_iff {rank coefficient : Nat} {exponent : Int} :
    readsBack rank coefficient exponent = true ↔
      ({ coefficient, exponent : Decimal }).nearestRank.val = rank :=
  decide_eq_true_iff

theorem readsBack_of_gridCoefficient? {rank coefficient : Nat} {exponent : Int}
    (h : gridCoefficient? rank exponent = some coefficient) :
    readsBack rank coefficient exponent = true := by
  simp only [gridCoefficient?] at h
  split at h
  · rename_i hlower
    cases h
    exact (Bool.and_eq_true_iff.1 hlower).1
  · split at h
    · rename_i hupper
      cases h
      exact hupper
    · cases h

/-- A magnitude on the finest grid. -/
def finestCoefficient (rank : Nat) : Nat :=
  units rank * 5 ^ 149

theorem finestCoefficient_mul_unit (rank : Nat) :
    finestCoefficient rank * unit = units rank * 10 ^ 149 := by
  rw [finestCoefficient, unit, Nat.pow_eq, Nat.mul_assoc, ← Nat.mul_pow]

theorem readsBack_finest {rank : Nat} (hfin : rank ≤ infinityRank) :
    readsBack rank (finestCoefficient rank) (-149) = true := by
  have hscale := Binary32.nearestRank_mul_right (units rank) 1 (k := 10 ^ 149) (Nat.pow_pos (by decide))
  have hnum : numerator { coefficient := finestCoefficient rank, exponent := -149 } =
      units rank * 10 ^ 149 := by
    rw [numerator, ← finestCoefficient_mul_unit]
    exact congrArg (· * unit) (Nat.mul_one _)
  have hden : denominator { coefficient := finestCoefficient rank, exponent := -149 } = 1 * 10 ^ 149 :=
    (Nat.one_mul _).symm
  rw [readsBack_iff, nearestRank_eq, hnum, hden, hscale, Binary32.val_nearestRank_units hfin]

theorem gridCoefficient?_finest {rank : Nat} (hfin : rank ≤ infinityRank) :
    gridCoefficient? rank (-149) = some (finestCoefficient rank) := by
  have hunit : 0 < unit := Nat.two_pow_pos 149
  have hnum : units rank * Nat.pow 10 (-(-149 : Int)).toNat = finestCoefficient rank * unit :=
    (finestCoefficient_mul_unit rank).symm
  have hden : unit * Nat.pow 10 (-149 : Int).toNat = unit := Nat.mul_one unit
  simp only [gridCoefficient?, hnum, hden, Nat.mul_div_cancel _ hunit, Nat.mul_mod_left,
    readsBack_finest hfin]
  simp [hunit]

/-- The search ends on a grid, with a decimal that reads back. -/
theorem exists_shortest {rank : Nat} (hfin : rank ≤ infinityRank) :
    ∃ coefficient exponent, shortest rank = { coefficient, exponent } ∧
      readsBack rank coefficient exponent = true := by
  cases hfound : gridExponents.findSome? fun exponent =>
      (gridCoefficient? rank exponent).map fun coefficient =>
        ({ coefficient, exponent } : Decimal) with
  | none =>
    have hnone := List.findSome?_eq_none_iff.1 hfound (-149) (by decide)
    rw [gridCoefficient?_finest hfin] at hnone
    cases hnone
  | some d =>
    obtain ⟨exponent, -, hd⟩ := List.exists_of_findSome?_eq_some hfound
    obtain ⟨coefficient, hcoef, rfl⟩ := Option.map_eq_some_iff.1 hd
    exact ⟨coefficient, exponent, by rw [shortest, hfound, Option.getD_some],
      readsBack_of_gridCoefficient? hcoef⟩

end StackScript.Decimal
