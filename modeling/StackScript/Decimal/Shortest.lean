import StackScript.Decimal.Basic

/-!
# Shortest decimals

Among the decimals that read back as a given single-precision number, the shortest lie on the
coarsest grid of powers of ten that holds any, and of those the one nearest to the number is
taken. Only the two grid points around the number can qualify. The finest grid searched holds the
number itself, so the search always succeeds.
-/

namespace StackScript.Decimal

/-- The decimal reads back as the magnitude with this rank. -/
def readsBack (rank coefficient : Nat) (exponent : Int) : Bool :=
  ({ coefficient, exponent : Decimal }).nearestRank.val = rank

/-- The coefficient on the grid `10 ^ exponent` that reads back as the magnitude with this rank. Of
two the nearer is taken, and the upper one if both are equally near. -/
def gridCoefficient? (rank : Nat) (exponent : Int) : Option Nat :=
  let num := Binary32.units rank * Nat.pow 10 (-exponent).toNat
  let den := Binary32.unit * Nat.pow 10 exponent.toNat
  let lower := num / den
  let lowerReads := readsBack rank lower exponent
  let upperReads := readsBack rank (lower + 1) exponent
  if lowerReads && (2 * (num % den) < den || !upperReads) then some lower
  else if upperReads then some (lower + 1)
  else none

/-- The grids from the coarsest that can matter to the one on which every quantum lies. -/
def gridExponents : List Int :=
  (List.range 188).map fun (i : Nat) => (38 : Int) - i

/-- The shortest decimal for a finite magnitude other than zero. -/
def shortest (rank : Nat) : Decimal :=
  (gridExponents.findSome? fun exponent =>
    (gridCoefficient? rank exponent).map fun coefficient => { coefficient, exponent }).getD
      { coefficient := 0 }

end StackScript.Decimal
