/-!
# Single-precision numbers

A number of the IEEE 754 format binary32 is a sign and a magnitude. The magnitudes are numbered in
ascending order from zero to infinity; this number, the *rank*, is what the low 31 bits of the
encoding spell. Every finite magnitude is a whole number of quanta `2⁻¹⁴⁹`, so all exact
arithmetic on them is arithmetic of natural numbers:

* `Binary32.units` turns a rank into quanta;
* `Binary32.nearestRank` turns a fraction of quanta into the nearest rank, a tie going to the
  even one.
-/

namespace StackScript

/-- The rank of infinity, one above the greatest finite magnitude. -/
def Binary32.infinityRank : Nat := 0x7f800000

/-- A single-precision number. All encodings that are not a number are one value. -/
inductive Binary32 where
  | nan
  | signed (negative : Bool) (rank : Fin (Binary32.infinityRank + 1))
deriving DecidableEq

namespace Binary32

/-- The number of quanta to which a unit corresponds. -/
def unit : Nat := Nat.pow 2 149

/-- How many ranks share one spacing. -/
def binade : Nat := 0x800000

/-- The magnitude of a rank in quanta. Ranks below `2 * binade` are one quantum apart; from there
on the spacing doubles with each binade. At `infinityRank` this is the least magnitude too large
for the format. -/
def units (rank : Nat) : Nat :=
  let step := rank / binade - 1
  (rank - step * binade) * Nat.pow 2 step

/-- The natural number nearest to `num / den`, a tie going to the even one. -/
def roundQuotient (num den : Nat) : Nat :=
  let quotient := num / den
  let twice := 2 * (num % den)
  if twice < den ∨ (twice = den ∧ quotient % 2 = 0) then quotient else quotient + 1

/-- The rank of the magnitude nearest to `num / den` quanta, a tie going to the even rank. What
rounds above the greatest finite magnitude is infinite. -/
def nearestRank (num den : Nat) : Fin (infinityRank + 1) :=
  let step := (num / den).log2 - 23
  ⟨min (step * binade + roundQuotient num (den * Nat.pow 2 step)) infinityRank, by omega⟩

/-- The rank of infinity as a bounded number. -/
def infinite : Fin (infinityRank + 1) := Fin.last infinityRank

/-- The rank of a number; what is none ranks with infinity. -/
def rank : Binary32 → Nat
  | .nan => infinityRank
  | .signed _ rank => rank

/-- The bit of an encoding that marks a negative number. -/
def signBit : Nat := 0x80000000

/-- The number with the given encoding. -/
def ofBits (bits : UInt32) : Binary32 :=
  let rank := bits.toNat % signBit
  if h : rank < infinityRank + 1 then .signed (signBit ≤ bits.toNat) ⟨rank, h⟩ else .nan

/-- The encoding of a number; the value that is none has the quiet encoding without payload. -/
def toBits : Binary32 → UInt32
  | .nan => 0x7fc00000
  | .signed negative rank => UInt32.ofNat (rank.val + if negative then signBit else 0)

/-- Equality of numbers: the two zeros are equal, and what is not a number equals nothing. -/
def numEq : Binary32 → Binary32 → Bool
  | .signed s a, .signed t b => a = b && (s = t || a.val = 0)
  | _, _ => false

end Binary32

end StackScript
