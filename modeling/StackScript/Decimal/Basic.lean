import StackScript.Binary32.Basic

/-!
# Decimal numbers

A decimal number is a sign, a natural coefficient and a power of ten. Its text is an optional sign,
digits with an optional point among or beside them, and an optional exponent:

* `Decimal.parse?` reads exactly this form;
* `Decimal.toBinary32` rounds a decimal number to single precision.
-/

namespace StackScript

/-- The number `± coefficient · 10 ^ exponent`. -/
structure Decimal where
  negative : Bool := false
  coefficient : Nat
  exponent : Int := 0
deriving DecidableEq, Repr

namespace Decimal

/-- The natural number that a list of digits spells. -/
def natOfDigits (cs : List Char) : Nat :=
  cs.foldl (fun n c => 10 * n + (c.toNat - '0'.toNat)) 0

/-- An optional sign, and whether it is a minus. -/
def takeSign : List Char → Bool × List Char
  | '-' :: rest => (true, rest)
  | '+' :: rest => (false, rest)
  | cs => (false, cs)

/-- The leading digits, and what follows them. -/
def takeDigits (cs : List Char) : List Char × List Char :=
  (cs.takeWhile Char.isDigit, cs.dropWhile Char.isDigit)

/-- The digits behind a point if there is one, and what follows them. -/
def takeFraction : List Char → List Char × List Char
  | '.' :: rest => takeDigits rest
  | cs => ([], cs)

/-- An exponent that is this large takes no more digits. -/
def exponentFull : Nat := 0x10000

/-- The exponent that a list of digits spells. It is exact while it is small; one that has reached
`exponentFull` stays as it is, whatever digits follow. -/
def exponentOfDigits (cs : List Char) : Nat :=
  cs.foldl (fun n c => if n < exponentFull then 10 * n + (c.toNat - '0'.toNat) else n) 0

/-- The whole of an exponent part: nothing, or a mark, an optional sign and digits. -/
def parseExponent? : List Char → Option Int
  | [] => some 0
  | mark :: rest =>
    if mark = 'e' ∨ mark = 'E' then
      let (negative, rest) := takeSign rest
      if rest ≠ [] ∧ rest.all Char.isDigit then
        some (if negative then -(exponentOfDigits rest : Int) else exponentOfDigits rest)
      else none
    else none

/-- Reads the text of a decimal number; there must be a digit before or behind the point. -/
def parse? (cs : List Char) : Option Decimal :=
  let (negative, cs) := takeSign cs
  let (whole, cs) := takeDigits cs
  let (fraction, cs) := takeFraction cs
  if whole = [] ∧ fraction = [] then none
  else
    (parseExponent? cs).map fun exponent =>
      { negative, coefficient := natOfDigits (whole ++ fraction),
        exponent := exponent - fraction.length }

/-- From this power of ten on, every coefficient but zero is beyond the format. -/
def greatestPower : Nat := 39

/-- A coefficient below `2 ^ (n + 1)`, divided by this power of ten, is less than half a
quantum. -/
def leastPower (n : Nat) : Nat := n + 47

/-- The rank of the nearest magnitude, a tie going to the even one. Powers of ten beyond the reach
of the format are cut off, which changes no result. -/
def nearestRank (d : Decimal) : Fin (Binary32.infinityRank + 1) :=
  Binary32.nearestRank
    (d.coefficient * Nat.pow 10 (min d.exponent.toNat greatestPower) * Binary32.unit)
    (Nat.pow 10 (min (-d.exponent).toNat (leastPower d.coefficient.log2)))

/-- The nearest single-precision number. -/
def toBinary32 (d : Decimal) : Binary32 :=
  .signed d.negative d.nearestRank

end Decimal

end StackScript
