import StackScript.Binary32.Basic

/-!
# Single-precision arithmetic

Each operation computes its exact result in quanta and rounds it once. The cases without an exact
result are those of IEEE 754: infinities of opposite sign have no sum, and `0 · ∞`, `0 / 0` and
`∞ / ∞` are not a number.
-/

namespace StackScript.Binary32

/-- A whole number, rounded to the format. -/
def ofInt (n : Int) : Binary32 :=
  .signed (n < 0) (nearestRank (n.natAbs * unit) 1)

/-- The number with the opposite sign. -/
def neg : Binary32 → Binary32
  | .nan => .nan
  | .signed s a => .signed (!s) a

/-- A finite number in quanta. -/
def signedUnits (negative : Bool) (rank : Nat) : Int :=
  if negative then -(units rank : Int) else units rank

/-- A whole number of quanta, rounded to the format; zero takes the given sign. -/
def ofUnits (total : Int) (zeroNegative : Bool) : Binary32 :=
  if total = 0 then .signed zeroNegative 0 else .signed (total < 0) (nearestRank total.natAbs 1)

/-- The rounded sum. An exact zero is negative only if both terms are. -/
def add : Binary32 → Binary32 → Binary32
  | .signed s a, .signed t b =>
    if a = infinite then
      if b = infinite ∧ s ≠ t then .nan else .signed s a
    else if b = infinite then .signed t b
    else ofUnits (signedUnits s a + signedUnits t b) (s && t)
  | _, _ => .nan

/-- The rounded difference. -/
def sub (x y : Binary32) : Binary32 :=
  add x y.neg

/-- The rounded product. -/
def mul : Binary32 → Binary32 → Binary32
  | .signed s a, .signed t b =>
    if a = infinite ∨ b = infinite then
      if a.val = 0 ∨ b.val = 0 then .nan else .signed (s != t) infinite
    else .signed (s != t) (nearestRank (units a * units b) unit)
  | _, _ => .nan

/-- The rounded quotient. -/
def div : Binary32 → Binary32 → Binary32
  | .signed s a, .signed t b =>
    if a = infinite then
      if b = infinite then .nan else .signed (s != t) infinite
    else if b = infinite then .signed (s != t) 0
    else if b.val = 0 then
      if a.val = 0 then .nan else .signed (s != t) infinite
    else .signed (s != t) (nearestRank (units a * unit) (units b))
  | _, _ => .nan

end StackScript.Binary32
