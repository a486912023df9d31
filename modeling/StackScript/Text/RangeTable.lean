/-!
# Tables of character ranges

A character property is given by the ranges of code points that have it, in ascending order. The
properties of this library are `Text.isAlphabetic`, `Text.isBlank`, `Text.isCombining` and
`Text.isUnprintable`, each in a module of its own.
-/

namespace StackScript.Text

/-- Ranges of code points, both ends included. -/
abbrev RangeTable := List (Nat × Nat)

/-- The character lies in one of the ranges. -/
def RangeTable.contains (table : RangeTable) (c : Char) : Bool :=
  table.any fun (first, last) => first ≤ c.toNat && c.toNat ≤ last

theorem RangeTable.contains_iff {table : RangeTable} {c : Char} :
    table.contains c = true ↔ ∃ r ∈ table, r.1 ≤ c.toNat ∧ c.toNat ≤ r.2 := by
  simp [RangeTable.contains]

end StackScript.Text
