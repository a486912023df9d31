import StackScript.Decimal.Shortest

/-!
# Texts of single-precision numbers

Two texts are written from the same shortest digits. The plain one is always positional and writes
a whole number without a point. The detailed one shows that the number is not an integer: it keeps
`.0`, and very small and very large numbers are in scientific notation.
-/

namespace StackScript.Decimal

/-- Positional digits of `coefficient · 10 ^ exponent`; `whole` is put behind a number without
fraction. -/
def positional (coefficient : Nat) (exponent : Int) (whole : List Char) : List Char :=
  let digits := Nat.toDigits 10 coefficient
  let places := (-exponent).toNat
  if places = 0 then digits ++ List.replicate exponent.toNat '0' ++ whole
  else if places < digits.length then
    digits.take (digits.length - places) ++ '.' :: digits.drop (digits.length - places)
  else '0' :: '.' :: List.replicate (places - digits.length) '0' ++ digits

/-- Scientific digits: a point behind the first digit if others follow, then the exponent. -/
def scientific (coefficient : Nat) (exponent : Int) : List Char :=
  let digits := Nat.toDigits 10 coefficient
  let power := exponent + digits.length - 1
  digits.take 1 ++ (if digits.length = 1 then [] else '.' :: digits.drop 1) ++
    'e' :: (toString power).toList

end StackScript.Decimal

namespace StackScript.Binary32

/-- The least magnitude whose detailed text is positional, except zero. -/
def positionalFrom : Binary32 := Decimal.toBinary32 { coefficient := 1, exponent := -4 }

/-- The least magnitude above which the detailed text is scientific again. -/
def positionalBelow : Binary32 := Decimal.toBinary32 { coefficient := 1, exponent := 16 }

/-- A text with a minus in front of it if the number is negative. -/
def withSign (negative : Bool) (text : List Char) : String :=
  String.ofList (if negative then '-' :: text else text)

/-- The plain text: shortest digits, always positional. -/
def display : Binary32 → String
  | .nan => "NaN"
  | .signed negative rank =>
    withSign negative <|
      if rank = infinite then ['i', 'n', 'f']
      else if rank.val = 0 then ['0']
      else
        let d := Decimal.shortest rank
        Decimal.positional d.coefficient d.exponent []

/-- The detailed text: shortest digits with `.0` for whole numbers, scientific below `10⁻⁴` and
from `10¹⁶` on. -/
def debug : Binary32 → String
  | .nan => "NaN"
  | .signed negative rank =>
    withSign negative <|
      if rank = infinite then ['i', 'n', 'f']
      else if rank.val = 0 then ['0', '.', '0']
      else
        let d := Decimal.shortest rank
        if positionalFrom.rank ≤ rank ∧ rank < positionalBelow.rank then
          Decimal.positional d.coefficient d.exponent ['.', '0']
        else Decimal.scientific d.coefficient d.exponent

end StackScript.Binary32
