import StackScript.Value.Basic

/-!
# Values from text

Every text denotes a value: nothing is `mono`, digits are an integer as long as it fits and a
float beyond, a text with a point is a float if it has the form of a decimal number, `true` and
`false` are the truth values, and all else is text.
-/

namespace StackScript.Value

/-- The greatest integer of the language. -/
def greatestInt : Nat := 2147483647

/-- The value that a run of digits denotes. -/
def ofDigits (cs : List Char) : Value :=
  let n := Decimal.natOfDigits cs
  if n ≤ greatestInt then .int (Int32.ofNat n)
  else .float (Decimal.toBinary32 { coefficient := n })

/-- The value that a text denotes. -/
def parse (s : String) : Value :=
  let cs := s.toList
  if cs = [] then .mono
  else if cs.all Char.isDigit then ofDigits cs
  else if '.' ∈ cs then
    match Decimal.parse? cs with
    | some d => .float d.toBinary32
    | none => .text s
  else if s = "true" then .bool true
  else if s = "false" then .bool false
  else .text s

end StackScript.Value
