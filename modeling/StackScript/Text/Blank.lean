import StackScript.Text.RangeTable

/-!
# Blanks

The characters with the Unicode property White_Space, and the removal of blanks from both ends of
a text.
-/

namespace StackScript.Text

/-- The ranges of white space. -/
def blankRanges : RangeTable :=
  [(0x9, 0xd), (0x20, 0x20), (0x85, 0x85), (0xa0, 0xa0), (0x1680, 0x1680), (0x2000, 0x200a),
   (0x2028, 0x2029), (0x202f, 0x202f), (0x205f, 0x205f), (0x3000, 0x3000)]

/-- The character is white space in the sense of the Unicode property White_Space. -/
def isBlank (c : Char) : Bool :=
  blankRanges.contains c

/-- What remains when every leading and every trailing character with the property is removed. -/
def stripEnds (p : Char → Bool) (cs : List Char) : List Char :=
  ((cs.dropWhile p).reverse.dropWhile p).reverse

end StackScript.Text
