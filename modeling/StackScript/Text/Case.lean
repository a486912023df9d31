/-!
# Words in any case

Keywords of scripts and sessions may be written in upper or lower case. Only ASCII letters have a
case here; every other character is itself.
-/

namespace StackScript.Text

/-- The two words differ at most in the case of ASCII letters. -/
def sameIgnoringCase (a b : List Char) : Bool :=
  a.map Char.toLower = b.map Char.toLower

end StackScript.Text
