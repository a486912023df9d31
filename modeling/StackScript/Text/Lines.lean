/-!
# Lines

A line feed ends a line, a carriage return directly before it belongs to the ending, and there is
no further line behind a final line feed. What stands behind the last line feed is a line as it
is. The rule is the same for characters and for bytes, so it is stated over any alphabet with two
marks.
-/

namespace StackScript.Text

variable {α : Type} [DecidableEq α]

/-- A line without the carriage return at its end. -/
def dropReturn (cr : α) (line : List α) : List α :=
  if line.getLast? = some cr then line.dropLast else line

/-- The lines of a text; `pending` holds the characters of the open line in reverse. -/
def splitLinesFrom (lf cr : α) (pending : List α) : List α → List (List α)
  | [] => if pending = [] then [] else [pending.reverse]
  | c :: cs =>
    if c = lf then dropReturn cr pending.reverse :: splitLinesFrom lf cr [] cs
    else splitLinesFrom lf cr (c :: pending) cs

/-- The lines of a text over an alphabet with the marks `lf` and `cr`. -/
def splitLines (lf cr : α) (cs : List α) : List (List α) :=
  splitLinesFrom lf cr [] cs

/-- The lines of a text. -/
def lines (s : String) : List (List Char) :=
  splitLines '\n' '\r' s.toList

/-- The lines of a byte stream. -/
def byteLines (bytes : List UInt8) : List (List UInt8) :=
  splitLines 10 13 bytes

/-- The text that a list of bytes encodes in UTF-8. -/
def decode? (bytes : List UInt8) : Option String :=
  String.fromUTF8? ⟨bytes.toArray⟩

end StackScript.Text
