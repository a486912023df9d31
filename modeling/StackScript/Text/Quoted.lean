import StackScript.Text.Combining
import StackScript.Text.Unprintable

/-!
# Quoted text

A text is quoted between double quotes. The double quote and the backslash are written after a
backslash, four controls have a short form, and every other character that is unprintable or
would attach itself to its neighbour is written by its code point. A quoted text therefore
stands on one line, whatever the text holds.
-/

namespace StackScript.Text

/-- The code point of a character in lower-case hexadecimal, between braces. -/
def escapeCodePoint (c : Char) : List Char :=
  ['\\', 'u', '\x7b'] ++ Nat.toDigits 16 c.toNat ++ ['\x7d']

/-- One character as it stands between the quotes. -/
def escapeChar (c : Char) : List Char :=
  if c = '\x00' then ['\\', '0']
  else if c = '\t' then ['\\', 't']
  else if c = '\r' then ['\\', 'r']
  else if c = '\n' then ['\\', 'n']
  else if c = '\\' ∨ c = '"' then ['\\', c]
  else if isCombining c || isUnprintable c then escapeCodePoint c
  else [c]

/-- The quoted form of a list of characters. -/
def quoteChars (cs : List Char) : List Char :=
  '"' :: cs.flatMap escapeChar ++ ['"']

/-- The quoted form of a text. -/
def quote (s : String) : String :=
  String.ofList (quoteChars s.toList)

end StackScript.Text
