import StackScript.Text.Alphabetic
import StackScript.Text.Blank
import StackScript.Token.Basic

/-!
# Cutting source text into tokens

Blanks separate tokens and are skipped. At any other character the first of these that fits is
taken: the widest symbol, keyword or type name that does not end inside a word; a word; a numeral
or a text in quotes. No lexeme may be longer than `maxTokenLength`.

* `Lexer.next` delivers one token, or the fault that ends the stream;
* `Token.tokenize` delivers all tokens of a source, or its first fault.
-/

namespace StackScript

/-- The greatest number of characters in a lexeme. -/
def maxTokenLength : Nat := 63

/-- Why no token could be formed. -/
inductive LexFault where
  | unexpectedCharacter (c : Char)
  | tokenTooLong (length limit : Nat)
  | unterminatedString
deriving DecidableEq, Repr

/-- The wording of a fault. -/
def LexFault.message : LexFault → String
  | .unexpectedCharacter c => "unexpected character `" ++ c.toString ++ "`"
  | .tokenTooLong length limit =>
    "token is " ++ toString length ++ " characters long (limit " ++ toString limit ++ ")"
  | .unterminatedString => "unterminated string literal"

/-- A fault and the place of the character at which it arose. -/
structure LexError where
  fault : LexFault
  position : Position
deriving DecidableEq, Repr

/-- The wording of a fault with its place. -/
def LexError.message (e : LexError) : String :=
  e.fault.message ++ " at " ++ e.position.display

/-- A piece of source text with its kind, without a place. -/
structure Lexeme where
  kind : TokenKind
  chars : List Char
deriving DecidableEq, Repr

namespace Lexeme

/-- A word would go on from the end of `front` into `rest`. -/
def endsInsideWord (front rest : List Char) : Bool :=
  front.getLast?.any Text.isAlphabetic && rest.head?.any Text.isAlphabetic

/-- The first `n` characters, if they are a symbol, keyword or type name that does not end inside
a word. -/
def fixedOfLength? (cs : List Char) (n : Nat) : Option Lexeme :=
  match TokenKind.lookup? (String.ofList (cs.take n)) with
  | some kind => if endsInsideWord (cs.take n) (cs.drop n) then none else some ⟨kind, cs.take n⟩
  | none => none

/-- The widest of the first `n` windows that holds a symbol, keyword or type name. -/
def fixedWithin? (cs : List Char) : Nat → Option Lexeme
  | 0 => none
  | n + 1 => (fixedOfLength? cs (n + 1)).or (fixedWithin? cs n)

/-- The widest symbol, keyword or type name at the start. -/
def fixed? (cs : List Char) : Option Lexeme :=
  fixedWithin? cs (cs.take maxTokenLength).length

/-- The word at the start. -/
def word? (cs : List Char) : Option Lexeme :=
  let word := cs.takeWhile Text.isAlphabetic
  if word = [] then none else some ⟨.identifier, word⟩

/-- The numeral at the start: digits, and a point if further digits follow it. -/
def numeral (cs : List Char) : List Char :=
  let whole := cs.takeWhile Char.isDigit
  match cs.dropWhile Char.isDigit with
  | '.' :: rest =>
    let fraction := rest.takeWhile Char.isDigit
    if fraction = [] then whole else whole ++ '.' :: fraction
  | _ => whole

/-- The characters of a quoted text behind its opening quote, up to the closing quote and with it;
there is none if the line ends first. -/
def quotedTail? : List Char → Option (List Char)
  | [] => none
  | c :: cs =>
    if c = '"' then some ['"']
    else if c = '\n' then none
    else (quotedTail? cs).map (c :: ·)

/-- The numeral or quoted text at the start. -/
def literal? : List Char → Option (Except LexFault Lexeme)
  | [] => none
  | c :: cs =>
    if c.isDigit then some (.ok ⟨.literal, numeral (c :: cs)⟩)
    else if c = '"' then
      some <| match quotedTail? cs with
        | some tail => .ok ⟨.literal, '"' :: tail⟩
        | none => .error .unterminatedString
    else none

/-- The lexeme at a character that is not blank, of any length. -/
def scanAny (c : Char) (cs : List Char) : Except LexFault Lexeme :=
  match fixed? (c :: cs) with
  | some lexeme => .ok lexeme
  | none =>
    match word? (c :: cs) with
    | some lexeme => .ok lexeme
    | none => (literal? (c :: cs)).getD (.error (.unexpectedCharacter c))

/-- The lexeme at a character that is not blank. -/
def scan (c : Char) (cs : List Char) : Except LexFault Lexeme :=
  match scanAny c cs with
  | .ok lexeme =>
    if maxTokenLength < lexeme.chars.length then
      .error (.tokenTooLong lexeme.chars.length maxTokenLength)
    else .ok lexeme
  | .error fault => .error fault

end Lexeme

/-- The state of a token stream: the characters not yet read and their place. -/
structure Lexer where
  rest : List Char
  position : Position
deriving Repr

namespace Lexer

/-- The stream of the tokens of a source. -/
def ofSource (source : String) : Lexer :=
  ⟨source.toList, .start⟩

/-- The stream behind the first `n` characters. -/
def skip (l : Lexer) (n : Nat) : Lexer :=
  ⟨l.rest.drop n, l.position.after (l.rest.take n)⟩

/-- The stream behind the blanks at its start. -/
def skipBlanks (l : Lexer) : Lexer :=
  l.skip (l.rest.takeWhile Text.isBlank).length

/-- The stream that delivers nothing more. -/
def finish (l : Lexer) : Lexer :=
  { l with rest := [] }

/-- The next token or the fault that ends the stream, and the stream behind it. At the end, and
behind a fault, there is nothing more. -/
def next (l : Lexer) : Option (Except LexError Token) × Lexer :=
  let l := l.skipBlanks
  match l.rest with
  | [] => (none, l)
  | c :: cs =>
    match Lexeme.scan c cs with
    | .ok lexeme =>
      (some (.ok ⟨lexeme.kind, String.ofList lexeme.chars, some l.position⟩),
        l.skip lexeme.chars.length)
    | .error fault => (some (.error ⟨fault, l.position⟩), l.finish)

end Lexer

/-! ## Every lexeme has a character -/

namespace Lexeme

theorem lookup?_empty : TokenKind.lookup? "" = none := by decide +kernel

theorem fixedOfLength?_ne_nil {cs : List Char} {n : Nat} {lexeme : Lexeme}
    (h : fixedOfLength? cs n = some lexeme) : lexeme.chars ≠ [] := by
  unfold fixedOfLength? at h
  split at h
  · rename_i kind hk
    split at h
    · cases h
    · cases h
      intro hnil
      simp only at hnil
      rw [hnil] at hk
      exact absurd (hk.symm.trans lookup?_empty) (by simp)
  · cases h

theorem fixedWithin?_ne_nil {cs : List Char} {n : Nat} {lexeme : Lexeme}
    (h : fixedWithin? cs n = some lexeme) : lexeme.chars ≠ [] := by
  induction n with
  | zero => cases h
  | succ n ih =>
    rw [fixedWithin?, Option.or_eq_some_iff] at h
    rcases h with h | ⟨_, h⟩
    · exact fixedOfLength?_ne_nil h
    · exact ih h

theorem word?_ne_nil {cs : List Char} {lexeme : Lexeme} (h : word? cs = some lexeme) :
    lexeme.chars ≠ [] := by
  simp only [word?] at h
  split at h
  · cases h
  · cases h; assumption

theorem numeral_ne_nil {c : Char} (cs : List Char) (hc : c.isDigit = true) :
    numeral (c :: cs) ≠ [] := by
  simp only [numeral, List.takeWhile_cons, hc, if_true]
  split
  · split <;> simp
  · simp

theorem literal?_ne_nil {cs : List Char} {lexeme : Lexeme}
    (h : literal? cs = some (.ok lexeme)) : lexeme.chars ≠ [] := by
  cases cs with
  | nil => cases h
  | cons c cs =>
    simp only [literal?] at h
    split at h
    · rename_i hc
      cases h
      exact numeral_ne_nil cs hc
    · split at h
      · split at h
        · cases h; simp
        · cases h
      · cases h

theorem scanAny_ne_nil {c : Char} {cs : List Char} {lexeme : Lexeme}
    (h : scanAny c cs = .ok lexeme) : lexeme.chars ≠ [] := by
  unfold scanAny at h
  split at h
  · rename_i hf
    cases h
    exact fixedWithin?_ne_nil hf
  · split at h
    · rename_i hw
      cases h
      exact word?_ne_nil hw
    · cases hl : literal? (c :: cs) with
      | none => rw [hl] at h; cases h
      | some found =>
        rw [hl, Option.getD_some] at h
        exact literal?_ne_nil (hl.trans (congrArg some h))

theorem scan_ne_nil {c : Char} {cs : List Char} {lexeme : Lexeme}
    (h : scan c cs = .ok lexeme) : lexeme.chars ≠ [] := by
  unfold scan at h
  split at h
  · rename_i ha
    split at h
    · cases h
    · cases h
      exact scanAny_ne_nil ha
  · cases h

end Lexeme

namespace Lexer

theorem length_rest_skipBlanks_le (l : Lexer) : l.skipBlanks.rest.length ≤ l.rest.length := by
  simp only [skipBlanks, skip, List.length_drop]
  omega

/-- Each token that is delivered shortens what is left to read. -/
theorem length_rest_next_lt {l l' : Lexer} {t : Token} (h : l.next = (some (.ok t), l')) :
    l'.rest.length < l.rest.length := by
  have hle := length_rest_skipBlanks_le l
  unfold next at h
  simp only at h
  split at h
  · cases h
  · rename_i c cs hr
    split at h
    · rename_i lexeme hs
      obtain ⟨_, rfl⟩ := Prod.mk.inj h
      have hpos := List.length_pos_iff.2 (Lexeme.scan_ne_nil hs)
      have hlen := congrArg List.length hr
      simp only [List.length_cons] at hlen
      simp only [skip, List.length_drop]
      omega
    · cases h

/-- All tokens that the stream delivers, or the fault that ends it. -/
def tokens (l : Lexer) : Except LexError (List Token) :=
  match h : l.next with
  | (none, _) => .ok []
  | (some (.error e), _) => .error e
  | (some (.ok t), l') =>
    have := length_rest_next_lt h
    (tokens l').map (t :: ·)
termination_by l.rest.length

/-- The first `n` deliveries of the stream. -/
def pull (l : Lexer) : Nat → List (Option (Except LexError Token))
  | 0 => []
  | n + 1 =>
    let (item, l') := l.next
    item :: pull l' n

end Lexer

/-- All tokens of a source, or its first fault. -/
def Token.tokenize (source : String) : Except LexError (List Token) :=
  (Lexer.ofSource source).tokens

end StackScript
