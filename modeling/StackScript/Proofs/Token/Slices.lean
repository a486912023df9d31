import StackScript.Proofs.Text.Bytes
import StackScript.Proofs.Token.Scan

/-!
# The scanner on slices of a text

The scanner looks at pieces of the text that is left to read. In memory such a piece is a slice between
two byte offsets, and taking it fails if one of them lies inside a character. Here the scanner is
written with slices: `none` means that a slice could not be taken.

* `Sliced.scan?_eq`: all slices can be taken, and what is found is what `Lexeme.scan` finds.
-/

namespace StackScript

open String (utf8Len)
open Text (isAlphabetic)

namespace Sliced

/-- The symbol, keyword or type name up to an offset in the window, unless it ends inside a word. -/
def fixedUpTo? (window rest : List Char) (stop : Nat) : Option (Option Lexeme) := do
  let front ← Text.upTo? stop window
  match TokenKind.lookup? (String.ofList front) with
  | none => return none
  | some kind =>
    let following ← Text.from? stop rest
    return if Lexeme.endsInsideWord front following then none else some ⟨kind, front⟩

/-- The first of these up to one of the offsets. -/
def fixedAmong? (window rest : List Char) : List Nat → Option (Option Lexeme)
  | [] => some none
  | stop :: stops => do
    let found ← fixedUpTo? window rest stop
    if found.isSome then return found else fixedAmong? window rest stops

/-- The widest symbol, keyword or type name at the start. -/
def fixed? (rest : List Char) : Option (Option Lexeme) := do
  let window ← Text.upTo? (Text.windowEnd maxTokenLength rest) rest
  fixedAmong? window rest (Text.ends window).reverse

/-- The word at the start. -/
def word? (rest : List Char) : Option (Option Lexeme) := do
  let stop := Text.runEnd isAlphabetic rest
  if stop = 0 then return none
  let word ← Text.upTo? stop rest
  return some ⟨.identifier, word⟩

/-- The numeral at the start. -/
def numeral? (rest : List Char) : Option (List Char) := do
  let stop := Text.runEnd Char.isDigit rest
  match ← Text.from? stop rest with
  | '.' :: fraction =>
    let length := Text.runEnd Char.isDigit fraction
    if 0 < length then Text.upTo? (stop + 1 + length) rest else Text.upTo? stop rest
  | _ => Text.upTo? stop rest

/-- The text in quotes at the start, up to the first quote or line feed behind the opening quote. -/
def quoted? (rest : List Char) : Option (Except LexFault Lexeme) := do
  let body ← Text.from? 1 rest
  match Text.find? (fun c => c = '"' || c = '\n') body with
  | none => return .error .unterminatedString
  | some i =>
    let closing ← Text.from? i body
    if closing.head? = some '"' then
      let text ← Text.upTo? (i + 2) rest
      return .ok ⟨.literal, text⟩
    else return .error .unterminatedString

/-- The numeral or quoted text at the start, if the first character begins one. -/
def literal? (c : Char) (rest : List Char) : Option (Option (Except LexFault Lexeme)) := do
  if c.isDigit then
    let text ← numeral? rest
    return some (.ok ⟨.literal, text⟩)
  else if c = '"' then
    let found ← quoted? rest
    return some found
  else return none

/-- The lexeme at a character that is not blank, of any length. -/
def scanAny? (c : Char) (cs : List Char) : Option (Except LexFault Lexeme) := do
  match ← fixed? (c :: cs) with
  | some lexeme => return .ok lexeme
  | none =>
    match ← word? (c :: cs) with
    | some lexeme => return .ok lexeme
    | none =>
      let found ← literal? c (c :: cs)
      return found.getD (.error (.unexpectedCharacter c))

/-- The lexeme at a character that is not blank. -/
def scan? (c : Char) (cs : List Char) : Option (Except LexFault Lexeme) := do
  match ← scanAny? c cs with
  | .ok lexeme =>
    if maxTokenLength < lexeme.chars.length then
      return .error (.tokenTooLong lexeme.chars.length maxTokenLength)
    else return .ok lexeme
  | .error fault => return .error fault

/-! ## Symbols, keywords and type names -/

/-- At the end of a character of the window the slices are the window of that width and what is
behind it. -/
theorem fixedUpTo?_eq {cs : List Char} {n : Nat} (hn : n ≤ maxTokenLength) :
    fixedUpTo? (cs.take maxTokenLength) cs (utf8Len (cs.take n)) =
      some (Lexeme.fixedOfLength? cs n) := by
  have hwindow : cs.take n ++ (cs.take maxTokenLength).drop n = cs.take maxTokenLength := by
    have h := List.take_append_drop n (cs.take maxTokenLength)
    rwa [List.take_take, Nat.min_eq_left hn] at h
  have hfront : Text.upTo? (utf8Len (cs.take n)) (cs.take maxTokenLength) = some (cs.take n) := by
    rw [← hwindow, Text.upTo?_append]
  have hrest : Text.from? (utf8Len (cs.take n)) cs = some (cs.drop n) := by
    have h := Text.from?_append (cs.take n) (cs.drop n)
    rwa [List.take_append_drop] at h
  simp only [fixedUpTo?, hfront, Option.bind_eq_bind, Option.bind_some, Lexeme.fixedOfLength?]
  cases TokenKind.lookup? (String.ofList (cs.take n)) with
  | none => rfl
  | some kind => simp only [hrest, Option.bind_some]; rfl

theorem fixedAmong?_eq {cs : List Char} {n : Nat} (hn : n ≤ (cs.take maxTokenLength).length) :
    fixedAmong? (cs.take maxTokenLength) cs (Text.ends (cs.take n)).reverse =
      some (Lexeme.fixedWithin? cs n) := by
  induction n with
  | zero => rfl
  | succ n ih =>
    rw [List.length_take] at hn
    have hlt : n < cs.length := by omega
    rw [Text.reverse_ends_take_succ hlt, fixedAmong?, fixedUpTo?_eq (by omega),
      ih (by rw [List.length_take]; omega), Lexeme.fixedWithin?]
    cases Lexeme.fixedOfLength? cs (n + 1) <;> rfl

theorem fixed?_eq (cs : List Char) : fixed? cs = some (Lexeme.fixed? cs) := by
  have hwindow : Text.upTo? (Text.windowEnd maxTokenLength cs) cs = some (cs.take maxTokenLength) := by
    have h := Text.upTo?_append (cs.take maxTokenLength) (cs.drop maxTokenLength)
    rwa [List.take_append_drop, ← Text.windowEnd_eq] at h
  have hall := List.prefix_iff_eq_take.1 (List.take_prefix maxTokenLength cs)
  have hsearch := fixedAmong?_eq (Nat.le_refl (cs.take maxTokenLength).length)
  rw [← hall] at hsearch
  rw [fixed?, hwindow, Lexeme.fixed?]
  exact hsearch

/-! ## Words, numerals and quoted texts -/

theorem word?_eq (cs : List Char) : word? cs = some (Lexeme.word? cs) := by
  have hstop : Text.runEnd isAlphabetic cs = 0 ↔ cs.takeWhile isAlphabetic = [] := by
    rw [Text.runEnd_eq, String.utf8Len_eq_zero]
  by_cases h : cs.takeWhile isAlphabetic = []
  · simp [word?, Lexeme.word?, hstop.2 h, h]
  · simp [word?, Lexeme.word?, mt hstop.1 h, h, Text.upTo?_runEnd]

/-- A numeral that has a point ends one byte, which is the point, and the digits of its fraction behind
the digits of its whole part. -/
theorem upTo?_fraction {cs fraction : List Char} (h : cs.dropWhile Char.isDigit = '.' :: fraction) :
    Text.upTo? (Text.runEnd Char.isDigit cs + 1 + Text.runEnd Char.isDigit fraction) cs =
      some (cs.takeWhile Char.isDigit ++ '.' :: fraction.takeWhile Char.isDigit) := by
  have hcs : cs.takeWhile Char.isDigit ++ '.' :: fraction.takeWhile Char.isDigit ++
      fraction.dropWhile Char.isDigit = cs := by
    rw [List.append_assoc, List.cons_append, List.takeWhile_append_dropWhile, ← h,
      List.takeWhile_append_dropWhile]
  have hsize : Text.runEnd Char.isDigit cs + 1 + Text.runEnd Char.isDigit fraction =
      utf8Len (cs.takeWhile Char.isDigit ++ '.' :: fraction.takeWhile Char.isDigit) := by
    have hpoint : Char.utf8Size '.' = 1 := rfl
    rw [Text.runEnd_eq, Text.runEnd_eq, String.utf8Len_append, String.utf8Len_cons, hpoint]
    omega
  have hslice := Text.upTo?_append
    (cs.takeWhile Char.isDigit ++ '.' :: fraction.takeWhile Char.isDigit)
    (fraction.dropWhile Char.isDigit)
  rwa [← hsize, hcs] at hslice

theorem numeral?_eq (cs : List Char) : numeral? cs = some (Lexeme.numeral cs) := by
  have hwhole := Text.upTo?_runEnd Char.isDigit cs
  simp only [numeral?, Text.from?_runEnd, Option.bind_eq_bind, Option.bind_some, Lexeme.numeral]
  cases hd : cs.dropWhile Char.isDigit with
  | nil => exact hwhole
  | cons c fraction =>
    by_cases hc : c = '.'
    · subst hc
      have hlength : 0 < Text.runEnd Char.isDigit fraction ↔ fraction.takeWhile Char.isDigit ≠ [] := by
        rw [Text.runEnd_eq, Nat.pos_iff_ne_zero, Ne, String.utf8Len_eq_zero]
      by_cases hf : fraction.takeWhile Char.isDigit = []
      · simp only [hlength, hf, ne_eq, not_true_eq_false, if_false, if_true, hwhole]
      · simp only [hlength, hf, ne_eq, not_false_eq_true, if_false, if_true, upTo?_fraction hd]
    · simp [hc, hwhole]

/-- A search for a quote or a line feed stops where a quoted text is closed, or where it is found not to
be closed. -/
theorem find?_quote_or_lineFeed (cs : List Char) :
    (∃ body rest, cs = body ++ '"' :: rest ∧ Lexeme.quotedTail? cs = some (body ++ ['"']) ∧
      Text.find? (fun c => c = '"' || c = '\n') cs = some (utf8Len body)) ∨
    (∃ body rest, cs = body ++ '\n' :: rest ∧ Lexeme.quotedTail? cs = none ∧
      Text.find? (fun c => c = '"' || c = '\n') cs = some (utf8Len body)) ∨
    (Lexeme.quotedTail? cs = none ∧ Text.find? (fun c => c = '"' || c = '\n') cs = none) := by
  induction cs with
  | nil => exact .inr (.inr ⟨rfl, rfl⟩)
  | cons c cs ih =>
    by_cases hq : c = '"'
    · subst hq
      exact .inl ⟨[], cs, rfl, rfl, rfl⟩
    by_cases hl : c = '\n'
    · subst hl
      exact .inr (.inl ⟨[], cs, rfl, rfl, rfl⟩)
    rcases ih with ⟨body, rest, rfl, htail, hfind⟩ | ⟨body, rest, rfl, htail, hfind⟩ | ⟨htail, hfind⟩
    · exact .inl ⟨c :: body, rest, rfl, by simp [Lexeme.quotedTail?, hq, hl, htail],
        by simp [Text.find?, hq, hl, hfind]⟩
    · exact .inr (.inl ⟨c :: body, rest, rfl, by simp [Lexeme.quotedTail?, hq, hl, htail],
        by simp [Text.find?, hq, hl, hfind]⟩)
    · exact .inr (.inr ⟨by simp [Lexeme.quotedTail?, hq, hl, htail],
        by simp [Text.find?, hq, hl, hfind]⟩)

theorem quoted?_eq (cs : List Char) :
    quoted? ('"' :: cs) = some (match Lexeme.quotedTail? cs with
      | some tail => .ok ⟨.literal, '"' :: tail⟩
      | none => .error .unterminatedString) := by
  have hquote : utf8Len ['"'] = 1 := rfl
  have hbody : Text.from? 1 ('"' :: cs) = some cs := Text.from?_append ['"'] cs
  rw [quoted?, hbody]
  rcases find?_quote_or_lineFeed cs with
    ⟨body, rest, rfl, htail, hfind⟩ | ⟨body, rest, rfl, htail, hfind⟩ | ⟨htail, hfind⟩
  · have hslice : Text.upTo? (utf8Len body + 2) ('"' :: (body ++ '"' :: rest)) =
        some ('"' :: (body ++ ['"'])) := by
      have h := Text.upTo?_append ('"' :: (body ++ ['"'])) rest
      rw [List.cons_append, List.append_assoc, String.utf8Len_cons, String.utf8Len_append, hquote] at h
      exact h
    simp [hfind, htail, Text.from?_append, hslice]
  · simp [hfind, htail, Text.from?_append]
  · simp [hfind, htail]

theorem literal?_eq (c : Char) (cs : List Char) :
    literal? c (c :: cs) = some (Lexeme.literal? (c :: cs)) := by
  by_cases hd : c.isDigit = true
  · simp [literal?, Lexeme.literal?, hd, numeral?_eq]
  · by_cases hq : c = '"'
    · subst hq
      simp only [literal?, Lexeme.literal?, hd, quoted?_eq, Bool.false_eq_true, if_false, if_true]
      cases Lexeme.quotedTail? cs <;> rfl
    · simp [literal?, Lexeme.literal?, hd, hq]

/-! ## The whole scanner -/

theorem scanAny?_eq (c : Char) (cs : List Char) : scanAny? c cs = some (Lexeme.scanAny c cs) := by
  rw [scanAny?, fixed?_eq, word?_eq, literal?_eq, Lexeme.scanAny]
  cases Lexeme.fixed? (c :: cs) with
  | some lexeme => rfl
  | none => cases Lexeme.word? (c :: cs) <;> rfl

/-- All slices that the scanner takes lie between characters, and it finds the same on them. -/
theorem scan?_eq (c : Char) (cs : List Char) : scan? c cs = some (Lexeme.scan c cs) := by
  rw [scan?, scanAny?_eq, Lexeme.scan]
  cases Lexeme.scanAny c cs with
  | error fault => rfl
  | ok lexeme =>
    by_cases hl : maxTokenLength < lexeme.chars.length
    · simp [hl]
    · simp [hl]

end Sliced

end StackScript
