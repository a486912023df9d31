import StackScript.Proofs.Text.Runs
import StackScript.Token.Lexer

/-!
# What stands at the start of a source

The scanner tries several rules one after the other. This module shows that they never compete:
the first character alone decides which of them can fit.

* `Lexeme.fixed?_eq`: the search through ever narrower windows is one look-up of the *front*, which
  is the whole word at a letter and the single character elsewhere;
* `Lexeme.scanAny_word`, `scanAny_symbol`, `scanAny_numeral`, `scanAny_quoted` and `scanAny_none`:
  what is found at a character of each *shape*.
-/

namespace StackScript

/-! ## The tables -/

namespace TokenKind

/-- No type has a name of a single character. -/
theorem length_ne_one_of_typeNames : ∀ t ∈ typeNames, t.toList.length ≠ 1 := by decide +kernel

theorem lookup?_of_fixedTexts : ∀ e ∈ fixedTexts, lookup? e.1 = some e.2 := by decide +kernel

theorem lookup?_of_typeNames : ∀ t ∈ typeNames, lookup? t = some .typeName := by decide +kernel

/-- A text is found under the kind that the tables give it. -/
theorem lookup?_eq_some_iff {text : String} {kind : TokenKind} :
    lookup? text = some kind ↔
      (text, kind) ∈ fixedTexts ∨ text ∈ typeNames ∧ kind = .typeName := by
  constructor
  · intro h
    unfold lookup? at h
    split at h <;> cases h <;> decide +kernel
  · rintro (h | ⟨h, rfl⟩)
    · exact lookup?_of_fixedTexts _ h
    · exact lookup?_of_typeNames _ h

theorem lookup?_eq_none_iff {text : String} :
    lookup? text = none ↔ (∀ kind, (text, kind) ∉ fixedTexts) ∧ text ∉ typeNames := by
  simp only [Option.eq_none_iff_forall_ne_some, Ne, lookup?_eq_some_iff, not_or, not_and]
  constructor
  · exact fun h => ⟨fun kind => (h kind).1, fun ht => (h .typeName).2 ht rfl⟩
  · exact fun h kind => ⟨h.1 kind, fun ht => absurd ht h.2⟩

/-- Whatever holds of all texts of both tables holds of a text that is found. -/
theorem of_lookup? {p : List Char → Prop} (hf : ∀ e ∈ fixedTexts, p e.1.toList)
    (ht : ∀ t ∈ typeNames, p t.toList) {cs : List Char} {kind : TokenKind}
    (h : lookup? (String.ofList cs) = some kind) : p cs := by
  rcases lookup?_eq_some_iff.1 h with h | ⟨h, -⟩
  · simpa using hf _ h
  · simpa using ht _ h

end TokenKind

/-! ## Fronts -/

namespace Lexeme

open Text (isAlphabetic isBlank StartsOutside)

/-- The whole word at the start, or the first character if it is no letter. -/
def front : List Char → List Char
  | [] => []
  | c :: cs => if isAlphabetic c then (c :: cs).takeWhile isAlphabetic else [c]

theorem front_of_lookup? {cs : List Char} {kind : TokenKind}
    (h : TokenKind.lookup? (String.ofList cs) = some kind) : front cs = cs :=
  TokenKind.of_lookup? (p := fun cs => front cs = cs) (by decide +kernel) (by decide +kernel) h

theorem length_le_of_lookup? {cs : List Char} {kind : TokenKind}
    (h : TokenKind.lookup? (String.ofList cs) = some kind) : cs.length ≤ maxTokenLength :=
  TokenKind.of_lookup? (p := fun cs => cs.length ≤ maxTokenLength) (by decide +kernel)
    (by decide +kernel) h

theorem ne_nil_of_lookup? {cs : List Char} {kind : TokenKind}
    (h : TokenKind.lookup? (String.ofList cs) = some kind) : cs ≠ [] :=
  TokenKind.of_lookup? (p := fun cs => cs ≠ []) (by decide +kernel) (by decide +kernel) h

theorem isPrefix_front (cs : List Char) : front cs <+: cs := by
  cases cs with
  | nil => exact List.nil_prefix
  | cons c cs =>
    simp only [front]
    split
    · exact List.takeWhile_prefix _
    · exact ⟨cs, rfl⟩

theorem take_length_front (cs : List Char) : cs.take (front cs).length = front cs :=
  (List.prefix_iff_eq_take.1 (isPrefix_front cs)).symm

/-- A front never ends inside a word. -/
theorem endsInsideWord_front (cs : List Char) :
    endsInsideWord (front cs) (cs.drop (front cs).length) = false := by
  cases cs with
  | nil => rfl
  | cons c cs =>
    by_cases hc : isAlphabetic c = true
    · have hf : front (c :: cs) = (c :: cs).takeWhile isAlphabetic := if_pos hc
      have hd : (c :: cs).drop (front (c :: cs)).length = (c :: cs).dropWhile isAlphabetic := by
        rw [hf, Text.drop_length_takeWhile]
      have hs := Text.startsOutside_dropWhile isAlphabetic (c :: cs)
      rw [endsInsideWord, hd, (Option.any_eq_false _ _).2 hs, Bool.and_false]
    · have hf : front (c :: cs) = [c] := if_neg hc
      simp [endsInsideWord, hf, hc]

/-- A text of the tables that stands at the start and does not end inside a word is the front. -/
theorem eq_front_of_lookup? {w rest : List Char} {kind : TokenKind}
    (hk : TokenKind.lookup? (String.ofList w) = some kind) (he : endsInsideWord w rest = false) :
    front (w ++ rest) = w := by
  have hw := front_of_lookup? hk
  cases w with
  | nil => exact absurd rfl (ne_nil_of_lookup? hk)
  | cons c w =>
    by_cases hc : isAlphabetic c = true
    · have hall : ∀ d ∈ c :: w, isAlphabetic d = true := by
        rw [front, if_pos hc] at hw
        exact List.takeWhile_eq_self_iff.1 hw
      have hlast : (c :: w).getLast?.any isAlphabetic = true := by
        rw [List.getLast?_eq_some_getLast (List.cons_ne_nil c w)]
        exact hall _ (List.getLast_mem _)
      have hrest : StartsOutside isAlphabetic rest := by
        rw [endsInsideWord, hlast, Bool.true_and] at he
        exact (Option.any_eq_false _ _).1 he
      rw [List.cons_append, front, if_pos hc]
      exact Text.takeWhile_append hall hrest
    · rw [front, if_neg hc] at hw
      rw [List.cons_append, front, if_neg hc, hw]

/-! ## The search through the windows -/

theorem fixedOfLength?_eq_some_iff {cs : List Char} {n : Nat} {x : Lexeme} :
    fixedOfLength? cs n = some x ↔ TokenKind.lookup? (String.ofList x.chars) = some x.kind ∧
      x.chars = cs.take n ∧ endsInsideWord (cs.take n) (cs.drop n) = false := by
  unfold fixedOfLength?
  cases hk : TokenKind.lookup? (String.ofList (cs.take n)) with
  | none =>
    simp only [reduceCtorEq, false_iff]
    rintro ⟨hx, hc, -⟩
    rw [hc, hk] at hx
    cases hx
  | some kind =>
    obtain ⟨k, chars⟩ := x
    cases he : endsInsideWord (cs.take n) (cs.drop n) with
    | true => simp
    | false =>
      simp only [Bool.false_eq_true, if_false, Option.some.injEq, Lexeme.mk.injEq, and_true]
      constructor
      · rintro ⟨rfl, rfl⟩
        exact ⟨hk, rfl⟩
      · rintro ⟨hx, rfl⟩
        rw [hk] at hx
        exact ⟨Option.some.inj hx, rfl⟩

/-- What is found in one of the windows is the front. -/
theorem fixedOfLength?_front {cs : List Char} {n : Nat} {x : Lexeme}
    (h : fixedOfLength? cs n = some x) : x.chars = front cs := by
  obtain ⟨hk, hc, he⟩ := fixedOfLength?_eq_some_iff.1 h
  rw [hc] at hk
  have hf := eq_front_of_lookup? hk he
  rw [List.take_append_drop] at hf
  rw [hc, hf]

theorem exists_of_fixedWithin? {cs : List Char} {n : Nat} {x : Lexeme}
    (h : fixedWithin? cs n = some x) : ∃ k, fixedOfLength? cs k = some x := by
  induction n with
  | zero => cases h
  | succ n ih =>
    rw [fixedWithin?, Option.or_eq_some_iff] at h
    rcases h with h | ⟨-, h⟩
    · exact ⟨n + 1, h⟩
    · exact ih h

theorem isSome_fixedWithin? {cs : List Char} {n k : Nat} {x : Lexeme} (hk : 0 < k) (hn : k ≤ n)
    (h : fixedOfLength? cs k = some x) : (fixedWithin? cs n).isSome = true := by
  induction n with
  | zero => omega
  | succ n ih =>
    rw [fixedWithin?, Option.isSome_or, Bool.or_eq_true]
    by_cases he : k = n + 1
    · left
      rw [← he, h]
      rfl
    · exact .inr (ih (by omega))

/-- The search through ever narrower windows is one look-up of the front. -/
theorem fixed?_eq (cs : List Char) :
    fixed? cs = (TokenKind.lookup? (String.ofList (front cs))).map (⟨·, front cs⟩) := by
  -- whatever the search finds is the front with a kind from the tables
  have hsound : ∀ x, fixed? cs = some x →
      TokenKind.lookup? (String.ofList (front cs)) = some x.kind ∧ x.chars = front cs := by
    intro x hx
    obtain ⟨k, hk⟩ := exists_of_fixedWithin? hx
    have hf := fixedOfLength?_front hk
    exact ⟨hf ▸ (fixedOfLength?_eq_some_iff.1 hk).1, hf⟩
  cases hk : TokenKind.lookup? (String.ofList (front cs)) with
  | none =>
    cases hx : fixed? cs with
    | none => rfl
    | some x => rw [(hsound x hx).1] at hk; cases hk
  | some kind =>
    have hwin : fixedOfLength? cs (front cs).length = some ⟨kind, front cs⟩ := by
      rw [fixedOfLength?_eq_some_iff, take_length_front]
      exact ⟨hk, rfl, endsInsideWord_front cs⟩
    have hpos : 0 < (front cs).length := List.length_pos_iff.2 (ne_nil_of_lookup? hk)
    have hlen : (front cs).length ≤ (cs.take maxTokenLength).length := by
      have hle := length_le_of_lookup? hk
      have hcs := congrArg List.length (take_length_front cs)
      rw [List.length_take] at hcs ⊢
      omega
    obtain ⟨x, hx⟩ := Option.isSome_iff_exists.1 (isSome_fixedWithin? hpos hlen hwin)
    obtain ⟨hxk, hxc⟩ := hsound x hx
    rw [hk] at hxk
    rw [fixed?, hx, Option.map_some, ← hxc, Option.some.inj hxk]

end Lexeme

/-! ## Shapes -/

/-- What a lexeme can be. -/
inductive Shape where
  | word
  | symbol
  | numeral
  | quoted
deriving DecidableEq, Repr

namespace Shape

open Text (isAlphabetic isBlank)

/-- The shape of the lexemes that begin with a character. -/
def ofChar? (c : Char) : Option Shape :=
  if isAlphabetic c then some .word
  else if c.isDigit then some .numeral
  else if c = '"' then some .quoted
  else if (TokenKind.lookup? (String.ofList [c])).isSome then some .symbol
  else none

theorem toNat_of_isDigit {c : Char} (h : c.isDigit = true) : 48 ≤ c.toNat ∧ c.toNat ≤ 57 := by
  simp only [Char.isDigit, Bool.and_eq_true, decide_eq_true_eq, ge_iff_le,
    UInt32.le_iff_toNat_le] at h
  exact h

theorem toNat_of_isAlpha {c : Char} (h : c.isAlpha = true) :
    (65 ≤ c.toNat ∧ c.toNat ≤ 90) ∨ (97 ≤ c.toNat ∧ c.toNat ≤ 122) := by
  rcases Bool.or_eq_true_iff.1 h with h | h
  · obtain ⟨hlo, hhi⟩ := of_decide_eq_true h
    exact .inl ⟨UInt32.le_iff_toNat_le.1 hlo, UInt32.le_iff_toNat_le.1 hhi⟩
  · obtain ⟨hlo, hhi⟩ := Bool.and_eq_true_iff.1 h
    exact .inr ⟨UInt32.le_iff_toNat_le.1 (of_decide_eq_true hlo),
      UInt32.le_iff_toNat_le.1 (of_decide_eq_true hhi)⟩

/-- A letter is an ASCII letter or lies in one of the ranges beyond ASCII. -/
theorem toNat_of_isAlphabetic {c : Char} (h : isAlphabetic c = true) :
    (65 ≤ c.toNat ∧ c.toNat ≤ 90) ∨ (97 ≤ c.toNat ∧ c.toNat ≤ 122) ∨
      128 ≤ c.toNat ∧ ∃ r ∈ Text.alphabeticRanges, r.1 ≤ c.toNat ∧ c.toNat ≤ r.2 := by
  simp only [isAlphabetic, Bool.or_eq_true, Bool.and_eq_true, decide_eq_true_eq,
    Text.RangeTable.contains_iff] at h
  rcases h with h | h
  · exact or_assoc.1 (.inl (toNat_of_isAlpha h))
  · exact .inr (.inr h)

/-- No digit is a letter. -/
theorem isAlphabetic_of_isDigit {c : Char} (h : c.isDigit = true) : isAlphabetic c = false := by
  have hd := toNat_of_isDigit h
  by_contra ha
  rcases toNat_of_isAlphabetic (Bool.of_not_eq_false ha) with h | h | ⟨h, -⟩ <;> omega

theorem blankRanges_digits : ∀ r ∈ Text.blankRanges, r.2 < 48 ∨ 57 < r.1 := by decide

/-- No digit is a blank. -/
theorem isBlank_of_isDigit {c : Char} (h : c.isDigit = true) : isBlank c = false := by
  have hd := toNat_of_isDigit h
  by_contra hb
  obtain ⟨r, hr, hlo, hhi⟩ := Text.RangeTable.contains_iff.1 (Bool.of_not_eq_false hb)
  have := blankRanges_digits r hr
  omega

theorem blankRanges_ascii_letters :
    ∀ r ∈ Text.blankRanges, r.2 < 65 ∨ 122 < r.1 := by decide

theorem blankRanges_alphabeticRanges :
    ∀ r ∈ Text.blankRanges, ∀ s ∈ Text.alphabeticRanges, r.2 < s.1 ∨ s.2 < r.1 := by
  decide +kernel

/-- No letter is a blank. -/
theorem isBlank_of_isAlphabetic {c : Char} (h : isAlphabetic c = true) : isBlank c = false := by
  by_contra hb
  obtain ⟨r, hr, hlo, hhi⟩ := Text.RangeTable.contains_iff.1 (Bool.of_not_eq_false hb)
  have hascii := blankRanges_ascii_letters r hr
  rcases toNat_of_isAlphabetic h with h | h | ⟨-, s, hs, h⟩
  · omega
  · omega
  · have := blankRanges_alphabeticRanges r hr s hs
    omega

/-- The texts of the tables hold no blank, no digit, no quote and no point. -/
theorem plain_of_lookup? {cs : List Char} {kind : TokenKind}
    (h : TokenKind.lookup? (String.ofList cs) = some kind) :
    ∀ c ∈ cs, isBlank c = false ∧ c.isDigit = false ∧ c ≠ '"' ∧ c ≠ '.' := by
  have hall := TokenKind.of_lookup?
    (p := fun cs => (cs.all fun c => !isBlank c && !c.isDigit && c != '"' && c != '.') = true)
    (by decide +kernel) (by decide +kernel) h
  simpa [and_assoc] using hall

/-- A lexeme of the shape can begin with the character. -/
def Begins : Shape → Char → Prop
  | .word, c => isAlphabetic c = true
  | .numeral, c => c.isDigit = true
  | .quoted, c => c = '"'
  | .symbol, c => isAlphabetic c = false ∧
      ∃ kind, TokenKind.lookup? (String.ofList [c]) = some kind

/-- A character begins lexemes of at most one shape. -/
theorem ofChar?_eq_some_iff {s : Shape} {c : Char} : ofChar? c = some s ↔ s.Begins c := by
  constructor
  · intro h
    unfold ofChar? at h
    split at h
    · cases h; assumption
    · rename_i ha
      split at h
      · cases h; assumption
      · split at h
        · cases h; assumption
        · split at h
          · rename_i hk
            cases h
            exact ⟨Bool.of_not_eq_true ha, Option.isSome_iff_exists.1 hk⟩
          · cases h
  · intro h
    cases s with
    | word => exact if_pos h
    | numeral =>
      have hd : c.isDigit = true := h
      simp [ofChar?, hd, isAlphabetic_of_isDigit hd]
    | quoted => cases h; decide +kernel
    | symbol =>
      obtain ⟨ha, kind, hk⟩ := h
      obtain ⟨-, hd, hq, -⟩ := plain_of_lookup? hk c (by simp)
      rw [ofChar?, hk]
      simp [ha, hd, hq]

/-- A lexeme begins neither with a blank nor with a point. -/
theorem Begins.plain {s : Shape} {c : Char} (h : s.Begins c) : isBlank c = false ∧ c ≠ '.' := by
  cases s with
  | word =>
    refine ⟨isBlank_of_isAlphabetic h, ?_⟩
    rintro rfl
    exact absurd (show isAlphabetic '.' = true from h) (by decide)
  | numeral =>
    refine ⟨isBlank_of_isDigit h, ?_⟩
    rintro rfl
    exact absurd (show '.'.isDigit = true from h) (by decide)
  | quoted => cases h; decide
  | symbol =>
    obtain ⟨-, kind, hk⟩ := h
    obtain ⟨hb, -, -, hp⟩ := plain_of_lookup? hk c (by simp)
    exact ⟨hb, hp⟩

end Shape

/-! ## The rules by shape -/

namespace Lexeme

open Text (isAlphabetic)

/-- At a letter the whole word is taken, with its kind from the tables if it is there. -/
theorem scanAny_word {c : Char} (hc : isAlphabetic c = true) (cs : List Char) :
    scanAny c cs =
      .ok ⟨(TokenKind.lookup? (String.ofList ((c :: cs).takeWhile isAlphabetic))).getD .identifier,
        (c :: cs).takeWhile isAlphabetic⟩ := by
  have hf : front (c :: cs) = (c :: cs).takeWhile isAlphabetic := if_pos hc
  have hne : (c :: cs).takeWhile isAlphabetic ≠ [] := by simp [hc]
  rw [scanAny, fixed?_eq, hf]
  cases TokenKind.lookup? (String.ofList ((c :: cs).takeWhile isAlphabetic)) with
  | some kind => rfl
  | none => simp only [Option.map_none, word?, hne, if_false, Option.getD_none]

theorem scanAny_symbol {c : Char} {kind : TokenKind} (hc : isAlphabetic c = false)
    (hk : TokenKind.lookup? (String.ofList [c]) = some kind) (cs : List Char) :
    scanAny c cs = .ok ⟨kind, [c]⟩ := by
  have hf : front (c :: cs) = [c] := by simp [front, hc]
  rw [scanAny, fixed?_eq, hf, hk]
  rfl

/-- At a character that is neither a letter nor a symbol only a literal can stand. -/
theorem scanAny_literal {c : Char} (hc : isAlphabetic c = false)
    (hk : TokenKind.lookup? (String.ofList [c]) = none) (cs : List Char) :
    scanAny c cs = (literal? (c :: cs)).getD (.error (.unexpectedCharacter c)) := by
  have hf : front (c :: cs) = [c] := by simp [front, hc]
  rw [scanAny, fixed?_eq, hf, hk]
  simp [word?, hc]

theorem scanAny_numeral {c : Char} (hc : c.isDigit = true) (cs : List Char) :
    scanAny c cs = .ok ⟨.literal, numeral (c :: cs)⟩ := by
  have hk : TokenKind.lookup? (String.ofList [c]) = none := by
    by_contra hk
    obtain ⟨kind, hk⟩ := Option.ne_none_iff_exists'.1 hk
    have hd := (Shape.plain_of_lookup? hk c (by simp)).2.1
    rw [hc] at hd
    cases hd
  rw [scanAny_literal (Shape.isAlphabetic_of_isDigit hc) hk]
  simp [literal?, hc]

theorem scanAny_quoted (cs : List Char) :
    scanAny '"' cs = match quotedTail? cs with
      | some tail => .ok ⟨.literal, '"' :: tail⟩
      | none => .error .unterminatedString := by
  rw [scanAny_literal (by decide) (by decide +kernel)]
  rfl

theorem scanAny_none {c : Char} (hc : Shape.ofChar? c = none) (cs : List Char) :
    scanAny c cs = .error (.unexpectedCharacter c) := by
  simp only [Shape.ofChar?, ite_eq_iff, reduceCtorEq, and_false, false_or, Bool.not_eq_true,
    Option.isSome_eq_false_iff, Option.isNone_iff_eq_none, and_true] at hc
  obtain ⟨ha, hd, hq, hk⟩ := hc
  rw [scanAny_literal ha hk]
  simp [literal?, hd, hq]

end Lexeme

end StackScript
