import StackScript.Proofs.Token.Scan

/-!
# The lexical grammar

Four shapes of lexemes, each said without the scanner, and the scanner against them:

* `Lexeme.scanAny_of_hasShape`: a lexeme of the grammar is what the scanner takes, unless the text
  behind it would go on with the same word or numeral;
* `Lexeme.hasShape_of_scanAny`: what the scanner takes is a lexeme of the grammar, cut off where
  its word or numeral ends.
-/

namespace StackScript

open Text (isAlphabetic isBlank StartsOutside)

/-- The kind of a word: the one in the table of fixed texts, else that of a type name, else
identifier. -/
inductive WordKind : String → TokenKind → Prop
  | fixed {text : String} {kind : TokenKind} (h : (text, kind) ∈ TokenKind.fixedTexts) :
    WordKind text kind
  | typeName {text : String} (hf : ∀ kind, (text, kind) ∉ TokenKind.fixedTexts)
    (ht : text ∈ TokenKind.typeNames) : WordKind text .typeName
  | identifier {text : String} (hf : ∀ kind, (text, kind) ∉ TokenKind.fixedTexts)
    (ht : text ∉ TokenKind.typeNames) : WordKind text .identifier

/-- The lexical grammar: which lexemes have which shape. -/
inductive Lexeme.HasShape : Lexeme → Shape → Prop
  | word {cs : List Char} {kind : TokenKind} (hne : cs ≠ [])
    (hcs : ∀ c ∈ cs, isAlphabetic c = true) (hk : WordKind (String.ofList cs) kind) :
    HasShape ⟨kind, cs⟩ .word
  | symbol {c : Char} {kind : TokenKind} (hk : (String.ofList [c], kind) ∈ TokenKind.fixedTexts) :
    HasShape ⟨kind, [c]⟩ .symbol
  | whole {ds : List Char} (hne : ds ≠ []) (hds : ∀ d ∈ ds, d.isDigit = true) :
    HasShape ⟨.literal, ds⟩ .numeral
  | fraction {ds fs : List Char} (hne : ds ≠ []) (hds : ∀ d ∈ ds, d.isDigit = true)
    (hfe : fs ≠ []) (hfs : ∀ d ∈ fs, d.isDigit = true) :
    HasShape ⟨.literal, ds ++ '.' :: fs⟩ .numeral
  | quoted {cs : List Char} (hcs : ∀ c ∈ cs, c ≠ '"' ∧ c ≠ '\n') :
    HasShape ⟨.literal, '"' :: (cs ++ ['"'])⟩ .quoted

/-- The kind of a word is the result of one look-up. -/
theorem wordKind_iff {text : String} {kind : TokenKind} :
    WordKind text kind ↔ (TokenKind.lookup? text).getD .identifier = kind := by
  constructor
  · rintro (hf | ⟨hf, ht⟩ | ⟨hf, ht⟩)
    · rw [TokenKind.lookup?_eq_some_iff.2 (.inl hf), Option.getD_some]
    · rw [TokenKind.lookup?_eq_some_iff.2 (.inr ⟨ht, rfl⟩), Option.getD_some]
    · rw [TokenKind.lookup?_eq_none_iff.2 ⟨hf, ht⟩, Option.getD_none]
  · rintro rfl
    by_cases hf : ∃ kind, (text, kind) ∈ TokenKind.fixedTexts
    · obtain ⟨kind, hf⟩ := hf
      rw [TokenKind.lookup?_eq_some_iff.2 (.inl hf), Option.getD_some]
      exact .fixed hf
    · have hf := not_exists.1 hf
      by_cases ht : text ∈ TokenKind.typeNames
      · rw [TokenKind.lookup?_eq_some_iff.2 (.inr ⟨ht, rfl⟩), Option.getD_some]
        exact .typeName hf ht
      · rw [TokenKind.lookup?_eq_none_iff.2 ⟨hf, ht⟩, Option.getD_none]
        exact .identifier hf ht

namespace Lexeme

/-- A single character of the table of fixed texts is no letter. -/
theorem not_letter_of_lookup? {c : Char} {kind : TokenKind}
    (hk : TokenKind.lookup? (String.ofList [c]) = some kind) : isAlphabetic c = false := by
  have h := TokenKind.of_lookup?
    (p := fun cs => (cs.length != 1 || cs.all fun c => !isAlphabetic c) = true)
    (by decide +kernel) (by decide +kernel) hk
  simpa using h

/-- The first character of a lexeme. -/
theorem HasShape.begins {x : Lexeme} {s : Shape} (h : x.HasShape s) :
    ∃ c cs, x.chars = c :: cs ∧ s.Begins c := by
  cases h with
  | @word cs kind hne hcs hk =>
    obtain ⟨c, cs, rfl⟩ := List.exists_cons_of_ne_nil hne
    exact ⟨c, cs, rfl, hcs c List.mem_cons_self⟩
  | @symbol c kind hk =>
    have hk := TokenKind.lookup?_eq_some_iff.2 (.inl hk)
    exact ⟨c, [], rfl, not_letter_of_lookup? hk, kind, hk⟩
  | @whole ds hne hds =>
    obtain ⟨d, ds, rfl⟩ := List.exists_cons_of_ne_nil hne
    exact ⟨d, ds, rfl, hds d List.mem_cons_self⟩
  | @fraction ds fs hne hds hfe hfs =>
    obtain ⟨d, ds, rfl⟩ := List.exists_cons_of_ne_nil hne
    exact ⟨d, ds ++ '.' :: fs, rfl, hds d List.mem_cons_self⟩
  | @quoted cs hcs => exact ⟨'"', cs ++ ['"'], rfl, rfl⟩

/-! ## Numerals and quoted texts -/

/-- A numeral without a point is taken whole if the text goes on neither with a digit nor with a
point. -/
theorem numeral_whole {ds rest : List Char} (hds : ∀ d ∈ ds, d.isDigit = true)
    (hr : StartsOutside Char.isDigit rest) (hp : rest.head? ≠ some '.') :
    numeral (ds ++ rest) = ds := by
  rw [numeral, Text.takeWhile_append hds hr, Text.dropWhile_append hds hr]
  split
  · exact absurd rfl hp
  · rfl

theorem numeral_fraction {ds fs rest : List Char} (hds : ∀ d ∈ ds, d.isDigit = true)
    (hfe : fs ≠ []) (hfs : ∀ d ∈ fs, d.isDigit = true) (hr : StartsOutside Char.isDigit rest) :
    numeral (ds ++ '.' :: (fs ++ rest)) = ds ++ '.' :: fs := by
  have hp : StartsOutside Char.isDigit ('.' :: (fs ++ rest)) := Text.startsOutside_cons.2 rfl
  rw [numeral, Text.takeWhile_append hds hp, Text.dropWhile_append hds hp]
  simp only [Text.takeWhile_append hfs hr, hfe, if_false]

/-- What is taken at a digit is a numeral of the grammar, and no digit follows it. -/
theorem hasShape_numeral {c : Char} (hc : c.isDigit = true) (cs : List Char) :
    HasShape ⟨.literal, numeral (c :: cs)⟩ .numeral ∧
      ∃ rest, numeral (c :: cs) ++ rest = c :: cs ∧ StartsOutside Char.isDigit rest := by
  have hne : (c :: cs).takeWhile Char.isDigit ≠ [] := by simp [hc]
  have hds : ∀ d ∈ (c :: cs).takeWhile Char.isDigit, d.isDigit = true :=
    fun d hd => List.mem_takeWhile_imp hd
  have hwhole : HasShape ⟨.literal, (c :: cs).takeWhile Char.isDigit⟩ .numeral ∧
      ∃ rest, (c :: cs).takeWhile Char.isDigit ++ rest = c :: cs ∧
        StartsOutside Char.isDigit rest :=
    ⟨.whole hne hds, _, List.takeWhile_append_dropWhile, Text.startsOutside_dropWhile _ _⟩
  simp only [numeral]
  split
  · rename_i r hr
    split
    · exact hwhole
    · rename_i hfe
      refine ⟨.fraction hne hds hfe fun d hd => List.mem_takeWhile_imp hd,
        r.dropWhile Char.isDigit, ?_, Text.startsOutside_dropWhile _ _⟩
      rw [List.append_assoc, List.cons_append, List.takeWhile_append_dropWhile, ← hr,
        List.takeWhile_append_dropWhile]
  · exact hwhole

theorem quotedTail?_append {cs : List Char} (hcs : ∀ c ∈ cs, c ≠ '"' ∧ c ≠ '\n')
    (rest : List Char) : quotedTail? (cs ++ '"' :: rest) = some (cs ++ ['"']) := by
  induction cs with
  | nil => simp [quotedTail?]
  | cons c cs ih =>
    obtain ⟨hq, hl⟩ := hcs c List.mem_cons_self
    have ih := ih fun d hd => hcs d (List.mem_cons_of_mem _ hd)
    simp [quotedTail?, hq, hl, ih]

theorem exists_of_quotedTail? {cs tail : List Char} (h : quotedTail? cs = some tail) :
    ∃ body rest, tail = body ++ ['"'] ∧ cs = body ++ '"' :: rest ∧
      ∀ c ∈ body, c ≠ '"' ∧ c ≠ '\n' := by
  induction cs generalizing tail with
  | nil => cases h
  | cons c cs ih =>
    unfold quotedTail? at h
    split at h
    · rename_i hq
      cases h
      exact ⟨[], cs, rfl, by rw [hq]; rfl, by simp⟩
    · rename_i hq
      split at h
      · cases h
      · rename_i hl
        obtain ⟨t, ht, rfl⟩ := Option.map_eq_some_iff.1 h
        obtain ⟨body, rest, rfl, rfl, hb⟩ := ih ht
        refine ⟨c :: body, rest, rfl, rfl, fun d hd => ?_⟩
        rcases List.mem_cons.1 hd with rfl | hd
        · exact ⟨hq, hl⟩
        · exact hb d hd

/-- A quoted text is taken up to its closing quote. -/
theorem scanAny_closed {cs : List Char} (hcs : ∀ c ∈ cs, c ≠ '"' ∧ c ≠ '\n') (rest : List Char) :
    scanAny '"' (cs ++ '"' :: rest) = .ok ⟨.literal, '"' :: (cs ++ ['"'])⟩ := by
  rw [scanAny_quoted, quotedTail?_append hcs]

end Lexeme

/-! ## The scanner -/

/-- A lexeme of the shape cannot go on into the text behind it. -/
def Shape.EndsBefore : Shape → List Char → Prop
  | .word, rest => StartsOutside isAlphabetic rest
  | .numeral, rest => StartsOutside Char.isDigit rest
  | .symbol, _ => True
  | .quoted, _ => True

namespace Lexeme

/-- A lexeme of the grammar is what the scanner takes, unless the text behind it goes on with the
same word or numeral or with a point. -/
theorem scanAny_of_hasShape {x : Lexeme} {s : Shape} {c : Char} {cs rest : List Char}
    (h : x.HasShape s) (hx : x.chars ++ rest = c :: cs) (hr : s.EndsBefore rest)
    (hp : rest.head? ≠ some '.') : scanAny c cs = .ok x := by
  obtain ⟨d, ds, hd, hb⟩ := h.begins
  obtain ⟨rfl, -⟩ : d = c ∧ ds ++ rest = cs := by rw [hd] at hx; exact List.cons.inj hx
  cases h with
  | @word ws kind hne hws hk =>
    rw [scanAny_word hb, ← hx, Text.takeWhile_append hws hr, wordKind_iff.1 hk]
  | @symbol c kind hk =>
    obtain ⟨rfl, rfl⟩ := List.cons.inj hd
    rw [scanAny_symbol hb.1 (TokenKind.lookup?_eq_some_iff.2 (.inl hk))]
  | @whole ns hne hns => rw [scanAny_numeral hb, ← hx, numeral_whole hns hr hp]
  | @fraction ns fs hne hns hfe hfs =>
    rw [scanAny_numeral hb, ← hx, List.append_assoc, List.cons_append,
      numeral_fraction hns hfe hfs hr]
  | @quoted qs hqs =>
    rw [List.cons_append, List.append_assoc] at hx
    obtain ⟨rfl, rfl⟩ := List.cons.inj hx
    exact scanAny_closed hqs rest

/-- What the scanner takes is a lexeme of the grammar that cannot go on. -/
theorem hasShape_of_scanAny {x : Lexeme} {c : Char} {cs : List Char} (h : scanAny c cs = .ok x) :
    ∃ s rest, x.HasShape s ∧ x.chars ++ rest = c :: cs ∧ s.EndsBefore rest := by
  cases hs : Shape.ofChar? c with
  | none =>
    rw [scanAny_none hs] at h
    cases h
  | some s =>
    have hb := Shape.ofChar?_eq_some_iff.1 hs
    refine ⟨s, ?_⟩
    cases s with
    | word =>
      have hc : isAlphabetic c = true := hb
      rw [scanAny_word hc] at h
      cases h
      exact ⟨_, .word (by simp [hc]) (fun d hd => List.mem_takeWhile_imp hd) (wordKind_iff.2 rfl),
        List.takeWhile_append_dropWhile, Text.startsOutside_dropWhile _ _⟩
    | symbol =>
      obtain ⟨hc, kind, hk⟩ := hb
      rw [scanAny_symbol hc hk] at h
      cases h
      -- a type name is never a single character, so the entry is a fixed text
      have hf : (String.ofList [c], kind) ∈ TokenKind.fixedTexts := by
        rcases TokenKind.lookup?_eq_some_iff.1 hk with hf | ⟨ht, -⟩
        · exact hf
        · exact absurd (by simp) (TokenKind.length_ne_one_of_typeNames _ ht)
      exact ⟨cs, .symbol hf, rfl, trivial⟩
    | numeral =>
      rw [scanAny_numeral hb] at h
      cases h
      obtain ⟨hn, rest, hrest, hr⟩ := hasShape_numeral hb cs
      exact ⟨rest, hn, hrest, hr⟩
    | quoted =>
      cases hb
      rw [scanAny_quoted] at h
      cases ht : quotedTail? cs with
      | none => rw [ht] at h; cases h
      | some tail =>
        rw [ht] at h
        cases h
        obtain ⟨body, rest, rfl, rfl, hbody⟩ := exists_of_quotedTail? ht
        exact ⟨rest, .quoted hbody, by simp, trivial⟩

theorem scan_eq_ok_iff {x : Lexeme} {c : Char} {cs : List Char} :
    scan c cs = .ok x ↔ scanAny c cs = .ok x ∧ x.chars.length ≤ maxTokenLength := by
  unfold scan
  cases hs : scanAny c cs with
  | error fault => simp
  | ok y =>
    by_cases hl : maxTokenLength < y.chars.length
    · simp only [hl, if_true, reduceCtorEq, false_iff, Except.ok.injEq]
      rintro ⟨rfl, h⟩
      omega
    · simp only [hl, if_false, Except.ok.injEq, iff_self_and]
      rintro rfl
      omega

end Lexeme

end StackScript
