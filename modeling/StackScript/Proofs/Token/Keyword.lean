import StackScript.Proofs.Token.Scan

/-!
# Symbols, keywords and type names

The scanner searches ever narrower windows for a text of the tables. What it finds can be said without
the windows: at a letter the whole word is looked up, however long it is, and elsewhere the single
character.

* `TokenKind.eq_of_begins`: no text of the tables begins another one;
* `Lexeme.fixed?_eq_some_iff`: the search finds a front with its kind;
* `Lexeme.fixed?_of_keyword`: a word that goes on behind a keyword is not found;
* `fixed_match_is_one_lookup`: all of this by the tables.
-/

namespace StackScript

open Text (isAlphabetic)

namespace TokenKind

/-- The texts of both tables. -/
def texts : List String :=
  fixedTexts.map Prod.fst ++ typeNames

theorem mem_texts_of_lookup? {text : String} {kind : TokenKind} (h : lookup? text = some kind) :
    text ∈ texts := by
  rw [texts, List.mem_append]
  rcases lookup?_eq_some_iff.1 h with h | ⟨h, -⟩
  · exact .inl (List.mem_map_of_mem h)
  · exact .inr h

/-- No text of the tables begins another one. -/
theorem eq_of_begins : ∀ a ∈ texts, ∀ b ∈ texts, a.toList <+: b.toList → a = b := by
  decide +kernel

/-- A single character has the kind that the table of symbols gives it. -/
theorem lookup?_singleton_eq_some_iff {c : Char} {kind : TokenKind} :
    lookup? (String.ofList [c]) = some kind ↔ (String.ofList [c], kind) ∈ fixedTexts := by
  rw [lookup?_eq_some_iff]
  constructor
  · rintro (h | ⟨h, -⟩)
    · exact h
    · exact absurd (by simp) (length_ne_one_of_typeNames _ h)
  · exact .inl

end TokenKind

namespace Lexeme

/-- The search through the windows finds a lexeme exactly if it is the front and has a kind. -/
theorem fixed?_eq_some_iff {cs : List Char} {x : Lexeme} :
    fixed? cs = some x ↔ x.chars = front cs ∧ TokenKind.lookup? (String.ofList x.chars) = some x.kind := by
  obtain ⟨kind, chars⟩ := x
  rw [fixed?_eq, Option.map_eq_some_iff]
  constructor
  · rintro ⟨k, hk, heq⟩
    cases heq
    exact ⟨rfl, hk⟩
  · rintro ⟨rfl, hk⟩
    exact ⟨kind, hk, rfl⟩

/-- Nothing is found at a word that goes on behind a keyword. -/
theorem fixed?_of_keyword {cs : List Char} {keyword : String} (hk : keyword ∈ TokenKind.texts)
    (hpre : keyword.toList <+: front cs) (hne : keyword.toList ≠ front cs) : fixed? cs = none := by
  by_contra hsome
  obtain ⟨x, hx⟩ := Option.ne_none_iff_exists'.1 hsome
  obtain ⟨hfront, hlook⟩ := fixed?_eq_some_iff.1 hx
  rw [hfront] at hlook
  have hmem := TokenKind.mem_texts_of_lookup? hlook
  have heq := TokenKind.eq_of_begins _ hk _ hmem (by rwa [String.toList_ofList])
  exact hne (by rw [heq, String.toList_ofList])

end Lexeme

/-- The search through ever narrower windows is one look-up. At a character that is no letter it finds this
character, if the table of symbols and keywords lists it; at a letter it finds the whole word, of any
length, if one of the tables lists it; and it finds nothing else. So nothing is found at a word that begins
with a keyword or the name of a type and goes on behind it. The look-up agrees with the two tables on every
text. -/
theorem fixed_match_is_one_lookup (c : Char) (cs : List Char) :
    (∀ kind w, Lexeme.fixed? (c :: cs) = some ⟨kind, w⟩ ↔
      (isAlphabetic c = false ∧ (String.ofList [c], kind) ∈ TokenKind.fixedTexts ∧ w = [c]) ∨
      (isAlphabetic c = true ∧ w = (c :: cs).takeWhile isAlphabetic ∧
        ((String.ofList w, kind) ∈ TokenKind.fixedTexts ∨
          String.ofList w ∈ TokenKind.typeNames ∧ kind = .typeName))) ∧
    (∀ keyword, keyword ∈ TokenKind.fixedTexts.map Prod.fst ∨ keyword ∈ TokenKind.typeNames →
      keyword.toList <+: (c :: cs).takeWhile isAlphabetic →
      keyword.toList ≠ (c :: cs).takeWhile isAlphabetic → Lexeme.fixed? (c :: cs) = none) ∧
    (∀ text kind, TokenKind.lookup? text = some kind ↔
      (text, kind) ∈ TokenKind.fixedTexts ∨ text ∈ TokenKind.typeNames ∧ kind = .typeName) := by
  refine ⟨fun kind w => ?_, fun keyword hk hpre hne => ?_, fun text kind => TokenKind.lookup?_eq_some_iff⟩
  · rw [Lexeme.fixed?_eq_some_iff]
    by_cases hc : isAlphabetic c = true
    · have hf : Lexeme.front (c :: cs) = (c :: cs).takeWhile isAlphabetic := if_pos hc
      rw [hf, TokenKind.lookup?_eq_some_iff]
      simp [hc]
    · have hf : Lexeme.front (c :: cs) = [c] := if_neg hc
      rw [hf]
      constructor
      · rintro ⟨rfl, hk⟩
        exact .inl ⟨Bool.of_not_eq_true hc, TokenKind.lookup?_singleton_eq_some_iff.1 hk, rfl⟩
      · rintro (⟨-, hk, rfl⟩ | ⟨hc', -⟩)
        · exact ⟨rfl, TokenKind.lookup?_singleton_eq_some_iff.2 hk⟩
        · exact absurd hc' hc
  · by_cases hc : isAlphabetic c = true
    · have hf : Lexeme.front (c :: cs) = (c :: cs).takeWhile isAlphabetic := if_pos hc
      rw [← hf] at hpre hne
      exact Lexeme.fixed?_of_keyword (List.mem_append.2 hk) hpre hne
    · -- where there is no word nothing goes on
      rw [List.takeWhile_cons_of_neg hc] at hpre hne
      exact absurd (List.prefix_nil.1 hpre) hne

/-- A word of 64 letters that begins with a keyword, and the keyword before a symbol. -/
theorem fixed_match_is_one_lookup_window :
    Lexeme.fixed? ('m' :: 'u' :: 't' :: List.replicate 61 'a') = none ∧
      Lexeme.fixed? ['m', 'u', 't', '('] = some ⟨.mutKeyword, ['m', 'u', 't']⟩ := by
  constructor
  · refine (fixed_match_is_one_lookup 'm' _).2.1 "mut" (.inl ?_) ?_ ?_ <;> decide +kernel
  · refine ((fixed_match_is_one_lookup 'm' _).1 _ _).2 (.inr ⟨?_, ?_, .inl ?_⟩) <;> decide +kernel

end StackScript
