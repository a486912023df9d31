import Mathlib.Data.List.Chain
import Mathlib.Data.Set.Subsingleton
import StackScript.Proofs.Token.Stream

/-!
# Sources as tilings

A source that can be cut into tokens is a *tiling*: blanks, and lexemes with blanks behind them. Two
words or two numerals that follow each other have at least one blank between them, since without it
they would be one. The text of a tiling determines it.

* `Lexer.tokens_of_tiles`: the tokens of a tiling are its lexemes;
* `Lexer.exists_tiling_of_yields`: what a stream has read is a tiling, also if a fault ends it later;
* `Lexer.exists_tiling_of_tokens`: a text with tokens is the text of a tiling;
* `tokenize_eq_ok_iff_tiling`: sources with tokens are the texts of tilings, each of only one.
-/

namespace StackScript

open Text (isAlphabetic isBlank StartsOutside)

/-- A lexeme of the grammar with the blanks behind it. -/
@[ext] structure Tile where
  lexeme : Lexeme
  shape : Shape
  hasShape : lexeme.HasShape shape
  fits : lexeme.chars.length ≤ maxTokenLength
  gap : List Char
  gap_blank : ∀ c ∈ gap, isBlank c = true

namespace Tile

/-- The characters of a tile. -/
def chars (t : Tile) : List Char :=
  t.lexeme.chars ++ t.gap

/-- There is a blank between two words and between two numerals. -/
def Separated (a b : Tile) : Prop :=
  a.shape = .word ∧ b.shape = .word ∨ a.shape = .numeral ∧ b.shape = .numeral → a.gap ≠ []

end Tile

/-- Blanks, and then tiles. -/
structure Tiling where
  margin : List Char
  margin_blank : ∀ c ∈ margin, isBlank c = true
  tiles : List Tile
  separated : tiles.IsChain Tile.Separated

namespace Tiling

/-- The text of a tiling. -/
def chars (d : Tiling) : List Char :=
  d.margin ++ d.tiles.flatMap Tile.chars

/-- The lexemes of a tiling in order. -/
def lexemes (d : Tiling) : List Lexeme :=
  d.tiles.map Tile.lexeme

end Tiling

/-! ## Where lexemes end -/

namespace Shape

theorem begins_unique {s s' : Shape} {c : Char} (h : s.Begins c) (h' : s'.Begins c) : s = s' := by
  rw [← ofChar?_eq_some_iff] at h h'
  exact Option.some.inj (h.symm.trans h')

theorem endsBefore_nil (s : Shape) : s.EndsBefore [] := by
  cases s with
  | word => exact Text.startsOutside_nil _
  | numeral => exact Text.startsOutside_nil _
  | symbol => trivial
  | quoted => trivial

/-- Words and numerals end where no further one could begin; the others always end. -/
theorem endsBefore_cons {s : Shape} {c : Char} {cs : List Char} :
    s.EndsBefore (c :: cs) ↔ (s = .word ∨ s = .numeral → ¬ s.Begins c) := by
  cases s <;> simp [EndsBefore, Begins, Text.startsOutside_cons]

end Shape

namespace Tile

/-- What stands behind the lexeme of a tile neither continues it nor begins with a point. -/
theorem endsBefore {t : Tile} {ts : List Tile} (h : ∀ b ∈ ts.head?, t.Separated b) :
    t.shape.EndsBefore (t.gap ++ ts.flatMap chars) ∧
      (t.gap ++ ts.flatMap chars).head? ≠ some '.' := by
  cases hg : t.gap with
  | cons g gs =>
    have hb : isBlank g = true := t.gap_blank g (by simp [hg])
    rw [List.cons_append, Shape.endsBefore_cons, List.head?_cons]
    constructor
    · intro _ hs
      rw [hs.plain.1] at hb
      cases hb
    · intro hp
      rw [Option.some.inj hp] at hb
      exact absurd hb (by decide)
  | nil =>
    cases ts with
    | nil => exact ⟨Shape.endsBefore_nil _, by simp⟩
    | cons b ts =>
      obtain ⟨c, cs, hc, hb⟩ := b.hasShape.begins
      rw [List.nil_append, List.flatMap_cons, chars, hc, List.cons_append, List.cons_append,
        Shape.endsBefore_cons, List.head?_cons]
      constructor
      · intro hs ht
        have he := Shape.begins_unique ht hb
        refine h b rfl ?_ hg
        rcases hs with hs | hs
        · exact .inl ⟨hs, he ▸ hs⟩
        · exact .inr ⟨hs, he ▸ hs⟩
      · exact fun hp => hb.plain.2 (Option.some.inj hp)

end Tile

/-! ## From tilings to tokens -/

namespace Lexer

/-- The tokens of a tiling are its lexemes. -/
theorem tokens_of_tiles {ts : List Tile} (hs : ts.IsChain Tile.Separated) {l : Lexer}
    {margin : List Char} (hm : ∀ c ∈ margin, isBlank c = true)
    (hl : l.rest = margin ++ ts.flatMap Tile.chars) :
    ∃ us, l.tokens = .ok us ∧ us.map Token.lexeme = ts.map Tile.lexeme := by
  induction ts generalizing l margin with
  | nil =>
    rw [List.flatMap_nil, List.append_nil] at hl
    exact ⟨[], tokens_of_next_none (next_of_blank (hl ▸ hm)), rfl⟩
  | cons t ts ih =>
    obtain ⟨hsep, hs⟩ := List.isChain_cons.1 hs
    obtain ⟨c, cs, hc, hb⟩ := t.hasShape.begins
    obtain ⟨hend, hpoint⟩ := Tile.endsBefore hsep
    have hx : t.lexeme.chars ++ (t.gap ++ ts.flatMap Tile.chars) =
        c :: (cs ++ (t.gap ++ ts.flatMap Tile.chars)) := by rw [hc, List.cons_append]
    rw [List.flatMap_cons, Tile.chars, List.append_assoc, hx] at hl
    have hscan := Lexeme.scan_eq_ok_iff.2
      ⟨Lexeme.scanAny_of_hasShape t.hasShape hx hend hpoint, t.fits⟩
    have hnext := next_of_scan hl hm hb.plain.1 hscan hx
    obtain ⟨us, hus, hlex⟩ := ih hs t.gap_blank
      (l := ⟨_, (l.position.after margin).after t.lexeme.chars⟩) rfl
    refine ⟨_, by rw [tokens_of_next_ok hnext, hus, Except.map], ?_⟩
    rw [List.map_cons, List.map_cons, hlex, Token.lexeme_ofList]

end Lexer

/-! ## From tokens to tilings -/

/-- A lexeme that the scanner takes in front of a tiling gives a longer tiling. -/
theorem Tiling.exists_cons (d : Tiling) {blanks cs rest : List Char} {c : Char} {x : Lexeme}
    (hb : ∀ c ∈ blanks, isBlank c = true) (hs : Lexeme.scan c cs = .ok x)
    (hx : x.chars ++ (d.chars ++ rest) = c :: cs) :
    ∃ d' : Tiling, d'.chars = blanks ++ (x.chars ++ d.chars) ∧ d'.lexemes = x :: d.lexemes := by
  obtain ⟨hany, hfits⟩ := Lexeme.scan_eq_ok_iff.1 hs
  obtain ⟨s, rest', hshape, hx', hend⟩ := Lexeme.hasShape_of_scanAny hany
  obtain rfl : rest' = d.chars ++ rest := List.append_cancel_left (hx'.trans hx.symm)
  let tile : Tile := ⟨x, s, hshape, hfits, d.margin, d.margin_blank⟩
  -- a neighbour of the same shape would continue the lexeme
  have hsep : ∀ b ∈ d.tiles.head?, tile.Separated b := by
    intro b hbt hshape hgap
    obtain ⟨e, es, he, hbe⟩ := b.hasShape.begins
    obtain ⟨bs, hbs⟩ := List.head?_eq_some_iff.1 hbt
    have hg : d.margin = [] := hgap
    rw [chars, hg, List.nil_append, hbs, List.flatMap_cons, Tile.chars, he, List.cons_append,
      List.cons_append, List.cons_append, Shape.endsBefore_cons] at hend
    rcases hshape with ⟨rfl, hw⟩ | ⟨rfl, hw⟩
    · exact hend (.inl rfl) (hw ▸ hbe)
    · exact hend (.inr rfl) (hw ▸ hbe)
  refine ⟨⟨blanks, hb, tile :: d.tiles, List.isChain_cons.2 ⟨hsep, d.separated⟩⟩, ?_, rfl⟩
  simp only [chars, List.flatMap_cons, Tile.chars, tile, List.append_assoc]

namespace Lexer

/-- What a stream has read when it has delivered tokens and skipped blanks behind them is a tiling
with the lexemes of the tokens. -/
theorem exists_tiling_of_yields {l l' : Lexer} {ts : List Token} (h : Yields l ts l')
    {blanks rest : List Char} (hl : l'.rest = blanks ++ rest)
    (hb : ∀ c ∈ blanks, isBlank c = true) :
    ∃ d : Tiling, l.rest = d.chars ++ rest ∧ d.lexemes = ts.map Token.lexeme ∧
      l.position.after d.chars = l'.position.after blanks := by
  induction h with
  | nil l =>
    have hchars : Tiling.chars ⟨blanks, hb, [], .nil⟩ = blanks := by simp [Tiling.chars]
    exact ⟨⟨blanks, hb, [], .nil⟩, by rw [hchars, hl], rfl, by rw [hchars]⟩
  | @cons l l₁ l' t ts hn _ ih =>
    obtain ⟨d, hd, hlex, hpos⟩ := ih hl
    have hdel := l.next_delivery
    rw [hn] at hdel
    cases hdel with
    | @token before cs after c x hrest hbefore hc hs hx =>
      simp only at hd hpos
      rw [hd] at hx
      obtain ⟨d', hd', hlex'⟩ := d.exists_cons hbefore hs hx
      refine ⟨d', ?_, ?_, ?_⟩
      · rw [hd', hrest, ← hx]
        simp only [List.append_assoc]
      · rw [hlex', hlex, List.map_cons, Token.lexeme_ofList]
      · rw [hd', Position.after_append, Position.after_append, hpos]

/-- A text with tokens is the text of a tiling with the same lexemes. -/
theorem exists_tiling_of_tokens {l : Lexer} {us : List Token} (h : l.tokens = .ok us) :
    ∃ d : Tiling, d.chars = l.rest ∧ d.lexemes = us.map Token.lexeme := by
  obtain ⟨ts, l', hts, hend⟩ := l.exists_yields
  rw [tokens_of_yields hts] at h
  have hdel := l'.next_delivery
  generalize hn : l'.next = n at hdel
  cases hdel with
  | ended hb =>
    rw [tokens_of_next_none hn, Except.map, List.append_nil] at h
    obtain ⟨d, hd, hlex, -⟩ := exists_tiling_of_yields hts (List.append_nil _).symm hb
    exact ⟨d, by rw [hd, List.append_nil], by rw [hlex, Except.ok.inj h]⟩
  | token => exact absurd hn (hend _ _)
  | fault => rw [tokens_of_next_error hn] at h; cases h

end Lexer

/-! ## A tiling is determined by its text -/

namespace Tile

theorem ext_of_lexeme {t t' : Tile} (hl : t.lexeme = t'.lexeme) (hg : t.gap = t'.gap) : t = t' := by
  obtain ⟨c, cs, hc, hb⟩ := t.hasShape.begins
  obtain ⟨c', cs', hc', hb'⟩ := t'.hasShape.begins
  have hcc : c = c' := by
    rw [hl, hc'] at hc
    exact (List.cons.inj hc).1.symm
  exact Tile.ext hl (Shape.begins_unique hb (hcc ▸ hb')) hg

/-- Blanks and tiles with the same lexemes and the same text are the same. -/
theorem eq_of_lexemes {ts ts' : List Tile} (hlex : ts.map lexeme = ts'.map lexeme)
    {m m' : List Char} (hm : ∀ c ∈ m, isBlank c = true) (hm' : ∀ c ∈ m', isBlank c = true)
    (h : m ++ ts.flatMap chars = m' ++ ts'.flatMap chars) : m = m' ∧ ts = ts' := by
  induction ts generalizing ts' m m' with
  | nil =>
    obtain rfl : ts' = [] := List.map_eq_nil_iff.1 hlex.symm
    exact ⟨by simpa using h, rfl⟩
  | cons t ts ih =>
    obtain ⟨t', ts', rfl, ht, hts⟩ := List.map_eq_cons_iff.1 hlex.symm
    have hout : ∀ t : Tile, ∀ ts, StartsOutside isBlank ((t :: ts).flatMap chars) := by
      intro t ts
      obtain ⟨c, cs, hc, hb⟩ := t.hasShape.begins
      rw [List.flatMap_cons, chars, hc]
      exact Text.startsOutside_cons.2 hb.plain.1
    have hmm : m = m' := by
      rw [← Text.takeWhile_append hm (hout t ts), h, Text.takeWhile_append hm' (hout t' ts')]
    refine ⟨hmm, ?_⟩
    rw [hmm, List.append_cancel_left_eq, List.flatMap_cons, List.flatMap_cons, chars, chars, ht,
      List.append_assoc, List.append_assoc, List.append_cancel_left_eq] at h
    obtain ⟨hg, rfl⟩ := ih hts.symm t.gap_blank t'.gap_blank h
    rw [ext_of_lexeme ht.symm hg]

end Tile

theorem Tiling.chars_injective {d d' : Tiling} (h : d.chars = d'.chars) : d = d' := by
  -- both tilings have the lexemes that the stream delivers for their common text
  let l : Lexer := ⟨d.chars, .start⟩
  obtain ⟨us, hus, hlex⟩ := Lexer.tokens_of_tiles d.separated d.margin_blank (l := l) rfl
  obtain ⟨us', hus', hlex'⟩ := Lexer.tokens_of_tiles d'.separated d'.margin_blank (l := l) h
  rw [hus] at hus'
  cases hus'
  obtain ⟨hm, ht⟩ := Tile.eq_of_lexemes (hlex.symm.trans hlex') d.margin_blank d'.margin_blank h
  obtain ⟨m, hm₁, ts, hs⟩ := d
  obtain ⟨m', hm₁', ts', hs'⟩ := d'
  obtain rfl : m = m' := hm
  obtain rfl : ts = ts' := ht
  rfl

/-- A source can be cut into tokens exactly if it is the text of a tiling by lexemes of the grammar
with the same kinds and texts, and it is the text of at most one tiling. -/
theorem tokenize_eq_ok_iff_tiling (source : String) (ts : List Token) :
    ((∃ us, Token.tokenize source = .ok us ∧ us.map Token.lexeme = ts.map Token.lexeme) ↔
      ∃ d : Tiling, d.chars = source.toList ∧ d.lexemes = ts.map Token.lexeme) ∧
    {d : Tiling | d.chars = source.toList}.Subsingleton := by
  refine ⟨⟨?_, ?_⟩, fun d hd d' hd' => Tiling.chars_injective (hd.trans hd'.symm)⟩
  · rintro ⟨us, hus, hlex⟩
    obtain ⟨d, hd, hdl⟩ := Lexer.exists_tiling_of_tokens hus
    exact ⟨d, hd, hdl.trans hlex⟩
  · rintro ⟨d, hd, hdl⟩
    obtain ⟨us, hus, hlex⟩ := Lexer.tokens_of_tiles d.separated d.margin_blank
      (l := Lexer.ofSource source) hd.symm
    exact ⟨us, hus, hlex.trans hdl⟩

end StackScript
