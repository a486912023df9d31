import StackScript.Proofs.Token.Stream

/-!
# A line feed is where every lexeme ends

All rules of the scanner look behind the lexeme that they take, but none of them looks beyond a line
feed. A source can therefore be cut at any of its line feeds, and its parts read apart from each
other:

* `Lexeme.scan_append_lineFeed`: what the scanner finds does not depend on what stands behind a line
  feed;
* `Lexer.Yields.extend`: the tokens that a stream delivers before a line feed do not depend on it
  either;
* `Lexer.tokens_lower`: tokens move down together with the place where their stream starts;
* `tokenize_append_lineFeed`: the tokens of two texts with a line feed between them.
-/

namespace StackScript

open Text (isAlphabetic isBlank StartsOutside)

/-! ## The scanner -/

namespace Lexeme

theorem numeral_append_lineFeed (cs b : List Char) : numeral (cs ++ '\n' :: b) = numeral cs := by
  have hout : ∀ b, StartsOutside Char.isDigit ('\n' :: b) := fun b =>
    Text.startsOutside_cons.2 rfl
  rw [numeral, numeral, Text.takeWhile_append_outside (hout b), Text.dropWhile_append_outside (hout b)]
  cases hd : cs.dropWhile Char.isDigit with
  | nil => rfl
  | cons c ds =>
    by_cases hc : c = '.'
    · subst hc
      simp only [List.cons_append, Text.takeWhile_append_outside (hout b)]
    · simp [hc]

theorem quotedTail?_append_lineFeed (cs b : List Char) :
    quotedTail? (cs ++ '\n' :: b) = quotedTail? cs := by
  induction cs with
  | nil => rfl
  | cons c cs ih => rw [List.cons_append, quotedTail?, quotedTail?, ih]

theorem scanAny_append_lineFeed (c : Char) (cs b : List Char) :
    scanAny c (cs ++ '\n' :: b) = scanAny c cs := by
  cases hs : Shape.ofChar? c with
  | none => rw [scanAny_none hs, scanAny_none hs]
  | some s =>
    have hb := Shape.ofChar?_eq_some_iff.1 hs
    cases s with
    | word =>
      have hout : StartsOutside isAlphabetic ('\n' :: b) := Text.startsOutside_cons.2 (by decide)
      rw [scanAny_word hb, scanAny_word hb, ← List.cons_append, Text.takeWhile_append_outside hout]
    | symbol =>
      obtain ⟨hc, kind, hk⟩ := hb
      rw [scanAny_symbol hc hk, scanAny_symbol hc hk]
    | numeral =>
      rw [scanAny_numeral hb, scanAny_numeral hb, ← List.cons_append, numeral_append_lineFeed]
    | quoted =>
      obtain rfl : c = '"' := hb
      rw [scanAny_quoted, scanAny_quoted, quotedTail?_append_lineFeed]

/-- What the scanner finds does not depend on what stands behind a line feed. -/
theorem scan_append_lineFeed (c : Char) (cs b : List Char) :
    scan c (cs ++ '\n' :: b) = scan c cs := by
  rw [scan, scan, scanAny_append_lineFeed]

end Lexeme

/-! ## Longer sources -/

namespace Lexer

/-- The stream on a longer source, which goes on with a line feed and further text. -/
def extend (l : Lexer) (b : List Char) : Lexer :=
  ⟨l.rest ++ '\n' :: b, l.position⟩

theorem next_extend_ok {l l' : Lexer} {t : Token} (h : l.next = (some (.ok t), l'))
    (b : List Char) : (l.extend b).next = (some (.ok t), l'.extend b) := by
  have hdel := l.next_delivery
  rw [h] at hdel
  cases hdel with
  | @token blanks cs rest c x hl hb hc hs hx =>
    have hrest : (l.extend b).rest = blanks ++ c :: (cs ++ '\n' :: b) := by
      simp only [extend, hl, List.append_assoc, List.cons_append]
    have hscan : Lexeme.scan c (cs ++ '\n' :: b) = .ok x := by
      rw [Lexeme.scan_append_lineFeed, hs]
    exact next_of_scan hrest hb hc hscan (by rw [← List.append_assoc, hx, List.cons_append])

theorem next_extend_error {l l' : Lexer} {e : LexError} (h : l.next = (some (.error e), l'))
    (b : List Char) : ∃ l'', (l.extend b).next = (some (.error e), l'') := by
  have hdel := l.next_delivery
  rw [h] at hdel
  cases hdel with
  | @fault blanks cs c fault hl hb hc hs =>
    have hrest : (l.extend b).rest = blanks ++ c :: (cs ++ '\n' :: b) := by
      simp only [extend, hl, List.append_assoc, List.cons_append]
    have hscan : Lexeme.scan c (cs ++ '\n' :: b) = .error fault := by
      rw [Lexeme.scan_append_lineFeed, hs]
    exact ⟨_, next_of_fault hrest hb hc hscan⟩

/-- The tokens before a line feed are delivered whatever stands behind it. -/
theorem Yields.extend {l l' : Lexer} {ts : List Token} (h : Yields l ts l') (b : List Char) :
    Yields (l.extend b) ts (l'.extend b) := by
  induction h with
  | nil l => exact .nil _
  | cons h _ ih => exact .cons (next_extend_ok h b) ih

/-- Whatever has been delivered, the text ends at the same place. -/
theorem Yields.position_after {l l' : Lexer} {ts : List Token} (h : Yields l ts l') :
    l'.position.after l'.rest = l.position.after l.rest := by
  induction h with
  | nil l => rfl
  | @cons l l₁ l' t ts h _ ih =>
    have hdel := l.next_delivery
    rw [h] at hdel
    cases hdel with
    | token hl hb hc hs hx =>
      rw [ih, hl, ← hx, Position.after_append, Position.after_append]

theorem tokens_congr {l l' : Lexer} (h : l.next = l'.next) : l.tokens = l'.tokens := by
  rcases hn : l'.next with ⟨_ | ⟨e | t⟩, l₁⟩
  · rw [tokens_of_next_none (h.trans hn), tokens_of_next_none hn]
  · rw [tokens_of_next_error (h.trans hn), tokens_of_next_error hn]
  · rw [tokens_of_next_ok (h.trans hn), tokens_of_next_ok hn]

/-- Blanks in front of a text only move its tokens. -/
theorem tokens_of_blanks {l : Lexer} {blanks rest : List Char} (hl : l.rest = blanks ++ rest)
    (hb : ∀ c ∈ blanks, isBlank c = true) :
    l.tokens = (⟨rest, l.position.after blanks⟩ : Lexer).tokens := by
  have hout := Text.startsOutside_dropWhile isBlank rest
  have htail : ∀ c ∈ rest.takeWhile isBlank, isBlank c = true := fun c h => List.mem_takeWhile_imp h
  have hall : ∀ c ∈ blanks ++ rest.takeWhile isBlank, isBlank c = true :=
    List.forall_mem_append.2 ⟨hb, htail⟩
  have hskip : l.skipBlanks = (⟨rest, l.position.after blanks⟩ : Lexer).skipBlanks := by
    rw [skipBlanks_eq (l := ⟨rest, _⟩) List.takeWhile_append_dropWhile.symm htail hout,
      skipBlanks_eq (by rw [hl, List.append_assoc, List.takeWhile_append_dropWhile]) hall hout,
      Position.after_append]
  exact tokens_congr (by simp only [next, hskip])

end Lexer

/-! ## Lower places -/

/-- The token `k` rows further down. -/
def Token.lower (k : Nat) (t : Token) : Token :=
  { t with position := t.position.map (Position.lower k) }

/-- The fault `k` rows further down. -/
def LexError.lower (k : Nat) (e : LexError) : LexError :=
  { e with position := e.position.lower k }

namespace Lexer

/-- The stream on the same text `k` rows further down. -/
def lower (k : Nat) (l : Lexer) : Lexer :=
  ⟨l.rest, l.position.lower k⟩

theorem next_lower (k : Nat) (l : Lexer) :
    (l.lower k).next = (l.next.1.map fun item => (item.mapError (LexError.lower k)).map (Token.lower k),
      l.next.2.lower k) := by
  have hdel := l.next_delivery
  generalize l.next = n at hdel
  cases hdel with
  | ended hb =>
    rw [next_of_blank (l := l.lower k) hb]
    simp only [lower, Position.after_lower, Option.map_none]
  | token hl hb hc hs hx =>
    rw [next_of_scan (l := l.lower k) hl hb hc hs hx]
    simp only [lower, Position.after_lower, Option.map_some]
    rfl
  | fault hl hb hc hs =>
    rw [next_of_fault (l := l.lower k) hl hb hc hs]
    simp only [lower, Position.after_lower, Option.map_some]
    rfl

/-- On a text that starts further down the tokens, or the fault, are further down. -/
theorem tokens_lower (k : Nat) (l : Lexer) :
    (l.lower k).tokens = (l.tokens.mapError (LexError.lower k)).map (List.map (Token.lower k)) := by
  induction hn : l.rest.length using Nat.strong_induction_on generalizing l with
  | _ n ih =>
    have hlow := l.next_lower k
    rcases hnext : l.next with ⟨_ | ⟨e | t⟩, l₁⟩
    · rw [hnext] at hlow
      rw [tokens_of_next_none hlow, tokens_of_next_none hnext]
      rfl
    · rw [hnext] at hlow
      rw [tokens_of_next_error hlow, tokens_of_next_error hnext]
      rfl
    · rw [hnext] at hlow
      rw [tokens_of_next_ok hlow, tokens_of_next_ok hnext,
        ih _ (hn ▸ length_rest_next_lt hnext) l₁ rfl]
      cases l₁.tokens <;> rfl

end Lexer

/-- Two texts with a line feed between them have the tokens of the first and, further down by as many
rows as the first and the line feed take up, those of the second. If the first has a fault, that is
the fault of both, and otherwise a fault of the second is, further down. -/
theorem tokenize_append_lineFeed (a b : String) :
    Token.tokenize (a ++ "\n" ++ b) = do
      let ts ← Token.tokenize a
      let us ← (Token.tokenize b).mapError (LexError.lower (1 + a.toList.count '\n'))
      return ts ++ us.map (Token.lower (1 + a.toList.count '\n')) := by
  have hsource : Lexer.ofSource (a ++ "\n" ++ b) = (Lexer.ofSource a).extend b.toList := by
    simp [Lexer.ofSource, Lexer.extend]
  obtain ⟨ts, l, hts, hend⟩ := (Lexer.ofSource a).exists_yields
  have ha : Token.tokenize a = l.tokens.map (ts ++ ·) := Lexer.tokens_of_yields hts
  have hab : Token.tokenize (a ++ "\n" ++ b) = (l.extend b.toList).tokens.map (ts ++ ·) := by
    rw [Token.tokenize, hsource, Lexer.tokens_of_yields (hts.extend b.toList)]
  have hdel := l.next_delivery
  generalize hn : l.next = n at hdel
  cases hdel with
  | token => exact absurd hn (hend _ _)
  | fault =>
    obtain ⟨l', hn'⟩ := Lexer.next_extend_error hn b.toList
    rw [hab, ha, Lexer.tokens_of_next_error hn', Lexer.tokens_of_next_error hn]
    rfl
  | ended hb =>
    have hplace : (l.position.after l.rest).advance '\n' =
        Position.start.lower (1 + a.toList.count '\n') := by
      rw [hts.position_after]
      exact Position.advance_lineFeed a.toList
    have hblanks : ∀ c ∈ l.rest ++ ['\n'], isBlank c = true :=
      List.forall_mem_append.2 ⟨hb, List.forall_mem_singleton.2 (by decide)⟩
    have hsplit : (l.extend b.toList).rest = (l.rest ++ ['\n']) ++ b.toList := by
      simp [Lexer.extend]
    have hrest : (l.extend b.toList).tokens =
        ((Lexer.ofSource b).lower (1 + a.toList.count '\n')).tokens := by
      rw [Lexer.tokens_of_blanks hsplit hblanks, Position.after_append]
      exact congrArg (fun p => Lexer.tokens ⟨b.toList, p⟩) hplace
    rw [hab, ha, hrest, Lexer.tokens_lower, Lexer.tokens_of_next_none hn, Except.map,
      List.append_nil]
    show _ = ((Lexer.ofSource b).tokens.mapError _).bind _
    cases (Lexer.ofSource b).tokens <;> rfl

end StackScript
