import StackScript.Proofs.Token.Slices
import StackScript.Proofs.Token.Stream

/-!
# Cursors

In memory a token stream is a cursor into the encoded source: the byte offset of the next character, with
its row and column in counters of 32 bits. A cursor is moved by slices of the source, and it is stuck
(`none`) if a slice would begin or end inside a character or a counter would overflow.

* `Cursor.exists_next?_tracks`: a cursor delivers what the stream delivers and stands where it stands then,
  unless its counters have no room for the rest of the source;
* `Cursor.of_pull?` and `Cursor.exists_pull?`: hence so does a cursor along the whole stream, and it is not
  stuck in a source of less than 2 ^ 32 - 1 characters;
* `Cursor.next?_of_long_blanks`: a source with one character more can be too long;
* `Lexer.next_placed`: what is delivered has the place of its first character;
* `Lexer.pairwise_place?_pull`: later deliveries have later places;
* `source_positions_are_exact`: all this along the whole stream.
-/

namespace StackScript

open String (utf8Len)
open Text (isBlank StartsOutside)

/-- A place in an encoded source. -/
structure Cursor where
  /-- The number of bytes before the next character. -/
  offset : Nat
  row : UInt32
  column : UInt32
deriving Repr

namespace Cursor

/-- The cursor before the first character. -/
def start : Cursor := ⟨0, 1, 1⟩

/-- Row and column of the next character. -/
def position (k : Cursor) : Position :=
  ⟨k.row.toNat, k.column.toNat⟩

/-- The next number, unless the counter would overflow. -/
def succ? (n : UInt32) : Option UInt32 :=
  if n.toNat + 1 < UInt32.size then some (n + 1) else none

/-- The cursor with its counters behind a character. -/
def advance? (k : Cursor) (c : Char) : Option Cursor :=
  if c = '\n' then (succ? k.row).map (⟨k.offset, ·, 1⟩)
  else (succ? k.column).map (⟨k.offset, k.row, ·⟩)

/-- The cursor behind a piece of text. -/
def bump? (k : Cursor) (text : List Char) : Option Cursor := do
  let moved ← text.foldlM advance? k
  return { moved with offset := moved.offset + utf8Len text }

/-- The cursor behind the blanks. -/
def skipBlanks? (source : List Char) (k : Cursor) : Option Cursor := do
  let rest ← Text.from? k.offset source
  let blanks ← Text.upTo? (Text.runEnd isBlank rest) rest
  k.bump? blanks

/-- The next token or the fault that ends the stream, and the cursor behind it. -/
def next? (source : List Char) (k : Cursor) :
    Option (Option (Except LexError Token) × Cursor) := do
  let k ← k.skipBlanks? source
  match ← Text.from? k.offset source with
  | [] => return (none, k)
  | c :: cs =>
    match ← Sliced.scan? c cs with
    | .ok lexeme =>
      let behind ← k.bump? lexeme.chars
      return (some (.ok ⟨lexeme.kind, String.ofList lexeme.chars, some k.position⟩), behind)
    | .error fault =>
      return (some (.error ⟨fault, k.position⟩), { k with offset := utf8Len source })

/-- The first `n` deliveries, and the cursor behind them. -/
def pull? (source : List Char) (k : Cursor) :
    Nat → Option (List (Option (Except LexError Token)) × Cursor)
  | 0 => some ([], k)
  | n + 1 => do
    let (item, k) ← k.next? source
    let (items, k) ← pull? source k n
    return (item :: items, k)

/-! ## Moving a cursor -/

theorem toNat_of_succ? {n m : UInt32} (h : succ? n = some m) : m.toNat = n.toNat + 1 := by
  rw [succ?] at h
  split at h
  · rename_i hlt
    cases h
    rw [UInt32.toNat_add, UInt32.toNat_one]
    exact Nat.mod_eq_of_lt hlt
  · cases h

/-- The counters behind one more character. -/
theorem position_of_advance? {k k' : Cursor} {c : Char} (h : k.advance? c = some k') :
    k'.offset = k.offset ∧ k'.position = k.position.advance c := by
  rw [advance?] at h
  rw [Position.advance]
  split at h
  · rename_i hc
    obtain ⟨row, hrow, rfl⟩ := Option.map_eq_some_iff.1 h
    rw [if_pos hc, position, toNat_of_succ? hrow]
    exact ⟨rfl, rfl⟩
  · rename_i hc
    obtain ⟨column, hcolumn, rfl⟩ := Option.map_eq_some_iff.1 h
    rw [if_neg hc, position, toNat_of_succ? hcolumn]
    exact ⟨rfl, rfl⟩

theorem position_of_foldlM_advance? {k k' : Cursor} {text : List Char}
    (h : text.foldlM advance? k = some k') :
    k'.offset = k.offset ∧ k'.position = k.position.after text := by
  induction text generalizing k with
  | nil =>
    cases h
    exact ⟨rfl, rfl⟩
  | cons c text ih =>
    rw [List.foldlM_cons] at h
    obtain ⟨k₁, hk₁, h⟩ := Option.bind_eq_some_iff.1 h
    obtain ⟨hoffset₁, hposition₁⟩ := position_of_advance? hk₁
    obtain ⟨hoffset, hposition⟩ := ih h
    exact ⟨hoffset.trans hoffset₁, by rw [hposition, hposition₁]; rfl⟩

/-- The counters have room for one more step at each character of a text. -/
def Fits (k : Cursor) (text : List Char) : Prop :=
  k.row.toNat + text.length < UInt32.size ∧ k.column.toNat + text.length < UInt32.size

theorem Fits.nil {k : Cursor} {text : List Char} (h : k.Fits text) : k.Fits [] :=
  ⟨Nat.lt_of_le_of_lt (Nat.le_add_right _ _) h.1, Nat.lt_of_le_of_lt (Nat.le_add_right _ _) h.2⟩

/-- Counters with room for a text have room for what is left of it behind a character. -/
theorem exists_advance? {k : Cursor} {c : Char} {text : List Char} (h : k.Fits (c :: text)) :
    ∃ k', k.advance? c = some k' ∧ k'.Fits text := by
  obtain ⟨hrow, hcolumn⟩ := h
  rw [List.length_cons] at hrow hcolumn
  rw [advance?]
  by_cases hc : c = '\n'
  · have hsucc : succ? k.row = some (k.row + 1) := if_pos (by omega)
    refine ⟨⟨k.offset, k.row + 1, 1⟩, by rw [if_pos hc, hsucc]; rfl, ?_, ?_⟩
    · rw [toNat_of_succ? hsucc]
      omega
    · rw [UInt32.toNat_one]
      omega
  · have hsucc : succ? k.column = some (k.column + 1) := if_pos (by omega)
    refine ⟨⟨k.offset, k.row, k.column + 1⟩, by rw [if_neg hc, hsucc]; rfl, ?_, ?_⟩
    · exact Nat.lt_of_succ_lt hrow
    · rw [toNat_of_succ? hsucc]
      omega

theorem exists_foldlM_advance? {k : Cursor} {text rest : List Char} (h : k.Fits (text ++ rest)) :
    ∃ k', text.foldlM advance? k = some k' ∧ k'.Fits rest := by
  induction text generalizing k with
  | nil => exact ⟨k, rfl, h⟩
  | cons c text ih =>
    obtain ⟨k₁, hk₁, h₁⟩ := exists_advance? h
    obtain ⟨k', hk', h'⟩ := ih h₁
    refine ⟨k', ?_, h'⟩
    rw [List.foldlM_cons, hk₁]
    exact hk'

/-- The cursor stands where the stream stands: what is left of the source behind its offset is what the
stream has left to read, and both count the same row and column. -/
structure Mirrors (source : List Char) (k : Cursor) (l : Lexer) : Prop where
  from?_eq : Text.from? k.offset source = some l.rest
  position_eq : k.position = l.position

theorem mirrors_start (source : String) : Mirrors source.toList start (.ofSource source) :=
  ⟨Text.from?_append [] source.toList, rfl⟩

theorem fits_start {source : String} (h : source.length < 2 ^ 32 - 1) :
    start.Fits (Lexer.ofSource source).rest := by
  have hlength : (Lexer.ofSource source).rest.length = source.length := String.length_toList
  have hone : (1 : UInt32).toNat + (Lexer.ofSource source).rest.length < UInt32.size := by
    rw [hlength, UInt32.toNat_one, UInt32.size]
    omega
  exact ⟨hone, hone⟩

/-- What can become of a cursor where a stream goes on from `l` to `l'`: it stands where the stream stands
then, or it is stuck, because its counters have no room for the rest of the source. -/
inductive Tracks (source : List Char) (k : Cursor) (l l' : Lexer) : Option Cursor → Prop
  | stuck (hfits : ¬ k.Fits l.rest) : Tracks source k l l' none
  | stands {k' : Cursor} (h : Mirrors source k' l') (hfits : k.Fits l.rest → k'.Fits l'.rest) :
    Tracks source k l l' (some k')

theorem Tracks.trans {source : List Char} {k k₁ : Cursor} {l l₁ l' : Lexer} {o : Option Cursor}
    (hfits : k.Fits l.rest → k₁.Fits l₁.rest) (h : Tracks source k₁ l₁ l' o) :
    Tracks source k l l' o := by
  cases h with
  | stuck hstuck => exact .stuck (mt hfits hstuck)
  | stands h' hfits' => exact .stands h' (hfits' ∘ hfits)

theorem Tracks.exists_stands {source : List Char} {k : Cursor} {l l' : Lexer} {o : Option Cursor}
    (h : Tracks source k l l' o) (hfits : k.Fits l.rest) :
    ∃ k', o = some k' ∧ Mirrors source k' l' ∧ k'.Fits l'.rest := by
  cases h with
  | stuck hstuck => exact absurd hfits hstuck
  | stands h' hfits' => exact ⟨_, rfl, h', hfits' hfits⟩

/-- Moved over the text before it, a cursor stands behind that text. -/
theorem bump?_tracks {source text rest : List Char} {k : Cursor} {p : Position}
    (h : Mirrors source k ⟨text ++ rest, p⟩) :
    Tracks source k ⟨text ++ rest, p⟩ ⟨rest, p.after text⟩ (k.bump? text) := by
  cases hmoved : text.foldlM advance? k with
  | none =>
    rw [bump?, hmoved]
    refine .stuck fun hfits => ?_
    obtain ⟨k', hk', -⟩ := exists_foldlM_advance? hfits
    cases hmoved.symm.trans hk'
  | some moved =>
    obtain ⟨hoffset, hposition⟩ := position_of_foldlM_advance? hmoved
    rw [bump?, hmoved]
    refine .stands ⟨?_, hposition.trans (congrArg (Position.after · text) h.position_eq)⟩ fun hfits => ?_
    · rw [hoffset]
      exact Text.from?_add h.from?_eq
    · obtain ⟨k', hk', hfits'⟩ := exists_foldlM_advance? hfits
      cases hmoved.symm.trans hk'
      exact hfits'

/-- A cursor at the end of the source has nothing left. -/
theorem Mirrors.finish {source : List Char} {k : Cursor} {l : Lexer} (h : Mirrors source k l) :
    Mirrors source { k with offset := utf8Len source } ⟨[], l.position⟩ := by
  have hall := Text.from?_append source []
  rw [List.append_nil] at hall
  exact ⟨hall, h.position_eq⟩

/-- Blanks are skipped as a whole. -/
theorem skipBlanks?_tracks {source blanks rest : List Char} {k : Cursor} {p : Position}
    (h : Mirrors source k ⟨blanks ++ rest, p⟩) (hb : ∀ c ∈ blanks, isBlank c = true)
    (hr : StartsOutside isBlank rest) :
    Tracks source k ⟨blanks ++ rest, p⟩ ⟨rest, p.after blanks⟩ (k.skipBlanks? source) := by
  have hslice := Text.upTo?_runEnd isBlank (blanks ++ rest)
  rw [Text.takeWhile_append hb hr] at hslice
  have hskip : k.skipBlanks? source = k.bump? blanks := by
    simp only [skipBlanks?, h.from?_eq, Option.bind_eq_bind, Option.bind_some, hslice]
  rw [hskip]
  exact bump?_tracks h

end Cursor

/-! ## Deliveries one after the other -/

namespace Lexer

/-- The stream behind its first `n` deliveries. -/
def afterPull (l : Lexer) : Nat → Lexer
  | 0 => l
  | n + 1 => l.next.2.afterPull n

theorem pull_succ (l : Lexer) (n : Nat) : l.pull (n + 1) = l.pull n ++ [(l.afterPull n).next.1] := by
  induction n generalizing l with
  | zero => rfl
  | succ n ih => exact congrArg (l.next.1 :: ·) (ih l.next.2)

/-- Unless it delivers a fault, a stream has read a piece of its source. -/
theorem exists_read_next {l : Lexer} (h : ∀ e, l.next.1 ≠ some (.error e)) :
    ∃ read, l.rest = read ++ l.next.2.rest ∧ l.next.2.position = l.position.after read := by
  have hdel := l.next_delivery
  generalize l.next = next at hdel h
  cases hdel with
  | ended hb => exact ⟨l.rest, (List.append_nil _).symm, rfl⟩
  | @token blanks cs rest c x hl hb hc hs hx =>
    exact ⟨blanks ++ x.chars, by rw [hl, ← hx, List.append_assoc], (Position.after_append _ _ _).symm⟩
  | fault hl hb hc hs => exact absurd rfl (h _)

theorem exists_read_afterPull {l : Lexer} {n : Nat} (h : ∀ e, some (.error e) ∉ l.pull n) :
    ∃ read, l.rest = read ++ (l.afterPull n).rest ∧
      (l.afterPull n).position = l.position.after read := by
  induction n generalizing l with
  | zero => exact ⟨[], rfl, rfl⟩
  | succ n ih =>
    obtain ⟨read₁, hrest₁, hposition₁⟩ :=
      l.exists_read_next fun e he => h e (List.mem_cons.2 (.inl he.symm))
    obtain ⟨read, hrest, hposition⟩ :=
      ih (l := l.next.2) fun e he => h e (List.mem_cons_of_mem _ he)
    refine ⟨read₁ ++ read, ?_, ?_⟩
    · rw [hrest₁, hrest, List.append_assoc]
      rfl
    · rw [Position.after_append, ← hposition₁]
      exact hposition

/-- A stream that has read all of its source delivers nothing. -/
theorem pull_of_nil (p : Position) (n : Nat) : (⟨[], p⟩ : Lexer).pull n = List.replicate n none :=
  pull_of_blank (fun _ hc => absurd hc List.not_mem_nil) n

/-- Behind a fault nothing is delivered. -/
theorem pull_succ_of_fault {l : Lexer} {n : Nat} {e : LexError} (h : some (.error e) ∈ l.pull n) :
    l.pull (n + 1) = l.pull n ++ [none] := by
  induction n generalizing l with
  | zero => cases h
  | succ n ih =>
    have hdel := l.next_delivery
    rw [pull] at h ⊢
    rw [pull]
    generalize l.next = next at hdel h
    cases hdel with
    | ended hb => exact congrArg (none :: ·) (ih ((List.mem_cons.1 h).resolve_left (by simp)))
    | token hl hb hc hs hx => exact congrArg (_ :: ·) (ih ((List.mem_cons.1 h).resolve_left (by simp)))
    | @fault blanks cs c fault hl hb hc hs =>
      have hmore := pull_of_nil (l.position.after blanks) (n + 1)
      rw [List.replicate_succ', ← pull_of_nil] at hmore
      exact congrArg (_ :: ·) hmore

end Lexer

/-! ## A cursor in place of a stream -/

namespace Cursor

variable {source : List Char} {k k' : Cursor} {l : Lexer}

/-- A cursor delivers what the stream delivers and stands where the stream stands then, or is stuck. -/
theorem exists_next?_tracks (h : Mirrors source k l) :
    ∃ o, k.next? source = o.map (l.next.1, ·) ∧ Tracks source k l l.next.2 o := by
  have hdel := l.next_delivery
  obtain ⟨rest, p⟩ := l
  generalize (⟨rest, p⟩ : Lexer).next = n at hdel
  cases hdel with
  | ended hb =>
    have h' : Mirrors source k ⟨rest ++ [], p⟩ := by rwa [List.append_nil]
    have hskip := skipBlanks?_tracks h' hb (Text.startsOutside_nil isBlank)
    rw [List.append_nil] at hskip
    refine ⟨k.skipBlanks? source, ?_, hskip⟩
    rw [next?]
    generalize k.skipBlanks? source = o at hskip
    cases hskip with
    | stuck => rfl
    | stands h₁ =>
      simp only [Option.bind_eq_bind, Option.bind_some, h₁.from?_eq]
      rfl
  | @token blanks cs rest c x hl hb hc hs hx =>
    obtain rfl := hl
    have hskip := skipBlanks?_tracks h hb (Text.startsOutside_cons.2 hc)
    rw [next?]
    generalize k.skipBlanks? source = o at hskip
    cases hskip with
    | stuck hfits => exact ⟨none, rfl, .stuck hfits⟩
    | @stands k₁ h₁ hfits =>
      refine ⟨k₁.bump? x.chars, ?_, ?_⟩
      · simp only [Option.bind_eq_bind, Option.bind_some, h₁.from?_eq, Sliced.scan?_eq, hs,
          h₁.position_eq]
        cases k₁.bump? x.chars <;> rfl
      · rw [← hx] at h₁
        have hbump := bump?_tracks h₁
        rw [hx] at hbump
        exact hbump.trans hfits
  | @fault blanks cs c fault hl hb hc hs =>
    obtain rfl := hl
    have hskip := skipBlanks?_tracks h hb (Text.startsOutside_cons.2 hc)
    rw [next?]
    generalize k.skipBlanks? source = o at hskip
    cases hskip with
    | stuck hfits => exact ⟨none, rfl, .stuck hfits⟩
    | @stands k₁ h₁ hfits =>
      refine ⟨some { k₁ with offset := utf8Len source }, ?_, .stands h₁.finish fun hk => (hfits hk).nil⟩
      simp only [Option.bind_eq_bind, Option.bind_some, h₁.from?_eq, Sliced.scan?_eq, hs,
        h₁.position_eq]
      rfl

theorem exists_pull?_tracks (h : Mirrors source k l) (n : Nat) :
    ∃ o, k.pull? source n = o.map (l.pull n, ·) ∧ Tracks source k l (l.afterPull n) o := by
  induction n generalizing k l with
  | zero => exact ⟨some k, rfl, .stands h id⟩
  | succ n ih =>
    obtain ⟨o, hnext, htracks⟩ := exists_next?_tracks h
    rw [pull?, hnext]
    cases htracks with
    | stuck hfits => exact ⟨none, rfl, .stuck hfits⟩
    | @stands k₁ h₁ hfits =>
      obtain ⟨o', hpull, htracks'⟩ := ih h₁
      refine ⟨o', ?_, htracks'.trans hfits⟩
      simp only [Option.map_some, Option.bind_eq_bind, Option.bind_some, hpull]
      cases o' <;> rfl

/-- A cursor whose counters have room for the rest of the source is not stuck. -/
theorem exists_pull? (h : Mirrors source k l) (hfits : k.Fits l.rest) (n : Nat) :
    ∃ k', k.pull? source n = some (l.pull n, k') ∧ Mirrors source k' (l.afterPull n) ∧
      k'.Fits (l.afterPull n).rest := by
  obtain ⟨o, hpull, htracks⟩ := exists_pull?_tracks h n
  obtain ⟨k', rfl, hk'⟩ := htracks.exists_stands hfits
  exact ⟨k', hpull, hk'⟩

/-- The bound is exact: behind as many blanks as are needed to pass it there is no column any more. -/
theorem next?_of_long_blanks {n : Nat} (h : 2 ^ 32 - 1 ≤ n) :
    start.next? (List.replicate n ' ') = none := by
  have hblank : ∀ c ∈ List.replicate n ' ', isBlank c = true := fun c hc => by
    rw [List.eq_of_mem_replicate hc]
    decide
  have hstart : Mirrors (List.replicate n ' ') start ⟨List.replicate n ' ', .start⟩ :=
    ⟨Text.from?_append [] _, rfl⟩
  obtain ⟨o, hnext, htracks⟩ := exists_next?_tracks hstart
  rw [Lexer.next_of_blank hblank] at htracks
  cases htracks with
  | stuck => exact hnext
  | @stands k' h' =>
    have hposition := h'.position_eq.trans (Position.after_start _)
    have hcolumn : k'.column.toNat = 1 + n := by
      rw [show k'.column.toNat = k'.position.column from rfl, hposition]
      simp [Position.behind]
    have hlt := k'.column.toNat_lt
    omega

end Cursor

/-! ## The places of what is delivered -/

namespace Lexer

/-- What a stream that has read `before` can deliver of the `rest` of its source: nothing, if only blanks
are left, or else a token or a fault with the place of the first character behind the blanks. -/
inductive Placed (before rest : List Char) : Option (Except LexError Token) → Prop
  | nothing (h : ∀ c ∈ rest, isBlank c = true) : Placed before rest none
  | token {blanks cs after : List Char} {c : Char} {kind : TokenKind}
    (hrest : rest = blanks ++ (c :: cs) ++ after) (hb : ∀ c ∈ blanks, isBlank c = true)
    (hc : isBlank c = false) :
    Placed before rest
      (some (.ok ⟨kind, String.ofList (c :: cs), some (.behind (before ++ blanks))⟩))
  | fault {blanks cs : List Char} {c : Char} {fault : LexFault} (hrest : rest = blanks ++ c :: cs)
    (hb : ∀ c ∈ blanks, isBlank c = true) (hc : isBlank c = false)
    (hs : Lexeme.scan c cs = .error fault) :
    Placed before rest (some (.error ⟨fault, .behind (before ++ blanks)⟩))

theorem next_placed {l : Lexer} {before : List Char} (h : l.position = .behind before) :
    Placed before l.rest l.next.1 := by
  have hdel := l.next_delivery
  generalize l.next = n at hdel
  cases hdel with
  | ended hb => exact .nothing hb
  | @token blanks cs rest c x hl hb hc hs hx =>
    obtain ⟨d, ds, hd⟩ := List.exists_cons_of_ne_nil (Lexeme.scan_ne_nil hs)
    obtain ⟨rfl, -⟩ : d = c ∧ ds ++ rest = cs := by rw [hd] at hx; exact List.cons.inj hx
    have hrest : l.rest = blanks ++ (d :: ds) ++ rest := by rw [List.append_assoc, ← hd, hx, hl]
    rw [h, Position.after_behind, hd]
    exact .token hrest hb hc
  | fault hl hb hc hs =>
    rw [h, Position.after_behind]
    exact .fault hl hb hc hs

/-- The place of a token or a fault. -/
def place? : Option (Except LexError Token) → Option Position
  | some (.ok t) => t.position
  | some (.error e) => some e.position
  | none => none

/-- What lies before a stream lies before all that it delivers. -/
theorem before_of_mem_pull {l : Lexer} {n : Nat} {p q : Position} (hp : p.Before l.position)
    (hq : q ∈ (l.pull n).filterMap place?) : p.Before q := by
  induction n generalizing l with
  | zero => cases hq
  | succ n ih =>
    have hdel := l.next_delivery
    rw [pull] at hq
    generalize l.next = next at hdel hq
    cases hdel with
    | ended hb => exact ih (hp.after _) hq
    | token hl hb hc hs hx =>
      rcases List.mem_cons.1 hq with rfl | hq
      · exact hp.after _
      · exact ih ((hp.after _).after _) hq
    | fault hl hb hc hs =>
      rcases List.mem_cons.1 hq with rfl | hq
      · exact hp.after _
      · exact ih (hp.after _) hq

/-- The places of what a stream delivers increase. -/
theorem pairwise_place?_pull (l : Lexer) (n : Nat) :
    ((l.pull n).filterMap place?).Pairwise Position.Before := by
  induction n generalizing l with
  | zero => exact .nil
  | succ n ih =>
    have hdel := l.next_delivery
    rw [pull]
    generalize l.next = next at hdel
    cases hdel with
    | ended hb => exact ih _
    | @token blanks cs rest c x hl hb hc hs hx =>
      refine List.Pairwise.cons (fun q hq => ?_) (ih _)
      have hlater := (l.position.after blanks).before_after (Lexeme.scan_ne_nil hs)
      exact before_of_mem_pull (l := ⟨rest, _⟩) hlater hq
    | fault hl hb hc hs =>
      refine List.Pairwise.cons (fun q hq => ?_) (ih _)
      simp [pull_of_nil, place?] at hq

end Lexer

/-- Source positions are exact. In a source of less than 2 ^ 32 - 2 characters, after any number of
deliveries without a fault, a cursor has not been stuck and has delivered what the stream delivers; its
offset is the number of bytes of the text that was read, which ends between two characters, and its
counters are one more than the line feeds in that text and than the characters behind the last of them.
The stream has the same counters and the rest of the source left. The next delivery succeeds too, and has
the place of the first character of its lexeme. Behind a fault nothing is delivered, and the places of all
that is delivered increase. -/
theorem source_positions_are_exact {source : String} (hsize : source.length < 2 ^ 32 - 2) :
    (∀ n, (∀ e, some (.error e) ∉ (Lexer.ofSource source).pull n) →
      ∃ (k : Cursor) (before rest : List Char),
        Cursor.start.pull? source.toList n = some ((Lexer.ofSource source).pull n, k) ∧
        source.toList = before ++ rest ∧
        (Lexer.ofSource source).afterPull n = ⟨rest, ⟨k.row.toNat, k.column.toNat⟩⟩ ∧
        k.offset = (String.ofList before).utf8ByteSize ∧
        (⟨k.offset⟩ : String.Pos.Raw).IsValid source ∧
        k.row.toNat = 1 + before.count '\n' ∧
        k.column.toNat = 1 + (before.reverse.takeWhile (· ≠ '\n')).length ∧
        ∃ item k', k.next? source.toList = some (item, k') ∧
          (Lexer.ofSource source).pull (n + 1) = (Lexer.ofSource source).pull n ++ [item] ∧
          Lexer.Placed before rest item) ∧
    (∀ n e, some (.error e) ∈ (Lexer.ofSource source).pull n →
      (Lexer.ofSource source).pull (n + 1) = (Lexer.ofSource source).pull n ++ [none]) ∧
    ∀ n, (((Lexer.ofSource source).pull n).filterMap Lexer.place?).Pairwise Position.Before := by
  refine ⟨fun n hn => ?_, fun n e => Lexer.pull_succ_of_fault, (Lexer.ofSource source).pairwise_place?_pull⟩
  have hstart := Cursor.mirrors_start source
  obtain ⟨k, hpull, hk, hfits⟩ := Cursor.exists_pull? hstart (Cursor.fits_start (by omega)) n
  obtain ⟨before, hsource, hposition⟩ := Lexer.exists_read_afterPull hn
  have hmore := (Lexer.ofSource source).pull_succ n
  generalize (Lexer.ofSource source).afterPull n = l at hk hfits hsource hposition hmore
  have hplace : l.position = .behind before := hposition.trans (Position.after_start before)
  obtain ⟨o, hnext, htracks⟩ := Cursor.exists_next?_tracks hk
  obtain ⟨k', rfl, -⟩ := htracks.exists_stands hfits
  obtain ⟨hfrom, hcount⟩ := hk
  have hoffset : k.offset = utf8Len before := by
    obtain ⟨front, hfront, hoffset⟩ := Text.from?_eq_some_iff.1 hfrom
    rw [hoffset, List.append_cancel_right (hfront.symm.trans hsource)]
  have hcut : (Text.cut? k.offset source.toList).isSome = true := by
    rw [show source.toList = before ++ l.rest from hsource, hoffset, Text.cut?_append,
      Option.isSome_some]
  rw [hplace] at hcount
  refine ⟨k, before, l.rest, hpull, hsource, ?_, ?_, Text.isSome_cut?_iff.1 hcut,
    congrArg Position.row hcount, congrArg Position.column hcount, l.next.1, k', hnext, hmore,
    Lexer.next_placed hplace⟩
  · rw [← Cursor.position, hcount, ← hplace]
  · rw [hoffset, String.utf8ByteSize_ofList]

/-- Characters of several bytes, and a line separator that is a blank but begins no row. -/
theorem source_positions_are_exact_separator :
    "α\u2028\tβ\r\n+".length < 2 ^ 32 - 2 ∧
      (∀ e, some (.error e) ∉ (Lexer.ofSource "α\u2028\tβ\r\n+").pull 3) ∧
      ∃ k : Cursor, Cursor.start.pull? "α\u2028\tβ\r\n+".toList 3 =
          some ((Lexer.ofSource "α\u2028\tβ\r\n+").pull 3, k) ∧
        (k.offset, k.row.toNat, k.column.toNat) = (11, 2, 2) := by
  have hsize : "α\u2028\tβ\r\n+".length < 2 ^ 32 - 2 := by decide
  have hok : ∀ item ∈ (Lexer.ofSource "α\u2028\tβ\r\n+").pull 3, item.all Except.isOk = true := by
    decide +kernel
  have hn : ∀ e, some (.error e) ∉ (Lexer.ofSource "α\u2028\tβ\r\n+").pull 3 := fun e he =>
    absurd (hok _ he) (by simp [Except.isOk, Except.toBool])
  have hplace : (Cursor.start.pull? "α\u2028\tβ\r\n+".toList 3).map
      (fun r => (r.2.offset, r.2.row.toNat, r.2.column.toNat)) = some (11, 2, 2) := by
    decide +kernel
  obtain ⟨k, -, -, hpull, -⟩ := (source_positions_are_exact hsize).1 3 hn
  rw [hpull, Option.map_some] at hplace
  exact ⟨hsize, hn, k, hpull, Option.some.inj hplace⟩

end StackScript
