import StackScript.Proofs.Token.Stream
import StackScript.Proofs.Value.RoundTrip

/-!
# What literals denote

The scanner recognises a numeral by its characters, and the reader of values classifies the text of the
numeral once more. The two agree: every literal token of a source denotes the text between its quotes or
the number that it spells.

* `Decimal.parse?_of_plain`: the reader of numbers accepts every numeral;
* `Value.parse_of_plain_whole` and `Value.parse_of_plain_float`: what a numeral denotes;
* `Lexer.hasShape_of_mem_pull`: every token that a stream delivers is a lexeme of the grammar;
* `Lexeme.HasShape.literal_cases`: a literal is a quoted text or a numeral;
* `literals_denote_what_they_spell`: the value of every token that a stream delivers.
-/

namespace StackScript

open Decimal (Digits Plain spelledNat)

/-! ## Numerals as numbers -/

namespace Decimal

/-- Digits without a point are read as the number that they spell. -/
theorem parse?_of_digits {ds : List Char} (h : Digits ds) :
    parse? ds = some { coefficient := spelledNat ds } := by
  have hsign : takeSign ds = (false, ds) := by
    have hout := h.startsOutside []
    rw [List.append_nil] at hout
    exact takeSign_append .none hout
  have hdigits : takeDigits ds = (ds, []) := by
    have hall := takeDigits_append h.2 (Text.startsOutside_nil Char.isDigit)
    rwa [List.append_nil] at hall
  simp only [parse?, hsign, hdigits, takeFraction, h.1, false_and, if_false, parseExponent?,
    Option.map_some, List.append_nil, natOfDigits_eq, List.length_nil]
  rfl

/-- The reader of numbers accepts every text of digits, with a point among them or without. -/
theorem parse?_of_plain {text : List Char} {coefficient : Nat} {exponent : Int}
    (h : Plain text coefficient exponent) : parse? text = some ⟨false, coefficient, exponent⟩ := by
  cases h with
  | whole hd => exact parse?_of_digits hd
  | @pointed whole fraction hw hf =>
    have hp : '.' ∈ whole ++ '.' :: fraction := by simp
    exact parse?_of_spells (Plain.spells false (.pointed hw hf) hp)

/-- Without a point there are digits alone. -/
theorem Plain.digits {text : List Char} {coefficient : Nat} {exponent : Int}
    (h : Plain text coefficient exponent) (hp : '.' ∉ text) : Digits text := by
  cases h with
  | whole hd => exact hd
  | pointed hw hf => exact absurd (by simp) hp

/-- A plain text begins with a digit. -/
theorem Plain.head? {text : List Char} {coefficient : Nat} {exponent : Int}
    (h : Plain text coefficient exponent) : text.head? ≠ some '"' := by
  have hdigits : ∀ {ds : List Char}, Digits ds → ∀ rest, (ds ++ rest).head? ≠ some '"' := by
    intro ds hd rest heq
    obtain ⟨d, ds, rfl⟩ := List.exists_cons_of_ne_nil hd.1
    rw [List.cons_append, List.head?_cons] at heq
    have hquote := hd.2 d List.mem_cons_self
    rw [Option.some.inj heq] at hquote
    exact absurd hquote (by decide)
  cases h with
  | whole hd =>
    have hhead := hdigits hd []
    rwa [List.append_nil] at hhead
  | pointed hw hf => exact hdigits hw _

end Decimal

/-! ## Numerals as values -/

namespace Value

variable {t : String} {coefficient : Nat} {exponent : Int}

/-- A numeral without a point that does not exceed the integers denotes the integer that it spells. -/
theorem parse_of_plain_whole (h : Plain t.toList coefficient exponent) (hp : '.' ∉ t.toList)
    (hn : spelledNat t.toList ≤ 2147483647) :
    ∃ k : Int32, k.toInt = spelledNat t.toList ∧ parse t = .int k := by
  have hk : (Int32.ofNat (spelledNat t.toList)).toInt = spelledNat t.toList :=
    Int32.toInt_ofNat_of_lt (Nat.lt_succ_of_le hn)
  exact ⟨_, hk, parse_eq_int_iff.2 ⟨h.digits hp, hn, hk⟩⟩

/-- Every other numeral denotes the float nearest to the number that it spells. -/
theorem parse_of_plain_float (h : Plain t.toList coefficient exponent)
    (hn : ¬ ('.' ∉ t.toList ∧ spelledNat t.toList ≤ 2147483647)) :
    parse t = .float (Decimal.toBinary32 ⟨false, coefficient, exponent⟩) := by
  by_cases hp : '.' ∈ t.toList
  · exact parse_eq_float_iff.2 (.inr ⟨hp, _, h.spells false hp, rfl⟩)
  · have hlarge : 2147483647 < spelledNat t.toList := Nat.lt_of_not_le fun hle => hn ⟨hp, hle⟩
    obtain ⟨-, rfl, rfl⟩ := @Decimal.Plain.of_digits _ _ _ false h (h.digits hp)
    exact parse_eq_float_iff.2 (.inl ⟨h.digits hp, hlarge, rfl⟩)

end Value

/-! ## Literal tokens -/

/-- Every token that a stream delivers is a lexeme of the grammar. -/
theorem Lexer.hasShape_of_mem_pull {l : Lexer} {n : Nat} {t : Token} (h : some (.ok t) ∈ l.pull n) :
    ∃ s, t.lexeme.HasShape s := by
  induction n generalizing l with
  | zero => cases h
  | succ n ih =>
    have hdel := l.next_delivery
    rw [pull] at h
    generalize l.next = next at hdel h
    cases hdel with
    | ended hb => exact ih ((List.mem_cons.1 h).resolve_left (by simp))
    | fault hl hb hc hs => exact ih ((List.mem_cons.1 h).resolve_left (by simp))
    | @token blanks cs rest c x hl hb hc hs hx =>
      rcases List.mem_cons.1 h with heq | h
      · obtain ⟨s, -, hshape, -⟩ := Lexeme.hasShape_of_scanAny (Lexeme.scan_eq_ok_iff.1 hs).1
        rw [Except.ok.inj (Option.some.inj heq), Token.lexeme_ofList]
        exact ⟨s, hshape⟩
      · exact ih h

theorem TokenKind.ne_literal_of_fixedTexts : ∀ e ∈ fixedTexts, e.2 ≠ .literal := by decide

theorem WordKind.ne_literal {text : String} {kind : TokenKind} (h : WordKind text kind) :
    kind ≠ .literal := by
  cases h with
  | fixed h => exact TokenKind.ne_literal_of_fixedTexts _ h
  | typeName | identifier => decide

/-- A literal is a quoted text without quotes and line feeds in it, or a numeral. -/
theorem Lexeme.HasShape.literal_cases {cs : List Char} {s : Shape}
    (h : Lexeme.HasShape ⟨.literal, cs⟩ s) :
    (∃ inner, cs = '"' :: (inner ++ ['"']) ∧ '"' ∉ inner ∧ '\n' ∉ inner) ∨
      ∃ coefficient exponent, Plain cs coefficient exponent := by
  cases h with
  | word hne hcs hk => exact absurd rfl hk.ne_literal
  | symbol hk => exact absurd rfl (TokenKind.ne_literal_of_fixedTexts _ hk)
  | whole hne hds => exact .inr ⟨_, _, .whole ⟨hne, hds⟩⟩
  | fraction hne hds hfe hfs => exact .inr ⟨_, _, .pointed ⟨hne, hds⟩ ⟨hfe, hfs⟩⟩
  | quoted hcs => exact .inl ⟨_, rfl, fun hq => (hcs _ hq).1 rfl, fun hl => (hcs _ hl).2 rfl⟩

namespace Token

variable {t : Token}

theorem literalValue?_of_quoted (hk : t.kind = .literal) {inner : List Char}
    (h : t.text.toList = '"' :: (inner ++ ['"'])) :
    t.literalValue? = some (.text (String.ofList inner)) := by
  simp [literalValue?, hk, h, unquoted?]

theorem literalValue?_of_head (hk : t.kind = .literal) (h : t.text.toList.head? ≠ some '"') :
    t.literalValue? = some (Value.parse t.text) := by
  have hun : unquoted? t.text.toList = none := by
    unfold unquoted?
    split
    · rename_i cs heq
      exact absurd (by rw [heq]; rfl) h
    · rfl
  simp only [literalValue?, hk, hun, if_true]

end Token

/-- Literals denote what they spell. A literal that begins with a quote denotes the text between its
quotes, which holds neither a quote nor a line feed. Every other literal is a numeral, which is read as a
decimal number; it denotes the integer that it spells, if it has no point and is at most 2147483647, and
in all other cases the float that is nearest to this number; and so neither `mono`, nor a truth value, nor
a text. No other token denotes a value. -/
theorem literals_denote_what_they_spell (source : String) {n : Nat} {t : Token}
    (h : some (.ok t) ∈ (Lexer.ofSource source).pull n) :
    (t.kind = .literal → t.text.toList.head? = some '"' →
      ∃ inner : List Char, t.text.toList = '"' :: (inner ++ ['"']) ∧ '"' ∉ inner ∧ '\n' ∉ inner ∧
        t.literalValue? = some (.text (String.ofList inner))) ∧
    (t.kind = .literal → t.text.toList.head? ≠ some '"' →
      ∃ coefficient exponent, Plain t.text.toList coefficient exponent ∧
        Decimal.parse? t.text.toList = some ⟨false, coefficient, exponent⟩ ∧
        ('.' ∉ t.text.toList ∧ spelledNat t.text.toList ≤ 2147483647 →
          ∃ k : Int32, k.toInt = spelledNat t.text.toList ∧ t.literalValue? = some (.int k)) ∧
        (¬ ('.' ∉ t.text.toList ∧ spelledNat t.text.toList ≤ 2147483647) →
          t.literalValue? = some (.float (Decimal.toBinary32 ⟨false, coefficient, exponent⟩))) ∧
        t.literalValue? ≠ some .mono ∧ (∀ b, t.literalValue? ≠ some (.bool b)) ∧
        ∀ s, t.literalValue? ≠ some (.text s)) ∧
    (t.kind ≠ .literal → t.literalValue? = none) := by
  obtain ⟨s, hshape⟩ := Lexer.hasShape_of_mem_pull h
  refine ⟨fun hk hq => ?_, fun hk hq => ?_, fun hk => if_neg hk⟩
  · rw [Token.lexeme, hk] at hshape
    rcases hshape.literal_cases with ⟨inner, htext, hquote, hfeed⟩ | ⟨coefficient, exponent, hplain⟩
    · exact ⟨inner, htext, hquote, hfeed, Token.literalValue?_of_quoted hk htext⟩
    · exact absurd hq hplain.head?
  · rw [Token.lexeme, hk] at hshape
    rcases hshape.literal_cases with ⟨inner, htext, -⟩ | ⟨coefficient, exponent, hplain⟩
    · exact absurd (by rw [htext]; rfl) hq
    · rw [Token.literalValue?_of_head hk hq]
      refine ⟨coefficient, exponent, hplain, Decimal.parse?_of_plain hplain, fun hn => ?_, fun hn => ?_, ?_⟩
      · obtain ⟨k, hk, hparse⟩ := Value.parse_of_plain_whole hplain hn.1 hn.2
        exact ⟨k, hk, congrArg some hparse⟩
      · exact congrArg some (Value.parse_of_plain_float hplain hn)
      · by_cases hn : '.' ∉ t.text.toList ∧ spelledNat t.text.toList ≤ 2147483647
        · obtain ⟨k, -, hparse⟩ := Value.parse_of_plain_whole hplain hn.1 hn.2
          simp [hparse]
        · simp [Value.parse_of_plain_float hplain hn]

/-- A quoted text that is empty, and the least numeral that is no integer any more. -/
theorem literals_denote_what_they_spell_large :
    let quoted : Token := ⟨.literal, "\"\"", some ⟨1, 1⟩⟩
    let numeral : Token := ⟨.literal, "2147483648", some ⟨1, 4⟩⟩
    (Lexer.ofSource "\"\" 2147483648").pull 2 = [some (.ok quoted), some (.ok numeral)] ∧
      (∃ inner : List Char, quoted.text.toList = '"' :: (inner ++ ['"']) ∧
        quoted.literalValue? = some (.text (String.ofList inner))) ∧
      Plain numeral.text.toList 2147483648 0 ∧
        numeral.literalValue? = some (.float (Binary32.ofBits 0x4f000000)) := by
  intro quoted numeral
  have hpull : (Lexer.ofSource "\"\" 2147483648").pull 2 = [some (.ok quoted), some (.ok numeral)] := by
    rfl
  have hquoted : some (.ok quoted) ∈ (Lexer.ofSource "\"\" 2147483648").pull 2 := by simp [hpull]
  have hnumeral : some (.ok numeral) ∈ (Lexer.ofSource "\"\" 2147483648").pull 2 := by simp [hpull]
  obtain ⟨inner, htext, -, -, hvalue⟩ := (literals_denote_what_they_spell _ hquoted).1 rfl (by decide)
  obtain ⟨coefficient, exponent, hplain, -, -, hfloat, -⟩ :=
    (literals_denote_what_they_spell _ hnumeral).2.1 rfl (by decide)
  -- the text is read as one decimal only
  have hread : Decimal.parse? "2147483648".toList = some { coefficient := 2147483648 } := by
    decide +kernel
  obtain ⟨-, rfl, rfl⟩ :=
    Decimal.mk.inj (Option.some.inj ((Decimal.parse?_of_plain hplain).symm.trans hread))
  have hbits : Decimal.toBinary32 ⟨false, 2147483648, 0⟩ = Binary32.ofBits 0x4f000000 := by
    decide +kernel
  exact ⟨hpull, ⟨inner, htext, hvalue⟩, hplain, hbits ▸ hfloat (by decide)⟩

end StackScript
