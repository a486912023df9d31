import StackScript.Machine.Listing
import StackScript.Proofs.Script.Line
import StackScript.Proofs.Text.Lines
import StackScript.Proofs.Text.Quoted
import StackScript.Proofs.Value.RoundTrip

/-!
# Listings can be read

In a listing a text stands between quotes, with all that could break the line escaped, and every other
value is shown by visible characters that are no quotes. An entry of the history therefore stays on its
line, and what was executed can be read off: the opcode, and the operand if it is text. As a line of a
script an entry is read in another way, since a script has no quotes; there just the operands come back
that their plain text denotes.

* `Value.visible_display`: the text of a value that is no text;
* `Listing.readLine?_display`: what can be read off an entry;
* `Machine.lines_entries`: a listing has one line for each entry;
* `Script.parseLine_display_iff`: the commands that come back from their entry;
* `listings_are_unambiguous`: all of this.
-/

namespace StackScript

open Decimal (Digits spelledNat)

/-! ## Texts of values -/

/-- The character is a visible one of ASCII, and no quote. -/
def Text.IsVisible (c : Char) : Prop :=
  0x20 < c.toNat ∧ c.toNat < 0x7f ∧ c ≠ '"'

instance (c : Char) : Decidable (Text.IsVisible c) :=
  inferInstanceAs (Decidable (_ ∧ _))

/-- There are characters, and they are visible and no quotes. -/
def Text.Visible (cs : List Char) : Prop :=
  cs ≠ [] ∧ ∀ c ∈ cs, IsVisible c

namespace Text

theorem IsVisible.not_isControl {c : Char} (h : IsVisible c) : ¬ IsControl c := by
  obtain ⟨hlow, hhigh, -⟩ := h
  rw [IsControl]
  omega

theorem IsVisible.isMargin {c : Char} (h : IsVisible c) : Script.isMargin c = false := by
  refine decide_eq_false fun hm => ?_
  simp only [List.mem_cons, List.not_mem_nil, or_false] at hm
  rcases hm with rfl | rfl | rfl | rfl | rfl | rfl <;> exact absurd h (by decide)

theorem isVisible_of_isDigit {c : Char} (h : c.isDigit = true) : IsVisible c := by
  obtain ⟨hlow, hhigh⟩ := Char.isDigit_iff_toNat.1 h
  have hlow : 48 ≤ c.toNat := hlow
  have hhigh : c.toNat ≤ 57 := hhigh
  refine ⟨by omega, by omega, ?_⟩
  rintro rfl
  exact absurd h (by decide)

/-- Texts that are given can be checked. -/
theorem visible_of_all {cs : List Char} (hne : cs ≠ []) (h : (cs.all fun c => decide (IsVisible c)) = true) :
    Visible cs :=
  ⟨hne, fun c hc => of_decide_eq_true (List.all_eq_true.1 h c hc)⟩

theorem visible_of_digits {ds : List Char} (h : Digits ds) : Visible ds :=
  ⟨h.1, fun c hc => isVisible_of_isDigit (h.2 c hc)⟩

theorem Visible.append {cs ds : List Char} (hc : Visible cs) (hd : Visible ds) : Visible (cs ++ ds) :=
  ⟨List.append_ne_nil_of_left_ne_nil hc.1 ds, List.forall_mem_append.2 ⟨hc.2, hd.2⟩⟩

theorem Visible.endsOutside {cs : List Char} (h : Visible cs) : EndsOutside Script.isMargin cs :=
  fun c hc => (h.2 c (List.mem_of_getLast? hc)).isMargin

end Text

theorem Decimal.Plain.visible {text : List Char} {coefficient : Nat} {exponent : Int}
    (h : Plain text coefficient exponent) : Text.Visible text := by
  have hpoint : Text.Visible ['.'] := Text.visible_of_all (by simp) (by decide)
  cases h with
  | whole hd => exact Text.visible_of_digits hd
  | pointed hw hf =>
    exact (Text.visible_of_digits hw).append (hpoint.append (Text.visible_of_digits hf))

theorem Binary32.visible_display (x : Binary32) : Text.Visible x.display.toList := by
  have hminus : Text.Visible ['-'] := Text.visible_of_all (by simp) (by decide)
  by_cases hfin : x.IsFinite
  · obtain ⟨negative, text, coefficient, exponent, htext, hplain, -⟩ := exists_plain hfin
    rw [htext]
    cases negative with
    | false => exact hplain.visible
    | true => exact hminus.append hplain.visible
  · cases x with
    | nan => exact Text.visible_of_all (by decide) (by decide)
    | signed negative rank =>
      have hinf : rank = infinite := Fin.ext (Nat.le_antisymm (Fin.le_last rank) (Nat.not_lt.1 hfin))
      rw [display, if_pos hinf]
      cases negative <;> exact Text.visible_of_all (by decide) (by decide)

namespace Value

/-- The text of a value that is no text. -/
theorem visible_display {v : Value} (h : v.text? = none) : Text.Visible v.display.toList := by
  cases v with
  | mono => exact Text.visible_of_all (by decide) (by decide)
  | float x => exact x.visible_display
  | bool b => cases b <;> exact Text.visible_of_all (by decide) (by decide)
  | text s => cases h
  | int n =>
    rw [display]
    cases n.toInt with
    | ofNat k => exact Text.visible_of_digits (digits_toList_natCast k).1
    | negSucc k =>
      have hminus : Text.Visible ['-'] := Text.visible_of_all (by simp) (by decide)
      rw [show toString (Int.negSucc k) = "-" ++ toString ((k + 1 : Nat) : Int) from rfl,
        String.toList_append]
      exact hminus.append (Text.visible_of_digits (digits_toList_natCast (k + 1)).1)

/-- A value is a text, or it has none. -/
theorem eq_text_or (v : Value) : (∃ s, v = .text s) ∨ v.text? = none := by
  cases v with
  | text s => exact .inl ⟨s, rfl⟩
  | mono | int n | float x | bool b => exact .inr rfl

theorem repr_of_text? {v : Value} (h : v.text? = none) : v.repr = v.display := by
  cases v with
  | text s => cases h
  | mono | int n | float x | bool b => rfl

/-- No quoted form is the text of a value that is no text. -/
theorem repr_ne_quote {v : Value} (h : v.text? = none) (s : String) : v.repr ≠ Text.quote s := by
  intro heq
  have hquote : '"' ∈ v.repr.toList := by
    rw [heq, Text.quote, String.toList_ofList]
    exact List.mem_cons_self
  rw [repr_of_text? h] at hquote
  exact ((visible_display h).2 _ hquote).2.2 rfl

theorem not_isControl_of_mem_repr {v : Value} {c : Char} (h : c ∈ v.repr.toList) :
    ¬ Text.IsControl c := by
  rcases v.eq_text_or with ⟨s, rfl⟩ | ht
  · exact Text.not_isControl_of_mem_quote h
  · rw [repr_of_text? ht] at h
    exact ((visible_display ht).2 c h).not_isControl

end Value

/-! ## Entries of the history -/

namespace Command

/-- A command with an operand is its mnemonic and the text of the operand, with a space between them. -/
theorem toList_display {c : Command} (h : c.operand ≠ .mono) :
    c.display.toList = c.opcode.mnemonic.toList ++ ' ' :: c.operand.repr.toList := by
  rw [display, if_neg (mt Value.isMono_eq_true_iff.1 h), String.toList_append, String.toList_append,
    List.append_assoc]
  rfl

theorem display_of_mono {c : Command} (h : c.operand = .mono) : c.display = c.opcode.mnemonic := by
  rw [display, h]
  rfl

theorem not_isControl_of_mem_mnemonic {op : Opcode} {c : Char} (h : c ∈ op.mnemonic.toList) :
    ¬ Text.IsControl c := by
  have hall : ∀ op ∈ Opcode.all, (op.mnemonic.toList.all fun c => !decide (Text.IsControl c)) = true := by
    decide
  simpa using List.all_eq_true.1 (hall op (Opcode.mem_all op)) c h

theorem not_isControl_of_mem_display {c : Command} {d : Char} (h : d ∈ c.display.toList) :
    ¬ Text.IsControl d := by
  by_cases hm : c.operand = .mono
  · rw [display_of_mono hm] at h
    exact not_isControl_of_mem_mnemonic h
  · rw [toList_display hm, List.mem_append, List.mem_cons] at h
    rcases h with h | rfl | h
    · exact not_isControl_of_mem_mnemonic h
    · decide
    · exact Value.not_isControl_of_mem_repr h

end Command

namespace Listing

/-- What can be read off a line of a listing of commands: the opcode, and the operand if it is quoted. -/
def readLine? (line : List Char) : Option (Opcode × Option String) :=
  let (word, operand) := Script.splitLine (line.drop 2)
  (Opcode.ofWord? word).map fun op => (op, Text.unquote? (String.ofList operand))

theorem unquote?_repr (v : Value) : Text.unquote? v.repr = v.text? := by
  rcases v.eq_text_or with ⟨s, rfl⟩ | ht
  · exact Text.unquote?_quote s
  · rw [Value.repr_of_text? ht, ht]
    obtain ⟨hne, hvisible⟩ := Value.visible_display ht
    obtain ⟨c, cs, hcs⟩ := List.exists_cons_of_ne_nil hne
    have hc : c ≠ '"' := (hvisible c (hcs ▸ List.mem_cons_self)).2.2
    simp [Text.unquote?, hcs, hc]

/-- The opcode of a command can be read off its entry, and the operand if it is text. -/
theorem readLine?_display (c : Command) :
    readLine? ("- " ++ c.display).toList = some (c.opcode, c.operand.text?) := by
  have hop : Opcode.ofWord? c.opcode.mnemonic.toList = some c.opcode :=
    Opcode.ofWord?_eq_some_iff.2 (decide_eq_true rfl)
  have hspace := Script.space_notMem_mnemonic c.opcode
  have hdrop : ("- " ++ c.display).toList.drop 2 = c.display.toList := by
    rw [String.toList_append]
    rfl
  rw [readLine?, hdrop]
  by_cases hm : c.operand = .mono
  · rw [Command.display_of_mono hm, Script.splitLine_of_notMem hspace, hm]
    simp only [hop, Option.map_some]
    rfl
  · rw [Command.toList_display hm, Script.splitLine_append hspace]
    simp only [hop, Option.map_some, String.ofList_toList, unquote?_repr]

end Listing

namespace Machine

/-- A listing has one line for each entry. -/
theorem lines_entries {cs : List Command} (hne : cs ≠ []) :
    Text.lines (entries (cs.map Command.display)) = cs.map fun c => ("- " ++ c.display).toList := by
  have hflat : (entries (cs.map Command.display)).toList =
      (cs.map fun c => ("- " ++ c.display).toList).flatMap (· ++ ['\n']) := by
    rw [entries, if_neg (by simpa using hne), String.toList_join]
    simp [List.flatMap_map]
  rw [Text.lines, hflat]
  refine Text.splitLines_flatMap fun l hl => ?_
  obtain ⟨c, -, rfl⟩ := List.mem_map.1 hl
  have hcontrol : ∀ d ∈ ("- " ++ c.display).toList, ¬ Text.IsControl d := by
    rw [String.toList_append]
    refine List.forall_mem_append.2 ⟨?_, fun d => Command.not_isControl_of_mem_display⟩
    rintro d hd
    rw [show "- ".toList = ['-', ' '] from rfl, List.mem_cons, List.mem_singleton] at hd
    rcases hd with rfl | rfl <;> decide
  exact ⟨fun h => hcontrol _ h (by decide), fun h => hcontrol _ (List.mem_of_getLast? h) (by decide)⟩

end Machine

/-! ## Entries as lines of a script -/

namespace Text

theorem length_le_flatMap_escapeChar (cs : List Char) : cs.length ≤ (cs.flatMap escapeChar).length := by
  induction cs with
  | nil => exact Nat.le_refl _
  | cons c cs ih =>
    have hc : 0 < (escapeChar c).length := by
      rcases escapeChar_cases c with ⟨h, -⟩ | ⟨d, h, -⟩ | h <;> simp [h, escapeCodePoint]
    rw [List.flatMap_cons, List.length_append, List.length_cons]
    omega

/-- A quoted text is longer than the text. -/
theorem length_lt_quote (s : String) : s.toList.length < (quote s).toList.length := by
  have hle := length_le_flatMap_escapeChar s.toList
  simp only [quote, quoteChars, String.toList_ofList, List.cons_append, List.length_cons,
    List.length_append, List.length_nil]
  omega

theorem endsOutside_quote (s : String) : EndsOutside Script.isMargin (quote s).toList := by
  intro c hc
  rw [quote, quoteChars, String.toList_ofList, List.getLast?_concat] at hc
  cases hc
  decide

end Text

theorem Value.endsOutside_repr (v : Value) :
    v.repr.toList ≠ [] ∧ Text.EndsOutside Script.isMargin v.repr.toList := by
  rcases v.eq_text_or with ⟨s, rfl⟩ | ht
  · have hlen := Text.length_lt_quote s
    exact ⟨List.ne_nil_of_length_pos (by rw [repr]; omega), Text.endsOutside_quote s⟩
  · rw [repr_of_text? ht]
    exact ⟨(visible_display ht).1, (visible_display ht).endsOutside⟩

/-- The text of a value in a listing denotes the value, if it is no text and comes back from its plain
text; a text in quotes denotes another text. -/
theorem Value.parse_repr_iff (v : Value) :
    parse v.repr = v ↔ v.text? = none ∧ parse v.display = v := by
  rcases v.eq_text_or with ⟨s, rfl⟩ | ht
  · refine iff_of_false (fun h => ?_) (by rintro ⟨⟨⟩, -⟩)
    have heq : s = Text.quote s := (parse_eq_text_iff.1 h).1
    have hlen := Text.length_lt_quote s
    rw [← heq] at hlen
    exact Nat.lt_irrefl _ hlen
  · rw [repr_of_text? ht, and_iff_right ht]

namespace Script

theorem parseLine_mnemonic (op : Opcode) : parseLine op.mnemonic.toList = .ok (some ⟨op, .mono⟩) := by
  have hcore : Text.stripEnds isMargin op.mnemonic.toList = op.mnemonic.toList :=
    Text.stripEnds_of_outside (fun c hc => isMargin_mnemonic (List.mem_of_mem_head? hc))
      fun c hc => isMargin_mnemonic (List.mem_of_getLast? hc)
  rw [parseLine_eq_iff, hcore]
  exact .bare (space_notMem_mnemonic op) (decide_eq_true rfl)

theorem parseLine_mnemonic_append (op : Opcode) {operand : String} (hne : operand.toList ≠ [])
    (he : Text.EndsOutside isMargin operand.toList) :
    parseLine (op.mnemonic.toList ++ ' ' :: operand.toList) = .ok (some ⟨op, Value.parse operand⟩) := by
  rw [parseLine_eq_iff, stripEnds_mnemonic_append op hne he]
  exact .operand rfl (space_notMem_mnemonic op) (decide_eq_true rfl) (by rw [String.ofList_toList])

/-- The commands that come back from their entry in a listing. -/
theorem parseLine_display_iff (c : Command) :
    parseLine c.display.toList = .ok (some c) ↔
      c.operand = .mono ∨ c.operand.text? = none ∧ Value.parse c.operand.display = c.operand := by
  obtain ⟨op, operand⟩ := c
  by_cases hm : operand = .mono
  · subst hm
    exact iff_of_true (parseLine_mnemonic op) (.inl rfl)
  · obtain ⟨hne, he⟩ := operand.endsOutside_repr
    rw [Command.toList_display hm, parseLine_mnemonic_append op hne he, ← Value.parse_repr_iff]
    simp [hm]

end Script

/-- Listings are unambiguous. A quoted text can be read back, so that no two texts have the same quoted
form; no other value is listed in such a form; and it holds no control character, in particular no line
feed. What a machine shows of its history, if there is any, is therefore one line for each command, the
newest first, and from each line the opcode and the operand, if it is text, can be read off. As a line of
a script a command comes back from what is shown of it if and only if it has no operand, or its operand is
a truth value, an integer without sign, or a finite float whose text has a point or consists of digits and
is beyond the integers. -/
theorem listings_are_unambiguous :
    (∀ s : String, Text.unquote? (Value.repr (.text s)) = some s) ∧
    (∀ s t : String, Value.repr (.text s) = Value.repr (.text t) → s = t) ∧
    (∀ (s : String) (v : Value), v.text? = none → v.repr ≠ Value.repr (.text s)) ∧
    (∀ s : String, ∀ c ∈ (Value.repr (.text s)).toList, ¬ Text.IsControl c) ∧
    (∀ {ε : Type} (m : Machine ε), m.history.commands ≠ [] → ∃ part : String,
      m.display = "Virtual machine" ++ (if m.name = "" then "" else " - " ++ m.name) ++ "\nStack:\n" ++
        Machine.entries (m.stack.reverse.map Value.display) ++ "\nHistory:\n" ++ part ∧
      Text.lines part = m.history.commands.map (fun c => ("- " ++ c.display).toList) ∧
      (Text.lines part).map Listing.readLine? =
        m.history.commands.map fun c => some (c.opcode, c.operand.text?)) ∧
    (∀ c : Command, Script.parseLine c.display.toList = .ok (some c) ↔
      c.operand = .mono ∨ (∃ b, c.operand = .bool b) ∨ (∃ n, c.operand = .int n ∧ 0 ≤ n.toInt) ∨
        ∃ x, c.operand = .float x ∧ x.IsFinite ∧ ('.' ∈ x.display.toList ∨
          Digits x.display.toList ∧ 2147483647 < spelledNat x.display.toList)) := by
  refine ⟨Text.unquote?_quote, fun s t => Text.quote_injective, fun s v hv => Value.repr_ne_quote hv s,
    fun s c => Text.not_isControl_of_mem_quote, fun m hm => ?_, fun c => ?_⟩
  · have hlines := Machine.lines_entries hm
    refine ⟨Machine.entries (m.history.commands.map Command.display), rfl, hlines, ?_⟩
    rw [hlines, List.map_map]
    exact List.map_congr_left fun c _ => Listing.readLine?_display c
  · rw [Script.parseLine_display_iff]
    cases c.operand with
    | mono => simp
    | bool b => simp [Value.text?, Value.parse_eq_bool_iff]
    | int n => simp [Value.text?, Value.parse_display_int_iff]
    | float x => simp [Value.text?, Value.parse_display_float_iff, Value.greatestInt]
    | text s => simp [Value.text?]

/-- A text with a line feed, a quote and an accent that would attach itself to the quote. -/
theorem listings_are_unambiguous_breaks :
    let m : Machine Empty :=
      { name := "\nHistory:\n"
        history :=
          ⟨[⟨.call, .text "print"⟩, ⟨.push, .text "a\n- ADD\"\u0301"⟩, ⟨.arith .add, .mono⟩], 3, rfl⟩ }
    m.history.commands ≠ [] ∧ ∃ front part : String, m.display = front ++ "\nHistory:\n" ++ part ∧
      (Text.lines part).map Listing.readLine? =
        [some (.call, some "print"), some (.push, some "a\n- ADD\"\u0301"), some (.arith .add, none)] := by
  intro m
  have hm : m.history.commands ≠ [] := List.cons_ne_nil _ _
  obtain ⟨part, hdisplay, -, hread⟩ := listings_are_unambiguous.2.2.2.2.1 m hm
  exact ⟨hm, _, part, hdisplay, hread⟩

end StackScript
