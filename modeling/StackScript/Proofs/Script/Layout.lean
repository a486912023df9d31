import Mathlib.Logic.Relation
import StackScript.Proofs.Script.Line
import StackScript.Proofs.Script.LineFeed

/-!
# The layout of a script

Blanks at the ends of a line, carriage returns before a line feed and a line feed at the end of the text
are layout: they change neither the commands of a script nor its error. The case of a mnemonic does not
change the commands either; only in an error is it seen.

* `Script.Relaid` and `Script.Recased`: one change of layout, and one change of the case of a mnemonic;
* `Script.parse_at_line`: what is read from a text is what is read above a line, on it and below it;
* `Script.parse_of_relaid` and `Script.parse_eq_ok_iff_of_recased`: what is read after one change;
* `layout_has_no_meaning`: what is read after any number of them.
-/

namespace StackScript

namespace Script

/-! ## Changes of a text -/

/-- The characters that may be added at the ends of a line. -/
def Padding (c : Char) : Prop :=
  c ∈ [' ', '\t', '\r', '\x0c', '\x0b']

instance (c : Char) : Decidable (Padding c) :=
  inferInstanceAs (Decidable (_ ∈ _))

/-- A line begins behind the text. -/
inductive LineStart : List Char → Prop
  | first : LineStart []
  | behind (above : List Char) : LineStart (above ++ ['\n'])

/-- A line ends before the text. -/
inductive LineEnd : List Char → Prop
  | last : LineEnd []
  | before (below : List Char) : LineEnd ('\n' :: below)

/-- One change of the layout: a carriage return before a line feed, a character of padding at the start or
at the end of a line, before or behind others that may stand there, or a line feed at the end. -/
inductive Relaid : List Char → List Char → Prop
  | carriage (front back : List Char) : Relaid (front ++ '\n' :: back) (front ++ '\r' :: '\n' :: back)
  | lead {above pad back : List Char} {c : Char} (ha : LineStart above) (hpad : ∀ d ∈ pad, Padding d)
    (hc : Padding c) : Relaid (above ++ (pad ++ back)) (above ++ (pad ++ c :: back))
  | trail {front pad below : List Char} {c : Char} (hb : LineEnd below) (hpad : ∀ d ∈ pad, Padding d)
    (hc : Padding c) : Relaid (front ++ (pad ++ below)) (front ++ (c :: pad ++ below))
  | final (text : List Char) : Relaid text (text ++ ['\n'])

/-- One change of case: the mnemonic at the start of a line is written in another way. -/
inductive Recased : List Char → List Char → Prop
  | mnemonic {above pad word word' back : List Char} {op : Opcode} (ha : LineStart above)
    (hpad : ∀ d ∈ pad, Padding d) (hw : Text.sameIgnoringCase op.mnemonic.toList word = true)
    (hw' : Text.sameIgnoringCase op.mnemonic.toList word' = true) :
    Recased (above ++ (pad ++ (word ++ back))) (above ++ (pad ++ (word' ++ back)))

theorem Padding.isMargin {c : Char} (h : Padding c) : isMargin c = true := by
  have hmem : c ∈ [' ', '\t', '\n', '\r', '\x0c', '\x0b'] := by
    simp only [Padding, List.mem_cons] at h ⊢
    tauto
  exact decide_eq_true hmem

theorem Padding.ne_lineFeed {c : Char} (h : Padding c) : c ≠ '\n' := by
  rintro rfl
  exact absurd h (by decide)

theorem isMargin_of_padding {pad : List Char} (h : ∀ d ∈ pad, Padding d) :
    ∀ d ∈ pad, isMargin d = true := fun d hd => (h d hd).isMargin

theorem lineFeed_notMem_padding {pad : List Char} (h : ∀ d ∈ pad, Padding d) : '\n' ∉ pad := fun hm =>
  (h _ hm).ne_lineFeed rfl

/-! ## One line of a text -/

/-- A line feed at the end of a text has no meaning. -/
theorem parse_concat_lineFeed (text : List Char) :
    parse (String.ofList (text ++ ['\n'])) = parse (String.ofList text) := by
  simp only [parse, Text.lines, Text.splitLines, String.toList_ofList]
  exact parseLines_concat_lineFeed 1 [] text

theorem parse_nil : parse (String.ofList []) = .ok [] := rfl

theorem parse_ofList_append_lineFeed (a b : List Char) :
    parse (String.ofList (a ++ '\n' :: b)) = do
      let cs ← parse (String.ofList a)
      let ds ← (parse (String.ofList b)).mapError (ParseError.lower (1 + a.count '\n'))
      return cs ++ ds := by
  have htext : String.ofList (a ++ '\n' :: b) = String.ofList a ++ "\n" ++ String.ofList b := by
    apply String.toList_inj.1
    simp
  rw [htext, parse_append_lineFeed, String.toList_ofList]

theorem mapError_lower_zero (r : Except ParseError (List Command)) :
    r.mapError (ParseError.lower 0) = r := by
  rcases r with ⟨token, _ | n⟩ | cs <;> rfl

/-- What is read from a text is read above a line and, from there on, behind its start. -/
theorem parse_behind {above : List Char} (ha : LineStart above) (text : List Char) :
    parse (String.ofList (above ++ text)) = do
      let cs ← parse (String.ofList above)
      let ds ← (parse (String.ofList text)).mapError (ParseError.lower (above.count '\n'))
      return cs ++ ds := by
  cases ha with
  | first =>
    rw [List.count_nil, mapError_lower_zero, parse_nil, List.nil_append]
    cases parse (String.ofList text) <;> rfl
  | behind above =>
    rw [List.append_assoc, List.singleton_append, parse_ofList_append_lineFeed, parse_concat_lineFeed,
      List.count_append, List.count_singleton_self, Nat.add_comm]

/-- What is read from a text is read on its first line and then below it. -/
theorem parse_before {line below : List Char} (hl : '\n' ∉ line) (hb : LineEnd below) :
    parse (String.ofList (line ++ below)) = do
      let cs ← parse (String.ofList line)
      let ds ← parse (String.ofList below)
      return cs ++ ds := by
  cases hb with
  | last =>
    rw [List.append_nil, parse_nil]
    cases hr : parse (String.ofList line) with
    | error e => rfl
    | ok cs => exact congrArg Except.ok (List.append_nil cs).symm
  | before below =>
    have hbelow := parse_ofList_append_lineFeed [] below
    rw [List.nil_append] at hbelow
    rw [parse_ofList_append_lineFeed, hbelow, List.count_eq_zero_of_not_mem hl, List.count_nil, parse_nil]
    cases parse (String.ofList line) with
    | error e => rfl
    | ok cs => cases parse (String.ofList below) <;> rfl

/-- What is read from a text is read above a line, on it and below it. -/
theorem parse_at_line {above line below : List Char} (ha : LineStart above) (hl : '\n' ∉ line)
    (hb : LineEnd below) :
    parse (String.ofList (above ++ (line ++ below))) = do
      let cs ← parse (String.ofList above)
      let ds ← (do
        let ds ← parse (String.ofList line)
        let es ← parse (String.ofList below)
        return ds ++ es).mapError (ParseError.lower (above.count '\n'))
      return cs ++ ds := by
  rw [parse_behind ha, parse_before hl hb]

/-- A line can be replaced by one from which the same is read. -/
theorem parse_replace_line {above line line' below : List Char} (ha : LineStart above)
    (hl : '\n' ∉ line) (hl' : '\n' ∉ line') (hb : LineEnd below) (h : parseLine line' = parseLine line) :
    parse (String.ofList (above ++ (line' ++ below))) =
      parse (String.ofList (above ++ (line ++ below))) := by
  have hline : parse (String.ofList line') = parse (String.ofList line) := by
    rw [← String.toList_ofList (l := line)] at hl
    rw [← String.toList_ofList (l := line')] at hl'
    rw [parse_of_notMem hl, parse_of_notMem hl', String.toList_ofList, String.toList_ofList, h]
  rw [parse_at_line ha hl hb, parse_at_line ha hl' hb, hline]

theorem parse_at_line_eq_ok_iff {above line below : List Char} (ha : LineStart above) (hl : '\n' ∉ line)
    (hb : LineEnd below) {cs : List Command} :
    parse (String.ofList (above ++ (line ++ below))) = .ok cs ↔
      ∃ as c bs, parse (String.ofList above) = .ok as ∧ parseLine line = .ok c ∧
        parse (String.ofList below) = .ok bs ∧ cs = as ++ (c.toList ++ bs) := by
  have hline : parse (String.ofList line) =
      ((parseLine line).mapError fun e => { e with line := some 1 }).map Option.toList := by
    rw [parse_of_notMem (by rwa [String.toList_ofList]), String.toList_ofList]
  rw [parse_at_line ha hl hb, hline]
  cases parse (String.ofList above) with
  | error e => exact iff_of_false (by rintro ⟨⟩) (by rintro ⟨_, _, _, ⟨⟩, -⟩)
  | ok as =>
    cases parseLine line with
    | error e => exact iff_of_false (by rintro ⟨⟩) (by rintro ⟨_, _, _, -, ⟨⟩, -⟩)
    | ok c =>
      cases parse (String.ofList below) with
      | error e => exact iff_of_false (by rintro ⟨⟩) (by rintro ⟨_, _, _, -, -, ⟨⟩, -⟩)
      | ok bs =>
        constructor
        · rintro ⟨⟩
          exact ⟨as, c, bs, rfl, rfl, rfl, rfl⟩
        · rintro ⟨_, _, _, ⟨⟩, ⟨⟩, ⟨⟩, rfl⟩
          rfl

/-- From any place in a text its line goes on up to a line feed or to the end. -/
theorem exists_lineEnd (back : List Char) :
    ∃ line below, back = line ++ below ∧ '\n' ∉ line ∧ LineEnd below := by
  induction back with
  | nil => exact ⟨[], [], rfl, List.not_mem_nil, .last⟩
  | cons c back ih =>
    by_cases hc : c = '\n'
    · exact ⟨[], c :: back, rfl, List.not_mem_nil, hc ▸ .before back⟩
    · obtain ⟨line, below, rfl, hl, hb⟩ := ih
      exact ⟨c :: line, below, rfl, by simpa [eq_comm, hc] using hl, hb⟩

/-- Before any place in a text its line has begun behind a line feed or at the start. -/
theorem exists_lineStart (front : List Char) :
    ∃ above line, front = above ++ line ∧ LineStart above ∧ '\n' ∉ line := by
  obtain ⟨line, below, hfront, hl, hb⟩ := exists_lineEnd front.reverse
  refine ⟨below.reverse, line.reverse, ?_, ?_, by simpa using hl⟩
  · rw [← List.reverse_append, ← hfront, List.reverse_reverse]
  · cases hb with
    | last => exact .first
    | before below => exact List.reverse_cons ▸ .behind below.reverse

/-! ## Changes of layout -/

theorem parse_of_lead {above pad back : List Char} {c : Char} (ha : LineStart above)
    (hpad : ∀ d ∈ pad, Padding d) (hc : Padding c) :
    parse (String.ofList (above ++ (pad ++ c :: back))) =
      parse (String.ofList (above ++ (pad ++ back))) := by
  obtain ⟨line, below, rfl, hl, hb⟩ := exists_lineEnd back
  have hpad' : ∀ d ∈ pad ++ [c], Padding d := List.forall_mem_append.2 ⟨hpad, by simpa using hc⟩
  have hread : parseLine (pad ++ [c] ++ line) = parseLine (pad ++ line) := by
    rw [parseLine, parseLine, Text.stripEnds_append_left (isMargin_of_padding hpad'),
      Text.stripEnds_append_left (isMargin_of_padding hpad)]
  have hfree : ∀ {pad : List Char}, (∀ d ∈ pad, Padding d) → '\n' ∉ pad ++ line := fun h =>
    List.not_mem_append (lineFeed_notMem_padding h) hl
  simpa using parse_replace_line ha (hfree hpad) (hfree hpad') hb hread

theorem parse_of_trail {front pad below : List Char} {c : Char} (hb : LineEnd below)
    (hpad : ∀ d ∈ pad, Padding d) (hc : Padding c) :
    parse (String.ofList (front ++ (c :: pad ++ below))) =
      parse (String.ofList (front ++ (pad ++ below))) := by
  obtain ⟨above, line, rfl, ha, hl⟩ := exists_lineStart front
  have hpad' : ∀ d ∈ c :: pad, Padding d := List.forall_mem_cons.2 ⟨hc, hpad⟩
  have hread : parseLine (line ++ c :: pad) = parseLine (line ++ pad) := by
    rw [parseLine, parseLine, Text.stripEnds_append_right (isMargin_of_padding hpad'),
      Text.stripEnds_append_right (isMargin_of_padding hpad)]
  have hfree : ∀ {pad : List Char}, (∀ d ∈ pad, Padding d) → '\n' ∉ line ++ pad := fun h =>
    List.not_mem_append hl (lineFeed_notMem_padding h)
  simpa using parse_replace_line ha (hfree hpad) (hfree hpad') hb hread

/-- A change of layout changes nothing of what is read. -/
theorem parse_of_relaid {text text' : List Char} (h : Relaid text text') :
    parse (String.ofList text') = parse (String.ofList text) := by
  cases h with
  | carriage front back =>
    -- a carriage return before a line feed stands at the end of a line
    exact @parse_of_trail front [] ('\n' :: back) '\r' (.before back) (List.forall_mem_nil _) (by decide)
  | lead ha hpad hc => exact parse_of_lead ha hpad hc
  | trail hb hpad hc => exact parse_of_trail hb hpad hc
  | final text => exact parse_concat_lineFeed text

/-! ## Changes of case -/

theorem toNat_le_of_isMargin {c : Char} (h : isMargin c = true) : c.toNat ≤ 32 := by
  have hall : ([' ', '\t', '\n', '\r', '\x0c', '\x0b'].all fun d => d.toNat ≤ 32) = true := by decide
  exact of_decide_eq_true (List.all_eq_true.1 hall c (of_decide_eq_true h))

theorem isMargin_of_lt {c : Char} (h : 32 < c.toNat) : isMargin c = false :=
  Bool.eq_false_iff.2 fun hm => Nat.not_le_of_lt h (toNat_le_of_isMargin hm)

theorem isMargin_toLower (c : Char) : isMargin c.toLower = isMargin c := by
  unfold Char.toLower
  split
  · -- only letters change, and they are no margins in either case
    rename_i h
    have hlow : 65 ≤ c.toNat := h.1
    have hhigh : c.toNat ≤ 90 := h.2
    have hval : (c.val + ('a'.val - 'A'.val)).toNat = c.toNat + 32 := by
      rw [UInt32.toNat_add]
      show (c.toNat + 32) % 2 ^ 32 = c.toNat + 32
      omega
    have hlower : 32 < (c.val + ('a'.val - 'A'.val)).toNat := by omega
    rw [isMargin_of_lt (c := c) (by omega)]
    exact isMargin_of_lt hlower
  · rfl

/-- No margin is in a word that stands for an opcode. -/
theorem isMargin_of_sameIgnoringCase {op : Opcode} {word : List Char}
    (h : Text.sameIgnoringCase op.mnemonic.toList word = true) : ∀ c ∈ word, isMargin c = false := by
  intro c hc
  have hlower : c.toLower ∈ op.mnemonic.toList.map Char.toLower :=
    of_decide_eq_true h ▸ List.mem_map_of_mem hc
  obtain ⟨d, hd, heq⟩ := List.mem_map.1 hlower
  rw [← isMargin_toLower, ← heq, isMargin_toLower, isMargin_mnemonic hd]

/-- Which opcode a word stands for depends on its letters alone, not on their case. -/
theorem ofWord?_append {op : Opcode} {word : List Char}
    (h : Text.sameIgnoringCase op.mnemonic.toList word = true) (rest : List Char) :
    Opcode.ofWord? (word ++ rest) = Opcode.ofWord? (op.mnemonic.toList ++ rest) := by
  have hlower : (word ++ rest).map Char.toLower = (op.mnemonic.toList ++ rest).map Char.toLower := by
    rw [List.map_append, List.map_append, of_decide_eq_true h]
  simp only [Opcode.ofWord?, Text.sameIgnoringCase, hlower]

/-- What is read from a line that begins with a mnemonic. Only in an error is the case of the mnemonic
seen. -/
theorem parseLine_of_mnemonic {op : Opcode} {pad word : List Char} (hpad : ∀ d ∈ pad, Padding d)
    (hw : Text.sameIgnoringCase op.mnemonic.toList word = true) (rest : List Char) :
    parseLine (pad ++ (word ++ rest)) =
      let tail := (rest.reverse.dropWhile isMargin).reverse
      (Opcode.ofWord? (op.mnemonic.toList ++ tail.takeWhile (· ≠ ' '))).elim
        (.error { token := String.ofList (word ++ tail.takeWhile (· ≠ ' ')) })
        fun found => .ok (some ⟨found, Value.parse (String.ofList ((tail.dropWhile (· ≠ ' ')).drop 1))⟩) := by
  have hne := Opcode.ne_nil_of_sameIgnoringCase hw
  have hmargin := isMargin_of_sameIgnoringCase hw
  have hspace : ∀ d ∈ word, decide (d ≠ ' ') = true := by
    intro d hd
    refine decide_eq_true ?_
    rintro rfl
    exact absurd (hmargin _ hd) (by decide)
  simp only [parseLine, Text.stripEnds_append_left (isMargin_of_padding hpad),
    Text.stripEnds_word_append hne hmargin, List.append_ne_nil_of_left_ne_nil hne, if_false, splitLine,
    List.takeWhile_append_of_pos hspace, List.dropWhile_append_of_pos hspace, ofWord?_append hw]
  cases Opcode.ofWord? _ <;> rfl

/-- The command on a line does not depend on the case of its mnemonic. -/
theorem parseLine_eq_ok_iff_of_mnemonic {op : Opcode} {pad word word' : List Char}
    (hpad : ∀ d ∈ pad, Padding d) (hw : Text.sameIgnoringCase op.mnemonic.toList word = true)
    (hw' : Text.sameIgnoringCase op.mnemonic.toList word' = true) (rest : List Char)
    {c : Option Command} :
    parseLine (pad ++ (word' ++ rest)) = .ok c ↔ parseLine (pad ++ (word ++ rest)) = .ok c := by
  rw [parseLine_of_mnemonic hpad hw, parseLine_of_mnemonic hpad hw']
  dsimp only
  cases Opcode.ofWord? _ with
  | none => exact iff_of_false (by rintro ⟨⟩) (by rintro ⟨⟩)
  | some found => rfl

/-- A change of the case of a mnemonic changes nothing of the commands that are read. -/
theorem parse_eq_ok_iff_of_recased {text text' : List Char} (h : Recased text text') {cs : List Command} :
    parse (String.ofList text') = .ok cs ↔ parse (String.ofList text) = .ok cs := by
  obtain @⟨above, pad, word, word', back, op, ha, hpad, hw, hw'⟩ := h
  obtain ⟨line, below, rfl, hl, hb⟩ := exists_lineEnd back
  have hfree : ∀ {w : List Char}, Text.sameIgnoringCase op.mnemonic.toList w = true →
      '\n' ∉ pad ++ (w ++ line) := fun h =>
    List.not_mem_append (lineFeed_notMem_padding hpad) (List.not_mem_append
      (fun hm => absurd (isMargin_of_sameIgnoringCase h _ hm) (by decide)) hl)
  have htext : ∀ w : List Char,
      above ++ (pad ++ (w ++ (line ++ below))) = above ++ (pad ++ (w ++ line) ++ below) := by simp
  rw [htext, htext, parse_at_line_eq_ok_iff ha (hfree hw) hb, parse_at_line_eq_ok_iff ha (hfree hw') hb]
  simp only [parseLine_eq_ok_iff_of_mnemonic hpad hw hw']

/-! ## Many changes -/

theorem parse_of_relaid_many {text text' : List Char} (h : Relation.ReflTransGen Relaid text text') :
    parse (String.ofList text') = parse (String.ofList text) := by
  induction h with
  | refl => rfl
  | tail _ hstep ih => rw [parse_of_relaid hstep, ih]

theorem parse_eq_ok_of_changed_many {text text' : List Char} {cs : List Command}
    (h : Relation.ReflTransGen (fun a b => Relaid a b ∨ Recased a b) text text')
    (hread : parse (String.ofList text) = .ok cs) : parse (String.ofList text') = .ok cs := by
  induction h with
  | refl => exact hread
  | tail _ hstep ih =>
    rcases hstep with hstep | hstep
    · rw [parse_of_relaid hstep, ih]
    · exact (parse_eq_ok_iff_of_recased hstep).2 ih

end Script

/-- Layout has no meaning. After any number of changes of layout a script is read with the same result,
be it commands or an error with its line; and if commands are read, the same commands are read after any
number of changes of layout and of the case of mnemonics. -/
theorem layout_has_no_meaning (text text' : String) :
    (Relation.ReflTransGen Script.Relaid text.toList text'.toList →
      Script.parse text' = Script.parse text) ∧
    (∀ cs, Relation.ReflTransGen (fun a b => Script.Relaid a b ∨ Script.Recased a b)
      text.toList text'.toList → Script.parse text = .ok cs → Script.parse text' = .ok cs) := by
  constructor
  · intro h
    have hread := Script.parse_of_relaid_many h
    rwa [String.ofList_toList, String.ofList_toList] at hread
  · intro cs h hok
    rw [← String.ofList_toList (s := text)] at hok
    have hread := Script.parse_eq_ok_of_changed_many h hok
    rwa [String.ofList_toList] at hread

/-- Two carriage returns, a tabulator before a word that is no mnemonic, and a line feed at the end; and a
mnemonic in another case between padding. -/
theorem layout_has_no_meaning_returns :
    Relation.ReflTransGen Script.Relaid "ADD\nPOP".toList "ADD\r\r\n\tPOP\n".toList ∧
    Script.parse "ADD\r\r\n\tPOP\n" = .error ⟨"POP", some 2⟩ ∧
    Relation.ReflTransGen (fun a b => Script.Relaid a b ∨ Script.Recased a b)
      "\x0badd".toList "\x0bAdD ".toList ∧
    Script.parse "\x0bAdD " = .ok [⟨.arith .add, .mono⟩] := by
  have hreturn : Script.Relaid "ADD\nPOP".toList "ADD\r\nPOP".toList :=
    .carriage ['A', 'D', 'D'] ['P', 'O', 'P']
  have hagain : Script.Relaid "ADD\r\nPOP".toList "ADD\r\r\nPOP".toList :=
    .carriage ['A', 'D', 'D', '\r'] ['P', 'O', 'P']
  have htab : Script.Relaid "ADD\r\r\nPOP".toList "ADD\r\r\n\tPOP".toList :=
    @Script.Relaid.lead _ [] ['P', 'O', 'P'] '\t' (.behind ['A', 'D', 'D', '\r', '\r'])
      (List.forall_mem_nil _) (by decide)
  have hfinal : Script.Relaid "ADD\r\r\n\tPOP".toList "ADD\r\r\n\tPOP\n".toList := .final _
  have hcase : Script.Recased "\x0badd".toList "\x0bAdD".toList :=
    @Script.Recased.mnemonic [] ['\x0b'] ['a', 'd', 'd'] ['A', 'd', 'D'] [] (.arith .add) .first
      (List.forall_mem_singleton.2 (by decide)) (by decide) (by decide)
  have hspace : Script.Relaid "\x0bAdD".toList "\x0bAdD ".toList :=
    @Script.Relaid.trail ['\x0b', 'A', 'd', 'D'] [] [] ' ' .last (List.forall_mem_nil _) (by decide)
  have hlaid := (((Relation.ReflTransGen.single hreturn).tail hagain).tail htab).tail hfinal
  have hchanged : Relation.ReflTransGen (fun a b => Script.Relaid a b ∨ Script.Recased a b)
      "\x0badd".toList "\x0bAdD ".toList :=
    (Relation.ReflTransGen.single (.inr hcase)).tail (.inl hspace)
  refine ⟨hlaid, ((layout_has_no_meaning _ _).1 hlaid).trans ?_, hchanged,
    (layout_has_no_meaning _ _).2 _ hchanged ?_⟩
  · rfl
  · rfl

end StackScript
