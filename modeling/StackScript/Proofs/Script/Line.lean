import Mathlib.Data.List.Basic
import StackScript.Proofs.Machine.Step
import StackScript.Proofs.Text.Ends
import StackScript.Proofs.Value.Parse
import StackScript.Script

/-!
# The grammar of a line

A line without its margins is empty, a mnemonic, or a mnemonic with an operand behind a space. The form of
a line determines what is read, and every text that denotes itself and does not end in a margin is the
operand of some line.

* `Opcode.ofWord?_eq_some_iff`: a word stands for at most one opcode;
* `Script.parseLine_eq_iff`: what is read from a line, by the form of the line;
* `Script.exists_parseLine_text_iff`: the texts that can be operands;
* `line_grammar_is_exact`: both, and which hooks can be called from a line.
-/

namespace StackScript

/-! ## Mnemonics -/

namespace Opcode

theorem mem_all (op : Opcode) : op ∈ all := by
  cases op with
  | push | call => decide
  | arith op => cases op <;> decide

/-- Mnemonics differ in more than their case. -/
theorem eq_of_sameIgnoringCase : ∀ a ∈ all, ∀ b ∈ all,
    a.mnemonic.toList.map Char.toLower = b.mnemonic.toList.map Char.toLower → a = b := by
  decide

/-- A word stands for an opcode exactly if it is its mnemonic in some case. -/
theorem ofWord?_eq_some_iff {word : List Char} {op : Opcode} :
    ofWord? word = some op ↔ Text.sameIgnoringCase op.mnemonic.toList word = true := by
  have hfound : ∀ {op}, ofWord? word = some op →
      Text.sameIgnoringCase op.mnemonic.toList word = true := fun {op} h =>
    List.find?_some (p := fun op : Opcode => Text.sameIgnoringCase op.mnemonic.toList word) h
  refine ⟨hfound, fun h => ?_⟩
  have hsome : (ofWord? word).isSome = true := List.find?_isSome.2 ⟨op, mem_all op, h⟩
  obtain ⟨op', hop'⟩ := Option.isSome_iff_exists.1 hsome
  have heq := (of_decide_eq_true (hfound hop')).trans (of_decide_eq_true h).symm
  rw [hop', eq_of_sameIgnoringCase op' (mem_all op') op (mem_all op) heq]

theorem ofWord?_eq_none_iff {word : List Char} :
    ofWord? word = none ↔ ∀ op : Opcode, Text.sameIgnoringCase op.mnemonic.toList word = false := by
  simp only [Option.eq_none_iff_forall_ne_some, ne_eq, ofWord?_eq_some_iff, Bool.not_eq_true]

theorem mnemonic_ne_nil : ∀ op ∈ all, op.mnemonic.toList ≠ [] := by decide

/-- A word that stands for an opcode is not empty. -/
theorem ne_nil_of_sameIgnoringCase {op : Opcode} {word : List Char}
    (h : Text.sameIgnoringCase op.mnemonic.toList word = true) : word ≠ [] := by
  rintro rfl
  have hnil := of_decide_eq_true h
  rw [List.map_nil, List.map_eq_nil_iff] at hnil
  exact mnemonic_ne_nil op (mem_all op) hnil

end Opcode

/-! ## What is read from a line -/

namespace Script

theorem splitLine_of_notMem {core : List Char} (h : ' ' ∉ core) : splitLine core = (core, []) := by
  have hall : ∀ c ∈ core, decide (c ≠ ' ') = true := fun c hc =>
    decide_eq_true fun hspace => h (hspace ▸ hc)
  rw [splitLine, List.takeWhile_eq_self_iff.2 hall, List.dropWhile_eq_nil_iff.2 hall]
  rfl

/-- A line is cut at its first space; all further spaces belong to the operand. -/
theorem splitLine_append {word operand : List Char} (h : ' ' ∉ word) :
    splitLine (word ++ ' ' :: operand) = (word, operand) := by
  have hall : ∀ c ∈ word, decide (c ≠ ' ') = true := fun c hc =>
    decide_eq_true fun hspace => h (hspace ▸ hc)
  have hout : Text.StartsOutside (fun c => decide (c ≠ ' ')) (' ' :: operand) :=
    Text.startsOutside_cons.2 (by decide)
  rw [splitLine, Text.takeWhile_append hall hout, Text.dropWhile_append hall hout]
  rfl

theorem splitLine_fst (core : List Char) : (splitLine core).1 = core.takeWhile (· ≠ ' ') := rfl

/-- What is read from a line without margins: nothing if it is empty; a command without an operand, if it
is a mnemonic; one with an operand, if it is a mnemonic and a text behind a space; and otherwise the error
that names what stands before the first space. -/
inductive LineReads (core : List Char) : Except ParseError (Option Command) → Prop
  | blank (h : core = []) : LineReads core (.ok none)
  | bare {op : Opcode} (hs : ' ' ∉ core)
    (hop : Text.sameIgnoringCase op.mnemonic.toList core = true) :
    LineReads core (.ok (some ⟨op, .mono⟩))
  | operand {op : Opcode} {word text : List Char} {v : Value} (hcore : core = word ++ ' ' :: text)
    (hs : ' ' ∉ word) (hop : Text.sameIgnoringCase op.mnemonic.toList word = true)
    (hv : v = Value.parse (String.ofList text)) :
    LineReads core (.ok (some ⟨op, v⟩))
  | unknown {e : ParseError} (hne : core ≠ []) (hop : ∀ op : Opcode,
      Text.sameIgnoringCase op.mnemonic.toList (core.takeWhile (· ≠ ' ')) = false)
    (he : e = { token := String.ofList (core.takeWhile (· ≠ ' ')) }) :
    LineReads core (.error e)

theorem exists_lineReads (core : List Char) : ∃ r, LineReads core r := by
  by_cases hne : core = []
  · exact ⟨_, .blank hne⟩
  cases hop : Opcode.ofWord? (core.takeWhile (· ≠ ' ')) with
  | none => exact ⟨_, .unknown hne (Opcode.ofWord?_eq_none_iff.1 hop) rfl⟩
  | some op =>
    have hsame := Opcode.ofWord?_eq_some_iff.1 hop
    rw [← splitLine_fst] at hsame
    by_cases hspace : ' ' ∈ core
    · obtain ⟨word, text, rfl, hs⟩ := List.eq_append_cons_of_mem hspace
      rw [splitLine_append hs] at hsame
      exact ⟨_, .operand rfl hs hsame rfl⟩
    · rw [splitLine_of_notMem hspace] at hsame
      exact ⟨_, .bare hspace hsame⟩

theorem parseLine_of_word {line word operand : List Char} {op : Opcode}
    (hne : Text.stripEnds isMargin line ≠ [])
    (hsplit : splitLine (Text.stripEnds isMargin line) = (word, operand))
    (hop : Text.sameIgnoringCase op.mnemonic.toList word = true) :
    parseLine line = .ok (some ⟨op, Value.parse (String.ofList operand)⟩) := by
  simp only [parseLine, hne, if_false, hsplit, Opcode.ofWord?_eq_some_iff.2 hop]

theorem LineReads.parseLine_eq {line : List Char} {r : Except ParseError (Option Command)}
    (h : LineReads (Text.stripEnds isMargin line) r) : parseLine line = r := by
  cases h with
  | blank h => simp only [parseLine, h, if_true]
  | bare hs hop =>
    exact parseLine_of_word (Opcode.ne_nil_of_sameIgnoringCase hop) (splitLine_of_notMem hs) hop
  | operand hcore hs hop hv =>
    have hne : Text.stripEnds isMargin line ≠ [] := hcore ▸ List.append_ne_nil_of_right_ne_nil _ (by simp)
    exact hv ▸ parseLine_of_word hne (hcore ▸ splitLine_append hs) hop
  | unknown hne hop he =>
    simp only [parseLine, hne, if_false, splitLine, Opcode.ofWord?_eq_none_iff.2 hop, he]

/-- What is read from a line is determined by its form. -/
theorem parseLine_eq_iff {line : List Char} {r : Except ParseError (Option Command)} :
    parseLine line = r ↔ LineReads (Text.stripEnds isMargin line) r := by
  obtain ⟨r', hr'⟩ := exists_lineReads (Text.stripEnds isMargin line)
  refine ⟨?_, LineReads.parseLine_eq⟩
  rintro rfl
  rwa [hr'.parseLine_eq]

/-! ## Operands -/

/-- An operand is what remains of a line behind a space, so it ends where the line ends. -/
theorem endsOutside_operand_iff {word text : List Char} :
    Text.EndsOutside isMargin (word ++ ' ' :: text) ↔ text ≠ [] ∧ Text.EndsOutside isMargin text := by
  cases text with
  | nil => simp [Text.EndsOutside, isMargin]
  | cons c text =>
    rw [Text.EndsOutside, List.getLast?_append_of_ne_nil _ (List.cons_ne_nil ' ' _),
      List.getLast?_cons_cons]
    exact (and_iff_right (List.cons_ne_nil c text)).symm

section

variable {core : List Char}

theorem lineReads_none_iff : LineReads core (.ok none) ↔ core = [] := by
  refine ⟨fun h => ?_, .blank⟩
  cases h with
  | blank h => exact h

theorem lineReads_error_iff {e : ParseError} :
    LineReads core (.error e) ↔ core ≠ [] ∧
      (∀ op : Opcode, Text.sameIgnoringCase op.mnemonic.toList (core.takeWhile (· ≠ ' ')) = false) ∧
      e = ⟨String.ofList (core.takeWhile (· ≠ ' ')), none⟩ := by
  refine ⟨fun h => ?_, fun ⟨hne, hop, he⟩ => .unknown hne hop he⟩
  cases h with
  | unknown hne hop he => exact ⟨hne, hop, he⟩

variable (hend : Text.EndsOutside isMargin core)
include hend

theorem operand_ne_nil {word text : List Char} (hcore : core = word ++ ' ' :: text) : text ≠ [] :=
  (endsOutside_operand_iff.1 (hcore ▸ hend)).1

/-- No operand of a line is read as `mono`. -/
theorem parse_operand_ne_mono {word text : List Char} (hcore : core = word ++ ' ' :: text) :
    Value.parse (String.ofList text) ≠ .mono := by
  rw [ne_eq, Value.parse_eq_mono_iff, String.ofList_eq_empty_iff]
  exact operand_ne_nil hend hcore

theorem lineReads_bare_iff {op : Opcode} :
    LineReads core (.ok (some ⟨op, .mono⟩)) ↔
      ' ' ∉ core ∧ Text.sameIgnoringCase op.mnemonic.toList core = true := by
  refine ⟨fun h => ?_, fun ⟨hs, hop⟩ => .bare hs hop⟩
  cases h with
  | bare hs hop => exact ⟨hs, hop⟩
  | operand hcore _ _ hv => exact absurd hv.symm (parse_operand_ne_mono hend hcore)

theorem lineReads_operand_iff {op : Opcode} {v : Value} :
    LineReads core (.ok (some ⟨op, v⟩)) ∧ v ≠ .mono ↔
      ∃ word text, core = word ++ ' ' :: text ∧ ' ' ∉ word ∧
        Text.sameIgnoringCase op.mnemonic.toList word = true ∧ v = Value.parse (String.ofList text) := by
  constructor
  · rintro ⟨h, hv⟩
    cases h with
    | bare => exact absurd rfl hv
    | operand hcore hs hop hv => exact ⟨_, _, hcore, hs, hop, hv⟩
  · rintro ⟨word, text, hcore, hs, hop, hv⟩
    exact ⟨.operand hcore hs hop hv, hv ▸ parse_operand_ne_mono hend hcore⟩

end

theorem isMargin_mnemonic {op : Opcode} {c : Char} (h : c ∈ op.mnemonic.toList) : isMargin c = false := by
  have hall : ∀ op ∈ Opcode.all, (op.mnemonic.toList.all fun c => !isMargin c) = true := by decide
  simpa using List.all_eq_true.1 (hall op (Opcode.mem_all op)) c h

theorem space_notMem_mnemonic (op : Opcode) : ' ' ∉ op.mnemonic.toList := fun h =>
  absurd (isMargin_mnemonic h) (by decide)

/-- The text denotes itself, and no margin is at its end, where it would not belong to the operand. -/
def Writable (s : String) : Prop :=
  s ≠ "" ∧ Text.EndsOutside isMargin s.toList ∧ Value.parse s = .text s

instance : DecidablePred Writable := fun _ =>
  inferInstanceAs (Decidable (_ ∧ _ ∧ _))

theorem stripEnds_mnemonic_append (op : Opcode) {text : List Char} (hne : text ≠ [])
    (he : Text.EndsOutside isMargin text) :
    Text.stripEnds isMargin (op.mnemonic.toList ++ ' ' :: text) = op.mnemonic.toList ++ ' ' :: text := by
  obtain ⟨first, rest, hop⟩ := List.exists_cons_of_ne_nil (Opcode.mnemonic_ne_nil op (Opcode.mem_all op))
  refine Text.stripEnds_of_outside ?_ (endsOutside_operand_iff.2 ⟨hne, he⟩)
  rw [hop, List.cons_append, Text.startsOutside_cons]
  exact isMargin_mnemonic (hop ▸ List.mem_cons_self)

/-- The texts that can be operands of a command. -/
theorem exists_parseLine_text_iff (op : Opcode) (s : String) :
    (∃ line, parseLine line = .ok (some ⟨op, .text s⟩)) ↔ Writable s := by
  constructor
  · rintro ⟨line, h⟩
    obtain ⟨-, -, -, -, -, he⟩ := Text.exists_stripEnds isMargin line
    cases parseLine_eq_iff.1 h with
    | operand hcore hs hop hv =>
      obtain ⟨rfl, hne, -⟩ := Value.parse_eq_text_iff.1 hv.symm
      rw [hcore, endsOutside_operand_iff] at he
      exact ⟨hne, by rw [String.toList_ofList]; exact he.2, hv.symm⟩
  · rintro ⟨hne, he, hparse⟩
    have hcore := stripEnds_mnemonic_append op (mt String.toList_eq_nil_iff.1 hne) he
    refine ⟨op.mnemonic.toList ++ ' ' :: s.toList, parseLine_eq_iff.2 ?_⟩
    rw [hcore]
    exact .operand rfl (space_notMem_mnemonic op) (decide_eq_true rfl) (by rw [String.ofList_toList, hparse])

end Script

/-! ## Hooks -/

/-- A hook can be called from a line if its name can be written as an operand and the stack has as many
values as it takes. -/
theorem Machine.exists_line_runs_iff {ε : Type} (m : Machine ε) (ht : m.hooks.Built) {hook : Hook ε}
    (hg : m.hooks.get? hook.name = some hook) :
    (∃ line operand, Script.parseLine line = .ok (some ⟨.call, operand⟩) ∧ m.Runs operand hook) ↔
      Script.Writable hook.name ∧ hook.arity.accepts m.stack.length = true := by
  constructor
  · rintro ⟨line, operand, hline, name, rfl, hg', ha⟩
    rw [ht.name_eq hg']
    exact ⟨(Script.exists_parseLine_text_iff .call name).1 ⟨line, hline⟩, ha⟩
  · rintro ⟨hw, ha⟩
    obtain ⟨line, hline⟩ := (Script.exists_parseLine_text_iff .call hook.name).2 hw
    exact ⟨line, _, hline, hook.name, rfl, hg, ha⟩

/-! ## The theorem -/

/-- A line is a core between margins, and what is read depends on the form of the core: nothing if it is
empty; an opcode without operand if the core is its mnemonic; an opcode with an operand, which is not empty,
if the core is its mnemonic, a space and the operand; and in every other case the error that names the
core up to its first space. A text is the operand of some line if and only if it denotes itself and does
not end in a margin, so these are the names of the hooks that lines can call. -/
theorem line_grammar_is_exact :
    (∀ line : List Char, ∃ before core after, line = before ++ core ++ after ∧
      (∀ c ∈ before ++ after, Script.isMargin c = true) ∧
      Text.StartsOutside Script.isMargin core ∧ Text.EndsOutside Script.isMargin core ∧
      (Script.parseLine line = .ok none ↔ core = []) ∧
      (∀ op : Opcode, Script.parseLine line = .ok (some ⟨op, .mono⟩) ↔
        ' ' ∉ core ∧ Text.sameIgnoringCase op.mnemonic.toList core = true) ∧
      (∀ (op : Opcode) (v : Value), Script.parseLine line = .ok (some ⟨op, v⟩) ∧ v ≠ .mono ↔
        ∃ word text, core = word ++ ' ' :: text ∧ ' ' ∉ word ∧
          Text.sameIgnoringCase op.mnemonic.toList word = true ∧ v = Value.parse (String.ofList text)) ∧
      (∀ word text, core = word ++ ' ' :: text → text ≠ []) ∧
      ∀ e : ParseError, Script.parseLine line = .error e ↔ core ≠ [] ∧
        (∀ op : Opcode,
          Text.sameIgnoringCase op.mnemonic.toList (core.takeWhile (· ≠ ' ')) = false) ∧
        e = ⟨String.ofList (core.takeWhile (· ≠ ' ')), none⟩) ∧
    (∀ (op : Opcode) (s : String),
      (∃ line, Script.parseLine line = .ok (some ⟨op, .text s⟩)) ↔ Script.Writable s) ∧
    ∀ {ε : Type} (m : Machine ε) (hook : Hook ε), m.hooks.Built → m.hooks.get? hook.name = some hook →
      ((∃ line operand, Script.parseLine line = .ok (some ⟨.call, operand⟩) ∧ m.Runs operand hook) ↔
        Script.Writable hook.name ∧ hook.arity.accepts m.stack.length = true) := by
  refine ⟨fun line => ?_, Script.exists_parseLine_text_iff, fun m hook ht hg => m.exists_line_runs_iff ht hg⟩
  obtain ⟨before, after, hline, hmargin, hstart, hend⟩ := Text.exists_stripEnds Script.isMargin line
  refine ⟨before, Text.stripEnds Script.isMargin line, after, hline, hmargin, hstart, hend, ?_, ?_, ?_,
    fun word text => Script.operand_ne_nil hend, ?_⟩ <;> simp only [Script.parseLine_eq_iff]
  · exact Script.lineReads_none_iff
  · exact fun op => Script.lineReads_bare_iff hend
  · exact fun op v => Script.lineReads_operand_iff hend
  · exact fun e => Script.lineReads_error_iff

/-- A name may begin with a margin; one that denotes a number cannot be called. -/
theorem line_grammar_is_exact_numeral :
    let hooks : HookTable Empty :=
      (HookTable.empty.register " print" .variadic .print).register "12" .variadic .print
    let m : Machine Empty := { name := "default", hooks }
    (∃ line operand, Script.parseLine line = .ok (some ⟨.call, operand⟩) ∧
      m.Runs operand ⟨" print", .variadic, .print⟩) ∧
    ¬ ∃ line operand, Script.parseLine line = .ok (some ⟨.call, operand⟩) ∧
      m.Runs operand ⟨"12", .variadic, .print⟩ := by
  intro hooks m
  have hbuilt : m.hooks.Built := .register (.register .empty _ _ _) _ _ _
  have hg : m.hooks.get? " print" = some ⟨" print", .variadic, .print⟩ ∧
      m.hooks.get? "12" = some ⟨"12", .variadic, .print⟩ := by
    simp [m, hooks, HookTable.get?_register]
  refine ⟨(line_grammar_is_exact.2.2 m _ hbuilt hg.1).2 ⟨by decide, rfl⟩, fun h => ?_⟩
  exact absurd ((line_grammar_is_exact.2.2 m _ hbuilt hg.2).1 h).1 (by decide)

end StackScript
