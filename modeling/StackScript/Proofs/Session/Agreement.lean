import StackScript.Proofs.Machine.OneLine
import StackScript.Proofs.Session.Log
import StackScript.Proofs.Text.Ends
import StackScript.Proofs.Text.Lines

/-!
# Scripts and sessions agree

A script is read as a whole before its first command is executed, and a session reads and executes
line by line. On a text without exit words both do the same up to the first failure:

* `Log.run_of_parseLines`: how the log of a session relates to the run of the commands of a script;
* `Log.oneLine`: lines bring no line feed into a machine or into the wording of a failure;
* `session_agrees_with_script`: what a script results in and prints, a session shows as well.
-/

namespace StackScript

/-! ## Lines of a script -/

namespace Script

theorem lineFeed_notMem_splitLine {core : List Char} (h : '\n' ∉ core) :
    '\n' ∉ (splitLine core).1 ∧ '\n' ∉ (splitLine core).2 :=
  ⟨fun hm => h ((List.takeWhile_sublist _).subset hm),
    fun hm => h ((List.dropWhile_sublist _).subset (List.mem_of_mem_drop hm))⟩

/-- The operand of a command on a line has no line feed. -/
theorem oneLine_of_parseLine_ok {line : List Char} (h : '\n' ∉ line) {c : Command}
    (hp : parseLine line = .ok (some c)) : c.operand.OneLine := by
  have hcore : '\n' ∉ Text.stripEnds isMargin line := mt Text.mem_of_mem_stripEnds h
  simp only [parseLine] at hp
  split at hp
  · cases hp
  · split at hp <;> cases hp
    exact Value.oneLine_parse (Text.oneLine_ofList.2 (lineFeed_notMem_splitLine hcore).2)

/-- The wording of what is wrong with a line is on one line. -/
theorem oneLine_of_parseLine_error {line : List Char} (h : '\n' ∉ line) {e : ParseError}
    (hp : parseLine line = .error e) : Text.OneLine e.message := by
  have hcore : '\n' ∉ Text.stripEnds isMargin line := mt Text.mem_of_mem_stripEnds h
  simp only [parseLine] at hp
  split at hp
  · cases hp
  · split at hp <;> cases hp
    have hplace : Text.OneLine "" := by decide
    have htoken := Text.oneLine_ofList.2 (lineFeed_notMem_splitLine hcore).1
    refine Text.oneLine_join ?_
    simp only [ParseError.pieces, List.forall_mem_cons]
    exact ⟨hplace, by decide, htoken, List.forall_mem_nil _⟩

/-- Lines can be read if each can, and give the commands of those that hold one. -/
theorem exists_of_parseLines_cons {n : Nat} {line : List Char} {lines : List (List Char)}
    {cs : List Command} (h : parseLines n (line :: lines) = .ok cs) :
    ∃ command rest, parseLine line = .ok command ∧ parseLines (n + 1) lines = .ok rest ∧
      cs = command.toList ++ rest := by
  rw [parseLines] at h
  split at h
  · cases h
  · rename_i hl
    exact ⟨none, cs, hl, h, rfl⟩
  · rename_i c hl
    cases hr : parseLines (n + 1) lines with
    | error e => rw [hr] at h; cases h
    | ok rest => rw [hr] at h; cases h; exact ⟨some c, rest, hl, rfl, rfl⟩

theorem oneLine_machine : machine.OneLine where
  stack := fun _ hv => absurd hv List.not_mem_nil
  hooks := HookTable.oneLine_empty.registerBuiltins

end Script

/-! ## Logs -/

/-- An executed command keeps line feeds out, and so does one that fails. -/
theorem Machine.oneLine_execute {m : Machine Empty} {c : Command} {sink : Sink}
    {r : Except MachineError (Machine Empty)} (hm : m.OneLine) (hc : c.operand.OneLine)
    (hx : (m.execute c sink).1 = r) : OneLineResult OneLine r := by
  obtain ⟨r', texts, ho, hr⟩ := exists_outcome m.builtinOnly_empty c
  rw [hr] at hx
  exact hx ▸ ho.oneLine hm hc

namespace Log

variable {m m' : Machine Empty} {sink sink' : Sink} {lines : List String}
  {executed : List Command} {failures : List ScriptError}

/-- Lines bring no line feed into a machine or into the wording of a failure. -/
theorem oneLine (h : Log m sink lines executed failures m' sink') (hm : m.OneLine)
    (hl : ∀ line ∈ lines, Text.OneLine line) :
    m'.OneLine ∧ ∀ e ∈ failures, Text.OneLine e.message := by
  induction h with
  | nil => exact ⟨hm, by simp⟩
  | blank _ _ ih => exact ih hm fun line h => hl line (List.mem_cons_of_mem _ h)
  | executed hp hx _ ih =>
    have hc := Script.oneLine_of_parseLine_ok (hl _ List.mem_cons_self) hp
    have hr := Machine.oneLine_execute hm hc (congrArg Prod.fst hx)
    exact ih hr fun line h => hl line (List.mem_cons_of_mem _ h)
  | unread hp _ ih =>
    have he := Script.oneLine_of_parseLine_error (hl _ List.mem_cons_self) hp
    obtain ⟨hm', hf⟩ := ih hm fun line h => hl line (List.mem_cons_of_mem _ h)
    exact ⟨hm', List.forall_mem_cons.2 ⟨he, hf⟩⟩
  | failed hp hx _ ih =>
    have hc := Script.oneLine_of_parseLine_ok (hl _ List.mem_cons_self) hp
    have hr := Machine.oneLine_execute hm hc hx
    obtain ⟨hm', hf⟩ := ih hm fun line h => hl line (List.mem_cons_of_mem _ h)
    exact ⟨hm', List.forall_mem_cons.2 ⟨hr, hf⟩⟩

/-- The sink only receives texts. -/
theorem exists_writeAll (h : Log m sink lines executed failures m' sink') :
    ∃ texts, sink' = sink.writeAll texts := by
  induction h with
  | nil => exact ⟨[], rfl⟩
  | blank _ _ ih => exact ih
  | @executed m _ _ sink _ _ _ _ c _ _ _ hx _ ih =>
    obtain ⟨r, texts, -, hr⟩ := Machine.exists_outcome m.builtinOnly_empty c
    obtain ⟨-, rfl⟩ := Prod.mk.inj ((hr sink).symm.trans hx)
    obtain ⟨more, rfl⟩ := ih
    exact ⟨texts ++ more, (sink.writeAll_append texts more).symm⟩
  | unread _ _ ih => exact ih
  | failed _ _ _ ih => exact ih

/-- If all lines can be read, a log without failures is the run of their commands, and otherwise
the run ends with the first failure of the log. -/
theorem run_of_parseLines {lines : List (List Char)} {n : Nat} {cs : List Command}
    (h : Log m sink (lines.map String.ofList) executed failures m' sink')
    (hp : Script.parseLines n lines = .ok cs) :
    (failures = [] ∧ m.run cs sink = (.ok m', sink')) ∨
      ∃ e rest sink₁ texts, failures = .machine e :: rest ∧ m.run cs sink = (.error e, sink₁) ∧
        sink' = sink₁.writeAll texts := by
  induction lines generalizing m sink n cs executed failures with
  | nil =>
    cases h
    cases hp
    exact .inl ⟨rfl, rfl⟩
  | cons line lines ih =>
    obtain ⟨command, rest, hline, hrest, rfl⟩ := Script.exists_of_parseLines_cons hp
    cases h with
    | blank hl h =>
      rw [String.toList_ofList, hline] at hl
      cases hl
      exact ih h hrest
    | unread hl h =>
      rw [String.toList_ofList, hline] at hl
      cases hl
    | executed hl hx h =>
      rw [String.toList_ofList, hline] at hl
      cases hl
      rw [Option.toList_some, List.singleton_append, Machine.run, hx]
      exact ih h hrest
    | @failed _ _ _ _ _ _ c e _ failures hl hx h =>
      rw [String.toList_ofList, hline] at hl
      cases hl
      rcases hc : m.execute c sink with ⟨r, sink₁⟩
      rw [hc] at hx
      obtain rfl : r = .error e := hx
      obtain rfl := Machine.sink_of_execute_error hc
      obtain ⟨texts, htexts⟩ := h.exists_writeAll
      refine .inr ⟨e, failures, sink₁, texts, rfl, ?_, htexts⟩
      rw [Option.toList_some, List.singleton_append, Machine.run, hc]

end Log

/-! ## Sessions on the lines of a text -/

/-- A session on a text without exit words takes all its lines and ends well. -/
theorem Session.exists_log_of_text {text : String}
    (hx : ∀ line ∈ Text.lines text, isExit (String.ofList line) = false) :
    ∃ s executed failures, fresh.run text.toUTF8.data.toList = (.ok (), s) ∧
      s.diagnostics.received = (ScriptError.report failures).toUTF8.data.toList ∧
      Log Script.machine (.capture "") ((Text.lines text).map String.ofList) executed failures
        s.machine s.sink := by
  have hgo : ∀ line ∈ (Text.lines text).map Text.encode, goesOn line := by
    intro line hline
    obtain ⟨cs, hcs, rfl⟩ := List.mem_map.1 hline
    exact goesOn_eq_true_iff.2 ⟨_, Text.decode?_encode cs, hx cs hcs⟩
  have hdecoded : ((Text.lines text).map Text.encode).filterMap Text.decode? =
      (Text.lines text).map String.ofList := by
    simp [List.filterMap_map, Text.decode?_encode]
  obtain ⟨s, executed, failures, hs, hr, hlog⟩ := feedLines_log reporting_fresh hgo
  rw [hdecoded] at hlog
  refine ⟨s, executed, failures, ?_, ?_, hlog⟩
  · rw [run, Text.toList_toUTF8, Text.byteLines_encode, hs]
  · rw [hr.2]
    exact List.nil_append _

/-- On a text without exit words a script and a session agree. What a script results in is on top of
the session's machine, with the same output and no diagnostics; the error at which a script breaks
off is the first line of the diagnostics, and its output is where the session's starts; and a script
that cannot be read does nothing but say so. -/
theorem session_agrees_with_script (text : String)
    (hx : ∀ line ∈ Text.lines text, Session.isExit (String.ofList line) = false) :
    (∀ v sink, Script.run text (.capture "") = (.ok v, sink) →
      ∃ s printed, Session.fresh.run text.toUTF8.data.toList = (.ok (), s) ∧
        s.diagnostics.received = [] ∧ sink = .capture printed ∧ s.sink = .capture printed ∧
        v = s.machine.top?.getD .mono) ∧
    (∀ e sink, Script.run text (.capture "") = (.error (.machine e), sink) →
      ∃ s rest printed more, Session.fresh.run text.toUTF8.data.toList = (.ok (), s) ∧
        s.diagnostics.received = (e.message ++ "\n" ++ rest).toUTF8.data.toList ∧
        Text.OneLine e.message ∧
        sink = .capture printed ∧ s.sink = .capture (printed ++ more)) ∧
    (∀ e, Script.parse text = .error e →
      ∀ sink, Script.run text sink = (.error (.parse e), sink)) := by
  obtain ⟨s, executed, failures, hrun, hdiag, hlog⟩ := Session.exists_log_of_text hx
  have hlines : ∀ line ∈ (Text.lines text).map String.ofList, Text.OneLine line := by
    intro line hline
    obtain ⟨cs, hcs, rfl⟩ := List.mem_map.1 hline
    exact Text.oneLine_ofList.2 (Text.not_mem_of_mem_lines hcs)
  obtain ⟨-, hmessages⟩ := hlog.oneLine Script.oneLine_machine hlines
  cases hp : Script.parse text with
  | error e =>
    have hscript : ∀ sink, Script.run text sink = (.error (.parse e), sink) := fun sink => by
      rw [Script.run, hp]
    simp [hscript]
  | ok cs =>
    obtain ⟨r, texts, hcs⟩ := Machine.exists_run Script.machine.builtinOnly_empty cs
    have hkept := Sink.writeAll_capture "" texts
    rcases hlog.run_of_parseLines hp with ⟨rfl, hok⟩ | ⟨e, rest, sink₁, more, rfl, herror, hsink⟩
    · have hscript : Script.run text (.capture "") = (.ok s.machine.result, s.sink) := by
        rw [Script.run, hp]
        simp only [hok]
      have hprinted : s.sink = .capture ("" ++ String.join texts) :=
        (Prod.mk.inj (hok.symm.trans (hcs _))).2.trans hkept
      refine ⟨fun v sink h => ?_, fun e sink h => ?_, nofun⟩
      · cases hscript.symm.trans h
        exact ⟨s, _, hrun, hdiag, hprinted, hprinted, rfl⟩
      · cases hscript.symm.trans h
    · have hscript : Script.run text (.capture "") = (.error (.machine e), sink₁) := by
        rw [Script.run, hp]
        simp only [herror]
      have hprinted : sink₁ = .capture ("" ++ String.join texts) :=
        (Prod.mk.inj (herror.symm.trans (hcs _))).2.trans hkept
      refine ⟨fun v sink h => ?_, fun e' sink h => ?_, nofun⟩
      · cases hscript.symm.trans h
      · cases hscript.symm.trans h
        refine ⟨s, ScriptError.report rest, _, String.join more, hrun, ?_,
          hmessages _ List.mem_cons_self, hprinted, ?_⟩
        · rw [hdiag]
          simp [ScriptError.report, ScriptError.message, ScriptError.pieces, MachineError.message]
        · rw [hsink, hprinted, Sink.writeAll_capture]

/-- A failing line, one behind it and endings of both kinds. -/
theorem session_agrees_with_script_underflow :
    (∀ line ∈ Text.lines "PUSH 1\r\nADD\nSUB", Session.isExit (String.ofList line) = false) ∧
    ∃ s rest printed more,
      Session.fresh.run "PUSH 1\r\nADD\nSUB".toUTF8.data.toList = (.ok (), s) ∧
      s.diagnostics.received =
        ((MachineError.stackUnderflow 2 1).message ++ "\n" ++ rest).toUTF8.data.toList ∧
      Text.OneLine (MachineError.stackUnderflow 2 1).message ∧
      Sink.capture "" = .capture printed ∧ s.sink = .capture (printed ++ more) := by
  have hx : ∀ line ∈ Text.lines "PUSH 1\r\nADD\nSUB",
      Session.isExit (String.ofList line) = false := by
    decide +kernel
  exact ⟨hx, (session_agrees_with_script _ hx).2.1 (.stackUnderflow 2 1) _ (by rfl)⟩

end StackScript
