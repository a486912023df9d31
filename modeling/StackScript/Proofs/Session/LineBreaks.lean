import StackScript.Proofs.Machine.Run
import StackScript.Proofs.Session.Agreement

/-!
# Line breaks cannot be forged

Commands are read from lines, and nothing that a machine does makes a line feed out of what it was
given. So the only line feeds in an output are those that `println` adds, and the only ones in the
diagnostics end the lines of the reports.

* `Machine.oneLine_run` and `Session.oneLine_feedLines`: no line feed gets on a stack;
* `Outcome.count_lineFeed`: what a command adds to the lines of the output;
* `Machine.count_lineFeed_run` and `ScriptError.count_lineFeed_report`: how many line feeds there are
  in the end;
* `line_breaks_cannot_be_forged`: the same of every script and every session.
-/

namespace StackScript

/-! ## What is executed and what fails -/

/-- The commands that a run executes, up to the first that fails. -/
def Machine.executed {ε : Type} [Host ε] (m : Machine ε) : List Command → Sink → List Command
  | [], _ => []
  | c :: cs, sink =>
    match m.execute c sink with
    | (.ok m, sink) => c :: m.executed cs sink
    | (.error _, _) => []

/-- The commands that a script executes. If it cannot be read there are none. -/
def Script.executed (text : String) (sink : Sink) : List Command :=
  match parse text with
  | .ok commands => machine.executed commands sink
  | .error _ => []

/-- The failures of a session that takes the lines one after the other. -/
def Session.failures (s : Session) : List String → List ScriptError
  | [] => []
  | line :: lines =>
    match s.feed line with
    | (.ok _, s) => s.failures lines
    | (.error e, s) => e :: s.failures lines

/-- The machine is one of those that the run of a script goes through: the one it starts on, or one
that an executed command leads to. -/
def Script.PassesThrough (text : String) (sink : Sink) (m : Machine Empty) : Prop :=
  ∃ before after sink', parse text = .ok (before ++ after) ∧
    machine.run before sink = (.ok m, sink')

/-- The machine is one of those that a session on an input goes through: the one it starts on, or
the one behind some of the lines. -/
def Session.PassesThrough (s : Session) (input : List UInt8) (m : Machine Empty) : Prop :=
  ∃ before after, Text.byteLines input = before ++ after ∧ (s.feedLines before).2.machine = m

/-! ## No line feed on a stack -/

/-- The operands of commands on lines have no line feed. -/
theorem Script.oneLine_of_parseLines {n : Nat} {lines : List (List Char)} {cs : List Command}
    (h : parseLines n lines = .ok cs) (hl : ∀ line ∈ lines, '\n' ∉ line) :
    ∀ c ∈ cs, c.operand.OneLine := by
  induction lines generalizing n cs with
  | nil =>
    cases h
    simp
  | cons line lines ih =>
    obtain ⟨hline, hlines⟩ := List.forall_mem_cons.1 hl
    obtain ⟨command, rest, hp, hrest, rfl⟩ := exists_of_parseLines_cons h
    intro c hc
    rcases List.mem_append.1 hc with hc | hc
    · obtain rfl := Option.mem_toList.1 hc
      exact oneLine_of_parseLine_ok hline hp
    · exact ih hrest hlines c hc

theorem Script.oneLine_of_parse {text : String} {cs : List Command} (h : parse text = .ok cs) :
    ∀ c ∈ cs, c.operand.OneLine :=
  oneLine_of_parseLines h fun _ hline => Text.not_mem_of_mem_lines hline

/-- A run brings no line feed into a machine. -/
theorem Machine.oneLine_run {m m' : Machine Empty} {cs : List Command} {sink sink' : Sink}
    (hm : m.OneLine) (hc : ∀ c ∈ cs, c.operand.OneLine) (h : m.run cs sink = (.ok m', sink')) :
    m'.OneLine := by
  induction cs generalizing m sink with
  | nil =>
    cases h
    exact hm
  | cons c cs ih =>
    obtain ⟨hc, hcs⟩ := List.forall_mem_cons.1 hc
    obtain ⟨m₁, sink₁, hx, hrun⟩ := exists_of_run_cons h
    exact ih (oneLine_execute hm hc (congrArg Prod.fst hx)) hcs hrun

namespace Session

variable {s : Session}

theorem machine_report (s : Session) (e : ScriptError) : (s.report e).2.machine = s.machine := by
  rw [report]
  split <;> rfl

/-- A line brings no line feed into the machine of a session. -/
theorem oneLine_feed (hs : s.machine.OneLine) {line : String} (hl : Text.OneLine line) :
    (s.feed line).2.machine.OneLine := by
  by_cases hx : isExit line = true
  · rw [feed, if_pos hx]
    exact hs
  · rw [feed, if_neg hx, executeLine]
    rcases hp : Script.parseLine line.toList with e | _ | c
    · exact hs
    · exact hs
    · have hc := Script.oneLine_of_parseLine_ok hl hp
      rcases hr : s.machine.execute c s.sink with ⟨e | m, sink⟩
      · simp only [hr]
        exact hs
      · simp only [hr]
        exact Machine.oneLine_execute hs hc (congrArg Prod.fst hr)

theorem oneLine_feedBytes (hs : s.machine.OneLine) {line : List UInt8}
    (hl : ∀ text, Text.decode? line = some text → Text.OneLine text) :
    (s.feedBytes line).2.machine.OneLine := by
  rw [feedBytes]
  cases hd : Text.decode? line with
  | none => exact hs
  | some text =>
    have hf := oneLine_feed hs (hl text hd)
    simp only
    rcases hr : s.feed text with ⟨e | goesOn, s₁⟩
    · rw [hr, ← machine_report s₁ e] at hf
      simp only
      rcases hr' : s₁.report e with ⟨e' | _, s₂⟩ <;> simpa [hr'] using hf
    · rw [hr] at hf
      exact hf

/-- No line brings a line feed into the machine of a session, whether or not the failures can be
reported. -/
theorem oneLine_feedLines (hs : s.machine.OneLine) {lines : List (List UInt8)}
    (hl : ∀ line ∈ lines, ∀ text, Text.decode? line = some text → Text.OneLine text) :
    (s.feedLines lines).2.machine.OneLine := by
  induction lines generalizing s with
  | nil => exact hs
  | cons line lines ih =>
    obtain ⟨hline, hlines⟩ := List.forall_mem_cons.1 hl
    have hf := oneLine_feedBytes hs hline
    rw [feedLines]
    rcases hr : s.feedBytes line with ⟨e | _ | _, s₁⟩
    · rw [hr] at hf
      exact hf
    · rw [hr] at hf
      exact hf
    · rw [hr] at hf
      exact ih hf hlines

end Session

/-! ## The lines of an output -/

/-- The command that ends a line of the output. -/
def Command.println : Command :=
  ⟨.call, .text "println"⟩

/-- The hook that adds a line feed is the one with this name. -/
def HookTable.PrintsLines {ε : Type} (t : HookTable ε) : Prop :=
  ∀ name hook, t.get? name = some hook → (hook.body = .println ↔ name = "println")

theorem Script.printsLines_machine : machine.hooks.PrintsLines := by
  intro name hook h
  have hget : machine.hooks.get? name = HookTable.empty.registerBuiltins.get? name := rfl
  rw [hget, HookTable.registerBuiltins] at h
  simp only [HookTable.get?_register, HookTable.get?_empty] at h
  split at h
  · rename_i hname
    cases h
    simp [← hname]
  · split at h
    · rename_i hname
      cases h
      simp [← hname]
    · split at h
      · rename_i hname
        cases h
        simp [← hname]
      · cases h

/-- A command that succeeds adds a line feed to the output if it is the call that ends a line, and
else none. -/
theorem Outcome.count_lineFeed {ε : Type} {m m' : Machine ε} {c : Command} {texts : List String}
    (h : Outcome m c (.ok m') texts) (hm : m.OneLine) (hp : m.hooks.PrintsLines) :
    (String.join texts).toList.count '\n' = [c].count .println := by
  generalize hr : (.ok m' : Except MachineError (Machine ε)) = r at h
  have hprinted : (printedText m.stack).toList.count '\n' = 0 :=
    List.count_eq_zero.2 (oneLine_printedText hm.stack)
  cases h with
  | callFree hc =>
    have hne : c ≠ .println := fun h => hc (h ▸ rfl)
    simp [hne]
  | call hc h =>
    obtain ⟨opcode, operand⟩ := c
    obtain rfl : opcode = .call := hc
    simp only at h
    cases h with
    | notText _ | unknown _ | arity _ _ | throw _ _ => cases hr
    | @print name hook hg hb =>
      have hne : name ≠ "println" := fun hname => by
        rw [(hp _ _ hg).2 hname] at hb
        cases hb
      have hc : (⟨.call, .text name⟩ : Command) ≠ .println := by simp [Command.println, hne]
      simp [hprinted, hc]
    | @println name hook hg hb =>
      obtain rfl := (hp _ _ hg).1 hb
      simp [hprinted, Command.println]

/-- The output of a run has as many line feeds as calls were executed that end a line. -/
theorem Machine.count_lineFeed_run {m : Machine Empty} (hm : m.OneLine)
    (hp : m.hooks.PrintsLines) {cs : List Command} (hc : ∀ c ∈ cs, c.operand.OneLine)
    (kept : String) :
    (m.run cs (.capture kept)).2.captured.toList.count '\n' =
      kept.toList.count '\n' + (m.executed cs (.capture kept)).count .println := by
  induction cs generalizing m kept with
  | nil => rfl
  | cons c cs ih =>
    obtain ⟨hc, hcs⟩ := List.forall_mem_cons.1 hc
    obtain ⟨r, texts, ho, hr⟩ := exists_outcome m.builtinOnly_empty c
    rw [run, executed, hr, Sink.writeAll_capture]
    cases r with
    | error e => simp [ho.texts_of_error, Sink.captured]
    | ok m₁ =>
      have hm₁ : m₁.OneLine := ho.oneLine hm hc
      have hp₁ : m₁.hooks.PrintsLines := by rw [ho.eq_advance]; exact hp
      have hcount := ho.count_lineFeed hm hp
      simp only [ih hm₁ hp₁ hcs, String.toList_append, List.count_append, hcount]
      rw [Nat.add_assoc, ← List.count_append, List.singleton_append]

/-! ## The lines of the diagnostics -/

/-- A report on failures that are worded on one line has a line for each. -/
theorem ScriptError.count_lineFeed_report {failures : List ScriptError}
    (h : ∀ e ∈ failures, Text.OneLine e.message) :
    (report failures).toList.count '\n' = failures.length := by
  induction failures with
  | nil => rfl
  | cons e failures ih =>
    obtain ⟨he, hrest⟩ := List.forall_mem_cons.1 h
    have hmessage : e.message.toList.count '\n' = 0 := List.count_eq_zero.2 he
    have hreport : report (e :: failures) = e.message ++ "\n" ++ report failures := by
      simp [report]
    simp [hreport, hmessage, ih hrest]

/-- The failures of a session are those of its log. -/
theorem Log.failures_eq {m m' : Machine Empty} {sink sink' : Sink} {lines : List String}
    {executed : List Command} {failures : List ScriptError}
    (h : Log m sink lines executed failures m' sink')
    (hx : ∀ line ∈ lines, Session.isExit line = false) (diagnostics : Stream) :
    Session.failures ⟨m, sink, diagnostics⟩ lines = failures := by
  induction h with
  | nil => rfl
  | blank hp _ ih =>
    obtain ⟨hline, hlines⟩ := List.forall_mem_cons.1 hx
    simp [Session.failures, Session.feed, hline, Session.executeLine, hp, ih hlines]
  | executed hp hc _ ih =>
    obtain ⟨hline, hlines⟩ := List.forall_mem_cons.1 hx
    simp [Session.failures, Session.feed, hline, Session.executeLine, hp, hc, ih hlines]
  | unread hp _ ih =>
    obtain ⟨hline, hlines⟩ := List.forall_mem_cons.1 hx
    simp [Session.failures, Session.feed, hline, Session.executeLine, hp, ih hlines]
  | @failed m _ sink _ _ _ c e _ _ hp hc _ ih =>
    obtain ⟨hline, hlines⟩ := List.forall_mem_cons.1 hx
    rcases hr : m.execute c sink with ⟨r, sink₁⟩
    rw [hr] at hc
    obtain rfl : r = .error e := hc
    obtain rfl := Machine.sink_of_execute_error hr
    simp [Session.failures, Session.feed, hline, Session.executeLine, hp, hr, ih hlines]

namespace Session

/-- The lines that a session takes have no line feed and hold no exit word. -/
theorem of_mem_processed {input : List UInt8} {line : String} (h : line ∈ processed input) :
    Text.OneLine line ∧ isExit line = false := by
  obtain ⟨bytes, hbytes, hd⟩ := List.mem_filterMap.1 h
  have hmem := (List.takeWhile_sublist goesOn).subset hbytes
  obtain ⟨text, hd', hx⟩ := goesOn_eq_true_iff.1 (List.mem_takeWhile_imp hbytes)
  obtain rfl := Option.some.inj (hd.symm.trans hd')
  exact ⟨Text.not_mem_of_decode?_byteLines hmem hd, hx⟩

/-- The diagnostics of a session get a line for each of its lines that fails. -/
theorem count_lineFeed_diagnostics (sink : Sink) {diagnostics : Stream}
    (h : diagnostics.device.Accepting) (input : List UInt8) :
    (run { sink, diagnostics } input).2.diagnostics.received.count 10 =
      diagnostics.received.count 10 +
        (failures { sink, diagnostics } (processed input)).length := by
  have hs : Reporting { sink, diagnostics } := h
  have hgo : ∀ line ∈ (Text.byteLines input).takeWhile goesOn, goesOn line :=
    fun _ h => List.mem_takeWhile_imp h
  obtain ⟨s', executed, failures, hfeed, hreported, hlog⟩ := feedLines_log hs hgo
  have hexit : ∀ line ∈ processed input, isExit line = false := fun _ h => (of_mem_processed h).2
  have hone : ∀ line ∈ processed input, Text.OneLine line := fun _ h => (of_mem_processed h).1
  have hfailures : Session.failures { sink, diagnostics } (processed input) = failures :=
    hlog.failures_eq hexit diagnostics
  rw [run_of_reporting hs, hfeed, hreported.2, hfailures, List.count_append, Text.toList_toUTF8,
    Text.count_lineFeed_encode,
    ScriptError.count_lineFeed_report (hlog.oneLine Script.oneLine_machine hone).2]

end Session

/-- Neither a script nor a session, whatever is given to it and wherever it writes, ever has a text
with a line feed on its stack. A script therefore prints as many line feeds as it executes calls of
`println`, and the diagnostics of a session get as many as lines of its input fail if their device
takes something of whatever it is offered. -/
theorem line_breaks_cannot_be_forged :
    (∀ (text : String) (sink : Sink) (m : Machine Empty), Script.PassesThrough text sink m →
      ∀ s, .text s ∈ m.stack → '\n' ∉ s.toList) ∧
    (∀ (sink : Sink) (diagnostics : Stream) (input : List UInt8) (m : Machine Empty),
      Session.PassesThrough { sink, diagnostics } input m →
      ∀ s, .text s ∈ m.stack → '\n' ∉ s.toList) ∧
    (∀ text : String, (Script.run text (.capture "")).2.captured.toList.count '\n' =
      (Script.executed text (.capture "")).count ⟨.call, .text "println"⟩) ∧
    (∀ (sink : Sink) (diagnostics : Stream) (input : List UInt8), diagnostics.device.Accepting →
      (Session.run { sink, diagnostics } input).2.diagnostics.received.count 10 =
        diagnostics.received.count 10 +
          (Session.failures { sink, diagnostics } (Session.processed input)).length) := by
  refine ⟨?_, ?_, ?_, fun sink diagnostics input h =>
    Session.count_lineFeed_diagnostics sink h input⟩
  · rintro text sink m ⟨before, after, sink', hp, hrun⟩ s hs
    have hc : ∀ c ∈ before, c.operand.OneLine := fun c hc =>
      Script.oneLine_of_parse hp c (List.mem_append_left _ hc)
    exact Value.oneLine_text.1 ((Machine.oneLine_run Script.oneLine_machine hc hrun).stack _ hs)
  · rintro sink diagnostics input m ⟨before, after, hlines, rfl⟩ s hs
    have hone : ∀ line ∈ before, ∀ text, Text.decode? line = some text → Text.OneLine text := by
      intro line hline text hd
      exact Text.not_mem_of_decode?_byteLines (hlines ▸ List.mem_append_left _ hline) hd
    exact Value.oneLine_text.1
      ((Session.oneLine_feedLines Script.oneLine_machine hone).stack _ hs)
  · intro text
    cases hp : Script.parse text with
    | error e => simp [Script.run, Script.executed, hp, Sink.captured]
    | ok cs =>
      have hcount := Machine.count_lineFeed_run Script.oneLine_machine Script.printsLines_machine
        (Script.oneLine_of_parse hp) ""
      have hrun : (Script.run text (.capture "")).2 = (Script.machine.run cs (.capture "")).2 := by
        rw [Script.run_of_parse hp]
      rw [hrun, hcount, Script.executed, hp]
      exact Nat.zero_add _

/-- Two texts that were joined, in a script and in a session whose failures cannot be reported, and
two failures that are. -/
theorem line_breaks_cannot_be_forged_joined :
    (∃ m, Script.PassesThrough "PUSH a\nPUSH b\r\nADD" .null m ∧ .text "ba" ∈ m.stack ∧
      '\n' ∉ "ba".toList) ∧
    (∃ m, Session.PassesThrough ⟨Script.machine, .null, .broken "closed"⟩
        "PUSH a\nPUSH b\r\nADD\nADD".toUTF8.data.toList m ∧ .text "ba" ∈ m.stack ∧
      '\n' ∉ "ba".toList) ∧
    (Session.run { sink := .null } "ADD\r\nSUB".toUTF8.data.toList).2.diagnostics.received.count 10 =
      2 := by
  have hscript : ∃ m, Script.PassesThrough "PUSH a\nPUSH b\r\nADD" .null m ∧
      .text "ba" ∈ m.stack :=
    ⟨_, ⟨[⟨.push, .text "a"⟩, ⟨.push, .text "b"⟩, ⟨.arith .add, .mono⟩], [], .null, rfl, rfl⟩,
      List.mem_cons_self⟩
  have hsession : ∃ m, Session.PassesThrough ⟨Script.machine, .null, .broken "closed"⟩
      "PUSH a\nPUSH b\r\nADD\nADD".toUTF8.data.toList m ∧ .text "ba" ∈ m.stack :=
    ⟨_, ⟨_, [], (List.append_nil _).symm, rfl⟩, by decide +kernel⟩
  obtain ⟨m, hm, hs⟩ := hscript
  obtain ⟨m', hm', hs'⟩ := hsession
  have hcount := line_breaks_cannot_be_forged.2.2.2 .null .memory "ADD\r\nSUB".toUTF8.data.toList
    Device.accepting_memory
  exact ⟨⟨m, hm, hs, line_breaks_cannot_be_forged.1 _ _ m hm _ hs⟩,
    ⟨m', hm', hs', line_breaks_cannot_be_forged.2.1 _ _ _ m' hm' _ hs'⟩,
    hcount.trans (by decide +kernel)⟩

end StackScript
