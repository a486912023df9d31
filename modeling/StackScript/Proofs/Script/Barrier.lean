import StackScript.Proofs.Machine.Run
import StackScript.Proofs.Script.LineFeed

/-!
# Printing is a barrier

A call of a built-in hook that prints takes all operands and leaves none. Behind it a script goes on
as if it had just started: what was on the stack is in the output, and what was executed is in the
history, where no command looks.

* `Machine.execute_of_runs`: a call that returns nothing leaves an empty stack;
* `Script.parse_joined`: what scripts put together hold;
* `Script.run_behind_call`: a script behind a call that empties the stack;
* `printing_is_a_barrier`: two scripts with such a call between them.
-/

namespace StackScript

/-- A call of a body that returns `mono` empties the stack and pushes nothing. -/
theorem Machine.execute_of_runs {ε : Type} [Host ε] {m : Machine ε} {operand : Value}
    {hook : Hook ε} (h : m.Runs operand hook) {sink sink' : Sink}
    (hbody : hook.body.invoke ⟨m.stack, m.drained⟩ sink = (.ok .mono, sink')) :
    m.execute ⟨.call, operand⟩ sink = (.ok (m.drained.record ⟨.call, operand⟩), sink') := by
  rw [execute_of_invoke h hbody]
  rfl

/-- The result of a machine does not depend on its past. -/
theorem Machine.map_result_withPast {ε : Type} (r : Except MachineError (Machine ε))
    (past : History) :
    (r.map fun m => m.withPast past).map Machine.result = r.map Machine.result := by
  cases r <;> rfl

namespace Script

/-- What two scripts with a line between them hold, if all three can be read. -/
theorem parse_joined {a b line : String} {cs ds : List Command} {c : Command}
    (ha : parse a = .ok cs) (hb : parse b = .ok ds) (hline : parse line = .ok [c]) :
    parse (a ++ ("\n" ++ line ++ "\n") ++ b) = .ok (cs ++ c :: ds) := by
  have hsplit : a ++ ("\n" ++ line ++ "\n") ++ b = a ++ "\n" ++ (line ++ "\n" ++ b) := by
    simp only [String.append_assoc]
  have hrest : parse (line ++ "\n" ++ b) = .ok (c :: ds) := by
    rw [parse_append_lineFeed, hline, hb]
    rfl
  rw [hsplit, parse_append_lineFeed, ha, hrest]
  rfl

/-- Behind a call that empties the stack a script has the result that its rest has on its own, and
adds the same output. -/
theorem run_behind_call {a b line printed printed' : String} {cs ds : List Command} {c : Command}
    (ha : parse a = .ok cs) (hb : parse b = .ok ds) (hline : parse line = .ok [c])
    {m : Machine Empty} (hrun : machine.run cs (.capture "") = (.ok m, .capture printed))
    (hcall : m.execute c (.capture printed) = (.ok (m.drained.record c), .capture printed')) :
    run (a ++ ("\n" ++ line ++ "\n") ++ b) (.capture "") =
      ((run b (.capture "")).1, .capture (printed' ++ (run b (.capture "")).2.captured)) := by
  obtain ⟨r, texts, hds⟩ := Machine.exists_run machine.builtinOnly_empty ds
  have hpast : m.drained.record c = machine.withPast (m.history.prepend c) := by
    have hm : m = machine.advance m.stack cs :=
      Machine.eq_advance_of_run machine.builtinOnly_empty hrun
    rw [hm]
    rfl
  -- Both scripts come down to the commands of the second on the machine of a new script.
  have hjoined : machine.run (cs ++ c :: ds) (.capture "") =
      (r.map fun m' => m'.withPast (m.history.prepend c), .capture (printed' ++ String.join texts)) := by
    rw [Machine.run_append hrun, Machine.run, hcall]
    simp only [hpast]
    rw [Machine.run_withPast machine.builtinOnly_empty, hds, Sink.writeAll_capture]
  have halone : machine.run ds (.capture "") = (r, .capture (String.join texts)) := by
    rw [hds, Sink.writeAll_capture, String.empty_append]
  rw [run_of_parse (parse_joined ha hb hline), run_of_parse hb, hjoined, halone]
  simp only [Machine.map_result_withPast, Sink.captured]

/-- A machine that is the outcome of a script has the built-in hooks. -/
theorem hooks_of_run {cs : List Command} {sink sink' : Sink} {m : Machine Empty}
    (h : machine.run cs sink = (.ok m, sink')) : m.hooks = machine.hooks := by
  rw [Machine.eq_advance_of_run machine.builtinOnly_empty h]
  rfl

end Script

/-- Between two scripts that can be read, a call of a hook that prints is a barrier, provided that
the first runs to its end. The whole has the value or the error of the second script on its own, and
its output is that of the first, the operands that the first left behind, and the output of the
second. Of one operand the display form is printed, and of more the topmost as a template for the
others; `println` adds a line feed. -/
theorem printing_is_a_barrier {a b : String} {cs ds : List Command} (ha : Script.parse a = .ok cs)
    (hb : Script.parse b = .ok ds) {m : Machine Empty} {printed : String}
    (hrun : Script.machine.run cs (.capture "") = (.ok m, .capture printed)) :
    Script.run a (.capture "") = (.ok m.result, .capture printed) ∧
    ∃ rendered more,
      (m.stack = [] → rendered = "") ∧
      (∀ v, m.stack = [v] → rendered = v.display) ∧
      (∀ top next rest, m.stack = top :: next :: rest →
        rendered = Template.format top.display (next :: rest)) ∧
      (Script.run b (.capture "")).2 = .capture more ∧
      Script.run (a ++ "\nCALL println\n" ++ b) (.capture "") =
        ((Script.run b (.capture "")).1, .capture (printed ++ rendered ++ "\n" ++ more)) ∧
      Script.run (a ++ "\nCALL print\n" ++ b) (.capture "") =
        ((Script.run b (.capture "")).1, .capture (printed ++ rendered ++ more)) := by
  have hhooks : m.hooks = Script.machine.hooks := Script.hooks_of_run hrun
  have hprintln : m.execute ⟨.call, .text "println"⟩ (.capture printed) =
      (.ok (m.drained.record ⟨.call, .text "println"⟩),
        .capture (printed ++ printedText m.stack ++ "\n")) := by
    have hruns : m.Runs (.text "println") ⟨"println", .variadic, .println⟩ :=
      ⟨"println", rfl, by rw [hhooks]; rfl, rfl⟩
    exact Machine.execute_of_runs hruns rfl
  have hprint : m.execute ⟨.call, .text "print"⟩ (.capture printed) =
      (.ok (m.drained.record ⟨.call, .text "print"⟩),
        .capture (printed ++ printedText m.stack)) := by
    have hruns : m.Runs (.text "print") ⟨"print", .variadic, .print⟩ :=
      ⟨"print", rfl, by rw [hhooks]; rfl, rfl⟩
    exact Machine.execute_of_runs hruns rfl
  refine ⟨by rw [Script.run_of_parse ha, hrun]; rfl, printedText m.stack,
    (Script.run b (.capture "")).2.captured, ?_, ?_, ?_, ?_, ?_, ?_⟩
  · intro hs
    rw [hs]
    rfl
  · intro v hs
    rw [hs]
    rfl
  · intro top next rest hs
    rw [hs]
    rfl
  · obtain ⟨r, texts, hds⟩ := Machine.exists_run Script.machine.builtinOnly_empty ds
    rw [Script.run_of_parse hb, hds, Sink.writeAll_capture]
    rfl
  · have hline : Script.parse "CALL println" = .ok [⟨.call, .text "println"⟩] := rfl
    have htext : "\nCALL println\n" = "\n" ++ "CALL println" ++ "\n" := by decide
    rw [htext]
    exact Script.run_behind_call ha hb hline hrun hprintln
  · have hline : Script.parse "CALL print" = .ok [⟨.call, .text "print"⟩] := rfl
    have htext : "\nCALL print\n" = "\n" ++ "CALL print" ++ "\n" := by decide
    rw [htext]
    exact Script.run_behind_call ha hb hline hrun hprint

/-- Operands that become a text, and a second script that fails for want of an operand. -/
theorem printing_is_a_barrier_underflow :
    Script.parse "PUSH 7\nPUSH Sum is: \x7b\x7d" =
        .ok [⟨.push, .int 7⟩, ⟨.push, .text "Sum is: \x7b\x7d"⟩] ∧
      Script.parse "PUSH 1\nADD" = .ok [⟨.push, .int 1⟩, ⟨.arith .add, .mono⟩] ∧
      Script.run ("PUSH 7\nPUSH Sum is: \x7b\x7d" ++ "\nCALL println\n" ++ "PUSH 1\nADD")
          (.capture "") =
        (.error (.machine (.stackUnderflow 2 1)), .capture "Sum is: 7\n") := by
  have ha : Script.parse "PUSH 7\nPUSH Sum is: \x7b\x7d" =
      .ok [⟨.push, .int 7⟩, ⟨.push, .text "Sum is: \x7b\x7d"⟩] := rfl
  have hb : Script.parse "PUSH 1\nADD" = .ok [⟨.push, .int 1⟩, ⟨.arith .add, .mono⟩] := rfl
  obtain ⟨-, rendered, more, -, -, htemplate, hmore, hprintln, -⟩ := printing_is_a_barrier ha hb rfl
  have hrendered : rendered = "Sum is: 7" := htemplate _ _ _ rfl
  have hempty : "" = more := Sink.capture.inj hmore
  refine ⟨ha, hb, hprintln.trans ?_⟩
  rw [hrendered, ← hempty]
  rfl

end StackScript
