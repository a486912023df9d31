import StackScript.Proofs.Machine.CallFree
import StackScript.Proofs.Machine.Step

/-!
# What a step can do

On a machine whose hooks all have built-in bodies a command has one of a few outcomes, and these do
not depend on the sink: the sink receives the same texts in the same order, whichever it is.

* `CallOutcome` lists what a call can do, and `Outcome` what a command can do;
* `Machine.exists_outcome`: every command has an outcome, for all sinks at once;
* `Outcome.texts_of_error`: a step that fails has written nothing;
* `Outcome.eq_advance`: a step that succeeds changes nothing but stack and history;
* `Machine.exists_run`: a run, too, is the same for all sinks.
-/

namespace StackScript

namespace Sink

/-- The sink after texts were written one after the other. -/
def writeAll (sink : Sink) (texts : List String) : Sink :=
  texts.foldl (fun sink text => sink.write text) sink

@[simp] theorem writeAll_nil (sink : Sink) : sink.writeAll [] = sink := rfl

theorem writeAll_append (sink : Sink) (ss ts : List String) :
    sink.writeAll (ss ++ ts) = (sink.writeAll ss).writeAll ts := by
  simp [writeAll]

/-- A sink in memory keeps the texts behind those that it has. -/
theorem writeAll_capture (kept : String) (texts : List String) :
    (Sink.capture kept).writeAll texts = .capture (kept ++ String.join texts) := by
  induction texts generalizing kept with
  | nil => simp
  | cons t ts ih =>
    rw [writeAll, List.foldl_cons, write]
    exact (ih (kept ++ t)).trans (by simp [String.append_assoc])

end Sink

/-- All hooks of the machine have built-in bodies. -/
def Machine.BuiltinOnly {ε : Type} (m : Machine ε) : Prop :=
  ∀ name hook, m.hooks.get? name = some hook → ∀ body, hook.body ≠ .host body

theorem Machine.builtinOnly_empty (m : Machine Empty) : m.BuiltinOnly :=
  fun _ _ _ body => body.elim

/-- What a call can result in and write. -/
inductive CallOutcome {ε : Type} (m : Machine ε) :
    Value → Except MachineError (Machine ε) → List String → Prop
  | notText {operand : Value} (h : operand.text? = none) :
    CallOutcome m operand (.error (.operation (.typeMismatch .string operand.kind))) []
  | unknown {name : String} (h : m.hooks.get? name = none) :
    CallOutcome m (.text name) (.error (.unknownHook name)) []
  | arity {name : String} {hook : Hook ε} (h : m.hooks.get? name = some hook)
    (ha : hook.arity.accepts m.stack.length = false) :
    CallOutcome m (.text name)
      (.error (.arityMismatch hook.name hook.arity m.stack.length)) []
  | print {name : String} {hook : Hook ε} (h : m.hooks.get? name = some hook)
    (hb : hook.body = .print) :
    CallOutcome m (.text name) (.ok m.drained) [printedText m.stack]
  | println {name : String} {hook : Hook ε} (h : m.hooks.get? name = some hook)
    (hb : hook.body = .println) :
    CallOutcome m (.text name) (.ok m.drained) [printedText m.stack, "\n"]
  | throw {name : String} {hook : Hook ε} (h : m.hooks.get? name = some hook)
    (hb : hook.body = .throw) :
    CallOutcome m (.text name) (.error (.thrown (thrownMessage m.stack))) []

/-- What a command can result in and write. -/
inductive Outcome {ε : Type} (m : Machine ε) (c : Command) :
    Except MachineError (Machine ε) → List String → Prop
  | callFree (hc : c.CallFree) :
    Outcome m c ((Stack.step m.config.maxDepth c m.stack).map fun s => m.advance s [c]) []
  | call {r : Except MachineError (Machine ε)} {texts : List String} (hc : c.opcode = .call)
    (h : CallOutcome m c.operand r texts) : Outcome m c (r.map fun m => m.record c) texts

namespace Machine

variable {ε : Type} [Host ε]

theorem exists_callOutcome {m : Machine ε} (hm : m.BuiltinOnly) (operand : Value) :
    ∃ r texts, CallOutcome m operand r texts ∧
      ∀ sink, m.call operand sink = (r, sink.writeAll texts) := by
  obtain ⟨e, h⟩ | ⟨h, hruns⟩ := m.refused_or_runs operand
  · refine ⟨.error e, [], ?_, call_of_refused h⟩
    cases h with
    | notText h => exact .notText h
    | unknown h => exact .unknown h
    | arity h ha => exact .arity h ha
  · have hcall := call_of_runs hruns
    obtain ⟨name, rfl, hg, -⟩ := hruns
    cases hb : h.body with
    | print => exact ⟨_, _, .print hg hb, fun sink => by rw [hcall, hb]; rfl⟩
    | println => exact ⟨_, _, .println hg hb, fun sink => by rw [hcall, hb]; rfl⟩
    | throw => exact ⟨_, _, .throw hg hb, fun sink => by rw [hcall, hb]; rfl⟩
    | host body => exact absurd hb (hm name h hg body)

/-- A command has an outcome that is the same for all sinks. -/
theorem exists_outcome {m : Machine ε} (hm : m.BuiltinOnly) (c : Command) :
    ∃ r texts, Outcome m c r texts ∧ ∀ sink, m.execute c sink = (r, sink.writeAll texts) := by
  by_cases hc : c.CallFree
  · exact ⟨_, _, .callFree hc, fun sink => m.execute_callFree hc sink⟩
  · have hop : c.opcode = .call := Decidable.not_not.1 hc
    obtain ⟨r, texts, h, hr⟩ := exists_callOutcome hm c.operand
    refine ⟨_, _, .call hop h, fun sink => ?_⟩
    have hstep : m.step c sink = (r, sink.writeAll texts) := by
      rw [step, hop]
      exact hr sink
    rw [execute_eq, hstep]

end Machine

/-- A step that fails has written nothing. -/
theorem Outcome.texts_of_error {ε : Type} {m : Machine ε} {c : Command} {e : MachineError}
    {texts : List String} (h : Outcome m c (.error e) texts) : texts = [] := by
  generalize hr : (.error e : Except MachineError (Machine ε)) = r at h
  cases h with
  | callFree hc => rfl
  | call hc h =>
    generalize c.operand = operand at h
    cases h with
    | notText _ | unknown _ | arity _ _ | throw _ _ => rfl
    | print _ _ | println _ _ => cases hr

/-- A step changes the stack and adds to the history; all else is kept. -/
theorem Outcome.eq_advance {ε : Type} {m m' : Machine ε} {c : Command} {texts : List String}
    (h : Outcome m c (.ok m') texts) : m' = m.advance m'.stack [c] := by
  generalize hr : (.ok m' : Except MachineError (Machine ε)) = r at h
  cases h with
  | callFree hc =>
    cases hs : Stack.step m.config.maxDepth c m.stack with
    | error e => rw [hs] at hr; cases hr
    | ok s => rw [hs] at hr; cases hr; rfl
  | call hc h =>
    generalize c.operand = operand at h
    cases h with
    | notText _ | unknown _ | arity _ _ | throw _ _ => cases hr
    | print _ _ | println _ _ => cases hr; rfl

/-- A run has a result that is the same for all sinks, and writes the same texts to each. -/
theorem Machine.exists_run {ε : Type} [Host ε] {m : Machine ε} (hm : m.BuiltinOnly)
    (cs : List Command) : ∃ r texts, ∀ sink, m.run cs sink = (r, sink.writeAll texts) := by
  induction cs generalizing m with
  | nil => exact ⟨.ok m, [], fun sink => rfl⟩
  | cons c cs ih =>
    obtain ⟨r, texts, ho, hr⟩ := exists_outcome hm c
    cases r with
    | error e => exact ⟨.error e, texts, fun sink => by rw [run, hr]⟩
    | ok m' =>
      have hm' : m'.BuiltinOnly := by rw [ho.eq_advance]; exact hm
      obtain ⟨r, more, hrun⟩ := ih hm'
      refine ⟨r, texts ++ more, fun sink => ?_⟩
      rw [run, hr, Sink.writeAll_append]
      exact hrun _

end StackScript
