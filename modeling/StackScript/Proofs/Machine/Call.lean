import StackScript.Proofs.Machine.Depth

/-!
# Calls are all or nothing

A call that is refused leaves no trace. Else the body of one hook runs once, on the operands and on the
calling machine without them, and the call ends as the body lets it end. Nothing is assumed of the bodies:
they may fail, write, or run commands on a copy of the machine that they are given.

* `Host.logging`: a host that makes a note of each invocation;
* `Machine.pushResult_drained`: what a body returns is pushed;
* `call_is_all_or_nothing`: all that a call can do.
-/

namespace StackScript

/-- A host whose bodies note in the sink that they were invoked, and how. -/
@[reducible] def Host.logging {ε : Type} (answer : ε → Call ε → Except MachineError Value)
    (note : ε → Call ε → String) : Host ε :=
  ⟨fun body call sink => (answer body call, sink.write (note body call))⟩

namespace Machine

variable {ε : Type} {m : Machine ε}

/-- There is room for a result unless no value may be pushed at all. -/
theorem pushResult_drained {v : Value} (hv : v ≠ .mono) (hroom : 0 < m.config.maxDepth) :
    m.drained.pushResult v = .ok { m with stack := [v] } := by
  have hmono : ¬ v.isMono = true := mt Value.isMono_eq_true_iff.1 hv
  rw [pushResult, if_neg hmono, push_eq_ok_iff]
  exact ⟨hroom, rfl⟩

end Machine

/-- A call makes three checks, in this order: the operand is text, a hook has this name, and the hook takes
as many arguments as there are operands. The first that fails is reported, whatever the host, and nothing is
written. Else the body of the hook runs, with the operands from the top of the stack on as its arguments and
with the calling machine without operands, and it runs once: the notes of a host that keeps a log are the
note of this invocation. An error of the body is that of the call; after `mono` the stack is empty; any
other value is alone on the stack, or, if the limit is zero, it is the reason for a stack overflow. A call
that succeeds adds itself to the history and keeps name, hooks and limits, and one that fails gives no
machine at all. -/
theorem call_is_all_or_nothing {ε : Type} (m : Machine ε) (hbuilt : m.hooks.Built) :
    (∀ [Host ε] (operand : Value) (sink : Sink), operand.kind ≠ .string →
      m.execute ⟨.call, operand⟩ sink =
        (.error (.operation (.typeMismatch .string operand.kind)), sink)) ∧
    (∀ [Host ε] (name : String) (sink : Sink), m.hooks.get? name = none →
      m.execute ⟨.call, .text name⟩ sink = (.error (.unknownHook name), sink)) ∧
    (∀ [Host ε] (name : String) (hook : Hook ε) (sink : Sink), m.hooks.get? name = some hook →
      hook.arity.accepts m.stack.length = false →
      m.execute ⟨.call, .text name⟩ sink =
        (.error (.arityMismatch name hook.arity m.stack.length), sink)) ∧
    ∀ (name : String) (hook : Hook ε), m.hooks.get? name = some hook →
      hook.arity.accepts m.stack.length = true →
      (∀ [Host ε] (sink sink' : Sink) (r : Except MachineError Value),
        hook.body.invoke ⟨m.stack, { m with stack := [] }⟩ sink = (r, sink') →
        (∀ e, r = .error e → m.execute ⟨.call, .text name⟩ sink = (.error e, sink')) ∧
        (r = .ok .mono → m.execute ⟨.call, .text name⟩ sink =
          (.ok { m with stack := [], history := m.history.prepend ⟨.call, .text name⟩ }, sink')) ∧
        ∀ v, r = .ok v → v ≠ .mono →
          (m.config.maxDepth = 0 →
            m.execute ⟨.call, .text name⟩ sink = (.error (.stackOverflow 0), sink')) ∧
          (0 < m.config.maxDepth → m.execute ⟨.call, .text name⟩ sink =
            (.ok { m with stack := [v], history := m.history.prepend ⟨.call, .text name⟩ }, sink'))) ∧
      ∀ (body : ε) (answer : ε → Call ε → Except MachineError Value) (note : ε → Call ε → String)
        (kept : String), hook.body = .host body →
        letI := Host.logging answer note
        (m.execute ⟨.call, .text name⟩ (.capture kept)).2 =
          .capture (kept ++ note body ⟨m.stack, { m with stack := [] }⟩) := by
  refine ⟨fun operand sink h => ?_, fun name sink h => Machine.execute_of_refused (.unknown h) sink,
    fun name hook sink h ha => ?_, fun name hook h ha => ⟨fun sink sink' r hbody => ?_, ?_⟩⟩
  · exact Machine.execute_of_refused (.notText (Value.text?_eq_none_iff.2 h)) sink
  · rw [Machine.execute_of_refused (.arity h ha), hbuilt.name_eq h]
  · have hruns : m.Runs (.text name) hook := ⟨name, rfl, h, ha⟩
    rw [Machine.execute_of_invoke hruns hbody]
    refine ⟨?_, ?_, ?_⟩
    · rintro e rfl
      rfl
    · rintro rfl
      rfl
    · rintro v rfl hv
      refine ⟨fun hzero => ?_, fun hroom => ?_⟩
      · have hfull := Machine.pushResult_drained_eq_error_iff.2 ⟨hv, hzero, rfl⟩
        rw [hzero] at hfull
        rw [Except.bind, hfull]
        rfl
      · rw [Except.bind, Machine.pushResult_drained hv hroom]
        rfl
  · -- whatever the body answers, the call adds nothing to its note
    intro body answer note kept hhost
    let _ := Host.logging answer note
    have hruns : m.Runs (.text name) hook := ⟨name, rfl, h, ha⟩
    have hbody : hook.body.invoke ⟨m.stack, m.drained⟩ (.capture kept) =
        (answer body ⟨m.stack, m.drained⟩, .capture (kept ++ note body ⟨m.stack, m.drained⟩)) := by
      rw [hhost]
      rfl
    rw [Machine.execute_of_invoke hruns hbody]
    rfl

/-- A body that writes its two arguments and returns a value: its output stays when the value cannot be
pushed, and with no arguments it does not run. -/
theorem call_is_all_or_nothing_told :
    let hooks : HookTable Recipe := HookTable.empty.register "tell" (.fixed 2) (.host (.tell (.int 7)))
    let m : Machine Recipe := { name := "m", stack := [.text "b", .text "a"], hooks }
    let c : Command := ⟨.call, .text "tell"⟩
    m.hooks.Built ∧
    m.execute c (.capture "") =
      (.ok { m with stack := [.int 7], history := ⟨[c], 1, rfl⟩ }, .capture "b\na\n") ∧
    (m.withConfig ⟨0⟩).execute c (.capture "") = (.error (.stackOverflow 0), .capture "b\na\n") ∧
    m.drained.execute c (.capture "") = (.error (.arityMismatch "tell" (.fixed 2) 0), .capture "") := by
  intro hooks m c
  have hbuilt : hooks.Built := .register .empty _ _ _
  have hget : hooks.get? "tell" = some ⟨"tell", .fixed 2, .host (.tell (.int 7))⟩ := by
    simp [hooks, HookTable.get?_register]
  have htext : "" ++ "b" ++ "\n" ++ "a" ++ "\n" = "b\na\n" := by decide
  have hbody (machine : Machine Recipe) :
      Body.invoke (.host (.tell (.int 7))) ⟨m.stack, machine⟩ (.capture "") =
        (.ok (.int 7), .capture "b\na\n") :=
    htext ▸ rfl
  refine ⟨hbuilt, ?_, ?_, ?_⟩
  · exact (((call_is_all_or_nothing m hbuilt).2.2.2 "tell" _ hget rfl).1 _ _ _ (hbody _)).2.2 _ rfl
      (by simp) |>.2 (by decide)
  · exact (((call_is_all_or_nothing (m.withConfig ⟨0⟩) hbuilt).2.2.2 "tell" _ hget rfl).1 _ _ _
      (hbody _)).2.2 _ rfl (by simp) |>.1 rfl
  · exact (call_is_all_or_nothing m.drained hbuilt).2.2.1 "tell" _ _ hget rfl

end StackScript
