import StackScript.Machine.Step

/-!
# Runs without calls

A command other than a call reads and writes the operand stack alone. Such a command, and every
list of them, is therefore a function on stacks with the depth limit as a parameter:

* `Stack.step` and `Stack.run` are these functions;
* `Machine.execute_callFree` and `Machine.run_callFree`: a machine takes the step of its stack, adds
  the command to its history and keeps all else, and the sink is not touched;
* `Stack.exists_failing_of_run`: a run that fails has come to a command that fails.
-/

namespace StackScript

/-- The command is no call. -/
def Command.CallFree (c : Command) : Prop :=
  c.opcode ≠ .call

instance (c : Command) : Decidable c.CallFree :=
  inferInstanceAs (Decidable (_ ≠ _))

namespace Stack

/-- The effect of a command on a stack, the top first; a call has none here. -/
def step (limit : Nat) (c : Command) (s : List Value) : Except MachineError (List Value) :=
  match c.opcode, s with
  | .push, s => if limit ≤ s.length then .error (.stackOverflow limit) else .ok (c.operand :: s)
  | .arith op, left :: right :: rest =>
    match op.apply left right with
    | .ok v => .ok (v :: rest)
    | .error e => .error (.operation e)
  | .arith _, s => .error (.stackUnderflow 2 s.length)
  | .call, s => .ok s

/-- The effect of commands in order, up to the first that fails. -/
def run (limit : Nat) : List Command → List Value → Except MachineError (List Value)
  | [], s => .ok s
  | c :: cs, s =>
    match step limit c s with
    | .ok s => run limit cs s
    | .error e => .error e

theorem run_append (limit : Nat) (cs ds : List Command) (s : List Value) :
    run limit (cs ++ ds) s =
      match run limit cs s with
      | .ok s => run limit ds s
      | .error e => .error e := by
  induction cs generalizing s with
  | nil => rfl
  | cons c cs ih =>
    rw [List.cons_append, run, run]
    cases step limit c s with
    | ok s => exact ih s
    | error e => rfl

/-- A run that fails has gone up to a command that fails. -/
theorem exists_failing_of_run {limit : Nat} {cs : List Command} {s : List Value} {e : MachineError}
    (h : run limit cs s = .error e) :
    ∃ before c after s', cs = before ++ c :: after ∧ run limit before s = .ok s' ∧
      step limit c s' = .error e := by
  induction cs generalizing s with
  | nil => cases h
  | cons c cs ih =>
    rw [run] at h
    cases hs : step limit c s with
    | error e' =>
      rw [hs] at h
      cases h
      exact ⟨[], c, cs, s, rfl, rfl, hs⟩
    | ok s₁ =>
      rw [hs] at h
      obtain ⟨before, d, after, s', rfl, hbefore, hd⟩ := ih h
      exact ⟨c :: before, d, after, s', rfl, by rw [run, hs]; exact hbefore, hd⟩

end Stack

namespace Machine

variable {ε : Type}

/-- The machine with another stack and further executed commands, given in their order. -/
def advance (m : Machine ε) (stack : List Value) (cs : List Command) : Machine ε :=
  { m with stack, history := cs.foldl .prepend m.history }

variable [Host ε]

theorem execute_callFree (m : Machine ε) {c : Command} (hc : c.CallFree) (sink : Sink) :
    m.execute c sink =
      ((Stack.step m.config.maxDepth c m.stack).map fun s => m.advance s [c], sink) := by
  obtain ⟨opcode, operand⟩ := c
  cases opcode with
  | push =>
    by_cases hm : m.config.maxDepth ≤ m.stack.length
    · simp [execute, step, push, Stack.step, hm, Except.map]
    · simp [execute, step, push, Stack.step, hm, Except.map, record, advance]
  | arith op =>
    obtain ⟨name, stack, history, hooks, config⟩ := m
    match stack with
    | [] => rfl
    | [v] => rfl
    | left :: right :: rest =>
      cases ha : op.apply left right with
      | ok v => simp [execute, step, combine, Stack.step, ha, Except.map, record, advance]
      | error e => simp [execute, step, combine, Stack.step, ha, Except.map]
  | call => exact absurd rfl hc

theorem run_callFree (m : Machine ε) {cs : List Command} (hc : ∀ c ∈ cs, c.CallFree)
    (sink : Sink) :
    m.run cs sink =
      ((Stack.run m.config.maxDepth cs m.stack).map fun s => m.advance s cs, sink) := by
  induction cs generalizing m with
  | nil => rfl
  | cons c cs ih =>
    rw [run, execute_callFree m (hc c List.mem_cons_self), Stack.run]
    cases Stack.step m.config.maxDepth c m.stack with
    | error e => rfl
    | ok s =>
      have ih := ih (m.advance s [c]) fun d hd => hc d (List.mem_cons_of_mem _ hd)
      simp only [Except.map, ih]
      cases hr : Stack.run m.config.maxDepth cs s with
      | error e => simp [advance, hr]
      | ok s' => simp [advance, hr]

theorem run_of_stackRun_ok {m : Machine ε} {cs : List Command} (hc : ∀ c ∈ cs, c.CallFree) {s : List Value}
    (h : Stack.run m.config.maxDepth cs m.stack = .ok s) (sink : Sink) :
    m.run cs sink = (.ok (m.advance s cs), sink) := by
  rw [m.run_callFree hc, h]
  rfl

theorem run_of_stackRun_error {m : Machine ε} {cs : List Command} (hc : ∀ c ∈ cs, c.CallFree)
    {e : MachineError} (h : Stack.run m.config.maxDepth cs m.stack = .error e) (sink : Sink) :
    m.run cs sink = (.error e, sink) := by
  rw [m.run_callFree hc, h]
  rfl

theorem stackRun_of_run {m m' : Machine ε} {cs : List Command} (hc : ∀ c ∈ cs, c.CallFree) {sink : Sink}
    (h : (m.run cs sink).1 = .ok m') : Stack.run m.config.maxDepth cs m.stack = .ok m'.stack := by
  rw [m.run_callFree hc] at h
  cases hr : Stack.run m.config.maxDepth cs m.stack with
  | error e =>
    rw [hr] at h
    cases h
  | ok s =>
    rw [hr] at h
    cases h
    rfl

theorem run_eq_error_iff {m : Machine ε} {cs : List Command} (hc : ∀ c ∈ cs, c.CallFree) {sink : Sink}
    {e : MachineError} :
    (m.run cs sink).1 = .error e ↔ Stack.run m.config.maxDepth cs m.stack = .error e := by
  rw [m.run_callFree hc]
  cases Stack.run m.config.maxDepth cs m.stack with
  | error e' => exact ⟨by rintro ⟨⟩; rfl, by rintro ⟨⟩; rfl⟩
  | ok s => exact ⟨by rintro ⟨⟩, by rintro ⟨⟩⟩

theorem execute_of_stackStep_error {m : Machine ε} {c : Command} (hc : c.CallFree) {e : MachineError}
    (h : Stack.step m.config.maxDepth c m.stack = .error e) (sink : Sink) :
    m.execute c sink = (.error e, sink) := by
  rw [m.execute_callFree hc, h]
  rfl

end Machine

end StackScript
