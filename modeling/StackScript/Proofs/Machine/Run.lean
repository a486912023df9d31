import StackScript.Proofs.Machine.Outcome

/-!
# Runs one after the other

A run of commands can be cut anywhere: what follows starts on the machine that the first part leads
to. Of that machine only stack, hooks and limits matter, so that what a machine has executed before
has no influence on what it executes next.

* `Machine.run_append`: a run in two parts;
* `Machine.eq_advance_of_run`: a run changes nothing but stack and history;
* `Machine.run_withPast`: a run does not look at the past.
-/

namespace StackScript

/-- A built-in body looks at its arguments alone. -/
theorem Body.invoke_eq_of_builtin {ε : Type} [Host ε] {body : Body ε}
    (hb : ∀ host, body ≠ .host host) (args : List Value) (m m' : Machine ε) (sink : Sink) :
    body.invoke ⟨args, m⟩ sink = body.invoke ⟨args, m'⟩ sink := by
  cases body with
  | print | println | throw => rfl
  | host host => exact absurd rfl (hb host)

/-- The history with an older one behind it. -/
def History.behind (h past : History) : History :=
  ⟨h.commands ++ past.commands, past.len + h.len, by
    rw [List.length_append, h.len_eq, past.len_eq, Nat.add_comm]⟩

namespace Machine

variable {ε : Type}

/-- The machine with an older past: commands that were executed before all in its history. -/
def withPast (m : Machine ε) (past : History) : Machine ε :=
  { m with history := m.history.behind past }

@[simp] theorem withPast_stack (m : Machine ε) (past : History) :
    (m.withPast past).stack = m.stack := rfl

@[simp] theorem withPast_drained (m : Machine ε) (past : History) :
    (m.withPast past).drained = m.drained.withPast past := rfl

/-! ## The past in one step -/

theorem push_withPast (m : Machine ε) (past : History) (v : Value) :
    (m.withPast past).push v = (m.push v).map fun m => m.withPast past := by
  by_cases h : m.config.maxDepth ≤ m.stack.length
  · simp [push, withPast, h, Except.map]
  · simp [push, withPast, h, Except.map]

theorem combine_withPast (m : Machine ε) (past : History) (op : Operator) :
    (m.withPast past).combine op = (m.combine op).map fun m => m.withPast past := by
  obtain ⟨name, stack, history, hooks, config⟩ := m
  rcases stack with _ | ⟨left, _ | ⟨right, rest⟩⟩
  · rfl
  · rfl
  · simp only [combine, withPast]
    cases op.apply left right <;> rfl

theorem pushResult_withPast (m : Machine ε) (past : History) (v : Value) :
    (m.withPast past).pushResult v = (m.pushResult v).map fun m => m.withPast past := by
  rw [pushResult, pushResult]
  split
  · rfl
  · exact m.push_withPast past v

theorem Refused.withPast {m : Machine ε} {operand : Value} {e : MachineError}
    (h : m.Refused operand e) (past : History) : (m.withPast past).Refused operand e := by
  cases h with
  | notText h => exact .notText h
  | unknown h => exact .unknown h
  | arity h ha => exact .arity h ha

theorem Runs.withPast {m : Machine ε} {operand : Value} {hook : Hook ε} (h : m.Runs operand hook)
    (past : History) : (m.withPast past).Runs operand hook := h

variable [Host ε]

theorem call_withPast {m : Machine ε} (hm : m.BuiltinOnly) (past : History) (operand : Value)
    (sink : Sink) :
    (m.withPast past).call operand sink =
      ((m.call operand sink).1.map fun m => m.withPast past, (m.call operand sink).2) := by
  obtain ⟨e, h⟩ | ⟨hook, h⟩ := m.refused_or_runs operand
  · rw [call_of_refused (h.withPast past), call_of_refused h]
    rfl
  · have hbody : hook.body.invoke ⟨m.stack, m.drained.withPast past⟩ sink =
        hook.body.invoke ⟨m.stack, m.drained⟩ sink := by
      obtain ⟨name, -, hg, -⟩ := h
      exact Body.invoke_eq_of_builtin (hm name hook hg) _ _ _ sink
    rw [call_of_runs (h.withPast past), call_of_runs h, withPast_stack, withPast_drained, hbody]
    rcases hook.body.invoke ⟨m.stack, m.drained⟩ sink with ⟨e | v, sink'⟩
    · rfl
    · exact congrArg (·, sink') (m.drained.pushResult_withPast past v)

theorem execute_withPast {m : Machine ε} (hm : m.BuiltinOnly) (past : History) (c : Command)
    (sink : Sink) :
    (m.withPast past).execute c sink =
      ((m.execute c sink).1.map fun m => m.withPast past, (m.execute c sink).2) := by
  have hstep : (m.withPast past).step c sink =
      ((m.step c sink).1.map fun m => m.withPast past, (m.step c sink).2) := by
    obtain ⟨opcode, operand⟩ := c
    cases opcode with
    | push => exact congrArg (·, sink) (m.push_withPast past operand)
    | arith op => exact congrArg (·, sink) (m.combine_withPast past op)
    | call => exact call_withPast hm past operand sink
  rw [execute_eq, execute_eq, hstep]
  cases (m.step c sink).1 <;> rfl

/-! ## Runs -/

theorem eq_advance_of_execute {m m' : Machine ε} {c : Command} {sink sink' : Sink}
    (hm : m.BuiltinOnly) (h : m.execute c sink = (.ok m', sink')) :
    m' = m.advance m'.stack [c] := by
  obtain ⟨r, texts, ho, hr⟩ := exists_outcome hm c
  obtain ⟨rfl, -⟩ := Prod.mk.inj ((hr sink).symm.trans h)
  exact ho.eq_advance

/-- A step keeps the hooks, and so they still have built-in bodies. -/
theorem builtinOnly_of_execute {m m' : Machine ε} {c : Command} {sink sink' : Sink}
    (hm : m.BuiltinOnly) (h : m.execute c sink = (.ok m', sink')) : m'.BuiltinOnly := by
  rw [eq_advance_of_execute hm h]
  exact hm

/-- A run does not look at the past: with another one its result is the same but for the past, and
so is its output. -/
theorem run_withPast {m : Machine ε} (hm : m.BuiltinOnly) (past : History) (cs : List Command)
    (sink : Sink) :
    (m.withPast past).run cs sink =
      ((m.run cs sink).1.map fun m => m.withPast past, (m.run cs sink).2) := by
  induction cs generalizing m sink with
  | nil => rfl
  | cons c cs ih =>
    rw [run, run, execute_withPast hm]
    rcases hx : m.execute c sink with ⟨e | m', sink'⟩
    · rfl
    · exact ih (builtinOnly_of_execute hm hx) sink'

/-- In a run that succeeds the first command succeeds, and so does the run of the others. -/
theorem exists_of_run_cons {m m' : Machine ε} {c : Command} {cs : List Command}
    {sink sink' : Sink} (h : m.run (c :: cs) sink = (.ok m', sink')) :
    ∃ m₁ sink₁, m.execute c sink = (.ok m₁, sink₁) ∧ m₁.run cs sink₁ = (.ok m', sink') := by
  rw [run] at h
  rcases hx : m.execute c sink with ⟨e | m₁, sink₁⟩
  · rw [hx] at h
    cases h
  · rw [hx] at h
    exact ⟨m₁, sink₁, rfl, h⟩

/-- Behind a run that succeeds the next commands run on the machine that it leads to. -/
theorem run_append {m m' : Machine ε} {cs : List Command} {sink sink' : Sink}
    (h : m.run cs sink = (.ok m', sink')) (ds : List Command) :
    m.run (cs ++ ds) sink = m'.run ds sink' := by
  induction cs generalizing m sink with
  | nil =>
    cases h
    rfl
  | cons c cs ih =>
    obtain ⟨m₁, sink₁, hx, hrun⟩ := exists_of_run_cons h
    rw [List.cons_append, run, hx]
    exact ih hrun

/-- A run changes the stack and adds to the history; all else is kept. -/
theorem eq_advance_of_run {m m' : Machine ε} {cs : List Command} {sink sink' : Sink}
    (hm : m.BuiltinOnly) (h : m.run cs sink = (.ok m', sink')) : m' = m.advance m'.stack cs := by
  induction cs generalizing m sink with
  | nil =>
    cases h
    rfl
  | cons c cs ih =>
    obtain ⟨m₁, sink₁, hx, hrun⟩ := exists_of_run_cons h
    have hm₁ : m₁ = m.advance m₁.stack [c] := eq_advance_of_execute hm hx
    have hm' : m' = m₁.advance m'.stack cs := ih (builtinOnly_of_execute hm hx) hrun
    rw [hm', hm₁]
    simp [advance]

end Machine

end StackScript
