import StackScript.Proofs.Machine.CallFree

/-!
# The frame rule

A command that is no call reads and writes the top of the stack alone, and looks at the rest only to
compare the depth with the limit. Values that lie below the stack therefore stay where they are, if the
limit is raised by their number. They can be noticed in one case: an operator that lacked operands finds
them there.

* `Stack.Framed`: what becomes of an outcome when there are values below the stack;
* `Stack.step_framed` and `Stack.run_framed`: one command and a run of commands;
* `arithmetic_obeys_frame_rule`: two machines, one of which has the stack of the other on top of its own.
-/

namespace StackScript

namespace Stack

variable {below : List Value} {limit : Nat}

/-- What becomes of an outcome when values lie below the stack and the limit is higher by their number.
Nothing is said of a lack of operands, which these values may supply. -/
inductive Framed (below : List Value) (limit : Nat) :
    Except MachineError (List Value) → Except MachineError (List Value) → Prop
  | ok (s : List Value) : Framed below limit (.ok s) (.ok (s ++ below))
  | operation (fault : OperationError) :
    Framed below limit (.error (.operation fault)) (.error (.operation fault))
  | overflow :
    Framed below limit (.error (.stackOverflow limit)) (.error (.stackOverflow (limit + below.length)))
  | underflow (expected found : Nat) (r : Except MachineError (List Value)) :
    Framed below limit (.error (.stackUnderflow expected found)) r

theorem Framed.eq_ok {s : List Value} {r : Except MachineError (List Value)}
    (h : Framed below limit (.ok s) r) : r = .ok (s ++ below) := by
  cases h
  rfl

theorem Framed.eq_operation {fault : OperationError} {r : Except MachineError (List Value)}
    (h : Framed below limit (.error (.operation fault)) r) : r = .error (.operation fault) := by
  cases h
  rfl

theorem Framed.eq_overflow {n : Nat} {r : Except MachineError (List Value)}
    (h : Framed below limit (.error (.stackOverflow n)) r) :
    n = limit ∧ r = .error (.stackOverflow (limit + below.length)) := by
  cases h
  exact ⟨rfl, rfl⟩

theorem Framed.error_cases {e : MachineError} {r : Except MachineError (List Value)}
    (h : Framed below limit (.error e) r) : (∃ fault, e = .operation fault) ∨ e = .stackOverflow limit ∨
      ∃ expected found, e = .stackUnderflow expected found := by
  cases h with
  | operation fault => exact .inl ⟨fault, rfl⟩
  | overflow => exact .inr (.inl rfl)
  | underflow expected found r => exact .inr (.inr ⟨expected, found, rfl⟩)

/-- A command takes the same step on top of other values, unless it lacked operands. -/
theorem step_framed (below : List Value) (limit : Nat) (c : Command) (s : List Value) :
    Framed below limit (step limit c s) (step (limit + below.length) c (s ++ below)) := by
  obtain ⟨opcode, operand⟩ := c
  cases opcode with
  | call => exact .ok s
  | push =>
    -- both sides of the comparison are higher by the number of values below
    have hdepth : limit + below.length ≤ (s ++ below).length ↔ limit ≤ s.length := by
      rw [List.length_append]
      omega
    simp only [step, hdepth]
    split
    · exact .overflow
    · exact .ok (operand :: s)
  | arith op =>
    rcases s with _ | ⟨left, _ | ⟨right, rest⟩⟩
    · exact .underflow 2 0 _
    · exact .underflow 2 1 _
    · simp only [step, List.cons_append]
      cases op.apply left right with
      | ok v => exact .ok (v :: rest)
      | error fault => exact .operation fault

/-- A run takes the same steps on top of other values, until it lacks operands. -/
theorem run_framed (below : List Value) (limit : Nat) (cs : List Command) (s : List Value) :
    Framed below limit (run limit cs s) (run (limit + below.length) cs (s ++ below)) := by
  induction cs generalizing s with
  | nil => exact .ok s
  | cons c cs ih =>
    have hstep := step_framed below limit c s
    rw [run, run]
    generalize step limit c s = r at hstep
    generalize step (limit + below.length) c (s ++ below) = r' at hstep
    cases hstep with
    | ok s' => exact ih s'
    | operation fault => exact .operation fault
    | overflow => exact .overflow
    | underflow expected found r' => exact .underflow expected found _

end Stack

/-! ## Machines -/

namespace Machine

variable {ε ε' : Type} [Host ε] [Host ε']

/-- Two runs of the same commands get equally far, on stacks that differ by the values `below`, and fail
at the same command, the one with the error `e` and the other with `e'`. -/
def FailAlike (m : Machine ε) (n : Machine ε') (below : List Value) (cs : List Command)
    (sink sink' : Sink) (e e' : MachineError) : Prop :=
  ∃ before c after m' n', cs = before ++ c :: after ∧ n'.stack = m'.stack ++ below ∧
    m.run before sink = (.ok m', sink) ∧ m'.execute c sink = (.error e, sink) ∧
    n.run before sink' = (.ok n', sink') ∧ n'.execute c sink' = (.error e', sink') ∧
    n.run cs sink' = (.error e', sink')

section

variable {m : Machine ε} {n : Machine ε'} {below : List Value} {cs : List Command}
  (hc : ∀ c ∈ cs, c.CallFree) (hstack : n.stack = m.stack ++ below)
  (hlimit : n.config.maxDepth = m.config.maxDepth + below.length)
include hc hstack hlimit

/-- A run that fails with `e` fails at the same command on top of other values, if there `e` becomes
`e'` in every outcome. -/
theorem failAlike_of_framed {e e' : MachineError}
    (h : Stack.run m.config.maxDepth cs m.stack = .error e)
    (he : ∀ r, Stack.Framed below m.config.maxDepth (.error e) r → r = .error e') (sink sink' : Sink) :
    FailAlike m n below cs sink sink' e e' := by
  have hrun := he _ (h ▸ Stack.run_framed below m.config.maxDepth cs m.stack)
  obtain ⟨before, c, after, s, hcs, hbefore, hstep⟩ := Stack.exists_failing_of_run h
  have hfree : ∀ d ∈ before, d.CallFree := fun d hd => hc d (hcs ▸ List.mem_append_left _ hd)
  have hcfree : c.CallFree := hc c (hcs ▸ by simp)
  have hbefore' := (hbefore ▸ Stack.run_framed below m.config.maxDepth before m.stack).eq_ok
  have hstep' := he _ (hstep ▸ Stack.step_framed below m.config.maxDepth c s)
  rw [← hlimit, ← hstack] at hrun hbefore'
  rw [← hlimit] at hstep'
  exact ⟨before, c, after, m.advance s before, n.advance (s ++ below) before, hcs, rfl,
    run_of_stackRun_ok hfree hbefore sink, execute_of_stackStep_error hcfree hstep sink,
    run_of_stackRun_ok hfree hbefore' sink', execute_of_stackStep_error hcfree hstep' sink',
    run_of_stackRun_error hc hrun sink'⟩

end

end Machine

/-- Arithmetic obeys a frame rule. If the stack of `n` is that of `m` on top of the values `below`, and its
limit is higher by their number, then a run without calls that succeeds on `m` succeeds on `n`, with the
resulting stack on top of the same values; and one that fails on `m` with the fault of an operation, or
for want of room, fails on `n` at the same command with the same fault, or for want of room. Without a
call the only other failure is a lack of operands. -/
theorem arithmetic_obeys_frame_rule {ε ε' : Type} [Host ε] [Host ε'] (m : Machine ε) (n : Machine ε')
    (below : List Value) (cs : List Command) (sink sink' : Sink) (hc : ∀ c ∈ cs, c.CallFree)
    (hstack : n.stack = m.stack ++ below)
    (hlimit : n.config.maxDepth = m.config.maxDepth + below.length) :
    (∀ m', (m.run cs sink).1 = .ok m' →
      n.run cs sink' = (.ok (n.advance (m'.stack ++ below) cs), sink')) ∧
    (∀ fault, (m.run cs sink).1 = .error (.operation fault) →
      m.FailAlike n below cs sink sink' (.operation fault) (.operation fault)) ∧
    ((m.run cs sink).1 = .error (.stackOverflow m.config.maxDepth) →
      m.FailAlike n below cs sink sink' (.stackOverflow m.config.maxDepth)
        (.stackOverflow (m.config.maxDepth + below.length))) ∧
    (∀ e, (m.run cs sink).1 = .error e → (∃ fault, e = .operation fault) ∨
      e = .stackOverflow m.config.maxDepth ∨ ∃ expected found, e = .stackUnderflow expected found) := by
  have hframed := Stack.run_framed below m.config.maxDepth cs m.stack
  rw [← hlimit, ← hstack] at hframed
  rw [m.run_callFree hc]
  cases hr : Stack.run m.config.maxDepth cs m.stack with
  | ok s =>
    rw [hr] at hframed
    refine ⟨?_, by rintro _ ⟨⟩, by rintro ⟨⟩, by rintro _ ⟨⟩⟩
    rintro m' ⟨⟩
    exact Machine.run_of_stackRun_ok hc hframed.eq_ok sink'
  | error e =>
    rw [hr] at hframed
    refine ⟨by rintro _ ⟨⟩, ?_, ?_, ?_⟩
    · rintro fault ⟨⟩
      exact Machine.failAlike_of_framed hc hstack hlimit hr (fun _ h => h.eq_operation) sink sink'
    · rintro ⟨⟩
      exact Machine.failAlike_of_framed hc hstack hlimit hr (fun _ h => h.eq_overflow.2) sink sink'
    · rintro _ ⟨⟩
      exact hframed.error_cases

/-- A machine that runs out of room at its second command, alone and on top of a text. -/
theorem arithmetic_obeys_frame_rule_full :
    let m : Machine Empty := { name := "m", stack := [.int 1], config := ⟨2⟩ }
    let n : Machine Empty := { name := "n", stack := [.int 1, .text "below"], config := ⟨3⟩ }
    let cs : List Command := [⟨.push, .int 2⟩, ⟨.push, .int 3⟩, ⟨.arith .add, .mono⟩]
    (∀ c ∈ cs, c.CallFree) ∧ (m.run cs .null).1 = .error (.stackOverflow 2) ∧
      m.FailAlike n [.text "below"] cs .null .null (.stackOverflow 2) (.stackOverflow 3) := by
  intro m n cs
  have hc : ∀ c ∈ cs, c.CallFree := by decide
  have hr : (m.run cs .null).1 = .error (.stackOverflow 2) := rfl
  exact ⟨hc, hr, (arithmetic_obeys_frame_rule m n [.text "below"] cs .null .null hc rfl rfl).2.2.1 hr⟩

/-- An operator that lacks an operand finds it below. -/
example (limit : Nat) : Stack.run limit [⟨.arith .sub, .mono⟩] [.int 5] = .error (.stackUnderflow 2 1) ∧
    Stack.run (limit + 1) [⟨.arith .sub, .mono⟩] ([.int 5] ++ [.int 3]) = .ok [.int 2] :=
  ⟨rfl, rfl⟩

end StackScript
