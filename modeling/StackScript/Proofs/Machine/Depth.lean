import Mathlib.Data.List.MinMax
import Mathlib.Order.Nat
import StackScript.Machine.Recipe
import StackScript.Proofs.Machine.Step

/-!
# The depth of the stack

Only `push` looks at the limit. An operator leaves less than it takes, and a call empties the stack
before its result is pushed, so that no step deepens the stack beyond the limit in force; a stack
that is deeper already, because the limit was lowered, does not grow.

* `Machine.BodyGives`: the body behind a call runs, with the given result;
* `Machine.staysWithin_of_execute`: what a step can do to the depth, whatever the bodies do;
* `Machine.Leads.depth_le`: the depth along all that a host can do with a machine;
* `Machine.execute_eq_stackOverflow_iff`: when a step fails because the stack is full;
* `stack_depth_is_bounded`: both together.
-/

namespace StackScript

namespace Machine

variable {ε : Type} {m m' : Machine ε}

/-- The step from the first machine to the second kept the limits, and it deepened the stack up to
the limit at most. -/
structure StaysWithin (m m' : Machine ε) : Prop where
  config : m'.config = m.config
  depth : m'.stack.length ≤ max m.stack.length m.config.maxDepth

theorem StaysWithin.refl (m : Machine ε) : m.StaysWithin m :=
  ⟨rfl, Nat.le_max_left _ _⟩

/-- The history has no part in the depth. -/
theorem StaysWithin.record (h : m.StaysWithin m') (c : Command) : m.StaysWithin (m'.record c) :=
  ⟨h.config, h.depth⟩

/-- An empty stack is within every limit. -/
theorem StaysWithin.of_drained (h : m.drained.StaysWithin m') : m.StaysWithin m' := by
  have hd : m'.stack.length ≤ max 0 m.config.maxDepth := h.depth
  exact ⟨h.config, by omega⟩

/-! ## Pushing and combining -/

theorem push_eq_ok_iff {v : Value} :
    m.push v = .ok m' ↔
      m.stack.length < m.config.maxDepth ∧ { m with stack := v :: m.stack } = m' := by
  unfold push
  split
  · rename_i h
    simp [Nat.not_lt.2 h]
  · rename_i h
    simp [Nat.not_le.1 h]

theorem push_eq_error_iff {v : Value} {e : MachineError} :
    m.push v = .error e ↔
      m.config.maxDepth ≤ m.stack.length ∧ .stackOverflow m.config.maxDepth = e := by
  unfold push
  split
  · rename_i h
    simp [h]
  · rename_i h
    simp [h]

theorem staysWithin_of_push {v : Value} (h : m.push v = .ok m') : m.StaysWithin m' := by
  obtain ⟨hlt, rfl⟩ := push_eq_ok_iff.1 h
  have hd : (v :: m.stack).length ≤ max m.stack.length m.config.maxDepth := by
    rw [List.length_cons]
    omega
  exact ⟨rfl, hd⟩

/-- An operator takes two values and leaves one; if there are not two, or they do not fit, the error
says so. -/
theorem combine_cases (m : Machine ε) (op : Operator) :
    (∃ left right rest v, m.stack = left :: right :: rest ∧
        m.combine op = .ok { m with stack := v :: rest }) ∨
      (∃ e, m.combine op = .error (.operation e)) ∨
      ∃ found, m.combine op = .error (.stackUnderflow 2 found) := by
  unfold combine
  split
  · rename_i left right rest hs
    cases op.apply left right with
    | ok v => exact .inl ⟨left, right, rest, v, hs, rfl⟩
    | error e => exact .inr (.inl ⟨e, rfl⟩)
  · exact .inr (.inr ⟨_, rfl⟩)

theorem staysWithin_of_combine {op : Operator} (h : m.combine op = .ok m') :
    m.StaysWithin m' := by
  obtain ⟨left, right, rest, v, hs, hok⟩ | ⟨e, he⟩ | ⟨found, he⟩ := m.combine_cases op
  · cases hok.symm.trans h
    have hd : (v :: rest).length ≤ max m.stack.length m.config.maxDepth := by
      rw [hs, List.length_cons, List.length_cons, List.length_cons]
      omega
    exact ⟨rfl, hd⟩
  · cases he.symm.trans h
  · cases he.symm.trans h

theorem combine_ne_stackOverflow (m : Machine ε) (op : Operator) (n : Nat) :
    m.combine op ≠ .error (.stackOverflow n) := by
  intro h
  obtain ⟨left, right, rest, v, hs, hok⟩ | ⟨e, he⟩ | ⟨found, he⟩ := m.combine_cases op
  · cases hok.symm.trans h
  · cases he.symm.trans h
  · cases he.symm.trans h

/-! ## Calls -/

theorem staysWithin_of_pushResult {v : Value} (h : m.pushResult v = .ok m') :
    m.StaysWithin m' := by
  unfold pushResult at h
  split at h
  · cases h
    exact .refl m
  · exact staysWithin_of_push h

/-- On an empty stack a result is refused only if the limit is zero. -/
theorem pushResult_drained_eq_error_iff {v : Value} {e : MachineError} :
    m.drained.pushResult v = .error e ↔
      v ≠ .mono ∧ m.config.maxDepth = 0 ∧ .stackOverflow m.config.maxDepth = e := by
  rw [pushResult]
  split
  · rename_i h
    simp [Value.isMono_eq_true_iff.1 h]
  · rename_i h
    have hv : v ≠ .mono := mt Value.isMono_eq_true_iff.2 h
    rw [push_eq_error_iff]
    simp [drained, hv]

section

variable [Host ε]

/-- A call with the operand is not refused, and the body that runs gives the result. -/
def BodyGives (m : Machine ε) (operand : Value) (sink : Sink) (r : Except MachineError Value) :
    Prop :=
  ∃ hook, m.Runs operand hook ∧ (hook.body.invoke ⟨m.stack, m.drained⟩ sink).1 = r

theorem Refused.not_bodyGives {operand : Value} {e : MachineError} (h : m.Refused operand e)
    (sink : Sink) (r : Except MachineError Value) : ¬ m.BodyGives operand sink r :=
  fun ⟨_, hruns, _⟩ => h.not_runs hruns

theorem Runs.bodyGives_iff {operand : Value} {hook : Hook ε} (h : m.Runs operand hook)
    {sink : Sink} {r : Except MachineError Value} :
    m.BodyGives operand sink r ↔ (hook.body.invoke ⟨m.stack, m.drained⟩ sink).1 = r := by
  constructor
  · rintro ⟨hook', h', hr⟩
    obtain rfl := h.unique h'
    exact hr
  · exact fun hr => ⟨hook, h, hr⟩

/-- A body gives one result. -/
theorem BodyGives.unique {operand : Value} {sink : Sink} {r r' : Except MachineError Value}
    (h : m.BodyGives operand sink r) (h' : m.BodyGives operand sink r') : r = r' := by
  obtain ⟨hook, hruns, hr⟩ := h
  exact hr.symm.trans (hruns.bodyGives_iff.1 h')

theorem staysWithin_of_call {operand : Value} {sink : Sink}
    (h : (m.call operand sink).1 = .ok m') : m.StaysWithin m' := by
  obtain ⟨e, hrefused⟩ | ⟨hook, hruns⟩ := m.refused_or_runs operand
  · rw [call_of_refused hrefused] at h
    cases h
  · rw [call_of_runs hruns] at h
    cases hr : (hook.body.invoke ⟨m.stack, m.drained⟩ sink).1 with
    | error e =>
      rw [hr] at h
      cases h
    | ok v =>
      rw [hr] at h
      exact .of_drained (staysWithin_of_pushResult h)

theorem call_eq_stackOverflow_iff {operand : Value} {sink : Sink} {n : Nat} :
    (m.call operand sink).1 = .error (.stackOverflow n) ↔
      m.BodyGives operand sink (.error (.stackOverflow n)) ∨
        n = m.config.maxDepth ∧ m.config.maxDepth = 0 ∧
          ∃ v, m.BodyGives operand sink (.ok v) ∧ v ≠ .mono := by
  obtain ⟨e, hrefused⟩ | ⟨hook, hruns⟩ := m.refused_or_runs operand
  · have hne : e ≠ .stackOverflow n := by rintro rfl; cases hrefused
    simp [call_of_refused hrefused, hne, hrefused.not_bodyGives]
  · rw [call_of_runs hruns]
    simp only [hruns.bodyGives_iff]
    cases (hook.body.invoke ⟨m.stack, m.drained⟩ sink).1 with
    | error e => simp [Except.bind]
    | ok v =>
      simp only [Except.bind, pushResult_drained_eq_error_iff, MachineError.stackOverflow.injEq,
        reduceCtorEq, false_or, Except.ok.injEq, exists_eq_left']
      constructor
      · rintro ⟨hv, hl, rfl⟩
        exact ⟨rfl, hl, hv⟩
      · rintro ⟨rfl, hl, hv⟩
        exact ⟨hv, hl, rfl⟩

/-! ## Steps -/

/-- A step keeps the limits and deepens the stack up to the limit at most. -/
theorem staysWithin_of_execute {c : Command} {sink : Sink}
    (h : (m.execute c sink).1 = .ok m') : m.StaysWithin m' := by
  rw [execute_eq] at h
  obtain ⟨opcode, operand⟩ := c
  cases hs : (m.step ⟨opcode, operand⟩ sink).1 with
  | error e => rw [hs] at h; cases h
  | ok m₁ =>
    rw [hs] at h
    cases h
    refine .record ?_ _
    cases opcode with
    | push => exact staysWithin_of_push hs
    | arith op => exact staysWithin_of_combine hs
    | call => exact staysWithin_of_call hs

/-- A step fails because the stack is full if it pushes on a stack that is as deep as it may be, or
if a body returns a value and no value may be pushed at all; else only if a body says so. -/
theorem execute_eq_stackOverflow_iff {c : Command} {sink : Sink} {n : Nat} :
    (m.execute c sink).1 = .error (.stackOverflow n) ↔
      (c.opcode = .push ∧ n = m.config.maxDepth ∧ m.config.maxDepth ≤ m.stack.length) ∨
        c.opcode = .call ∧ (m.BodyGives c.operand sink (.error (.stackOverflow n)) ∨
          n = m.config.maxDepth ∧ m.config.maxDepth = 0 ∧
            ∃ v, m.BodyGives c.operand sink (.ok v) ∧ v ≠ .mono) := by
  have hmap : (m.execute c sink).1 = .error (.stackOverflow n) ↔
      (m.step c sink).1 = .error (.stackOverflow n) := by
    rw [execute_eq]
    cases (m.step c sink).1 <;> simp [Except.map]
  rw [hmap]
  obtain ⟨opcode, operand⟩ := c
  cases opcode with
  | push =>
    simp only [step, push_eq_error_iff, MachineError.stackOverflow.injEq]
    simp [eq_comm, and_comm]
  | arith op => simp [step, combine_ne_stackOverflow]
  | call => simp [step, call_eq_stackOverflow_iff]

end

/-! ## All that a host can do -/

/-- `start.Leads limits m`: calls of a host lead from the machine `start` to `m`, and `limits` are
the limits on the depth that were in force on the way, the newest first. What the bodies of the
hooks do may differ from step to step. -/
inductive Leads (start : Machine ε) : List Nat → Machine ε → Prop
  | start : Leads start [start.config.maxDepth] start
  | execute {limits : List Nat} {m m' : Machine ε} (h : Leads start limits m) [Host ε]
    (c : Command) (sink : Sink) (hx : (m.execute c sink).1 = .ok m') : Leads start limits m'
  | withConfig {limits : List Nat} {m : Machine ε} (h : Leads start limits m) (config : Config) :
    Leads start (config.maxDepth :: limits) (m.withConfig config)
  | register {limits : List Nat} {m : Machine ε} (h : Leads start limits m) (name : String)
    (arity : Arity) (body : Body ε) : Leads start limits (m.register name arity body)
  | withBuiltins {limits : List Nat} {m : Machine ε} (h : Leads start limits m) :
    Leads start limits m.withBuiltins

/-- The depth has never been more than the largest limit so far, and that covers the limit now in
force. -/
theorem Leads.depth_le {start : Machine ε} {limits : List Nat} (h : start.Leads limits m)
    (hs : start.stack.length ≤ start.config.maxDepth) :
    m.config.maxDepth ≤ limits.foldr max 0 ∧ m.stack.length ≤ limits.foldr max 0 := by
  induction h with
  | start => exact ⟨Nat.le_max_left _ _, hs.trans (Nat.le_max_left _ _)⟩
  | execute _ c sink hx ih =>
    obtain ⟨hconfig, hdepth⟩ := staysWithin_of_execute hx
    rw [hconfig]
    exact ⟨ih.1, hdepth.trans (Nat.max_le.2 ⟨ih.2, ih.1⟩)⟩
  | withConfig _ config ih =>
    exact ⟨Nat.le_max_left _ _, ih.2.trans (Nat.le_max_right _ _)⟩
  | register _ name arity body ih => exact ih
  | withBuiltins _ ih => exact ih

end Machine

/-- The stack is never deeper than the largest limit so far, however steps, new limits and new hooks
follow each other, and thus never deeper than a limit that stays the same. A step fails because the
stack is full, other than by the word of a body, just if it pushes on a stack that is as deep as it
may be, or if a body returns a value and no value may be pushed; the error names the limit. -/
theorem stack_depth_is_bounded {ε : Type} :
    (∀ (name : String) (limits : List Nat) (m : Machine ε),
      Machine.Leads { name } limits m → m.stack.length ≤ limits.foldr max 0) ∧
    (∀ (name : String) (config : Config) (limits : List Nat) (m : Machine ε),
      Machine.Leads (Machine.withConfig { name } config) limits m →
      (∀ limit ∈ limits, limit = config.maxDepth) → m.stack.length ≤ config.maxDepth) ∧
    (∀ [Host ε] (m : Machine ε) (c : Command) (sink : Sink) (n : Nat),
      ((m.execute c sink).1 = .error (.stackOverflow n) ∧
        ¬ (c.opcode = .call ∧ m.BodyGives c.operand sink (.error (.stackOverflow n)))) ↔
      n = m.config.maxDepth ∧
        ((c.opcode = .push ∧ m.config.maxDepth ≤ m.stack.length) ∨
          (c.opcode = .call ∧ m.config.maxDepth = 0 ∧
            ∃ v, m.BodyGives c.operand sink (.ok v) ∧ v ≠ .mono))) := by
  refine ⟨fun name limits m h => (h.depth_le (Nat.zero_le _)).2, ?_, ?_⟩
  · intro name config limits m h hfixed
    have hlargest : limits.foldr max 0 ≤ config.maxDepth :=
      List.max_le_of_forall_le limits _ fun limit hl => (hfixed limit hl).le
    exact (h.depth_le (Nat.zero_le _)).2.trans hlargest
  · intro host m c sink n
    rw [Machine.execute_eq_stackOverflow_iff]
    constructor
    · rintro ⟨⟨hpush, hn, hfull⟩ | ⟨hcall, hbody | ⟨hn, hzero, hv⟩⟩, hown⟩
      · exact ⟨hn, .inl ⟨hpush, hfull⟩⟩
      · exact absurd ⟨hcall, hbody⟩ hown
      · exact ⟨hn, .inr ⟨hcall, hzero, hv⟩⟩
    · rintro ⟨hn, ⟨hpush, hfull⟩ | ⟨hcall, hzero, v, hbody, hv⟩⟩
      · refine ⟨.inl ⟨hpush, hn, hfull⟩, fun h => ?_⟩
        rw [hpush] at h
        cases h.1
      · refine ⟨.inr ⟨hcall, .inr ⟨hn, hzero, v, hbody, hv⟩⟩, fun h => ?_⟩
        cases hbody.unique h.2

/-- Two values, and then a limit of zero, under which a call with a result fails; and one value under
a limit of one. -/
theorem stack_depth_is_bounded_lowered :
    (∃ m : Machine Recipe, Machine.Leads { name := "m" } [0, 1024] m ∧ m.stack.length = 2 ∧
      m.stack.length ≤ [0, 1024].foldr max 0 ∧
      (m.execute ⟨.call, .text "count"⟩ .null).1 = .error (.stackOverflow 0) ∧
      ¬ m.BodyGives (.text "count") .null (.error (.stackOverflow 0))) ∧
    ∃ m : Machine Recipe, Machine.Leads (Machine.withConfig { name := "m" } ⟨1⟩) [1] m ∧
      m.stack = [.int 1] ∧ m.stack.length ≤ 1 := by
  let start : Machine Recipe := { name := "m" }
  let one : Command := ⟨.push, .int 1⟩
  let two : Command := ⟨.push, .int 2⟩
  have hone : start.Leads [1024] { start with stack := [.int 1], history := ⟨[one], 1, rfl⟩ } :=
    .execute .start one .null rfl
  have htwo : start.Leads [1024] { start with stack := [.int 2, .int 1], history := ⟨[two, one], 2, rfl⟩ } :=
    .execute hone two .null rfl
  let m : Machine Recipe := { start with
    stack := [.int 2, .int 1]
    history := ⟨[two, one], 2, rfl⟩
    hooks := HookTable.empty.register "count" .variadic (.host .count)
    config := ⟨0⟩ }
  have hm : start.Leads [0, 1024] m :=
    .register (.withConfig htwo ⟨0⟩) "count" .variadic (.host .count)
  have hgives : m.BodyGives (.text "count") .null (.ok (.int 2)) :=
    ⟨⟨"count", .variadic, .host Recipe.count⟩, ⟨"count", rfl, rfl, rfl⟩, rfl⟩
  obtain ⟨hx, hown⟩ := (stack_depth_is_bounded.2.2 m ⟨.call, .text "count"⟩ .null 0).2
    ⟨rfl, .inr ⟨rfl, rfl, _, hgives, by simp⟩⟩
  have hfixed : (start.withConfig ⟨1⟩).Leads [1]
      { start with stack := [.int 1], history := ⟨[one], 1, rfl⟩, config := ⟨1⟩ } :=
    .execute .start one .null rfl
  exact ⟨⟨m, hm, rfl, stack_depth_is_bounded.1 "m" _ m hm, hx, fun h => hown ⟨rfl, h⟩⟩,
    _, hfixed, rfl, stack_depth_is_bounded.2.1 "m" ⟨1⟩ _ _ hfixed (by simp)⟩

end StackScript
