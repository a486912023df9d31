import StackScript.Proofs.Machine.CallFree

/-!
# Runs on kinds

The kinds of the values on a stack decide nearly everything about a run without calls. A second
machine computes on kinds alone: it pushes the kind of an operand, and finds the kind of a result
from the kinds of the operands of an operator.

* `KindStack.step` and `KindStack.run` are this machine;
* `Operator.apply_kindOutcome`: what an operator does to values and what it does to their kinds;
* `Stack.step_outcome`: how a command on values and the command on kinds go together;
* `Stack.run_follows`: a run on values shows the kinds of the run on kinds, and fails where it fails,
  unless it stops at a zero divisor or an integer that does not fit;
* `run_follows_kinds`: the same of machines, and that runs with the same kinds cannot be told apart
  by kinds and errors.
-/

namespace StackScript

namespace Kind

/-- The kinds whose values can be read as integers. -/
def integral : List Kind := [.mono, .int]

/-- The kinds whose values can be read as numbers. -/
def numeric : List Kind := [.mono, .int, .float]

/-- The pairs of kinds whose sum is text. -/
def textual : List (Kind × Kind) := [(.string, .string), (.mono, .string), (.string, .mono)]

theorem numeric_of_integral {k : Kind} (h : k ∈ integral) : k ∈ numeric :=
  List.mem_append_left [Kind.float] h

theorem ne_float_of_integral {k : Kind} (h : k ∈ integral) : k ≠ .float := by
  rintro rfl
  exact absurd h (by decide)

end Kind

/-- The fault lies in the payload of integers: a zero divisor, or a result that does not fit. -/
inductive OperationError.IsArithmetic : OperationError → Prop
  | divisionByZero : IsArithmetic .divisionByZero
  | integerOverflow (op : Operator) : IsArithmetic (.integerOverflow op)

/-- The step failed with a fault of integer arithmetic. -/
inductive MachineError.IsArithmetic : MachineError → Prop
  | operation {e : OperationError} (h : e.IsArithmetic) : IsArithmetic (.operation e)

/-! ## The machine on kinds -/

/-- The kind of the result of an operator on numbers of two kinds. -/
def Operator.onNumericKind (op : Operator) (left right : Kind) : Except OperationError Kind :=
  if left ∈ Kind.numeric ∧ right ∈ Kind.numeric then
    .ok (if left = .float ∨ right = .float then .float else .int)
  else .error (.invalidOperands op left right)

/-- The kind of the result of an operator on values of two kinds. -/
def Operator.onKind (op : Operator) (left right : Kind) : Except OperationError Kind :=
  if op = .add ∧ (left, right) ∈ Kind.textual then .ok .string else op.onNumericKind left right

/-- A command of whose operand only the kind is known. -/
structure KindCommand where
  opcode : Opcode
  operand : Kind
deriving DecidableEq

/-- The command without the payload of its operand. -/
def Command.kinds (c : Command) : KindCommand :=
  ⟨c.opcode, c.operand.kind⟩

namespace KindStack

/-- The effect of a command on a stack of kinds, the top first; a call has none here. -/
def step (limit : Nat) (c : KindCommand) (s : List Kind) : Except MachineError (List Kind) :=
  match c.opcode, s with
  | .push, s => if limit ≤ s.length then .error (.stackOverflow limit) else .ok (c.operand :: s)
  | .arith op, left :: right :: rest =>
    match op.onKind left right with
    | .ok k => .ok (k :: rest)
    | .error e => .error (.operation e)
  | .arith _, s => .error (.stackUnderflow 2 s.length)
  | .call, s => .ok s

/-- The effect of commands in order, up to the first that fails. -/
def run (limit : Nat) : List KindCommand → List Kind → Except MachineError (List Kind)
  | [], s => .ok s
  | c :: cs, s =>
    match step limit c s with
    | .ok s => run limit cs s
    | .error e => .error e

end KindStack

/-- The kinds of the operands, the top of the stack first. -/
def Machine.kinds {ε : Type} (m : Machine ε) : List Kind :=
  m.stack.map Value.kind

/-! ## One operator -/

/-- What an operator can result in on two values, beside its result on their kinds. -/
inductive Operator.KindOutcome (v w : Value) :
    Except OperationError Value → Except OperationError Kind → Prop
  | ok (u : Value) : KindOutcome v w (.ok u) (.ok u.kind)
  | mismatch (op : Operator) :
    KindOutcome v w (.error (.invalidOperands op v.kind w.kind))
      (.error (.invalidOperands op v.kind w.kind))
  | fault {e : OperationError} (he : e.IsArithmetic) (hv : v.kind ∈ Kind.integral)
    (hw : w.kind ∈ Kind.integral) : KindOutcome v w (.error e) (.ok .int)

namespace Operator

/-- An operator on two integers gives an integer or a fault of arithmetic. -/
theorem checked_kindOutcome (op : Operator) (a b : Int32) {v w : Value}
    (hv : v.kind ∈ Kind.integral) (hw : w.kind ∈ Kind.integral) :
    KindOutcome v w (op.checked a b) (.ok .int) := by
  simp only [checked]
  split
  · exact .fault .divisionByZero hv hw
  · split
    · exact .ok (.int _)
    · exact .fault (.integerOverflow op) hv hw

/-- The kind of a value decides which number it can be read as. -/
theorem number?_cases (v : Value) :
    (∃ n, v.number? = some (.int n) ∧ v.kind ∈ Kind.integral) ∨
      (∃ x, v.number? = some (.float x) ∧ v.kind = .float) ∨
      (v.number? = none ∧ v.kind ∉ Kind.numeric) := by
  cases v with
  | mono => exact .inl ⟨0, rfl, by decide⟩
  | int n => exact .inl ⟨n, rfl, by simp [Value.kind, Kind.integral]⟩
  | float x => exact .inr (.inl ⟨x, rfl, rfl⟩)
  | bool b => exact .inr (.inr ⟨rfl, by simp [Value.kind, Kind.numeric]⟩)
  | text s => exact .inr (.inr ⟨rfl, by simp [Value.kind, Kind.numeric]⟩)

theorem onNumericKind_of_float {op : Operator} {k l : Kind} (hk : k ∈ Kind.numeric)
    (hl : l ∈ Kind.numeric) (h : k = .float ∨ l = .float) :
    op.onNumericKind k l = .ok .float := by
  rw [onNumericKind, if_pos ⟨hk, hl⟩, if_pos h]

theorem onNumericKind_of_integral {op : Operator} {k l : Kind} (hk : k ∈ Kind.integral)
    (hl : l ∈ Kind.integral) : op.onNumericKind k l = .ok .int := by
  have hfloat : ¬ (k = .float ∨ l = .float) :=
    not_or.2 ⟨Kind.ne_float_of_integral hk, Kind.ne_float_of_integral hl⟩
  rw [onNumericKind, if_pos ⟨Kind.numeric_of_integral hk, Kind.numeric_of_integral hl⟩,
    if_neg hfloat]

theorem onNumeric_kindOutcome (op : Operator) (v w : Value) :
    KindOutcome v w (op.onNumeric v w) (op.onNumericKind v.kind w.kind) := by
  have hfloat : Kind.float ∈ Kind.numeric := by decide
  unfold onNumeric
  rcases number?_cases v with ⟨a, hv, hvk⟩ | ⟨x, hv, hvk⟩ | ⟨hv, hvk⟩
  · rcases number?_cases w with ⟨b, hw, hwk⟩ | ⟨y, hw, hwk⟩ | ⟨hw, hwk⟩
    · rw [hv, hw, onNumericKind_of_integral hvk hwk]
      exact checked_kindOutcome op a b hvk hwk
    · rw [hv, hw, onNumericKind_of_float (Kind.numeric_of_integral hvk) (hwk ▸ hfloat) (.inr hwk)]
      exact .ok (.float _)
    · rw [hv, hw, onNumericKind, if_neg fun h => hwk h.2]
      exact .mismatch _
  · rcases number?_cases w with ⟨b, hw, hwk⟩ | ⟨y, hw, hwk⟩ | ⟨hw, hwk⟩
    · rw [hv, hw, onNumericKind_of_float (hvk ▸ hfloat) (Kind.numeric_of_integral hwk) (.inl hvk)]
      exact .ok (.float _)
    · rw [hv, hw, onNumericKind_of_float (hvk ▸ hfloat) (hwk ▸ hfloat) (.inl hvk)]
      exact .ok (.float _)
    · rw [hv, hw, onNumericKind, if_neg fun h => hwk h.2]
      exact .mismatch _
  · rw [hv, onNumericKind, if_neg fun h => hvk h.1]
    exact .mismatch _

/-- Two values have a sum that is text exactly if their kinds say so. -/
theorem joinText?_isSome_iff (v w : Value) :
    (joinText? v w).isSome = true ↔ (v.kind, w.kind) ∈ Kind.textual := by
  cases v <;> cases w <;> simp [joinText?, Value.kind, Kind.textual]

/-- Only a sum with text is no operation on numbers. -/
theorem apply_eq_onNumeric {op : Operator} {v w : Value}
    (h : ¬ (op = .add ∧ (joinText? v w).isSome = true)) : op.apply v w = op.onNumeric v w := by
  unfold apply
  split
  · rename_i s hs
    exact absurd ⟨rfl, by rw [hs]; rfl⟩ h
  · rfl

theorem apply_kindOutcome (op : Operator) (v w : Value) :
    KindOutcome v w (op.apply v w) (op.onKind v.kind w.kind) := by
  unfold onKind
  split
  · rename_i h
    obtain ⟨rfl, htext⟩ := h
    obtain ⟨s, hs⟩ := Option.isSome_iff_exists.1 ((joinText?_isSome_iff v w).2 htext)
    have happly : Operator.add.apply v w = .ok (.text s) := by simp only [apply, hs]
    rw [happly]
    exact .ok (.text s)
  · rename_i h
    rw [apply_eq_onNumeric (by rwa [joinText?_isSome_iff])]
    exact onNumeric_kindOutcome op v w

end Operator

/-! ## One command and whole runs -/

/-- The result stopped with a fault of integer arithmetic. -/
def Faulty {α : Type} (r : Except MachineError α) : Prop :=
  ∃ e, r = .error e ∧ e.IsArithmetic

theorem not_faulty_ok {α : Type} (a : α) : ¬ Faulty (.ok a) := by
  rintro ⟨e, he, -⟩
  cases he

@[simp] theorem faulty_error {α : Type} {e : MachineError} :
    Faulty (.error e : Except MachineError α) ↔ e.IsArithmetic := by
  simp [Faulty]

namespace Stack

/-- A command on values has the kinds and the error of the command on kinds, or it stops with a fault
of arithmetic on two operands that can be read as integers. -/
theorem step_outcome (limit : Nat) (c : Command) (s : List Value) :
    ¬ Faulty (step limit c s) ∧ (step limit c s).map (List.map Value.kind) =
        KindStack.step limit c.kinds (s.map Value.kind) ∨
      Faulty (step limit c s) ∧ ∃ v w rest, s = v :: w :: rest ∧
        v.kind ∈ Kind.integral ∧ w.kind ∈ Kind.integral := by
  obtain ⟨opcode, operand⟩ := c
  cases opcode with
  | call => exact .inl ⟨not_faulty_ok s, rfl⟩
  | push =>
    left
    simp only [step, KindStack.step, Command.kinds, List.length_map]
    split
    · exact ⟨mt faulty_error.1 (by rintro ⟨⟩), rfl⟩
    · exact ⟨not_faulty_ok _, rfl⟩
  | arith op =>
    rcases s with _ | ⟨v, _ | ⟨w, s⟩⟩
    · exact .inl ⟨mt faulty_error.1 (by rintro ⟨⟩), rfl⟩
    · exact .inl ⟨mt faulty_error.1 (by rintro ⟨⟩), rfl⟩
    · have ho := op.apply_kindOutcome v w
      simp only [step, KindStack.step, Command.kinds, List.map_cons]
      generalize op.apply v w = r at ho
      generalize op.onKind v.kind w.kind = k at ho
      cases ho with
      | ok u => exact .inl ⟨not_faulty_ok _, rfl⟩
      | mismatch op => exact .inl ⟨mt faulty_error.1 (by rintro ⟨⟨⟩⟩), rfl⟩
      | fault he hv hw => exact .inr ⟨faulty_error.2 (.operation he), v, w, s, rfl, hv, hw⟩

/-- Unless it stops with a fault of arithmetic, a command on values has the kinds and the error of
the command on kinds. -/
theorem step_follows (limit : Nat) (c : Command) (s : List Value)
    (h : ¬ Faulty (step limit c s)) :
    (step limit c s).map (List.map Value.kind) =
      KindStack.step limit c.kinds (s.map Value.kind) :=
  (step_outcome limit c s).elim And.right fun hf => absurd hf.1 h

/-- A fault of arithmetic arises only on two operands that can be read as integers. -/
theorem integral_of_step_fault {limit : Nat} {c : Command} {s : List Value}
    (h : Faulty (step limit c s)) :
    ∃ v w rest, s = v :: w :: rest ∧ v.kind ∈ Kind.integral ∧ w.kind ∈ Kind.integral :=
  (step_outcome limit c s).elim (fun hf => absurd h hf.1) And.right

/-- Unless it stops with a fault of arithmetic, a run on values has the kinds and the error of the
run on kinds. -/
theorem run_follows (limit : Nat) (cs : List Command) (s : List Value)
    (h : ¬ Faulty (run limit cs s)) :
    (run limit cs s).map (List.map Value.kind) =
      KindStack.run limit (cs.map Command.kinds) (s.map Value.kind) := by
  induction cs generalizing s with
  | nil => rfl
  | cons c cs ih =>
    have hstep := step_follows limit c s
    rw [List.map_cons, KindStack.run]
    rw [run] at h ⊢
    cases hs : step limit c s with
    | ok s' =>
      rw [hs] at h hstep
      rw [← hstep (not_faulty_ok s')]
      exact ih s' h
    | error e =>
      rw [hs] at h hstep
      rw [← hstep h]
      rfl

end Stack

theorem faulty_map {α β : Type} {f : α → β} {r : Except MachineError α} :
    Faulty (r.map f) ↔ Faulty r := by
  cases r <;> simp [Faulty, Except.map]

/-- Commands with the same opcodes are free of calls together. -/
theorem Command.callFree_of_kinds {cs ds : List Command}
    (h : ds.map Command.kinds = cs.map Command.kinds) (hc : ∀ c ∈ cs, c.CallFree) :
    ∀ d ∈ ds, d.CallFree := by
  intro d hd
  have hmem : d.kinds ∈ cs.map Command.kinds := h ▸ List.mem_map_of_mem hd
  obtain ⟨c, hcs, hk⟩ := List.mem_map.1 hmem
  have hop : c.opcode = d.opcode := congrArg KindCommand.opcode hk
  exact fun hcall => hc c hcs (hop.trans hcall)

namespace Machine

variable {ε : Type} [Host ε]

theorem run_map_kinds (m : Machine ε) {cs : List Command} (hc : ∀ c ∈ cs, c.CallFree)
    (sink : Sink) (h : ¬ Faulty (m.run cs sink).1) :
    (m.run cs sink).1.map kinds =
      KindStack.run m.config.maxDepth (cs.map Command.kinds) m.kinds := by
  rw [m.run_callFree hc] at h ⊢
  rw [kinds, ← Stack.run_follows _ _ _ (mt faulty_map.2 h)]
  cases Stack.run m.config.maxDepth cs m.stack <;> rfl

theorem execute_map_kinds (m : Machine ε) {c : Command} (hc : c.CallFree) (sink : Sink)
    (h : ¬ Faulty (m.execute c sink).1) :
    (m.execute c sink).1.map kinds = KindStack.step m.config.maxDepth c.kinds m.kinds := by
  rw [m.execute_callFree hc] at h ⊢
  rw [kinds, ← Stack.step_follows _ _ _ (mt faulty_map.2 h)]
  cases Stack.step m.config.maxDepth c m.stack <;> rfl

/-- A fault of arithmetic arises only on two operands that can be read as integers. -/
theorem integral_of_execute_fault {m : Machine ε} {c : Command} (hc : c.CallFree) {sink : Sink}
    (h : Faulty (m.execute c sink).1) :
    ∃ v w rest, m.stack = v :: w :: rest ∧ v.kind ∈ Kind.integral ∧ w.kind ∈ Kind.integral := by
  rw [m.execute_callFree hc] at h
  exact Stack.integral_of_step_fault (faulty_map.1 h)

/-- Commands without calls keep the limit of the depth. -/
theorem maxDepth_of_run {m m' : Machine ε} {cs : List Command} (hc : ∀ c ∈ cs, c.CallFree)
    {sink : Sink} (h : (m.run cs sink).1 = .ok m') : m'.config.maxDepth = m.config.maxDepth := by
  rw [m.run_callFree hc] at h
  cases hs : Stack.run m.config.maxDepth cs m.stack with
  | error e => rw [hs] at h; cases h
  | ok s => rw [hs] at h; cases h; rfl

end Machine

/-- A run without calls and the run on kinds go in step. After every number of commands the kinds of
the stack, or the error, are those of the run on kinds; and so for each single command; unless a
command stops with a fault of arithmetic, and then its operands can be read as integers. Two runs with
the same opcodes, kinds of operands and limit therefore agree in the same way with each other. -/
theorem run_follows_kinds {ε : Type} [Host ε] (m : Machine ε) (cs : List Command) (sink : Sink)
    (hc : ∀ c ∈ cs, c.CallFree) :
    (∀ before, before <+: cs → ¬ Faulty (m.run before sink).1 →
      (m.run before sink).1.map Machine.kinds =
        KindStack.run m.config.maxDepth (before.map Command.kinds) m.kinds) ∧
    (∀ before c m', before ++ [c] <+: cs → (m.run before sink).1 = .ok m' →
      KindStack.run m.config.maxDepth (before.map Command.kinds) m.kinds = .ok m'.kinds ∧
      (¬ Faulty (m'.execute c sink).1 →
        (m'.execute c sink).1.map Machine.kinds =
          KindStack.step m.config.maxDepth c.kinds m'.kinds) ∧
      (Faulty (m'.execute c sink).1 →
        ∃ v w rest, m'.stack = v :: w :: rest ∧
          v.kind ∈ [Kind.mono, .int] ∧ w.kind ∈ [Kind.mono, .int])) ∧
    (∀ {ε' : Type} [Host ε'] (m' : Machine ε') (ds : List Command) (sink' : Sink),
      m'.kinds = m.kinds → m'.config.maxDepth = m.config.maxDepth →
      ds.map Command.kinds = cs.map Command.kinds →
      ∀ n, ¬ Faulty (m.run (cs.take n) sink).1 → ¬ Faulty (m'.run (ds.take n) sink').1 →
        (m.run (cs.take n) sink).1.map Machine.kinds =
          (m'.run (ds.take n) sink').1.map Machine.kinds) := by
  have hpre : ∀ {before}, before <+: cs → ∀ c ∈ before, c.CallFree :=
    fun h c hb => hc c (h.subset hb)
  refine ⟨fun before hb hf => m.run_map_kinds (hpre hb) sink hf, ?_, ?_⟩
  · intro before c m' hb hr
    have hfree : ∀ d ∈ before, d.CallFree := hpre ((List.prefix_append _ _).trans hb)
    have hcfree : c.CallFree := hpre hb c (by simp)
    have hkinds := m.run_map_kinds hfree sink (hr ▸ not_faulty_ok m')
    rw [hr] at hkinds
    refine ⟨hkinds.symm, fun hf => ?_, Machine.integral_of_execute_fault hcfree⟩
    rw [m'.execute_map_kinds hcfree sink hf, Machine.maxDepth_of_run hfree hr]
  · intro ε' _ m' ds sink' hk hd hcs n hf hf'
    have hds := Command.callFree_of_kinds hcs hc
    rw [m.run_map_kinds (fun c h => hc c (List.mem_of_mem_take h)) sink hf,
      m'.run_map_kinds (fun c h => hds c (List.mem_of_mem_take h)) sink' hf', hk, hd,
      List.map_take, List.map_take, hcs]

/-- A difference of integers, and then a sum with a truth value on top. -/
theorem run_follows_kinds_mismatch :
    (Machine.run { name := "m", stack := [.int 7] : Machine Empty }
      [⟨.push, .int 2⟩, ⟨.arith .sub, .mono⟩, ⟨.push, .bool true⟩, ⟨.arith .add, .mono⟩] .null).1.map
        Machine.kinds =
      (Machine.run { name := "n", stack := [.int 0] : Machine Empty }
        [⟨.push, .int (-5)⟩, ⟨.arith .sub, .mono⟩, ⟨.push, .bool false⟩, ⟨.arith .add, .mono⟩]
          .null).1.map Machine.kinds := by
  have hfault : ∀ r : Except MachineError (Machine Empty),
      r = .error (.operation (.invalidOperands .add .bool .int)) → ¬ Faulty r := by
    rintro _ rfl ⟨e, he, ha⟩
    cases he
    cases ha with
    | operation h => cases h
  have hfree : ∀ c ∈ [⟨.push, .int 2⟩, ⟨.arith .sub, .mono⟩, ⟨.push, .bool true⟩,
      (⟨.arith .add, .mono⟩ : Command)], c.CallFree := by
    decide
  have htwo := (run_follows_kinds { name := "m", stack := [.int 7] : Machine Empty } _ .null hfree).2.2
    { name := "n", stack := [.int 0] : Machine Empty }
    [⟨.push, .int (-5)⟩, ⟨.arith .sub, .mono⟩, ⟨.push, .bool false⟩, ⟨.arith .add, .mono⟩] .null
  exact htwo rfl rfl rfl 4 (hfault _ rfl) (hfault _ rfl)

end StackScript
