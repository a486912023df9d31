import StackScript.Proofs.Machine.CallFree

/-!
# Expressions in postfix form

An expression over values is turned into commands: first those of its right operand, then those of its
left operand, which so comes to lie on top of the stack, and then the operator. A machine that executes
them evaluates the expression.

* `Expr.run_code`: the commands push the value of the expression, or fail as its evaluation does, if the
  stack has room for what the expression needs;
* `Expr.not_run_code`: with less room they do not succeed, so that the need is exact;
* `machine_evaluates_expressions`: the same of a machine.
-/

namespace StackScript

/-- An expression over values. -/
inductive Expr where
  | leaf (v : Value)
  | node (op : Operator) (left right : Expr)

namespace Expr

/-- The commands that evaluate an expression, those of the right operand first. -/
def code : Expr → List Command
  | .leaf v => [⟨.push, v⟩]
  | .node op left right => right.code ++ left.code ++ [⟨.arith op, .mono⟩]

/-- The value of an expression; the right operand is evaluated first. -/
def eval : Expr → Except OperationError Value
  | .leaf v => .ok v
  | .node op left right => do
    let y ← right.eval
    let x ← left.eval
    op.apply x y

/-- The number of places on the stack that the commands of an expression take up at most. -/
def need : Expr → Nat
  | .leaf _ => 1
  | .node _ left right => max right.need (1 + left.need)

theorem callFree_code (e : Expr) : ∀ c ∈ e.code, c.CallFree := by
  induction e with
  | leaf v => exact List.forall_mem_singleton.2 (by simp [Command.CallFree])
  | node op left right ihl ihr =>
    have hop : ∀ c ∈ [(⟨.arith op, .mono⟩ : Command)], c.CallFree :=
      List.forall_mem_singleton.2 (by simp [Command.CallFree])
    exact List.forall_mem_append.2 ⟨List.forall_mem_append.2 ⟨ihr, ihl⟩, hop⟩

theorem pushed_ok (v : Value) (s : List Value) :
    ((Except.ok v : Except OperationError Value).map (· :: s)).mapError MachineError.operation =
      .ok (v :: s) := rfl

theorem pushed_error (e : OperationError) (s : List Value) :
    ((Except.error e : Except OperationError Value).map (· :: s)).mapError MachineError.operation =
      .error (.operation e) := rfl

/-- An operator takes the top of the stack as its left operand and the value below as its right one. -/
theorem run_operator (limit : Nat) (op : Operator) (x y : Value) (s : List Value) :
    Stack.run limit [⟨.arith op, .mono⟩] (x :: y :: s) =
      ((op.apply x y).map (· :: s)).mapError .operation := by
  simp only [Stack.run, Stack.step]
  cases op.apply x y <;> rfl

/-- Where there is room for an expression, its commands push its value, or fail as its evaluation
does. -/
theorem run_code {limit : Nat} (e : Expr) {s : List Value} (h : s.length + e.need ≤ limit) :
    Stack.run limit e.code s = (e.eval.map (· :: s)).mapError .operation := by
  induction e generalizing s with
  | leaf v =>
    have hroom : ¬ limit ≤ s.length := by rw [need] at h; omega
    simp only [code, eval, Stack.run, Stack.step, hroom, if_false, pushed_ok]
  | node op left right ihl ihr =>
    rw [need] at h
    have hright := ihr (s := s) (by omega)
    rw [code, Stack.run_append, Stack.run_append, hright, eval]
    cases right.eval with
    | error err => rfl
    | ok y =>
      -- the left operand starts one place higher, on the value of the right one
      have hleft := ihl (s := y :: s) (by rw [List.length_cons]; omega)
      simp only [pushed_ok, hleft]
      cases left.eval with
      | error err => rfl
      | ok x => exact run_operator limit op x y s

/-- Where there is no room for an expression, its commands do not succeed. -/
theorem not_run_code {limit : Nat} (e : Expr) {s : List Value} (h : limit < s.length + e.need)
    (s' : List Value) : Stack.run limit e.code s ≠ .ok s' := by
  induction e generalizing s s' with
  | leaf v =>
    have hfull : limit ≤ s.length := by rw [need] at h; omega
    simp [code, Stack.run, Stack.step, hfull]
  | node op left right ihl ihr =>
    rw [need] at h
    rw [code, Stack.run_append, Stack.run_append]
    by_cases hright : limit < s.length + right.need
    · cases hr : Stack.run limit right.code s with
      | error err => simp
      | ok s₁ => exact absurd hr (ihr hright s₁)
    · rw [run_code right (by omega)]
      cases right.eval with
      | error err => simp [pushed_error]
      | ok y =>
        simp only [pushed_ok]
        cases hl : Stack.run limit left.code (y :: s) with
        | error err => simp
        | ok s₁ => exact absurd hl (ihl (by rw [List.length_cons]; omega) s₁)

end Expr

/-- A machine with room for an expression evaluates it by the commands of its postfix form. If the
expression has a value, the machine gets it on top of its stack and the commands in its history, the
newest first; otherwise the run fails with the error of the evaluation. The run fails for want of
operands or of room in no case. -/
theorem machine_evaluates_expressions {ε : Type} [Host ε] (m : Machine ε) (e : Expr)
    (h : m.stack.length + e.need ≤ m.config.maxDepth) (sink : Sink) :
    (∀ v, e.eval = .ok v → m.run e.code sink =
      (.ok { m with stack := v :: m.stack, history := e.code.foldl .prepend m.history }, sink)) ∧
    (∀ err, e.eval = .error err → m.run e.code sink = (.error (.operation err), sink)) ∧
    (∀ expected found, (m.run e.code sink).1 ≠ .error (.stackUnderflow expected found)) ∧
    (∀ limit, (m.run e.code sink).1 ≠ .error (.stackOverflow limit)) := by
  have hrun := m.run_callFree e.callFree_code sink
  rw [e.run_code h] at hrun
  cases he : e.eval with
  | ok v =>
    rw [he, Expr.pushed_ok] at hrun
    simp [hrun, Except.map, Machine.advance]
  | error err =>
    rw [he, Expr.pushed_error] at hrun
    simp [hrun, Except.map]

/-- Ten less the whole quotient of nine and two, on a stack with exactly the room that this needs. -/
theorem machine_evaluates_expressions_full :
    let m : Machine Empty := { name := "m", stack := [.text "below"], config := ⟨3⟩ }
    let e : Expr := .node .sub (.leaf (.int 10)) (.node .div (.leaf (.int 9)) (.leaf (.int 2)))
    m.stack.length + e.need ≤ m.config.maxDepth ∧
      m.run e.code .null = (.ok { m with
        stack := [.int 6, .text "below"]
        history := ⟨[⟨.arith .sub, .mono⟩, ⟨.push, .int 10⟩, ⟨.arith .div, .mono⟩, ⟨.push, .int 9⟩,
          ⟨.push, .int 2⟩], 5, rfl⟩ }, .null) := by
  intro m e
  have h : m.stack.length + e.need ≤ m.config.maxDepth := by decide
  exact ⟨h, (machine_evaluates_expressions m e h .null).1 (.int 6) (by rfl)⟩

end StackScript
