import StackScript.Machine.Step

/-!
# Steps on any host

What a command does when nothing is known of the bodies of the hooks. A call passes three checks, in
this order: its operand is a text, the text is the name of a hook, and the hook takes as many
arguments as the stack is deep. Only then the body runs, and what it returns is pushed on the stack
that the call has emptied.

* `HookTable.Built`: the tables that registration leads to; they hold each hook under its own name;
* `Machine.Refused` and `Machine.Runs`: the check that a call fails, or the hook whose body runs;
* `Machine.refused_or_runs`: it is one of the two;
* `Machine.call_of_refused` and `Machine.call_of_runs`: what the call then does;
* `Machine.execute_of_refused` and `Machine.execute_of_invoke`: the same with the history.
-/

namespace StackScript

theorem Value.isMono_eq_true_iff {v : Value} : v.isMono = true ↔ v = .mono := by
  cases v <;> simp [isMono]

theorem Value.text?_eq_none_iff {v : Value} : v.text? = none ↔ v.kind ≠ .string := by
  cases v <;> simp [text?, kind]

/-- The tables that arise when hooks are registered one after the other. -/
inductive HookTable.Built {ε : Type} : HookTable ε → Prop
  | empty : Built .empty
  | register {t : HookTable ε} (h : Built t) (name : String) (arity : Arity) (body : Body ε) :
    Built (t.register name arity body)

/-- A hook is found under its own name only. -/
theorem HookTable.Built.name_eq {ε : Type} {t : HookTable ε} (h : t.Built) {key : String} {hook : Hook ε}
    (hg : t.get? key = some hook) : hook.name = key := by
  induction h with
  | empty => cases (get?_empty key).symm.trans hg
  | register _ name arity body ih =>
    rw [get?_register] at hg
    split at hg
    case isTrue hname =>
      cases hg
      exact hname
    case isFalse => exact ih hg

namespace Machine

variable {ε : Type}

/-- The first check that a call with the operand fails, and the error that says so. -/
inductive Refused (m : Machine ε) : Value → MachineError → Prop
  | notText {operand : Value} (h : operand.text? = none) :
    Refused m operand (.operation (.typeMismatch .string operand.kind))
  | unknown {name : String} (h : m.hooks.get? name = none) :
    Refused m (.text name) (.unknownHook name)
  | arity {name : String} {hook : Hook ε} (h : m.hooks.get? name = some hook)
    (ha : hook.arity.accepts m.stack.length = false) :
    Refused m (.text name) (.arityMismatch hook.name hook.arity m.stack.length)

/-- A call with the operand passes all checks, and the body of this hook runs. -/
def Runs (m : Machine ε) (operand : Value) (hook : Hook ε) : Prop :=
  ∃ name, operand = .text name ∧ m.hooks.get? name = some hook ∧
    hook.arity.accepts m.stack.length = true

theorem refused_or_runs (m : Machine ε) (operand : Value) :
    (∃ e, m.Refused operand e) ∨ ∃ hook, m.Runs operand hook := by
  cases operand with
  | text name =>
    cases hg : m.hooks.get? name with
    | none => exact .inl ⟨_, .unknown hg⟩
    | some hook =>
      cases ha : hook.arity.accepts m.stack.length with
      | false => exact .inl ⟨_, .arity hg ha⟩
      | true => exact .inr ⟨hook, name, rfl, hg, ha⟩
  | mono | int n | float x | bool b => exact .inl ⟨_, .notText rfl⟩

theorem Runs.unique {m : Machine ε} {operand : Value} {hook hook' : Hook ε}
    (h : m.Runs operand hook) (h' : m.Runs operand hook') : hook = hook' := by
  obtain ⟨name, rfl, hg, -⟩ := h
  obtain ⟨name', hname, hg', -⟩ := h'
  obtain rfl := Value.text.inj hname
  exact Option.some.inj (hg.symm.trans hg')

theorem Refused.not_runs {m : Machine ε} {operand : Value} {e : MachineError} {hook : Hook ε}
    (h : m.Refused operand e) : ¬ m.Runs operand hook := by
  rintro ⟨name, rfl, hg, ha⟩
  cases h with
  | notText h => cases h
  | unknown h => cases h.symm.trans hg
  | arity h ha' =>
    obtain rfl := Option.some.inj (h.symm.trans hg)
    cases ha'.symm.trans ha

theorem hookOf_of_get? {m : Machine ε} {name : String} {hook : Hook ε}
    (h : m.hooks.get? name = some hook) : m.hookOf (.text name) = .ok hook := by
  simp [hookOf, Value.getText, Machine.hook, h]

variable [Host ε] {m : Machine ε} {operand : Value}

/-- A call that is refused writes nothing. -/
theorem call_of_refused {e : MachineError} (h : m.Refused operand e) (sink : Sink) :
    m.call operand sink = (.error e, sink) := by
  cases h with
  | notText h =>
    cases operand with
    | text name => cases h
    | mono | int n | float x | bool b => rfl
  | unknown h => simp [call, hookOf, Value.getText, Machine.hook, h]
  | arity h ha => simp [call, hookOf_of_get? h, Hook.call, ha]

/-- A call that is not refused does what the body does, and pushes its result on the empty stack. -/
theorem call_of_runs {hook : Hook ε} (h : m.Runs operand hook) (sink : Sink) :
    m.call operand sink =
      ((hook.body.invoke ⟨m.stack, m.drained⟩ sink).1.bind m.drained.pushResult,
        (hook.body.invoke ⟨m.stack, m.drained⟩ sink).2) := by
  obtain ⟨name, rfl, hg, ha⟩ := h
  simp only [call, hookOf_of_get? hg, Hook.call, ha, ↓reduceIte]
  rcases hook.body.invoke ⟨m.stack, m.drained⟩ sink with ⟨e | v, sink'⟩ <;> rfl

/-- A command is recorded in the history if it did not fail. -/
theorem execute_eq (m : Machine ε) (c : Command) (sink : Sink) :
    m.execute c sink = ((m.step c sink).1.map fun m => m.record c, (m.step c sink).2) := by
  rw [execute]
  rcases m.step c sink with ⟨e | m', sink'⟩ <;> rfl

theorem execute_of_refused {e : MachineError} (h : m.Refused operand e) (sink : Sink) :
    m.execute ⟨.call, operand⟩ sink = (.error e, sink) := by
  rw [execute_eq, step, call_of_refused h]
  rfl

theorem execute_of_invoke {hook : Hook ε} (h : m.Runs operand hook) {sink sink' : Sink}
    {r : Except MachineError Value} (hbody : hook.body.invoke ⟨m.stack, m.drained⟩ sink = (r, sink')) :
    m.execute ⟨.call, operand⟩ sink =
      ((r.bind m.drained.pushResult).map fun m => m.record ⟨.call, operand⟩, sink') := by
  rw [execute_eq, step, call_of_runs h, hbody]

end Machine

end StackScript
