import StackScript.Command
import StackScript.Hook
import StackScript.Sink

/-!
# Machines

A machine has an operand stack, the history of what it executed, a table of hooks and a limit on
the depth of its stack. Its hooks may have bodies of a host, which form the type `ε`; what they do
is given by `Host ε`. Output goes to a sink that is passed from step to step, so that a text once
written stays written, also when the step that wrote it fails.
-/

namespace StackScript

/-- Why a machine could not take a step. -/
inductive MachineError where
  /-- Fewer values are on the stack than the command needs. -/
  | stackUnderflow (expected found : Nat)
  /-- The stack is as deep as it may be. -/
  | stackOverflow (limit : Nat)
  /-- No hook has this name. -/
  | unknownHook (name : String)
  /-- The hook does not take this many arguments. -/
  | arityMismatch (name : String) (expected : Arity) (got : Nat)
  /-- A hook gave up with a message. -/
  | thrown (message : String)
  /-- An operation on values failed. -/
  | operation (e : OperationError)
deriving DecidableEq, Repr

/-- The wording of an error, in the pieces in which it is written. -/
def MachineError.pieces : MachineError → List String
  | .stackUnderflow expected found =>
    ["stack underflow: expected ", toString expected, " items but got ", toString found]
  | .stackOverflow limit => ["stack overflow: depth limit of ", toString limit, " reached"]
  | .unknownHook name => ["no external hook found with name: ", name]
  | .arityMismatch name expected got =>
    ["function ", name, " expects ", expected.display, " args but ", toString got, " were given"]
  | .thrown message => [message]
  | .operation e => e.pieces

/-- The wording of an error. -/
def MachineError.message (e : MachineError) : String :=
  String.join e.pieces

/-- The limits of a machine. -/
structure Config where
  /-- A value is pushed only on a stack that is less deep than this. -/
  maxDepth : Nat := 1024
deriving DecidableEq, Repr

/-- The limits in an outline. -/
def Config.outline (config : Config) : Text.Outline :=
  .record "VmConfig" [.field "max_stack_depth" (.atom (toString config.maxDepth))] true

/-- A machine whose hooks may have bodies of type `ε`. -/
structure Machine (ε : Type) where
  name : String
  /-- The operands, the top of the stack first. -/
  stack : List Value := []
  /-- The executed commands, the newest first. -/
  history : History := .empty
  hooks : HookTable ε := .empty
  config : Config := {}

/-- What a body is given: the arguments, the one pushed last in front, and the calling machine
with its stack emptied. -/
structure Call (ε : Type) where
  args : List Value
  machine : Machine ε

/-- What the bodies of a host do: they return a value or fail, and may write to the sink. -/
class Host (ε : Type) where
  invoke : ε → Call ε → Sink → Except MachineError Value × Sink

/-- A host without bodies of its own. -/
instance : Host Empty := ⟨nofun⟩

namespace Machine

variable {ε : Type}

/-- The value on top of the stack. -/
def top? (m : Machine ε) : Option Value :=
  m.stack.head?

/-- The value on top of the stack, or `mono` if there is none. -/
def result (m : Machine ε) : Value :=
  m.top?.getD .mono

/-- The machine with other limits. -/
def withConfig (m : Machine ε) (config : Config) : Machine ε :=
  { m with config }

/-- The machine with one more hook, in place of one with the same name. -/
def register (m : Machine ε) (name : String) (arity : Arity) (body : Body ε) : Machine ε :=
  { m with hooks := m.hooks.register name arity body }

/-- The machine with the built-in hooks. -/
def withBuiltins (m : Machine ε) : Machine ε :=
  { m with hooks := m.hooks.registerBuiltins }

/-- The machine after a command that was executed. -/
def record (m : Machine ε) (c : Command) : Machine ε :=
  { m with history := m.history.prepend c }

end Machine

end StackScript
