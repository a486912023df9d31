import StackScript.Machine.Builtin

/-!
# Steps of a machine

`Machine.execute` takes one step and `Machine.run` a sequence of steps up to the first that fails.
Both return a new machine, so that after a failure the old one is still there, unchanged.
-/

namespace StackScript.Machine

variable {ε : Type}

/-- Pushes a value, unless the stack is as deep as it may be. -/
def push (m : Machine ε) (v : Value) : Except MachineError (Machine ε) :=
  if m.config.maxDepth ≤ m.stack.length then .error (.stackOverflow m.config.maxDepth)
  else .ok { m with stack := v :: m.stack }

/-- Replaces the two topmost values by the result of an operator; the top is the left operand. -/
def combine (m : Machine ε) (op : Operator) : Except MachineError (Machine ε) :=
  match m.stack with
  | left :: right :: rest =>
    match op.apply left right with
    | .ok v => .ok { m with stack := v :: rest }
    | .error e => .error (.operation e)
  | stack => .error (.stackUnderflow 2 stack.length)

/-- The hook with the given name. -/
def hook (m : Machine ε) (name : String) : Except MachineError (Hook ε) :=
  match m.hooks.get? name with
  | some h => .ok h
  | none => .error (.unknownHook name)

/-- The hook that an operand names. -/
def hookOf (m : Machine ε) (operand : Value) : Except MachineError (Hook ε) :=
  match operand.getText with
  | .ok name => m.hook name
  | .error e => .error (.operation e)

/-- The machine with an empty stack. -/
def drained (m : Machine ε) : Machine ε :=
  { m with stack := [] }

/-- Pushes the result of a call, unless it is `mono`. -/
def pushResult (m : Machine ε) (v : Value) : Except MachineError (Machine ε) :=
  if v.isMono then .ok m else m.push v

variable [Host ε]

/-- Calls the hook that the operand names with the whole stack as its arguments. -/
def call (m : Machine ε) (operand : Value) (sink : Sink) :
    Except MachineError (Machine ε) × Sink :=
  match m.hookOf operand with
  | .error e => (.error e, sink)
  | .ok h =>
    match h.call ⟨m.stack, m.drained⟩ sink with
    | (.ok v, sink) => (m.drained.pushResult v, sink)
    | (.error e, sink) => (.error e, sink)

/-- What a command does to the stack. -/
def step (m : Machine ε) (c : Command) (sink : Sink) : Except MachineError (Machine ε) × Sink :=
  match c.opcode with
  | .push => (m.push c.operand, sink)
  | .arith op => (m.combine op, sink)
  | .call => m.call c.operand sink

/-- Executes a command and adds it to the history. -/
def execute (m : Machine ε) (c : Command) (sink : Sink) : Except MachineError (Machine ε) × Sink :=
  match m.step c sink with
  | (.ok m, sink) => (.ok (m.record c), sink)
  | (.error e, sink) => (.error e, sink)

/-- Executes commands in order and stops at the first that fails. -/
def run (m : Machine ε) : List Command → Sink → Except MachineError (Machine ε) × Sink
  | [], sink => (.ok m, sink)
  | c :: cs, sink =>
    match m.execute c sink with
    | (.ok m, sink) => m.run cs sink
    | (.error e, sink) => (.error e, sink)

end StackScript.Machine
