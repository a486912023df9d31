import StackScript.Machine.Step

/-!
# Bodies described by data

A host that takes its hooks from a description, rather than from code of its own, can use recipes
as bodies. A recipe may run commands on a copy of the calling machine, and these may call further
recipes, also itself. The nesting has a bound, so that every call ends; it lies far beyond the
number of calls that fit in a memory at once.
-/

namespace StackScript

/-- What a described body does with its arguments. -/
inductive Recipe where
  /-- Returns a value. -/
  | const (v : Value)
  /-- Returns the first argument. -/
  | first
  /-- Returns the last argument. -/
  | last
  /-- Returns the number of arguments. -/
  | count
  /-- Returns the listed forms of the arguments with commas between them. -/
  | join
  /-- Combines the arguments from the left by an operator. -/
  | fold (op : Operator)
  /-- Writes each argument on a line and returns a value. -/
  | tell (v : Value)
  /-- Writes a notice and fails with a message. -/
  | fail (message : String)
  /-- Returns the name and the sizes of the calling machine. -/
  | inspect
  /-- Puts the arguments back on a copy of the calling machine, runs commands there and returns
  the result. -/
  | exec (commands : List Command)

namespace Recipe

/-- Combines values from the left by an operator. -/
def foldValues (op : Operator) (acc : Value) : List Value → Except MachineError Value
  | [] => .ok acc
  | arg :: args =>
    match op.apply acc arg with
    | .ok v => foldValues op v args
    | .error e => .error (.operation e)

/-- Name, depth of the stack, length of the history, number of hooks and limit of a machine. -/
def summary {ε : Type} (m : Machine ε) : String :=
  "|".intercalate
    [m.name, toString m.stack.length, toString m.history.len, toString m.hooks.size,
     toString m.config.maxDepth]

/-- The message of a call that is nested too deeply. -/
def tooDeep : String := "hook calls are nested too deeply"

/-- Runs a recipe; `depth` bounds the nesting of the calls below it. -/
def invokeWithin (depth : Nat) (recipe : Recipe) (call : Call Recipe) (sink : Sink) :
    Except MachineError Value × Sink :=
  match recipe with
  | .const v => (.ok v, sink)
  | .first => (.ok (call.args.head?.getD .mono), sink)
  | .last => (.ok (call.args.getLast?.getD .mono), sink)
  | .count => (.ok (.int (Int32.ofNat call.args.length)), sink)
  | .join => (.ok (.text (",".intercalate (call.args.map Value.repr))), sink)
  | .fold op =>
    match call.args with
    | [] => (.ok .mono, sink)
    | arg :: args => (foldValues op arg args, sink)
  | .tell v => (.ok v, call.args.foldl (fun sink arg => sink.writeLine arg.display) sink)
  | .fail message => (.error (.thrown message), sink.write "failing;")
  | .inspect => (.ok (.text (summary call.machine)), sink)
  | .exec commands =>
    match depth with
    | 0 => (.error (.thrown tooDeep), sink)
    | depth + 1 =>
      letI : Host Recipe := ⟨invokeWithin depth⟩
      let restore := call.args.reverse.map fun arg => ⟨.push, arg⟩
      match call.machine.run (restore ++ commands) sink with
      | (.ok m, sink) => (.ok m.result, sink)
      | (.error e, sink) => (.error e, sink)

/-- How deeply calls may be nested, which is more than any memory holds. -/
def nestingLimit : Nat := 0x1000000000000

instance : Host Recipe := ⟨invokeWithin nestingLimit⟩

end Recipe

end StackScript
