import StackScript.Machine.Basic
import StackScript.Template

/-!
# What hooks do

The built-in bodies print their arguments or fail with a message made of them. A call first checks
the number of arguments and then runs the body.
-/

namespace StackScript

/-- The text that `print` writes: nothing, the only argument, or the first as a template for the
others. -/
def printedText : List Value → String
  | [] => ""
  | [arg] => arg.display
  | template :: args => Template.format template.display args

/-- The sum of the arguments from the left, starting from `mono`. -/
def sumFrom (acc : Value) : List Value → Except OperationError Value
  | [] => .ok acc
  | arg :: args =>
    match Operator.add.apply acc arg with
    | .ok sum => sumFrom sum args
    | .error e => .error e

/-- The message with which `throw` fails: the sum of the arguments, or, if they have none, all of
them in a row. -/
def thrownMessage (args : List Value) : String :=
  match sumFrom .mono args with
  | .ok sum => sum.display
  | .error _ => "Error: " ++ " ".intercalate (args.map Value.display)

variable {ε : Type} [Host ε]

/-- Runs a body. -/
def Body.invoke (body : Body ε) (call : Call ε) (sink : Sink) : Except MachineError Value × Sink :=
  match body with
  | .print => (.ok .mono, sink.write (printedText call.args))
  | .println => (.ok .mono, sink.writeLine (printedText call.args))
  | .throw => (.error (.thrown (thrownMessage call.args)), sink)
  | .host body => Host.invoke body call sink

/-- Calls a hook. Its body runs only if it takes this many arguments. -/
def Hook.call (h : Hook ε) (call : Call ε) (sink : Sink) : Except MachineError Value × Sink :=
  if h.arity.accepts call.args.length then h.body.invoke call sink
  else (.error (.arityMismatch h.name h.arity call.args.length), sink)

end StackScript
