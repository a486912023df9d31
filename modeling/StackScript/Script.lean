import StackScript.Machine.Step
import StackScript.Text.Blank
import StackScript.Text.Lines
import StackScript.Value.Parse

/-!
# Scripts

A script has one command on each line: the mnemonic in any case and, behind a space, the operand.
Characters of the margin around a command do not count, and lines without a command are skipped.

* `Script.parseLine` and `Script.parse` read commands, or find the first word that is no mnemonic;
* `Script.run` executes the commands on a machine of their own, if all lines can be read.
-/

namespace StackScript

/-- A word where a mnemonic should stand, with the number of its line if there is more than
one line to speak of. -/
structure ParseError where
  token : String
  line : Option Nat := none
deriving DecidableEq, Repr

/-- Which line an error is in, if that is known. -/
def ParseError.place (e : ParseError) : String :=
  match e.line with
  | some n => "line " ++ toString n ++ ": "
  | none => ""

/-- The wording of an error, in the pieces in which it is written. -/
def ParseError.pieces (e : ParseError) : List String :=
  [e.place, "no opcode with value: ", e.token]

/-- The wording of an error, which names the line if it is known. -/
def ParseError.message (e : ParseError) : String :=
  String.join e.pieces

/-- Why a script has no result. -/
inductive ScriptError where
  | parse (e : ParseError)
  | machine (e : MachineError)
deriving DecidableEq, Repr

/-- The wording of an error, in the pieces in which it is written. -/
def ScriptError.pieces : ScriptError → List String
  | .parse e => e.pieces
  | .machine e => e.pieces

/-- The wording of an error. -/
def ScriptError.message (e : ScriptError) : String :=
  String.join e.pieces

namespace Script

/-- The character may stand around a command without a meaning. -/
def isMargin (c : Char) : Bool :=
  c ∈ [' ', '\t', '\n', '\r', '\x0c', '\x0b']

/-- A line without its margins, cut at its first space. -/
def splitLine (core : List Char) : List Char × List Char :=
  (core.takeWhile (· ≠ ' '), (core.dropWhile (· ≠ ' ')).drop 1)

/-- Reads the command on a line; a line of margin holds none. -/
def parseLine (line : List Char) : Except ParseError (Option Command) :=
  let core := Text.stripEnds isMargin line
  if core = [] then .ok none
  else
    let (word, operand) := splitLine core
    match Opcode.ofWord? word with
    | some opcode => .ok (some ⟨opcode, Value.parse (String.ofList operand)⟩)
    | none => .error { token := String.ofList word }

/-- Reads the commands on lines whose first has the number `n`. -/
def parseLines (n : Nat) : List (List Char) → Except ParseError (List Command)
  | [] => .ok []
  | line :: rest =>
    match parseLine line with
    | .error e => .error { e with line := some n }
    | .ok none => parseLines (n + 1) rest
    | .ok (some c) => (parseLines (n + 1) rest).map (c :: ·)

/-- Reads all commands of a script. -/
def parse (text : String) : Except ParseError (List Command) :=
  parseLines 1 (Text.lines text)

/-- The machine on which a script starts. -/
def machine : Machine Empty :=
  Machine.withBuiltins { name := "default" }

/-- Runs a script and returns the value on top of the stack at its end. Nothing is executed if any
line cannot be read. -/
def run (text : String) (sink : Sink) : Except ScriptError Value × Sink :=
  match parse text with
  | .error e => (.error (.parse e), sink)
  | .ok commands =>
    match machine.run commands sink with
    | (.ok m, sink) => (.ok m.result, sink)
    | (.error e, sink) => (.error (.machine e), sink)

/-- A script that can be read does what its commands do. -/
theorem run_of_parse {text : String} {cs : List Command} (h : parse text = .ok cs) (sink : Sink) :
    run text sink =
      (((machine.run cs sink).1.map Machine.result).mapError .machine,
        (machine.run cs sink).2) := by
  delta run
  simp only [h]
  rcases machine.run cs sink with ⟨e | m, sink'⟩ <;> rfl

end Script

end StackScript
