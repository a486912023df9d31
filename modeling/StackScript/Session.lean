import StackScript.Script

/-!
# Sessions

A session executes lines one at a time on one machine. A line that fails leaves the machine as it
was and is reported to the diagnostics, and a line with an exit word ends the session. A session
can be driven by a byte stream; a line that is not UTF-8 ends it with an error.
-/

namespace StackScript

/-- A machine at work on lines, with its output and the stream of its diagnostics. -/
structure Session where
  machine : Machine Empty := Script.machine
  sink : Sink
  diagnostics : Stream := .memory

/-- Why a session driven by a byte stream broke off. -/
inductive SessionError where
  /-- A line of input is not UTF-8. -/
  | notUtf8
  /-- A failure could not be reported, for the reason given. -/
  | unreported (reason : String)
deriving DecidableEq, Repr

/-- The wording of an error. -/
def SessionError.message : SessionError → String
  | .notUtf8 => "stream did not contain valid UTF-8"
  | .unreported reason => reason

namespace Session

/-- The words that end a session. -/
def exitWords : List String := ["exit", "quit", "q"]

/-- The line holds nothing but an exit word in any case, and blanks around it. -/
def isExit (line : String) : Bool :=
  let word := Text.stripEnds Text.isBlank line.toList
  exitWords.any fun exit => Text.sameIgnoringCase exit.toList word

/-- Executes the command on a line, if there is one. -/
def executeLine (s : Session) (line : String) : Except ScriptError Unit × Session :=
  match Script.parseLine line.toList with
  | .error e => (.error (.parse e), s)
  | .ok none => (.ok (), s)
  | .ok (some c) =>
    match s.machine.execute c s.sink with
    | (.ok machine, sink) => (.ok (), { s with machine, sink })
    | (.error e, sink) => (.error (.machine e), { s with sink })

/-- Takes one line. The result says whether the session goes on. -/
def feed (s : Session) (line : String) : Except ScriptError Bool × Session :=
  if isExit line then (.ok false, s)
  else
    match s.executeLine line with
    | (.ok (), s) => (.ok true, s)
    | (.error e, s) => (.error e, s)

/-- Writes the wording of a failure and a line feed to the diagnostics, piece by piece. -/
def report (s : Session) (e : ScriptError) : Except SessionError Unit × Session :=
  match s.diagnostics.writeEach (e.pieces ++ ["\n"]) with
  | (.ok (), diagnostics) => (.ok (), { s with diagnostics })
  | (.error reason, diagnostics) => (.error (.unreported reason), { s with diagnostics })

/-- Takes one line of bytes and reports a failure. The result says whether the session goes on. -/
def feedBytes (s : Session) (line : List UInt8) : Except SessionError Bool × Session :=
  match Text.decode? line with
  | none => (.error .notUtf8, s)
  | some line =>
    match s.feed line with
    | (.ok goesOn, s) => (.ok goesOn, s)
    | (.error e, s) =>
      match s.report e with
      | (.ok (), s) => (.ok true, s)
      | (.error e, s) => (.error e, s)

/-- Takes lines of bytes until one ends the session. -/
def feedLines (s : Session) : List (List UInt8) → Except SessionError Unit × Session
  | [] => (.ok (), s)
  | line :: rest =>
    match s.feedBytes line with
    | (.ok true, s) => s.feedLines rest
    | (.ok false, s) => (.ok (), s)
    | (.error e, s) => (.error e, s)

/-- Takes the lines of a byte stream until one ends the session. -/
def run (s : Session) (input : List UInt8) : Except SessionError Unit × Session :=
  s.feedLines (Text.byteLines input)

end Session

end StackScript
