import StackScript.CommandLine

/-!
# The program

Connects the command line with the system: files, standard streams and the exit status. An
interactive session answers each line as soon as it is complete.
-/

namespace StackScript.CommandLine

/-- The reason why the system did not deliver a file. -/
def ReadFault.ofSystem : IO.Error → ReadFault
  | .noFileOrDirectory .. => .notFound
  | .permissionDenied .. => .denied
  | .inappropriateType _ code details | .otherError code details =>
    .other (details ++ " (os error " ++ toString code ++ ")")
  | e => .other (toString e)

/-- Reads a file. -/
def readFile (path : String) : IO (Except ReadFault (List UInt8)) := do
  try
    return .ok (← IO.FS.readBinFile path).toList
  catch e =>
    return .error (.ofSystem e)

/-- The bytes up to the next line feed and with it, behind those given. -/
partial def readLine (input : IO.FS.Stream) (bytes : ByteArray) : IO ByteArray := do
  let next ← input.read 1
  let bytes := bytes ++ next
  if next.isEmpty || next.toList == [10] then return bytes
  readLine input bytes

/-- Writes to the standard output at once. -/
def printNow (text : String) : IO Unit := do
  IO.print text
  (← IO.getStdout).flush

/-- Writes what a session has produced. -/
def deliver (s : Session) : IO Unit := do
  printNow s.sink.printed
  IO.eprint s.diagnostics.text

/-- Takes lines from the standard input until one ends the session. Each line finds the machine as the
line before has left it, and nothing left to write. -/
partial def converse (input : IO.FS.Stream) (machine : Machine Empty) : IO UInt32 := do
  match Text.byteLines (← readLine input .empty).toList with
  | [] => return 0
  | line :: _ =>
    let (result, s) := Session.feedBytes { machine, sink := .stdout "" } line
    deliver s
    match result with
    | .ok true => converse input s.machine
    | .ok false => return 0
    | .error e =>
      IO.eprint (brokenOff e)
      return 1

end StackScript.CommandLine

open StackScript

/-- Runs the command line. -/
def main (args : List String) : IO UInt32 := do
  if args.head? = some "repl" then
    CommandLine.printNow CommandLine.banner
    CommandLine.converse (← IO.getStdin) Script.machine
  else
    let content ← match CommandLine.file? args with
      | some path => CommandLine.readFile path
      | none => pure (.error .notFound)
    let outcome := CommandLine.run { read := fun _ => content } args
    CommandLine.printNow outcome.stdout
    IO.eprint outcome.stderr
    return outcome.code
