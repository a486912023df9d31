import StackScript.Session
import StackScript.Token.Lexer

/-!
# The command line

What a command line does is a function of its arguments, the files it may read and the bytes on
its standard input: it yields two texts and an exit status.
-/

namespace StackScript.CommandLine

/-- Why a file could not be read. -/
inductive ReadFault where
  | notFound
  | denied
  | other (reason : String)
deriving DecidableEq, Repr

/-- What surrounds a command line. -/
structure Surroundings where
  read : String → Except ReadFault (List UInt8)
  input : List UInt8 := []

/-- What a command line leaves behind. -/
structure Outcome where
  stdout : String := ""
  stderr : String := ""
  code : UInt32 := 0
deriving DecidableEq, Repr

/-- The name and version of the program. -/
def version : String := "theatre 0.1.0\n"

/-- How the program is used. -/
def usage : String :=
  String.join <| [
    "Theatre Script",
    "",
    "Usage: theatre <command> [args]",
    "",
    "Commands:",
    "  run <file>    Execute a script and print its result",
    "  lex <file>    Tokenize a file and print the token stream",
    "  repl          Start an interactive session",
    "  help          Show this message",
    "  version       Show version information",
    "",
    "Set RUST_LOG (e.g. RUST_LOG=theatre_vm=debug) to enable tracing."].map (· ++ "\n")

/-- The greeting of an interactive session. -/
def banner : String := "Theatre Script REPL\nType `exit` to quit.\n"

/-- A failure with one line of explanation. -/
def failure (explanation : String) : Outcome :=
  { stderr := explanation ++ "\n", code := 1 }

/-- Why a file could not be loaded. -/
def ReadFault.message (path : String) : ReadFault → String
  | .notFound => "no such script: '" ++ path ++ "'"
  | .denied => "not allowed to read '" ++ path ++ "'"
  | .other reason => "failed to read '" ++ path ++ "': " ++ reason

/-- The text of a file, or why it could not be loaded. -/
def load (around : Surroundings) (path : String) : Except String String :=
  match around.read path with
  | .error fault => .error (fault.message path)
  | .ok bytes =>
    match Text.decode? bytes with
    | some text => .ok text
    | none => .error ("'" ++ path ++ "' is not valid UTF-8 text")

/-- The explanation of an error in a file. -/
def errorIn (path message : String) : String :=
  "error in '" ++ path ++ "': " ++ message

/-- Runs a script and prints its result, if it has one. -/
def runScript (path text : String) : Outcome :=
  match Script.run text (.stdout "") with
  | (.ok v, sink) =>
    { stdout := sink.printed ++ if v.isMono then "" else v.display ++ "\n" }
  | (.error e, sink) => { failure (errorIn path e.message) with stdout := sink.printed }

/-- The line for one token. -/
def tokenLine (t : Token) : String :=
  "  " ++ t.display ++
    (match t.position with
      | some position => " @ " ++ position.display
      | none => "") ++ "\n"

/-- Prints the tokens of a source. -/
def listTokens (path text : String) : Outcome :=
  match Token.tokenize text with
  | .ok tokens =>
    { stdout := "Tokens for '" ++ path ++ "' (" ++ toString tokens.length ++ " tokens):\n" ++
        String.join (tokens.map tokenLine) }
  | .error e => failure (errorIn path e.message)

/-- What is written when a session breaks off. -/
def brokenOff (e : SessionError) : String :=
  "error reading input: " ++ e.message ++ "\n"

/-- Runs a session on the standard input. -/
def interact (around : Surroundings) : Outcome :=
  let (result, s) := Session.run { sink := .stdout "" } around.input
  let stdout := banner ++ s.sink.printed
  match result with
  | .ok () => { stdout, stderr := s.diagnostics.text }
  | .error e => { stdout, stderr := s.diagnostics.text ++ brokenOff e, code := 1 }

/-- Loads a file and does something with its text. -/
def withFile (around : Surroundings) (path : String) (use : String → String → Outcome) : Outcome :=
  match load around path with
  | .ok text => use path text
  | .error explanation => failure explanation

/-- The file that the command line with the given arguments reads. -/
def file? : List String → Option String
  | command :: path :: _ => if command ∈ ["run", "lex"] then some path else none
  | _ => none

/-- What the command line with the given arguments does. -/
def run (around : Surroundings) : List String → Outcome
  | [] => { stdout := usage }
  | command :: args =>
    if command = "run" then
      match args with
      | [] => failure "Usage: theatre run <file.tasm>"
      | path :: _ => withFile around path runScript
    else if command = "lex" then
      match args with
      | [] => failure "Usage: theatre lex <file>"
      | path :: _ => withFile around path listTokens
    else if command = "repl" then interact around
    else if command ∈ ["help", "--help", "-h"] then { stdout := usage }
    else if command ∈ ["version", "--version", "-V"] then { stdout := version }
    else { failure ("error: unknown command '" ++ command ++ "'\n") with stdout := usage }

end StackScript.CommandLine
