import StackScript.Machine.Basic

/-!
# Listings of a machine

A machine is shown to its user by its stack, the bottom first, and its history, the newest command
first; or in all its parts by an outline.
-/

namespace StackScript.Machine

variable {ε : Type}

/-- One line for each entry, or a line that says that there is none. -/
def entries (texts : List String) : String :=
  if texts.isEmpty then "(empty)\n" else String.join (texts.map fun text => "- " ++ text ++ "\n")

/-- The stack and the history, each entry on a line of its own. -/
def display (m : Machine ε) : String :=
  "Virtual machine" ++ (if m.name = "" then "" else " - " ++ m.name) ++
    "\nStack:\n" ++ entries (m.stack.reverse.map Value.display) ++
    "\nHistory:\n" ++ entries (m.history.commands.map Command.display)

/-- All parts of a machine except its output. -/
def outline (m : Machine ε) : Text.Outline :=
  .record "VirtualMachine"
    [.field "name" (.atom (Text.quote m.name)),
     .field "stack" (.list (m.stack.reverse.map Value.outline)),
     .field "history" m.history.outline,
     .field "hooks" m.hooks.outline,
     .field "config" m.config.outline]
    false

end StackScript.Machine
