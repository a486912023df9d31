import StackScript.Value.Basic

/-!
# Templates

In a template each opening brace is a place for the next argument. Once the arguments are used up
an opening brace stands for itself; a closing brace never appears in the result. Braces in an
argument are no places.
-/

namespace StackScript.Template

/-- The characters of a template with the arguments in their places. -/
def fill : List Char → List Value → List Char
  | [], _ => []
  | c :: cs, args =>
    if c = '\x7b' then
      match args with
      | [] => '\x7b' :: fill cs []
      | arg :: rest => arg.display.toList ++ fill cs rest
    else if c = '\x7d' then fill cs args
    else c :: fill cs args

/-- The text of a template with the arguments in their places. -/
def format (template : String) (args : List Value) : String :=
  String.ofList (fill template.toList args)

end StackScript.Template
