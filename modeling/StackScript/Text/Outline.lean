/-!
# Outlines of data

An outline describes a piece of data by names and nesting. It is written in two ways: on one line,
or with every part on a line of its own, four spaces deeper than what contains it.
-/

namespace StackScript.Text

/-- The shape of a piece of data. -/
inductive Outline where
  /-- A text that stands for itself. -/
  | atom (text : String)
  /-- A named part of a record. -/
  | field (name : String) (value : Outline)
  /-- A named wrapper around one value. -/
  | wrap (name : String) (value : Outline)
  /-- A named record; one that is not `complete` has parts that are not shown. -/
  | record (name : String) (parts : List Outline) (complete : Bool)
  /-- A list in its order. -/
  | list (items : List Outline)
  /-- A set in the order given. -/
  | set (items : List Outline)

namespace Outline

mutual
/-- The outline on one line. -/
def compact : Outline → String
  | .atom text => text
  | .field name value => name ++ ": " ++ value.compact
  | .wrap name value => name ++ "(" ++ value.compact ++ ")"
  | .record name parts complete =>
    let shown := compactAll parts ++ if complete then [] else [".."]
    name ++ " \x7b " ++ ", ".intercalate shown ++ " \x7d"
  | .list items => "[" ++ ", ".intercalate (compactAll items) ++ "]"
  | .set items => "\x7b" ++ ", ".intercalate (compactAll items) ++ "\x7d"

/-- Each outline on one line. -/
def compactAll : List Outline → List String
  | [] => []
  | o :: os => o.compact :: compactAll os
end

/-- The blanks in front of a line at the given depth. -/
def margin (depth : Nat) : String :=
  String.ofList (List.replicate (4 * depth) ' ')

/-- Lines between two brackets, one level deeper than the brackets. -/
def block (depth : Nat) (opening closing : String) (lines : List String) : String :=
  if lines.isEmpty then opening ++ closing
  else
    opening ++ "\n" ++ String.join (lines.map fun line => margin (depth + 1) ++ line ++ "\n") ++
      margin depth ++ closing

mutual
/-- The outline over several lines, the first of which stands at the given depth. -/
def spread (depth : Nat) : Outline → String
  | .atom text => text
  | .field name value => name ++ ": " ++ value.spread depth
  | .wrap name value => block depth (name ++ "(") ")" [value.spread (depth + 1) ++ ","]
  | .record name parts complete =>
    block depth (name ++ " \x7b") "\x7d"
      (spreadAll (depth + 1) parts ++ if complete then [] else [".."])
  | .list items => block depth "[" "]" (spreadAll (depth + 1) items)
  | .set items => block depth "\x7b" "\x7d" (spreadAll (depth + 1) items)

/-- Each outline over several lines, with a comma behind it. -/
def spreadAll (depth : Nat) : List Outline → List String
  | [] => []
  | o :: os => (o.spread depth ++ ",") :: spreadAll depth os
end

/-- The outline with every part on a line of its own. -/
def pretty (o : Outline) : String :=
  o.spread 0

end Outline

end StackScript.Text
