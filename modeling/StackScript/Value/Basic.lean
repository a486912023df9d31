import StackScript.Decimal.Layout
import StackScript.Text.Outline
import StackScript.Text.Quoted

/-!
# Values

The values of the language, their kinds, and the texts by which they are shown:

* `Value.display` is what a script prints;
* `Value.repr` is the same with text in quotes, so that it stands on one line;
* `Value.outline` names the kind as well.
-/

namespace StackScript

/-- The kind of a value. -/
inductive Kind where
  | mono
  | int
  | float
  | bool
  | string
deriving DecidableEq, Repr

/-- The keyword of the language that names a kind. -/
def Kind.name : Kind → String
  | .mono => "mono"
  | .int => "int"
  | .float => "float"
  | .bool => "bool"
  | .string => "string"

/-- A value of the language. The value `mono` stands for the absence of any other. -/
inductive Value where
  | mono
  | int (n : Int32)
  | float (x : Binary32)
  | bool (b : Bool)
  | text (s : String)
deriving DecidableEq

namespace Value

instance : Inhabited Value := ⟨.mono⟩

/-- The kind of a value. -/
def kind : Value → Kind
  | .mono => .mono
  | .int _ => .int
  | .float _ => .float
  | .bool _ => .bool
  | .text _ => .string

/-- The value is `mono`. -/
def isMono : Value → Bool
  | .mono => true
  | _ => false

/-- The characters of a text value. -/
def text? : Value → Option String
  | .text s => some s
  | _ => none

/-- Equality of values as the language sees it: floats compare as numbers. -/
def same : Value → Value → Bool
  | .mono, .mono => true
  | .int m, .int n => m == n
  | .float x, .float y => x.numEq y
  | .bool a, .bool b => a == b
  | .text s, .text t => s == t
  | _, _ => false

/-- The text that a script prints for a value. -/
def display : Value → String
  | .mono => "(mono)"
  | .int n => toString n.toInt
  | .float x => x.display
  | .bool true => "true"
  | .bool false => "false"
  | .text s => s

/-- The text of a value in a listing: as displayed, but text is quoted. -/
def repr : Value → String
  | .text s => Text.quote s
  | v => v.display

/-- A value with its kind. -/
def outline : Value → Text.Outline
  | .mono => .atom "Empty"
  | .int n => .wrap "Int" (.atom (toString n.toInt))
  | .float x => .wrap "Float" (.atom x.debug)
  | .bool b => .wrap "Bool" (.atom (display (.bool b)))
  | .text s => .wrap "Str" (.atom (Text.quote s))

end Value

end StackScript
