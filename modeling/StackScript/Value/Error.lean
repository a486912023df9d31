import StackScript.Value.Basic

/-!
# Operators and their faults

The four binary operators of the language, the ways in which an operation on values can fail, and
the access to the payload of a value, which fails on a value of another kind.
-/

namespace StackScript

/-- A binary operator. -/
inductive Operator where
  | add
  | sub
  | mul
  | div
deriving DecidableEq, Repr

/-- The sign of an operator. -/
def Operator.symbol : Operator → String
  | .add => "+"
  | .sub => "-"
  | .mul => "*"
  | .div => "/"

/-- The name of the operation that an operator denotes. -/
def Operator.operation : Operator → String
  | .add => "addition"
  | .sub => "subtraction"
  | .mul => "multiplication"
  | .div => "division"

/-- The operator with the given sign. -/
def Operator.ofSymbol? (symbol : String) : Option Operator :=
  [.add, .sub, .mul, .div].find? fun op => op.symbol == symbol

/-- Why an operation on values failed. -/
inductive OperationError where
  /-- A value of one kind was needed, and one of another kind was found. -/
  | typeMismatch (expected found : Kind)
  /-- The operator is not defined on operands of these kinds. -/
  | invalidOperands (op : Operator) (left right : Kind)
  /-- The divisor is zero. -/
  | divisionByZero
  /-- The exact integer result does not fit. -/
  | integerOverflow (op : Operator)
deriving DecidableEq, Repr

namespace OperationError

/-- The wording of a fault, in the pieces in which it is written. -/
def pieces : OperationError → List String
  | .typeMismatch expected found =>
    ["type mismatch: expected ", expected.name, ", got ", found.name]
  | .invalidOperands op left right =>
    ["operator `", op.symbol, "` cannot be applied to `", left.name, "` and `", right.name, "`"]
  | .divisionByZero => ["division by zero"]
  | .integerOverflow op => ["integer overflow in ", op.operation]

/-- The wording of a fault. -/
def message (e : OperationError) : String :=
  String.join e.pieces

/-- The fault lies in the kinds of the values, not in their payload. -/
def isTypeFault : OperationError → Bool
  | .typeMismatch .. | .invalidOperands .. => true
  | .divisionByZero | .integerOverflow .. => false

end OperationError

namespace Value

/-- The payload of an int. -/
def getInt : Value → Except OperationError Int32
  | .int n => .ok n
  | v => .error (.typeMismatch .int v.kind)

/-- The payload of a float. -/
def getFloat : Value → Except OperationError Binary32
  | .float x => .ok x
  | v => .error (.typeMismatch .float v.kind)

/-- The payload of a bool. -/
def getBool : Value → Except OperationError Bool
  | .bool b => .ok b
  | v => .error (.typeMismatch .bool v.kind)

/-- The payload of a text. -/
def getText : Value → Except OperationError String
  | .text s => .ok s
  | v => .error (.typeMismatch .string v.kind)

end Value

end StackScript
