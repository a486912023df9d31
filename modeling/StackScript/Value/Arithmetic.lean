import StackScript.Binary32.Arithmetic
import StackScript.Value.Error

/-!
# Operators on values

Text can be added to text, and `mono` is neutral in such a sum. All other operations are on
numbers, with `mono` read as zero: two integers give an exact integer or a fault, and a float on
either side makes both operands floats.
-/

namespace StackScript

/-- A number of the language. -/
inductive Number where
  | int (n : Int32)
  | float (x : Binary32)
deriving DecidableEq

/-- A number as a float; an integer is rounded. -/
def Number.toBinary32 : Number → Binary32
  | .int n => Binary32.ofInt n.toInt
  | .float x => x

/-- A value read as a number; text and truth values are none. -/
def Value.number? : Value → Option Number
  | .mono => some (.int 0)
  | .int n => some (.int n)
  | .float x => some (.float x)
  | .bool _ | .text _ => none

/-- The integer lies in the range of the language's integers. -/
def InRange (n : Int) : Prop :=
  -2147483648 ≤ n ∧ n ≤ 2147483647

instance (n : Int) : Decidable (InRange n) :=
  inferInstanceAs (Decidable (_ ∧ _))

namespace Operator

/-- The operation on unbounded integers; division goes toward zero. -/
def onInt : Operator → Int → Int → Int
  | .add, a, b => a + b
  | .sub, a, b => a - b
  | .mul, a, b => a * b
  | .div, a, b => a.tdiv b

/-- The operation on floats. -/
def onBinary32 : Operator → Binary32 → Binary32 → Binary32
  | .add => Binary32.add
  | .sub => Binary32.sub
  | .mul => Binary32.mul
  | .div => Binary32.div

/-- The operation on integers of the language, which fails where the exact result does not fit. -/
def checked (op : Operator) (a b : Int32) : Except OperationError Value :=
  if op = .div ∧ b = 0 then .error .divisionByZero
  else
    let exact := op.onInt a.toInt b.toInt
    if InRange exact then .ok (.int (Int32.ofInt exact)) else .error (.integerOverflow op)

/-- The operation on numbers: on integers if both are, else on floats. -/
def onNumber (op : Operator) : Number → Number → Except OperationError Value
  | .int a, .int b => op.checked a b
  | a, b => .ok (.float (op.onBinary32 a.toBinary32 b.toBinary32))

/-- The sum of two values one of which is text: both are, or the other is `mono`. -/
def joinText? : Value → Value → Option String
  | .text a, .text b => some (a ++ b)
  | .mono, .text s => some s
  | .text s, .mono => some s
  | _, _ => none

/-- The operation on numeric values. -/
def onNumeric (op : Operator) (left right : Value) : Except OperationError Value :=
  match left.number?, right.number? with
  | some a, some b => op.onNumber a b
  | _, _ => .error (.invalidOperands op left.kind right.kind)

/-- Applies an operator to two values. -/
def apply (op : Operator) (left right : Value) : Except OperationError Value :=
  match op, joinText? left right with
  | .add, some s => .ok (.text s)
  | op, _ => op.onNumeric left right

end Operator

end StackScript
