import StackScript.Text.Case
import StackScript.Value.Arithmetic

/-!
# Commands

A command is an opcode with an operand. The four arithmetic opcodes differ only in their operator.
-/

namespace StackScript

/-- What a command does. -/
inductive Opcode where
  | push
  | arith (op : Operator)
  | call
deriving DecidableEq, Repr

namespace Opcode

/-- All opcodes. -/
def all : List Opcode :=
  [.push, .arith .add, .arith .sub, .arith .mul, .arith .div, .call]

/-- The word that stands for an opcode in a script. -/
def mnemonic : Opcode → String
  | .push => "PUSH"
  | .arith .add => "ADD"
  | .arith .sub => "SUB"
  | .arith .mul => "MUL"
  | .arith .div => "DIV"
  | .call => "CALL"

/-- The name of an opcode in an outline. -/
def label : Opcode → String
  | .push => "Push"
  | .arith .add => "Add"
  | .arith .sub => "Sub"
  | .arith .mul => "Mul"
  | .arith .div => "Div"
  | .call => "Call"

/-- The operator of an arithmetic opcode. -/
def operator? : Opcode → Option Operator
  | .arith op => some op
  | _ => none

/-- The opcode for which a word stands, in any mixture of upper and lower case. -/
def ofWord? (word : List Char) : Option Opcode :=
  all.find? fun opcode => Text.sameIgnoringCase opcode.mnemonic.toList word

end Opcode

/-- An opcode with its operand, which is `mono` where there is none. -/
structure Command where
  opcode : Opcode
  operand : Value := .mono
deriving DecidableEq

namespace Command

/-- The command on one line; an operand that is `mono` is left out. -/
def display (c : Command) : String :=
  if c.operand.isMono then c.opcode.mnemonic
  else c.opcode.mnemonic ++ " " ++ c.operand.repr

/-- The parts of a command. -/
def outline (c : Command) : Text.Outline :=
  .record "Command"
    [.field "opcode" (.atom c.opcode.label), .field "operand" c.operand.outline] true

end Command

/-- Executed commands with their number, which is kept so that it need not be counted. -/
structure History where
  /-- The commands, the newest first. -/
  commands : List Command
  len : Nat
  len_eq : len = commands.length

namespace History

@[ext] theorem ext {h h' : History} (hc : h.commands = h'.commands) : h = h' := by
  obtain ⟨commands, len, hlen⟩ := h
  obtain ⟨commands', len', hlen'⟩ := h'
  obtain rfl : commands = commands' := hc
  obtain rfl : len = len' := hlen.trans hlen'.symm
  rfl

/-- The history before the first command. -/
def empty : History := ⟨[], 0, rfl⟩

/-- The history with one more command. -/
def prepend (h : History) (c : Command) : History :=
  ⟨c :: h.commands, h.len + 1, by rw [List.length_cons, h.len_eq]⟩

/-- Of commands that were executed one after the other the last stands in front. -/
theorem commands_foldl_prepend (h : History) (cs : List Command) :
    (cs.foldl prepend h).commands = cs.reverse ++ h.commands := by
  induction cs generalizing h with
  | nil => rfl
  | cons c cs ih => rw [List.foldl_cons, ih, prepend, List.reverse_cons, List.append_assoc]; rfl

/-- Nothing was executed. -/
def isEmpty (h : History) : Bool :=
  h.len = 0

/-- The command that was executed last. -/
def latest? (h : History) : Option Command :=
  h.commands.head?

/-- The commands of a history. -/
def outline (h : History) : Text.Outline :=
  .list (h.commands.map Command.outline)

end History

end StackScript
