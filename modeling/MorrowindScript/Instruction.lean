import MorrowindScript.Expression.Basic

/-!
# Instructions

What a statement compiles to. Every instruction starts with its opcode and says by its own bytes how
long it is.

* `Target`, `Value`: the two sides of an assignment.
* `Instruction`: the instructions, with their opcode and their bytes.
-/

namespace MorrowindScript

open Bytes

/-- The variable an assignment changes. -/
inductive Target where
  /-- A local of the script. -/
  | localVariable (slot : Slot)
  /-- A global, in its registered spelling. -/
  | globalVariable (name : Bytes)
  /-- A variable of another object, given by the registered spelling of the object. -/
  | foreignVariable (object : Bytes) (slot : Slot)
  deriving DecidableEq, Repr

/-- The bytes of a target. -/
def Target.encode : Target → Bytes
  | localVariable slot => slot.target
  | globalVariable name => globalReference name
  | foreignVariable object slot => foreignReference object slot

/-- The value of an assignment. -/
inductive Value where
  /-- A value that could be read. -/
  | expression (e : Expression)
  /-- A value that could not be read and is kept as it was written. -/
  | text (s : Bytes)
  deriving DecidableEq, Repr

namespace Value

/-- The bytes of a value without their length. -/
def content : Value → Bytes
  | expression e => e.encode
  | text s => space :: s

/-- The bytes of a value, after their length. -/
def encode (value : Value) : Bytes :=
  textWithLength value.content

end Value

/-- The statements that have a condition. -/
inductive ConditionalKind where
  /-- The first branch of a conditional. -/
  | ifBranch
  /-- A further branch of a conditional. -/
  | elseIfBranch
  /-- A loop. -/
  | whileLoop
  deriving DecidableEq, Repr

namespace ConditionalKind

/-- The code of the statement. -/
def opcode : ConditionalKind → Opcode
  | ifBranch => .ifBranch
  | elseIfBranch => .elseIfBranch
  | whileLoop => .whileLoop

/-- The kind of line the statement is written on. -/
def lineKind : ConditionalKind → LineKind
  | ifBranch => .ifBranch
  | elseIfBranch => .elseIfBranch
  | whileLoop => .whileLoop

end ConditionalKind

/-- An instruction. -/
inductive Instruction where
  /-- Assigns a value to a variable. -/
  | assignment (target : Target) (value : Value)
  /-- Skips the next `lines` lines unless the condition holds. -/
  | conditional (kind : ConditionalKind) (lines : Nat) (condition : Condition)
  /-- Starts the last branch of a conditional, which has `lines` lines. -/
  | elseBranch (lines : Nat)
  /-- Ends a conditional. -/
  | ifEnd
  /-- Ends a loop. -/
  | whileEnd
  /-- Leaves the script for this frame. -/
  | returning
  /-- Offers choices in a dialogue, kept as they were written. -/
  | choice (text : Bytes)
  /-- Calls a command. -/
  | call (invocation : Invocation)
  /-- Ends the script. -/
  | scriptEnd
  deriving DecidableEq, Repr

namespace Instruction

/-- The code of the instruction. -/
def opcode : Instruction → Opcode
  | assignment _ _ => .assignment
  | conditional kind _ _ => kind.opcode
  | elseBranch _ => .elseBranch
  | ifEnd => .ifEnd
  | whileEnd => .whileEnd
  | returning => .returning
  | choice _ => .choice
  | call invocation => invocation.opcode
  | scriptEnd => .scriptEnd

/-- The bytes after the code. -/
def operands : Instruction → Bytes
  | assignment target value => target.encode ++ value.encode
  | conditional _ lines condition => UInt8.ofNat lines :: textWithLength condition.encode
  | elseBranch lines => [UInt8.ofNat lines]
  | choice text => textWithLength16 text
  | call invocation => invocation.marker ++ invocation.operands.flatMap Datum.encode
  | ifEnd | whileEnd | returning | scriptEnd => []

/-- The bytes of the instruction. -/
def encode (instruction : Instruction) : Bytes :=
  instruction.opcode.encode ++ instruction.operands

end Instruction

/-- The bytes that make the next instruction be about another object. -/
def qualifierBytes (object : Bytes) : Bytes :=
  Opcode.qualifier.encode ++ textWithLength object

end MorrowindScript
