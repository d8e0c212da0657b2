import MorrowindScript.Instruction
import MorrowindScript.SourceLine

/-!
# Compiled scripts

A compiled script is a list of statements, one for each line that is not a declaration. Its bytecode
is the bytes of the statements one after another, so every statement has a place in it.

* `Statement`, `Program`: statements and compiled scripts.
* `Program.data`: the bytecode.
* `Program.placed`: the statements with their places.
-/

namespace MorrowindScript

open Bytes

/-- A line and what it compiles to. -/
structure Statement where
  /-- The line. -/
  line : SourceLine
  /-- The object the instruction is about, if the line names one. -/
  object : Option Bytes
  /-- The instruction. -/
  instruction : Instruction
  deriving DecidableEq, Repr

namespace Statement

/-- The bytes of a statement. -/
def encode (s : Statement) : Bytes :=
  match s.object with
  | some object => qualifierBytes object ++ s.instruction.encode
  | none => s.instruction.encode

/-- The code a statement starts with. -/
def opcode (s : Statement) : Opcode :=
  if s.object.isSome then .qualifier else s.instruction.opcode

end Statement

/-- A compiled script. -/
structure Program where
  /-- The name of the script. -/
  id : Bytes
  /-- Its locals. -/
  locals : Locals
  /-- Its statements, in order. -/
  statements : List Statement
  /-- The source, as it was given. -/
  source : Bytes
  deriving DecidableEq, Repr

/-- A statement at its place. -/
structure PlacedStatement where
  /-- The number of bytes before the statement. -/
  offset : Nat
  /-- The bytes of the statement. -/
  bytes : Bytes
  /-- The statement. -/
  statement : Statement
  deriving DecidableEq, Repr

/-- Puts statements one after another, the first at `offset`. -/
def placeFrom (offset : Nat) : List Statement → List PlacedStatement
  | [] => []
  | s :: rest => ⟨offset, s.encode, s⟩ :: placeFrom (offset + s.encode.length) rest

namespace Program

/-- The bytecode. -/
def data (p : Program) : Bytes :=
  p.statements.flatMap Statement.encode

/-- The statements at their places in the bytecode. -/
def placed (p : Program) : List PlacedStatement :=
  placeFrom 0 p.statements

end Program

end MorrowindScript
