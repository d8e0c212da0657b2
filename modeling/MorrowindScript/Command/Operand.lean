import MorrowindScript.Opcode

/-!
# The operands a command takes

A command is its name and the form of its operands. Most forms are a layout: one letter per
operand, with fixed bytes in between.
-/

namespace MorrowindScript

/-- One place of a layout. -/
inductive Operand where
  /-- A text with a one-byte length. -/
  | text
  /-- A text with a two-byte length. -/
  | text16
  /-- A 16-bit integer. -/
  | short
  /-- A 16-bit integer of which the low byte is written. -/
  | shortByte
  /-- A 32-bit integer. -/
  | long
  /-- A single-precision number. -/
  | single
  /-- The letter of an axis. -/
  | axis
  /-- A single-precision number or a local. -/
  | singleOrLocal
  /-- An animation group, written as a 16-bit integer. -/
  | group
  /-- A magic effect, written as one byte. -/
  | effect
  /-- A text of which only the length is written. -/
  | length
  /-- A fixed byte, which takes no parameter. -/
  | literal (b : UInt8)
  deriving DecidableEq, Repr

/-- How the parameters of a command are checked and written. -/
inductive Form where
  /-- An opcode, marker bytes for use inside an expression, and a layout. -/
  | layout (opcode : Opcode) (marker : Bytes) (operands : List Operand)
  /-- Wandering with idle chances; the byte is written at the end. -/
  | wander (last : UInt8)
  /-- The removal of a magic effect by its number. -/
  | removeEffects
  /-- The deletion of an object, switched on or off. -/
  | setDelete
  deriving DecidableEq, Repr

/-- A layout without marker bytes. -/
def Form.plain (code : UInt16) (operands : List Operand) : Form :=
  .layout ⟨code⟩ [] operands

/-- A layout with marker bytes. -/
def Form.marked (code : UInt16) (marker : Bytes) (operands : List Operand) : Form :=
  .layout ⟨code⟩ marker operands

/-- A command of the game. -/
structure Command where
  /-- The name in lower case. -/
  name : String
  /-- The form of its operands. -/
  form : Form
  deriving DecidableEq, Repr

end MorrowindScript
