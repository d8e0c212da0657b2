import MorrowindScript.Opcode
import MorrowindScript.Variable

/-!
# Operands in compiled form

The pieces an instruction is made of after its opcode. Numbers are little-endian and wrap to their
width; the length in front of a text wraps to its width too.

* `Datum`: one piece, with its bytes given by `Datum.encode`.
* `Slot.reference`, `Slot.padded`, `Slot.target`: the three forms of a reference to a local.
* `Invocation`: a call of a command in compiled form.
-/

namespace MorrowindScript

open Bytes

namespace Reference

/-- A reference in an expression: the tag and the whole index. -/
def whole (tag : UInt8) (index : UInt16) : Bytes :=
  tag :: littleEndian 2 index.toNat

/-- A reference in place of a number: the tag, the low byte of the index and two zeros. -/
def padded (tag : UInt8) (index : UInt16) : Bytes :=
  [tag, index.toUInt8, 0, 0]

/-- A reference as the target of an assignment: the tag, the low byte of the index and a zero. -/
def target (tag : UInt8) (index : UInt16) : Bytes :=
  [tag, index.toUInt8, 0]

end Reference

namespace Slot

/-- The slot as an operand of an expression. -/
def reference (slot : Slot) : Bytes :=
  Reference.whole slot.kind.tag slot.index

/-- The slot in place of a number. -/
def padded (slot : Slot) : Bytes :=
  Reference.padded slot.kind.tag slot.index

/-- The slot as the target of an assignment. -/
def target (slot : Slot) : Bytes :=
  Reference.target slot.kind.tag slot.index

end Slot

/-- A text after its length in one byte. -/
def textWithLength (s : Bytes) : Bytes :=
  UInt8.ofNat s.length :: s

/-- A text after its length in two bytes. -/
def textWithLength16 (s : Bytes) : Bytes :=
  littleEndian 2 s.length ++ s

/-- A text with a zero at its end, after the length of both in one byte. -/
def zeroTerminated (s : Bytes) : Bytes :=
  UInt8.ofNat (s.length + 1) :: s ++ [0]

/-- A global: its letter and its name. -/
def globalReference (name : Bytes) : Bytes :=
  0x47 :: textWithLength name

/-- A variable of another object: the letter, the object and the slot. -/
def foreignReference (object : Bytes) (slot : Slot) : Bytes :=
  0x72 :: textWithLength object ++ slot.reference

/-- A piece of an instruction. -/
inductive Datum where
  /-- One byte. -/
  | byte (b : UInt8)
  /-- A 16-bit integer. -/
  | short (v : Int)
  /-- A 32-bit integer. -/
  | long (v : Int)
  /-- A single-precision number, by its bits. -/
  | single (bits : UInt32)
  /-- A text with a one-byte length. -/
  | text (s : Bytes)
  /-- A text with a two-byte length. -/
  | text16 (s : Bytes)
  /-- A text with a one-byte length and a zero at its end. -/
  | zeroText (s : Bytes)
  /-- A local as a message argument. -/
  | slot (slot : Slot)
  /-- A local in place of a number. -/
  | paddedSlot (slot : Slot)
  /-- A global as a message argument. -/
  | globalName (name : Bytes)
  deriving DecidableEq, Repr

/-- The bytes of a piece. -/
def Datum.encode : Datum → Bytes
  | byte b => [b]
  | short v => littleEndianInt 2 v
  | long v => littleEndianInt 4 v
  | single bits => littleEndian 4 bits.toNat
  | text s => textWithLength s
  | text16 s => textWithLength16 s
  | zeroText s => zeroTerminated s
  | slot s => s.reference
  | paddedSlot s => s.padded
  | globalName name => 0x47 :: zeroTerminated name

/-- A call of a command in compiled form. -/
structure Invocation where
  /-- The code of the command. -/
  opcode : Opcode
  /-- The bytes some commands have after their code inside an expression. -/
  marker : Bytes
  /-- The operands. -/
  operands : List Datum
  deriving DecidableEq, Repr

/-- The bytes of a call. -/
def Invocation.encode (call : Invocation) : Bytes :=
  call.opcode.encode ++ call.marker ++ call.operands.flatMap Datum.encode

end MorrowindScript
