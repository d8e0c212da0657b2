import MorrowindScript.Datum
import MorrowindScript.Token

/-!
# Expressions and conditions

An expression is a tree of arithmetic operators over operands. It is compiled in postfix order, each
item after a space: the left operand, the right operand, the operator.

* `Expression`: the trees, with their bytes `Expression.encode` and their text in stack order
  `Expression.stack`.
* `Condition`: two expressions with a relation between them, or one expression alone.
-/

namespace MorrowindScript

open Bytes

/-- An operand without operators. -/
inductive Atom where
  /-- A number, as written and by the bits of its value. -/
  | literal (text : Bytes) (bits : UInt32)
  /-- A local of the script, as written. -/
  | localVariable (name : Bytes) (slot : Slot)
  /-- A global, in its registered spelling. -/
  | globalVariable (name : Bytes)
  /-- A variable of another object: the whole operand as written, the object, and the slot. -/
  | foreignVariable (source object : Bytes) (slot : Slot)
  /-- A call of a command, as written and encoded. -/
  | call (source : Bytes) (code : Invocation)
  deriving DecidableEq, Repr

/-- An arithmetic expression. -/
inductive Expression where
  /-- An operand. -/
  | atom (a : Atom)
  /-- An operator with its two operands. -/
  | binary (op : Arithmetic) (left right : Expression)
  deriving DecidableEq, Repr

namespace Atom

/-- The bytes of an operand. A number is written as in the source. -/
def encode : Atom → Bytes
  | literal text _ => text
  | localVariable _ slot => slot.reference
  | globalVariable name => globalReference name
  | foreignVariable _ object slot => foreignReference object slot
  | call _ code => 0x58 :: code.encode

/-- The operand as it is listed. -/
def content : Atom → Bytes
  | literal text _ => text
  | localVariable name _ => name
  | globalVariable name => name
  | foreignVariable source _ _ => source
  | call source _ => source

end Atom

/-- An item after a space; an empty item leaves no trace. -/
def spaced (item : Bytes) : Bytes :=
  if item.isEmpty then [] else space :: item

namespace Expression

/-- The bytes of an expression. -/
def encode : Expression → Bytes
  | atom a => spaced a.encode
  | binary op left right => left.encode ++ right.encode ++ spaced [op.byte]

/-- The items of an expression in the order in which they are evaluated. -/
def stack : Expression → Bytes
  | atom a => spaced a.content
  | binary op left right => left.stack ++ right.stack ++ spaced [op.byte]

end Expression

/-- The condition of a branch or a loop. -/
inductive Condition where
  /-- A comparison. -/
  | comparison (left : Expression) (relation : Relation) (right : Expression)
  /-- An expression that is compared with nothing. -/
  | bare (value : Expression)
  deriving DecidableEq, Repr

/-- The bytes of a condition; a zero marks one that compares nothing. -/
def Condition.encode : Condition → Bytes
  | comparison left relation right =>
    left.encode ++ space :: relation.bytes ++ right.encode
  | bare value => value.encode ++ [0]

end MorrowindScript
