import MorrowindScript.Command.Call
import MorrowindScript.Expression.Basic

/-!
# Reading expressions and conditions

An expression is not cut into tokens. The first operator outside quotes and brackets is where the
text is divided, unless the next one binds no tighter, in which case the text is divided there; both
halves are read the same way. So up to three operands are grouped as usual, from left to right and
with products before sums. Of longer chains no more than two operators are compared at a time, and
`8-4-2-1` is read as `(8-4)-(2-1)`.

* `Atom.parse`: reads an operand.
* `Expression.parse`: reads an expression.
* `Condition.parse`: reads a condition.
-/

namespace MorrowindScript

open Bytes

/-- Reading of an expression: it may warn, and it may fail. -/
abbrev ParseOutcome := Outcome Warning ParseError

/-- Divides a text of the form `object.variable` at a dot and resolves it. -/
def Scope.dotted? (scope : Scope) (text : Bytes) (dotAt : Nat) : Bytes × Option Slot :=
  let object := stripQuotes (text.take dotAt)
  (object, scope.foreign? object (text.drop (dotAt + 1)))

/-- Reads an operand that is a call. -/
def Atom.parseCall (scope : Scope) (text : Bytes) : ParseOutcome Atom :=
  let call := (Command.invoke scope true text).mapError fun
    | .noMatch => ⟨text, .unmatched⟩
    | error => ⟨text, .badCall error⟩
  do
    let code ← call
    pure (.call text code)

/-- Reads an operand. Numbers come before locals, locals before globals, globals before variables of
other objects, and anything else must be a call. -/
def Atom.parse (scope : Scope) (text : Bytes) : ParseOutcome Atom :=
  match Literal.single? text with
  | some value => pure (.literal text value.toBits)
  | none =>
    match scope.slot? text with
    | some slot => pure (.localVariable text slot)
    | none =>
      match scope.global? text with
      | some name => pure (.globalVariable name)
      | none =>
        match Scan.dotPosition text with
        | some i =>
          match scope.dotted? text i with
          | (object, some slot) => pure (.foreignVariable text object slot)
          | (_, none) => Outcome.fail ⟨text, .unknownForeign⟩
        | none => Atom.parseCall scope text

/-- Where an expression with the given first operator is divided, and at which operator. -/
def division (text : Bytes) (first : Nat × Arithmetic) : Nat × Arithmetic :=
  match Scan.nextOperator text (first.1 + 1) with
  | some next => if next.2.bindsNoTighter first.2 then next else first
  | none => first

theorem division_lt_length {text : Bytes} {first : Nat × Arithmetic}
    (h : Scan.nextOperator text 0 = some first) : (division text first).1 < text.length := by
  have hfirst := Scan.nextOperator_lt_length h
  unfold division
  split
  · next next hnext =>
    split
    · exact Scan.nextOperator_lt_length hnext
    · exact hfirst
  · exact hfirst

namespace Expression

/-- A text that starts with a minus sign may be a number as a whole. -/
def negativeLiteral? (text : Bytes) : Option Atom :=
  if text.head? == some minus then
    (Literal.single? text).map fun value => .literal text value.toBits
  else none

/-- Reads an expression. -/
def parse (scope : Scope) (source : Bytes) : ParseOutcome Expression :=
  let text := Scan.unwrap source
  match h : Scan.nextOperator text 0 with
  | none => do
    let a ← Atom.parse scope text
    pure (.atom a)
  | some first =>
    match negativeLiteral? text with
    | some a => pure (.atom a)
    | none =>
      let middle := division text first
      if middle.1 = 0 then Outcome.fail ⟨text, .operatorFirst⟩
      else if middle.1 = text.length - 1 then Outcome.fail ⟨text, .operatorLast⟩
      else
        have inside : (division (Scan.unwrap source) first).1 < (Scan.unwrap source).length :=
          division_lt_length h
        have shorter := Scan.length_unwrap_le source
        do
          let left ← parse scope (text.take middle.1)
          let right ← parse scope (text.drop (middle.1 + 1))
          pure (.binary middle.2 left right)
termination_by source.length
decreasing_by
  · simp only [List.length_take]; omega
  · simp only [List.length_drop]; omega

end Expression

namespace Condition

/-- Reads a condition. One without a relation is accepted with a warning. -/
def parse (scope : Scope) (text : Bytes) : Outcome Warning ConditionError Condition :=
  match Scan.comparison text with
  | none => do
    let value ← (Expression.parse scope text).mapError fun e => ⟨none, e⟩
    Outcome.warn (.noComparison text)
    pure (.bare value)
  | some (i, relation) => do
    let left ← (Expression.parse scope (text.take i)).mapError fun e => ⟨some .left, e⟩
    let right ← (Expression.parse scope (text.drop (i + relation.bytes.length))).mapError
      fun e => ⟨some .right, e⟩
    pure (.comparison left relation right)

end Condition

end MorrowindScript
