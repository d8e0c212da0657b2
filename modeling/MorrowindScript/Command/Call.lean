import MorrowindScript.Command.AnimationGroup
import MorrowindScript.Command.Effect
import MorrowindScript.Command.Table
import MorrowindScript.Datum
import MorrowindScript.Diagnostic
import MorrowindScript.Literal.Integer
import MorrowindScript.Literal.Single
import MorrowindScript.Scan
import MorrowindScript.Scope

/-!
# Calls of commands

A call is a name followed by parameters. The command is looked up under the number of parameters,
and its form says how each of them is checked and written. A message takes any number of parameters
from two on and has an encoding of its own.

* `Command.invoke`: encodes a call.
-/

namespace MorrowindScript

open Bytes

/-- Encoding of a call: it may warn, and it may fail. -/
abbrev CallOutcome := Outcome Warning CallError

namespace Operand

/-- Checks and encodes the parameter at `index` of `command`. -/
def encode (scope : Scope) (command : Bytes) (index : Nat) (value : Bytes) (operand : Operand) :
    CallOutcome Datum :=
  let expect (expected : Expectation) : Option Datum → CallOutcome Datum :=
    Outcome.ofOption (.badParameter command index value expected)
  match operand with
  | text => pure (.text value)
  | text16 => pure (.text16 value)
  | short => expect .short ((Literal.short? value).map .short)
  | shortByte =>
    expect .short ((Literal.short? value).map fun v => .byte (UInt8.ofInt v))
  | long => expect .long ((Literal.long? value).map .long)
  | single => expect .single ((Literal.single? value).map fun v => .single v.toBits)
  | axis =>
    match value with
    | [] => Outcome.fail (.badParameter command index value .axis)
    | c :: _ => do
      let letter := upperByte c
      unless letter == 0x58 || letter == 0x59 || letter == 0x5A do
        Outcome.warn (.invalidAxis value command)
      pure (.byte letter)
  | singleOrLocal =>
    expect .singleOrLocal
      ((Literal.single? value).map (fun v => .single v.toBits)
        <|> (scope.slot? value).map .paddedSlot)
  | group => expect .animationGroup ((AnimationGroup.find? value).map fun n => .short n)
  | effect => expect .effect ((Effect.index? value).map fun n => .byte (UInt8.ofNat n))
  | length => pure (.byte (UInt8.ofNat value.length))
  | literal b => pure (.byte b)

/-- Encodes the parameters from `index` on after a layout. Parameters that the layout has no place
for are ignored. -/
def encodeAll (scope : Scope) (command : Bytes) :
    Nat → List Operand → List Bytes → CallOutcome (List Datum)
  | _, [], _ => pure []
  | index, literal b :: operands, values => do
    let rest ← encodeAll scope command index operands values
    pure (.byte b :: rest)
  | index, operand :: operands, values => do
    let first ← operand.encode scope command index (values.headD [])
    let rest ← encodeAll scope command (index + 1) operands values.tail
    pure (first :: rest)

end Operand

namespace Command

/-- Reads all parameters from `index` on with `read`. -/
def readAll {α : Type} (command : Bytes) (expected : Expectation) (read : Bytes → Option α) :
    Nat → List Bytes → CallOutcome (List α)
  | _, [] => pure []
  | index, value :: values => do
    let first ← Outcome.ofOption (.badParameter command index value expected) (read value)
    let rest ← readAll command expected read (index + 1) values
    pure (first :: rest)

/-- Wandering: three numbers, then the number of idle chances but one, then the chances. The first
chance is checked but not written. -/
def wander (command : Bytes) (last : UInt8) (values : List Bytes) : CallOutcome Invocation := do
  let numbers ← readAll command .single Literal.single? 1 (values.take 3)
  let idles ← readAll command .short Literal.short? 4 (values.drop 3)
  pure
    { opcode := .aiWander
      marker := []
      operands := numbers.map (fun v => .single v.toBits) ++
        [.short (values.length - 4 : Nat)] ++ (idles.drop 1).map .short ++ [.byte last] }

/-- The removal of a magic effect by its number; a number without an effect is only warned of. -/
def removeEffects (command value : Bytes) : CallOutcome Invocation := do
  let index ← Outcome.ofOption (.badParameter command 1 value .short) (Literal.short? value)
  if index < 0 || index ≥ Effect.names.length then
    Outcome.warn (.effectOutOfRange index Effect.names.length)
  pure { opcode := .removeEffects, marker := [], operands := [.short index] }

/-- The deletion of an object, switched by zero or one. -/
def setDelete (command value : Bytes) : CallOutcome Invocation := do
  let switch ← Outcome.ofOption (.badParameter command 1 value .zeroOrOne)
    ((Literal.short? value).filter fun v => v == 0 || v == 1)
  pure { opcode := .setDelete, marker := [], operands := [.short switch] }

/-- Encodes the parameters of a call by the form of its command; `command` is the name as written. -/
def invokeForm (scope : Scope) (inExpression : Bool) (command : Bytes) (values : List Bytes) :
    Form → CallOutcome Invocation
  | .layout opcode marker operands => do
    let data ← Operand.encodeAll scope command 1 operands values
    pure { opcode, marker := if inExpression then marker else [], operands := data }
  | .wander last => wander command last values
  | .removeEffects => removeEffects command (values.headD [])
  | .setDelete => setDelete command (values.headD [])

/-- A parameter of a message that names a variable, as an argument. -/
def messageArgument? (scope : Scope) (value : Bytes) : Option Datum :=
  (scope.slot? value).map .slot <|> (scope.global? value).map .globalName

/-- The leading parameters that name variables, and the parameters from the first other one on. -/
def messageArguments (scope : Scope) : List Bytes → List Datum × List Bytes
  | [] => ([], [])
  | value :: values =>
    match messageArgument? scope value with
    | some argument =>
      let (arguments, buttons) := messageArguments scope values
      (argument :: arguments, buttons)
    | none => ([], value :: values)

/-- A message: its text, its arguments and the labels of its buttons. -/
def message (scope : Scope) (text : Bytes) (values : List Bytes) : Invocation :=
  let (arguments, buttons) := messageArguments scope values
  { opcode := .messageBox
    marker := []
    operands := [.text16 text, .byte (UInt8.ofNat arguments.length)] ++ arguments ++
      [.byte (UInt8.ofNat buttons.length)] ++ buttons.map .zeroText }

/-- Encodes a call that is given by its name as written and its parameters. -/
def invokeFields (scope : Scope) (inExpression : Bool) (command : Bytes) (values : List Bytes) :
    CallOutcome Invocation :=
  if values.length > 1 && command.lower == ascii "messagebox" then
    if values.length > maxMessageParameters then Outcome.fail (.tooManyParameters command)
    else pure (message scope (values.headD []) values.tail)
  else if values.length > maxParameters then do
    Outcome.warn (.noCommands values.length)
    Outcome.fail .noMatch
  else
    match find? command.lower values.length with
    | some found => invokeForm scope inExpression command values found.form
    | none => Outcome.fail .noMatch

/-- Encodes a call. `inExpression` says that it is an operand of an expression, where some commands
carry marker bytes. -/
def invoke (scope : Scope) (inExpression : Bool) (line : Bytes) : CallOutcome Invocation :=
  if line.trim.isEmpty then Outcome.fail .noMatch
  else do
    unless Scan.isBalanced line do
      Outcome.warn (.unbalancedQuotes line)
    match Scan.fields line with
    | [] => Outcome.fail .noMatch
    | command :: values => invokeFields scope inExpression command values

end Command

end MorrowindScript
