import MorrowindScript.Block
import MorrowindScript.Diagnostic
import MorrowindScript.Position

/-!
# What can be wrong with a script

A script that does not compile has a fault in one of its lines. Faults are structural if they break
the layout of the script, and otherwise concern something that cannot be resolved or encoded.

* `Fault`: the causes, with their kind `Fault.kind` and their wording `Fault.message`.
* `CompileError`: a fault and the line it is reported at.
* `LineWarning`: a warning and the line it is about.
-/

namespace MorrowindScript

open Bytes

/-- The classes of faults. -/
inductive FaultKind where
  /-- Something cannot be resolved or encoded. -/
  | reference
  /-- The layout of the script is broken. -/
  | structural
  deriving DecidableEq, Repr

/-- The name of a class. -/
def FaultKind.name : FaultKind → String
  | reference => "reference"
  | structural => "structural"

/-- The name of the class with the given number, or the number itself if there is no such class. -/
def FaultKind.nameOfNumber (number : Int) : Bytes :=
  if number == 0 then ascii reference.name
  else if number == 1 then ascii structural.name
  else ascii "ErrorKind(" ++ decimalInt number ++ ascii ")"

/-- The largest size of an expression or a condition in bytes. -/
def maxExpressionSize : Nat := 255

/-- Why a script does not compile. -/
inductive Fault where
  /-- The script has no lines. -/
  | emptyScript
  /-- The first line does not open a script. -/
  | noBegin (line : Bytes)
  /-- The first line does not name the script. -/
  | noName
  /-- No line ends the script. -/
  | noEnd (name : Bytes)
  /-- A line follows the end of the script. -/
  | codeAfterEnd (line : Bytes)
  /-- The body of a block has no end. -/
  | unmatchedBlock (kind : LineKind)
  /-- The body of a block is too long to be skipped. -/
  | longBlock (kind : LineKind) (lines : Nat)
  /-- A declaration does not name a local. -/
  | namelessDeclaration (kind : LocalKind)
  /-- An assignment has no word between target and value. -/
  | noTo (line : Bytes)
  /-- An assignment has an arrow without an object before it. -/
  | noObject (line : Bytes)
  /-- An assignment has no value. -/
  | noValue (line : Bytes)
  /-- The target of an assignment is a variable of another object that does not exist. -/
  | unknownForeign (name : Bytes)
  /-- The target of an assignment does not exist. -/
  | unknownVariable (name : Bytes)
  /-- The value of an assignment is too long. -/
  | longExpression (size : Nat)
  /-- A condition cannot be read. -/
  | badCondition (error : ConditionError)
  /-- A condition is too long. -/
  | longCondition (kind : LineKind) (size : Nat)
  /-- A qualified call lacks its object or its command. -/
  | incompleteCall (line : Bytes)
  /-- A line is no statement and no call. -/
  | unrecognized (line : Bytes)
  /-- A call has a fault. -/
  | badCall (error : CallError)
  deriving DecidableEq, Repr

namespace Fault

/-- The class of a fault. An operator without operand is structural. -/
def kind : Fault → FaultKind
  | emptyScript | noBegin _ | noName | noEnd _ | codeAfterEnd _ | unmatchedBlock _
  | longBlock _ _ => .structural
  | badCondition error => if error.error.failure.isDangling then .structural else .reference
  | _ => .reference

/-- The fault in words. -/
def message : Fault → Bytes
  | emptyScript => ascii "empty script"
  | noBegin line => ascii "script must start with begin, got " ++ Quoted.text line
  | noName => ascii "begin without script name"
  | noEnd name => ascii "script " ++ name ++ ascii " has no end"
  | codeAfterEnd line => ascii "code after end: " ++ Quoted.text line
  | unmatchedBlock kind => ascii "no matching end of " ++ ascii kind.name ++ ascii " block"
  | longBlock kind lines =>
    ascii kind.name ++ ascii " block has " ++ decimal lines ++ ascii " lines, at most " ++
      decimal Block.maxLength ++ ascii " are allowed"
  | namelessDeclaration kind => ascii kind.name ++ ascii " declaration without name"
  | noTo line => ascii "set without \"to\": " ++ Quoted.text line
  | noObject line => ascii "missing object name before -> in " ++ Quoted.text line
  | noValue line => ascii "set without value: " ++ Quoted.text line
  | unknownForeign name => ascii "couldn't find foreign variable " ++ Quoted.text name
  | unknownVariable name => ascii "unknown variable " ++ Quoted.text name
  | longExpression size =>
    ascii "expression is " ++ decimal size ++ ascii " bytes long, at most " ++
      decimal maxExpressionSize ++ ascii " are allowed"
  | badCondition error => ascii "bad condition: " ++ error.message
  | longCondition kind size =>
    ascii "condition of " ++ ascii kind.name ++ ascii " is " ++ decimal size ++
      ascii " bytes long, at most " ++ decimal maxExpressionSize ++ ascii " are allowed"
  | incompleteCall line => ascii "incomplete qualified call " ++ Quoted.text line
  | unrecognized line => ascii "unrecognized line " ++ Quoted.text line
  | badCall error => error.message

end Fault

/-- A fault in a script. -/
structure CompileError where
  /-- The number of the line the fault is reported at; zero if the script has no lines. -/
  line : Nat
  /-- The fault. -/
  fault : Fault
  deriving DecidableEq, Repr

/-- How a compile error reads, given its line and its message; a line below one is left out. -/
def compileErrorText (line : Int) (message : Bytes) : Bytes :=
  if line > 0 then ascii "compile error at line " ++ decimalInt line ++ ascii ": " ++ message
  else ascii "compile error: " ++ message

namespace CompileError

/-- The error in words. -/
def message (e : CompileError) : Bytes :=
  compileErrorText e.line e.fault.message

/-- The error in words, after its place in the named source. -/
def messageIn (file : Bytes) (e : CompileError) : Bytes :=
  (Position.mk file e.line).describe e.fault.message

end CompileError

/-- A warning about a line. -/
structure LineWarning where
  /-- The number of the line. -/
  line : Nat
  /-- The warning. -/
  warning : Warning
  deriving DecidableEq, Repr

namespace LineWarning

/-- The place of the warning in the named source. -/
def position (file : Bytes) (w : LineWarning) : Position :=
  ⟨file, w.line⟩

/-- The line of a log that reports the warning, after `label`. -/
def logLine (label file : Bytes) (w : LineWarning) : Bytes :=
  label ++ (w.position file).describe (ascii "warning: " ++ w.warning.message) ++ [lineFeed]

end LineWarning

end MorrowindScript
