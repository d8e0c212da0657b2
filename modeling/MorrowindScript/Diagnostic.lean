import MorrowindScript.Text.Quoted
import MorrowindScript.Outcome

/-!
# What can be wrong with a call or an expression

Causes are values; their wording is in the `message` functions and nowhere else.

* `CallError`: why a call of a command could not be encoded.
* `ParseError`: why an expression could not be parsed, and which part of it.
* `ConditionError`: on which side of a comparison that happened.
* `Warning`: what is worth telling but does not stop the compiler.
-/

namespace MorrowindScript

open Bytes

/-- What a parameter should have been. -/
inductive Expectation where
  /-- A 16-bit integer literal. -/
  | short
  /-- A 32-bit integer literal. -/
  | long
  /-- A floating point literal. -/
  | single
  /-- The letter of an axis. -/
  | axis
  /-- A floating point literal or the name of a local. -/
  | singleOrLocal
  /-- The name of an animation group. -/
  | animationGroup
  /-- The setting name of a magic effect. -/
  | effect
  /-- One of the literals zero and one. -/
  | zeroOrOne
  deriving DecidableEq, Repr

/-- The expectation in words. -/
def Expectation.description : Expectation → String
  | short => "a short value"
  | long => "a long value"
  | single => "a floating point value"
  | axis => "an axis"
  | singleOrLocal => "a float value or local variable"
  | animationGroup => "an animation group"
  | effect => "a magic effect setting name"
  | zeroOrOne => "0 or 1"

/-- The largest number of parameters of a message: its text, its arguments and its buttons. -/
def maxMessageParameters : Nat := 256

/-- Why a call could not be encoded. -/
inductive CallError where
  /-- No command has the name and the number of parameters. -/
  | noMatch
  /-- The parameter at `index`, counted from one, is not what the command expects. -/
  | badParameter (command : Bytes) (index : Nat) (value : Bytes) (expected : Expectation)
  /-- A message has more parameters than fit its counts. -/
  | tooManyParameters (command : Bytes)
  deriving DecidableEq, Repr

/-- The error in words. -/
def CallError.message : CallError → Bytes
  | noMatch => ascii "no matching function"
  | badParameter command index value expected =>
    command ++ ascii ": parameter " ++ decimal index ++ ascii " " ++ Quoted.text value ++
      ascii " is not " ++ ascii expected.description
  | tooManyParameters command =>
    command ++ ascii ": more than " ++ decimal maxMessageParameters ++ ascii " parameters"

/-- Why an expression could not be parsed. -/
inductive ParseFailure where
  /-- It starts with an operator. -/
  | operatorFirst
  /-- It ends with an operator. -/
  | operatorLast
  /-- It names a variable of another object that does not exist. -/
  | unknownForeign
  /-- It is no literal, no variable and no call. -/
  | unmatched
  /-- It is a call with a fault. -/
  | badCall (error : CallError)
  deriving DecidableEq, Repr

namespace ParseFailure

/-- The failure in words, without its cause. -/
def summary : ParseFailure → String
  | operatorFirst => "operator at beginning of expression"
  | operatorLast => "operator at end of expression"
  | unknownForeign => "couldn't find foreign reference"
  | unmatched => "couldn't match expression with any function or variable"
  | badCall _ => "bad function call"

/-- An operator has no operand on one side. -/
def isDangling : ParseFailure → Bool
  | operatorFirst | operatorLast => true
  | _ => false

/-- What caused the failure. -/
def cause? : ParseFailure → Option Bytes
  | operatorFirst | operatorLast => some (ascii "dangling operator")
  | badCall error => some error.message
  | _ => none

end ParseFailure

/-- A failure to parse an expression or a part of it. -/
structure ParseError where
  /-- The part that could not be parsed. -/
  text : Bytes
  /-- What is wrong with it. -/
  failure : ParseFailure
  deriving DecidableEq, Repr

/-- The error in words. -/
def ParseError.message (e : ParseError) : Bytes :=
  ascii e.failure.summary ++ ascii " in " ++ Quoted.text e.text ++
    match e.failure.cause? with
    | some cause => ascii ": " ++ cause
    | none => []

/-- The sides of a comparison. -/
inductive Side where
  /-- Before the relation. -/
  | left
  /-- After the relation. -/
  | right
  deriving DecidableEq, Repr

/-- A failure to parse a condition. -/
structure ConditionError where
  /-- The side that could not be parsed, if the condition is a comparison. -/
  side : Option Side
  /-- What is wrong there. -/
  error : ParseError
  deriving DecidableEq, Repr

/-- The error in words. -/
def ConditionError.message (e : ConditionError) : Bytes :=
  (match e.side with
    | some .left => ascii "left side of comparison: "
    | some .right => ascii "right side of comparison: "
    | none => []) ++ e.error.message

/-- What is worth telling about a line that compiles. -/
inductive Warning where
  /-- A quoted span of a call is not closed. -/
  | unbalancedQuotes (line : Bytes)
  /-- No command takes that many parameters. -/
  | noCommands (parameters : Nat)
  /-- The axis is none of the three that exist. -/
  | invalidAxis (axis command : Bytes)
  /-- The effect number is not below `count`. -/
  | effectOutOfRange (index : Int) (count : Nat)
  /-- The condition compares nothing. -/
  | noComparison (condition : Bytes)
  /-- The value of an assignment is kept as text. -/
  | storedAsText (value : Bytes) (error : ParseError)
  deriving DecidableEq, Repr

/-- The warning in words. -/
def Warning.message : Warning → Bytes
  | unbalancedQuotes line => ascii "unbalanced quotes in " ++ Quoted.text line
  | noCommands parameters =>
    ascii "no functions defined for " ++ decimal parameters ++ ascii " parameters"
  | invalidAxis axis command =>
    ascii "invalid axis " ++ Quoted.text axis ++ ascii " for " ++ command
  | effectOutOfRange index count =>
    ascii "RemoveEffects index " ++ decimalInt index ++ ascii " is outside [0;" ++
      decimalInt (count - 1) ++ ascii "]"
  | noComparison condition =>
    ascii "no comparison operator in condition " ++ Quoted.text condition
  | storedAsText value error =>
    ascii "storing " ++ Quoted.text value ++ ascii " as text: " ++ error.message

end MorrowindScript
