import MorrowindScript.Bytes

/-!
# Floating point literals

A floating point literal is an optional minus sign, decimal digits and at most one full stop. The
value is accumulated in single precision, digit by digit, so that it has the very bits the game's
own tools write: the whole part from the left, the fraction from the right.
-/

namespace MorrowindScript.Literal

open Bytes

/-- The largest finite single-precision number. -/
def maxSingle : Float32 := Float32.ofBits 0x7F7FFFFF

/-- A tenth of the largest finite number; a whole part above it cannot take a further digit. -/
def tenthOfMaxSingle : Float32 := maxSingle / 10

/-- A digit as a single-precision number. -/
def singleDigit (c : UInt8) : Float32 :=
  Float32.ofNat (digitValue c)

/-- Reads the fraction after the full stop: each digit is added to what follows it, and the sum
divided by ten. -/
def fraction? : Bytes → Option Float32
  | [] => some 0
  | c :: rest =>
    match fraction? rest with
    | none => none
    | some value => if isDigit c then some ((value + singleDigit c) / 10) else none

/-- Reads further digits of the whole part after those worth `value`, then the fraction. -/
def whole? : Float32 → Bytes → Option Float32
  | value, [] => some value
  | value, c :: rest =>
    if isDigit c then
      if value > tenthOfMaxSingle || value * 10 > maxSingle - singleDigit c then none
      else whole? (value * 10 + singleDigit c) rest
    else if c == dot then (fraction? rest).map (value + ·)
    else none

/-- Reads a floating point literal. -/
def single? : Bytes → Option Float32
  | [] => none
  | c :: rest =>
    if c == minus then
      if rest.isEmpty then none else (whole? 0 rest).map (- ·)
    else whole? 0 (c :: rest)

end MorrowindScript.Literal
