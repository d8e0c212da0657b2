import MorrowindScript.Bytes

/-!
# Integer literals

An integer literal is an optional minus sign and one or more decimal digits. The magnitude, not the
value, is limited, so the least two's complement value of a width cannot be written.
-/

namespace MorrowindScript.Literal

open Bytes

/-- The largest magnitude of a short literal. -/
def maxShort : Nat := 32767

/-- The largest magnitude of a long literal. -/
def maxLong : Nat := 2147483647

/-- Reads further digits after those worth `value`, refusing every value above `limit`. -/
def digits? (limit : Nat) : Nat → Bytes → Option Nat
  | value, [] => some value
  | value, c :: rest =>
    if !isDigit c || value > limit / 10 || value * 10 > limit - digitValue c then none
    else digits? limit (value * 10 + digitValue c) rest

/-- Reads an integer literal whose magnitude is at most `limit`. -/
def integer? (limit : Nat) : Bytes → Option Int
  | [] => none
  | c :: rest =>
    if c == minus then
      if rest.isEmpty then none else (digits? limit 0 rest).map fun n => -(n : Int)
    else (digits? limit 0 (c :: rest)).map fun n => (n : Int)

/-- Reads a 16-bit integer literal. -/
def short? (s : Bytes) : Option Int :=
  integer? maxShort s

/-- Reads a 32-bit integer literal. -/
def long? (s : Bytes) : Option Int :=
  integer? maxLong s

end MorrowindScript.Literal
