import MorrowindScript.Text.Quoted

/-!
# Bytes in hexadecimal digits

* `Hex.encode`: two lower-case digits for each byte.
* `Hex.decode`: the bytes of such a text, in either case.
* `Hex.spaced`: two upper-case digits for each byte, with spaces between the bytes.
* `Hex.dump`: sixteen bytes a line, with their offset and their characters.
-/

namespace MorrowindScript.Hex

open Bytes

/-- Two lower-case digits for each byte. -/
def encode (s : Bytes) : Bytes :=
  s.flatMap fun b => hexDigits hexDigit 2 b.toNat

/-- Two upper-case digits for each byte, with spaces between the bytes. -/
def spaced (s : Bytes) : Bytes :=
  joinWith [space] (s.map fun b => hexDigits hexDigitUpper 2 b.toNat)

/-! ## Reading -/

/-- The value of a digit in either case. -/
def digitValue? (c : UInt8) : Option Nat :=
  if isDigit c then some (c.toNat - 0x30)
  else if 0x61 ≤ c && c ≤ 0x66 then some (c.toNat - 0x61 + 10)
  else if 0x41 ≤ c && c ≤ 0x46 then some (c.toNat - 0x41 + 10)
  else none

/-- Why a text is not made of pairs of digits. -/
inductive DecodeError where
  /-- A byte is no digit. -/
  | invalidByte (byte : UInt8)
  /-- The last digit has no partner. -/
  | oddLength
  deriving DecidableEq, Repr

/-- The error in words. -/
def DecodeError.message : DecodeError → Bytes
  | invalidByte byte => ascii "encoding/hex: invalid byte: " ++ Quoted.codePoint byte.toNat
  | oddLength => ascii "encoding/hex: odd length hex string"

/-- The bytes of a text in pairs of digits. A byte that is no digit is reported before a missing
partner. -/
def decode : Bytes → Except DecodeError Bytes
  | [] => .ok []
  | [c] => if (digitValue? c).isSome then .error .oddLength else .error (.invalidByte c)
  | c :: d :: rest =>
    match digitValue? c, digitValue? d with
    | none, _ => .error (.invalidByte c)
    | _, none => .error (.invalidByte d)
    | some high, some low =>
      match decode rest with
      | .ok bytes => .ok (UInt8.ofNat (16 * high + low) :: bytes)
      | .error e => .error e

/-! ## Dumps -/

/-- The number of bytes in a line of a dump. -/
def rowSize : Nat := 16

/-- A byte as a character of a dump: itself if it is printable ASCII, else a full stop. -/
def shown (b : UInt8) : UInt8 :=
  if b < 0x20 || b > 0x7E then dot else b

/-- Bytes in digits, a space after each. -/
def cells (s : Bytes) : Bytes :=
  s.flatMap fun b => hexDigits hexDigit 2 b.toNat ++ [space]

/-- The line of a dump for the bytes `row` at `offset`. -/
def dumpRow (offset : Nat) (row : Bytes) : Bytes :=
  hexDigits hexDigit 8 offset ++ ascii "  " ++
    Utf8.padRight 25 (cells (row.take 8)) ++ Utf8.padRight 25 (cells (row.drop 8)) ++
    ascii "|" ++ row.map shown ++ ascii "|" ++ [lineFeed]

/-- The dump of bytes that start at `offset`. -/
def dumpFrom (offset : Nat) : Bytes → Bytes
  | [] => []
  | b :: rest =>
    dumpRow offset ((b :: rest).take rowSize) ++
      dumpFrom (offset + rowSize) ((b :: rest).drop rowSize)
termination_by s => s.length
decreasing_by simp only [List.length_drop, List.length_cons, rowSize]; omega

/-- The bytes sixteen a line, each line with its offset, its digits and its characters. -/
def dump (s : Bytes) : Bytes :=
  dumpFrom 0 s

end MorrowindScript.Hex
