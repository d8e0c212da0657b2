import MorrowindScript.Text.Utf8
import MorrowindScript.Text.Printable

/-!
# Quoted text in messages

Messages show script text between double quotes. Printable characters stand for themselves, the
usual control characters have one-letter escapes, a stray byte is written by its two hexadecimal
digits and any other character by its code point.
-/

namespace MorrowindScript.Quoted

open Bytes

/-- The letter after the backslash for a character that has an escape of its own. -/
def letterEscape (code : Nat) : Option String :=
  match code with
  | 0x07 => some "a"
  | 0x08 => some "b"
  | 0x09 => some "t"
  | 0x0A => some "n"
  | 0x0B => some "v"
  | 0x0C => some "f"
  | 0x0D => some "r"
  | 0x22 => some "\""
  | 0x5C => some "\\"
  | _ => none

/-- A glyph as it stands inside the quotes. -/
def glyph : Glyph → Bytes
  | .stray byte => ascii "\\x" ++ hexDigits hexDigit 2 byte.toNat
  | .char code =>
    match letterEscape code with
    | some letter => ascii "\\" ++ ascii letter
    | none =>
      if Printable.isPrintable code then Utf8.encode code
      else if code < 0x20 || code == 0x7F then ascii "\\x" ++ hexDigits hexDigit 2 code
      else if code < 0x10000 then ascii "\\u" ++ hexDigits hexDigit 4 code
      else ascii "\\U" ++ hexDigits hexDigit 8 code

/-- A text between double quotes. -/
def text (s : Bytes) : Bytes :=
  [quote] ++ (Utf8.glyphs s).flatMap glyph ++ [quote]

/-- A list of quoted texts between square brackets. -/
def list (items : List Bytes) : Bytes :=
  ascii "[" ++ joinWith [space] (items.map text) ++ ascii "]"

/-- A character by its code point, and between single quotes if it is printable. -/
def codePoint (code : Nat) : Bytes :=
  ascii "U+" ++ hexDigits hexDigitUpper 4 code ++
    if Printable.isPrintable code then ascii " '" ++ Utf8.encode code ++ ascii "'" else []

end MorrowindScript.Quoted
