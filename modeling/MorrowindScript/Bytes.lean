/-!
# Byte strings

Script text is stored in a single-byte code page, so the compiler works on bytes and never on
characters. Case folding and trimming touch ASCII bytes only and leave every other byte alone.

* `ascii` writes a literal as bytes.
* `Bytes.lower`, `Bytes.equalFold`: ASCII case folding.
* `Bytes.trimLeft`, `Bytes.trimRight`, `Bytes.trim`: removal of spaces and tabs.
* `Bytes.littleEndian`, `Bytes.ofLittleEndian`: fixed-width numbers.
* `Bytes.decimal`, `Bytes.hexDigits`: numbers as text.
-/

namespace MorrowindScript

/-- Text as the game stores it: one byte a character, in some legacy code page. -/
abbrev Bytes := List UInt8

/-- The bytes of a literal written in ASCII. -/
def ascii (s : String) : Bytes :=
  s.toList.map fun c => c.toNat.toUInt8

namespace Bytes

/-! ## Bytes with a meaning of their own -/

/-- The line feed. -/
def lineFeed : UInt8 := 0x0A

/-- The carriage return. -/
def carriageReturn : UInt8 := 0x0D

/-- The horizontal tab. -/
def tab : UInt8 := 0x09

/-- The space. -/
def space : UInt8 := 0x20

/-- The double quote, which opens and closes a quoted span. -/
def quote : UInt8 := 0x22

/-- The minus sign. -/
def minus : UInt8 := 0x2D

/-- The full stop. -/
def dot : UInt8 := 0x2E

/-- The opening bracket. -/
def openBracket : UInt8 := 0x28

/-- The closing bracket. -/
def closeBracket : UInt8 := 0x29

/-- The greater-than sign. -/
def greater : UInt8 := 0x3E

/-- The equals sign. -/
def equals : UInt8 := 0x3D

/-- Spaces and tabs are blank; line ends are not. -/
def isBlank (c : UInt8) : Bool :=
  c == space || c == tab

/-- The decimal digits. -/
def isDigit (c : UInt8) : Bool :=
  0x30 ≤ c && c ≤ 0x39

/-- The value of a decimal digit. -/
def digitValue (c : UInt8) : Nat :=
  c.toNat - 0x30

/-! ## Case -/

/-- The lower case of an ASCII capital, and any other byte itself. -/
def lowerByte (c : UInt8) : UInt8 :=
  if 0x41 ≤ c && c ≤ 0x5A then c + 0x20 else c

/-- The upper case of an ASCII small letter, and any other byte itself. -/
def upperByte (c : UInt8) : UInt8 :=
  if 0x61 ≤ c && c ≤ 0x7A then c - 0x20 else c

/-- The text with ASCII capitals in lower case. -/
def lower (s : Bytes) : Bytes :=
  s.map lowerByte

/-- The two texts agree up to ASCII case. -/
def equalFold (a b : Bytes) : Bool :=
  a.lower == b.lower

@[simp]
theorem length_lower (s : Bytes) : s.lower.length = s.length := by
  simp [lower]

/-! ## Blanks and quotes at the ends -/

/-- The text without its leading blanks. -/
def trimLeft (s : Bytes) : Bytes :=
  s.dropWhile isBlank

/-- The text without its trailing blanks. -/
def trimRight (s : Bytes) : Bytes :=
  (s.reverse.dropWhile isBlank).reverse

/-- The text without blanks at either end. -/
def trim (s : Bytes) : Bytes :=
  s.trimLeft.trimRight

theorem length_trimLeft_le (s : Bytes) : s.trimLeft.length ≤ s.length :=
  (List.dropWhile_sublist isBlank).length_le

theorem length_trimRight_le (s : Bytes) : s.trimRight.length ≤ s.length := by
  have h := (List.dropWhile_sublist isBlank (l := s.reverse)).length_le
  simpa [trimRight] using h

theorem length_trim_le (s : Bytes) : s.trim.length ≤ s.length :=
  Nat.le_trans (length_trimRight_le _) (length_trimLeft_le s)

/-- The text without one pair of double quotes around it. -/
def stripQuotes : Bytes → Bytes
  | [] => []
  | c :: rest =>
    if c == quote && rest.getLast? == some quote then rest.dropLast else c :: rest

/-- The text without one carriage return at its end. -/
def dropCarriageReturn (s : Bytes) : Bytes :=
  if s.getLast? == some carriageReturn then s.dropLast else s

/-! ## Lines -/

/-- The pieces of a text between occurrences of `separator`; there is always at least one. -/
def splitOn (separator : UInt8) : Bytes → List Bytes
  | [] => [[]]
  | c :: rest =>
    if c == separator then [] :: splitOn separator rest
    else
      match splitOn separator rest with
      | [] => [[c]]
      | piece :: pieces => (c :: piece) :: pieces

/-- The physical lines of a source, without their line feeds. -/
def lines (s : Bytes) : List Bytes :=
  splitOn lineFeed s

/-! ## Numbers -/

/-- The `width` little-endian bytes of `n`; higher digits are dropped. -/
def littleEndian : Nat → Nat → Bytes
  | 0, _ => []
  | width + 1, n => UInt8.ofNat (n % 256) :: littleEndian width (n / 256)

/-- The number with the given little-endian bytes. -/
def ofLittleEndian : Bytes → Nat
  | [] => 0
  | b :: rest => b.toNat + 256 * ofLittleEndian rest

@[simp]
theorem length_littleEndian (width n : Nat) : (littleEndian width n).length = width := by
  induction width generalizing n with
  | zero => rfl
  | succ width ih => simp [littleEndian, ih]

/-- The `width` little-endian bytes of an integer in two's complement. -/
def littleEndianInt (width : Nat) (v : Int) : Bytes :=
  littleEndian width (BitVec.ofInt (8 * width) v).toNat

/-- A number in decimal digits. -/
def decimal (n : Nat) : Bytes :=
  (Nat.toDigits 10 n).map fun c => c.toNat.toUInt8

/-- An integer in decimal digits, with a minus sign if it is negative. -/
def decimalInt (v : Int) : Bytes :=
  if v < 0 then minus :: decimal v.natAbs else decimal v.natAbs

/-- The lower-case hexadecimal digit of a number below sixteen. -/
def hexDigit (n : Nat) : UInt8 :=
  if n < 10 then UInt8.ofNat (0x30 + n) else UInt8.ofNat (0x61 + (n - 10))

/-- The upper-case hexadecimal digit of a number below sixteen. -/
def hexDigitUpper (n : Nat) : UInt8 :=
  upperByte (hexDigit n)

/-- The last `width` hexadecimal digits of `n`, written with `digit`, most significant first. -/
def hexDigits (digit : Nat → UInt8) : Nat → Nat → Bytes
  | 0, _ => []
  | width + 1, n => hexDigits digit width (n / 16) ++ [digit (n % 16)]

/-! ## Columns -/

/-- The text filled up on the left with `filler` to at least `width` bytes. -/
def padLeft (filler : UInt8) (width : Nat) (s : Bytes) : Bytes :=
  List.replicate (width - s.length) filler ++ s

/-- The pieces one after another with `separator` between them. -/
def joinWith (separator : Bytes) (pieces : List Bytes) : Bytes :=
  (pieces.intersperse separator).flatten

end Bytes

end MorrowindScript
