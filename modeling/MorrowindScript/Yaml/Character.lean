/-!
# Characters of a document

Data sets are written in YAML. The characters of such a document are blanks, line breaks and those
that carry meaning. The null character is none of them and stands for the end of the text.

* `Yaml.isBlank`, `Yaml.isBreak`: spacing within a line and between lines.
* `Yaml.isAllowed`: the characters a document may have.
-/

namespace MorrowindScript.Yaml

/-- What is read behind the last character. -/
def endOfText : Char := Char.ofNat 0

/-- The byte order mark. -/
def byteOrderMark : Char := Char.ofNat 0xFEFF

/-- Spaces and tabs. -/
def isBlank (c : Char) : Bool :=
  c == ' ' || c == '\t'

/-- Line feed and carriage return. -/
def isFeed (c : Char) : Bool :=
  c == '\n' || c == '\r'

/-- The separators of lines and of paragraphs, which folding keeps. -/
def isSeparator (c : Char) : Bool :=
  c.toNat == 0x2028 || c.toNat == 0x2029

/-- The characters between lines. -/
def isBreak (c : Char) : Bool :=
  isFeed c || c.toNat == 0x85 || isSeparator c

/-- A blank or a break. -/
def isSpacing (c : Char) : Bool :=
  isBlank c || isBreak c

/-- What follows the last character of a line. -/
def isLineEnd (c : Char) : Bool :=
  isBreak c || c == endOfText

/-- What may follow an indicator. -/
def isBoundary (c : Char) : Bool :=
  isBlank c || isLineEnd c

/-- What a break stands for in a text: a line feed, unless it is a separator. -/
def breakText (c : Char) : Char :=
  if isSeparator c then c else '\n'

/-- Letters, digits, underscore and hyphen. -/
def isNameChar (c : Char) : Bool :=
  c.isAlphanum || c == '_' || c == '-'

/-- The code points of the characters that a document may have. -/
def isAllowed (code : Nat) : Bool :=
  code == 0x09 || code == 0x0A || code == 0x0D || (0x20 ≤ code && code ≤ 0x7E) || code == 0x85 ||
    (0xA0 ≤ code && code ≤ 0xD7FF) || (0xE000 ≤ code && code ≤ 0xFFFD) ||
    (0x10000 ≤ code && code ≤ 0x10FFFF)

/-- The character of a code point, if a document may have it. -/
def char? (code : Nat) : Option Char :=
  if isAllowed code then some (Char.ofNat code) else none

/-- The value of a hexadecimal digit. -/
def hexDigit? (c : Char) : Option Nat :=
  if c.isDigit then some (c.toNat - '0'.toNat)
  else if 'a' ≤ c && c ≤ 'f' then some (c.toNat - 'a'.toNat + 10)
  else if 'A' ≤ c && c ≤ 'F' then some (c.toNat - 'A'.toNat + 10)
  else none

/-- The number that hexadecimal digits stand for, behind the digits of `value`. -/
def hexValue? (value : Nat) : List Char → Option Nat
  | [] => some value
  | c :: rest => (hexDigit? c).bind fun d => hexValue? (16 * value + d) rest

end MorrowindScript.Yaml
