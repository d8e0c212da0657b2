import MorrowindScript.CodePage.Table
import MorrowindScript.Text.Block
import MorrowindScript.Text.Quoted

/-!
# Code pages

Script text is kept in a single-byte code page, while sources and data sets are written in UTF-8.
Text is converted on its way in and back on its way out. The first half of every code page is ASCII.

* `CodePage.toChar`, `CodePage.ofChar?`: the characters of a code page.
* `TextEncoding.encode`, `TextEncoding.decode`: conversion of text from and to UTF-8.
* `TextEncoding.lookup`: the encoding of a given name.
-/

namespace MorrowindScript

open Bytes

/-- The code pages of the game. -/
inductive CodePage where
  /-- For western European languages. -/
  | western
  /-- For central European languages. -/
  | central
  /-- For languages in Cyrillic script. -/
  | cyrillic
  deriving DecidableEq, Repr

namespace CodePage

/-- The name of a code page. -/
def name : CodePage → String
  | western => "cp1252"
  | central => "cp1250"
  | cyrillic => "cp1251"

/-- The characters of the second half of a code page. -/
def table : CodePage → Array Nat
  | western => westernTable
  | central => centralTable
  | cyrillic => cyrillicTable

/-- The character of a byte. -/
def toChar (page : CodePage) (b : UInt8) : Nat :=
  if b < 0x80 then b.toNat else page.table[b.toNat - 0x80]?.getD Utf8.replacement

/-- The byte of a character, if the code page has it. -/
def ofChar? (page : CodePage) (code : Nat) : Option UInt8 :=
  if code < 0x80 then some (UInt8.ofNat code)
  else if code == Utf8.replacement then none
  else (page.table.findIdx? (· == code)).map fun i => UInt8.ofNat (0x80 + i)

/-- The byte of a glyph; a stray byte has none. -/
def ofGlyph? (page : CodePage) : Glyph → Option UInt8
  | .char code => page.ofChar? code
  | .stray _ => none

/-- The text of a code page in UTF-8. -/
def decode (page : CodePage) (s : Bytes) : Bytes :=
  s.flatMap fun b => Utf8.encode (page.toChar b)

/-- The bytes of glyphs up to the first one that has none, and whether all have one. -/
def encodeGlyphs (page : CodePage) : List Glyph → Bytes × Bool
  | [] => ([], true)
  | g :: rest =>
    match page.ofGlyph? g with
    | none => ([], false)
    | some b =>
      let (bytes, complete) := page.encodeGlyphs rest
      (b :: bytes, complete)

end CodePage

/-- The encodings text can be kept in. -/
inductive TextEncoding where
  /-- A code page. -/
  | page (page : CodePage)
  /-- UTF-8, which needs no conversion and is not checked. -/
  | utf8
  deriving DecidableEq, Repr

/-- What is said about a character that an encoding does not have. -/
def unsupportedCharacter : Bytes :=
  ascii "encoding: rune not supported by encoding."

namespace TextEncoding

/-- The name of an encoding. -/
def name : TextEncoding → String
  | page p => p.name
  | utf8 => "utf8"

/-- The names of the encodings, in lower case. -/
def names : List (String × TextEncoding) :=
  [("", page .western), ("cp1252", page .western), ("windows-1252", page .western),
    ("win1252", page .western), ("utf8", utf8), ("utf-8", utf8), ("cp1250", page .central),
    ("windows-1250", page .central), ("cp1251", page .cyrillic), ("windows-1251", page .cyrillic)]

/-- The lower case of a character as far as it is a letter of a name. Besides the capitals of ASCII,
the dotted capital I has its lower case there. -/
def lowerChar (code : Nat) : Nat :=
  if code < 0x80 then (lowerByte (UInt8.ofNat code)).toNat
  else if code == 0x130 then 0x69
  else code

/-- A name in lower case. -/
def lowerName (s : Bytes) : List Nat :=
  (Utf8.glyphs s).map fun g => lowerChar g.code

/-- The encoding of a given name in any case. -/
def lookup (name : Bytes) : Option TextEncoding :=
  (names.find? fun entry => entry.1.toList.map Char.toNat == lowerName name).map (·.2)

/-- What is said about a name that no encoding has. -/
def unknownMessage (name : Bytes) : Bytes :=
  ascii "charset: unknown encoding " ++ Quoted.text name

/-- The text in the encoding up to the first character that it does not have, and whether it has
them all. -/
def encodeUpTo (encoding : TextEncoding) (s : Bytes) : Bytes × Bool :=
  match encoding with
  | page p => p.encodeGlyphs (Utf8.glyphs s)
  | utf8 => (s, true)

/-- The UTF-8 text in the encoding, or nothing if it does not have all characters. -/
def encode? (encoding : TextEncoding) (s : Bytes) : Option Bytes :=
  match encoding.encodeUpTo s with
  | (bytes, true) => some bytes
  | (_, false) => none

/-- The number of bytes of a source that are read at once. -/
def blockSize : Nat := 4096

/-- What has not been read of a text when its conversion ends. A code page reads block by block, up to
the first character that it does not have. -/
def unread (encoding : TextEncoding) (s : Bytes) : Bytes :=
  match encoding with
  | page p =>
    let pieces := Utf8.pieces s
    match pieces.findIdx? fun piece => (p.ofGlyph? piece.1).isNone with
    | none => []
    | some i => s.drop (Piece.blockStart blockSize ((pieces.take (i + 1)).map (·.2)) + blockSize)
  | utf8 => []

/-- The text of the encoding in UTF-8. -/
def decode (encoding : TextEncoding) (s : Bytes) : Bytes :=
  match encoding with
  | page p => p.decode s
  | utf8 => s

/-- What is said about a text that cannot be converted to the encoding. -/
def encodeMessage (encoding : TextEncoding) : Bytes :=
  ascii "charset: encode to " ++ ascii encoding.name ++ ascii ": " ++ unsupportedCharacter

end TextEncoding

end MorrowindScript
