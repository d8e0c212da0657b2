import MorrowindScript.Text.Block
import MorrowindScript.Yaml.Character

/-!
# The text of a document

A document is UTF-8, or UTF-16 if a byte order mark says so. It is read in blocks. A block with bytes
that are no character, or with a character that documents do not have, is not read at all, and only
what stands before it can be used.

Whether something belongs to something else depends on the lines and columns where they stand, so
every character keeps its place.

* `Yaml.Text`: what can be read of a document.
* `Yaml.Spot`: a character and its place.
* `Yaml.Text.spots`: the characters of a text with their places.
-/

namespace MorrowindScript.Yaml

/-! ## Reading bytes -/

/-- The number of bytes that are read at once. -/
def blockSize : Nat := 512

/-- A character of a text, unless it is none of a document, and the bytes it takes. -/
abbrev Reading := Option Char × Piece

/-- A character that takes `length` bytes. -/
def Reading.char (code length : Nat) : Reading :=
  (char? code, ⟨length, length⟩)

/-- A fault that is seen when `need` bytes are read; `left` bytes are there. If there are too few, it is
seen at the end only, when all before it has been read. -/
def Reading.fault (need left : Nat) : Reading :=
  (none, ⟨1, if left < need then blockSize + 1 else need⟩)

/-- The number of bytes that a character takes by its first byte. -/
def widthOf (b : UInt8) : Nat :=
  if 0xC0 ≤ b && b ≤ 0xDF then 2
  else if 0xE0 ≤ b && b ≤ 0xEF then 3
  else if 0xF0 ≤ b && b ≤ 0xF7 then 4
  else 1

/-- Reads UTF-8 up to the first fault, the first `skip` bytes being already read. -/
def readUtf8After : Nat → Bytes → List Reading
  | _, [] => []
  | skip + 1, _ :: rest => readUtf8After skip rest
  | 0, b :: rest =>
    match Utf8.glyphAt b rest with
    | .stray _ => [Reading.fault (widthOf b) (rest.length + 1)]
    | .char code =>
      let length := (Utf8.encode code).length
      let reading := Reading.char code length
      if reading.1.isSome then reading :: readUtf8After (length - 1) rest else [reading]

/-- The order of the two bytes of a UTF-16 unit. -/
inductive ByteOrder where
  /-- The low byte comes first. -/
  | littleEndian
  /-- The high byte comes first. -/
  | bigEndian
  deriving DecidableEq, Repr

/-- A UTF-16 unit. -/
def ByteOrder.unit (order : ByteOrder) (a b : UInt8) : Nat :=
  match order with
  | littleEndian => b.toNat * 256 + a.toNat
  | bigEndian => a.toNat * 256 + b.toNat

/-- The first unit of a pair. -/
def isHighSurrogate (unit : Nat) : Bool :=
  0xD800 ≤ unit && unit ≤ 0xDBFF

/-- The second unit of a pair. -/
def isLowSurrogate (unit : Nat) : Bool :=
  0xDC00 ≤ unit && unit ≤ 0xDFFF

/-- Reads UTF-16 up to the first fault. -/
def readUtf16 (order : ByteOrder) : Bytes → List Reading
  | [] => []
  | [_] => [Reading.fault 2 1]
  | a :: b :: rest =>
    let high := order.unit a b
    if isHighSurrogate high then
      match rest with
      | c :: d :: rest =>
        let low := order.unit c d
        if isLowSurrogate low then
          let reading := Reading.char (0x10000 + (high - 0xD800) * 1024 + (low - 0xDC00)) 4
          reading :: readUtf16 order rest
        else [Reading.fault 4 4]
      | _ => [Reading.fault 4 3]
    else
      let reading := Reading.char high 2
      if reading.1.isSome then reading :: readUtf16 order rest else [reading]

/-- What can be read of a document. -/
structure Text where
  /-- The characters. -/
  chars : List Char
  /-- Nothing follows them; otherwise there is a fault behind them. -/
  intact : Bool
  /-- The number of characters of the first block. -/
  firstBlock : Nat
  deriving DecidableEq, Repr

namespace Text

/-- The pieces that start before the byte `limit`; the first starts at `offset`. -/
def piecesBefore (limit offset : Nat) : List Piece → List Piece
  | [] => []
  | p :: rest =>
    if offset < limit then p :: piecesBefore limit (offset + p.length) rest else []

/-- The pieces that fit into a block with `room` bytes. -/
def piecesWithin (room : Nat) : List Piece → List Piece
  | [] => []
  | p :: rest =>
    if p.need ≤ room then p :: piecesWithin (room - p.length) rest else []

/-- The text of characters up to the first fault, the first of which stands at `offset`. -/
def ofReadings (offset : Nat) (readings : List Reading) : Text :=
  let pieces := readings.map (·.2)
  let chars := readings.filterMap (·.1)
  let intact := readings.all (·.1.isSome)
  let limit := Piece.blockStartFrom blockSize 0 offset pieces
  { chars := if intact then chars else chars.take (piecesBefore limit offset pieces).length
    intact
    firstBlock := (piecesWithin (blockSize - offset) pieces).length }

/-- The text of a document. A byte order mark says how it is encoded and is no part of it. -/
def ofBytes : Bytes → Text
  | 0xEF :: 0xBB :: 0xBF :: rest => ofReadings 3 (readUtf8After 0 rest)
  | 0xFF :: 0xFE :: rest => ofReadings 2 (readUtf16 .littleEndian rest)
  | 0xFE :: 0xFF :: rest => ofReadings 2 (readUtf16 .bigEndian rest)
  | bytes => ofReadings 0 (readUtf8After 0 bytes)

end Text

/-! ## Places -/

/-- A character and its place. -/
structure Spot where
  /-- The character. -/
  char : Char
  /-- The line it stands on, counted from zero. -/
  line : Nat
  /-- The number of characters before it on its line. -/
  column : Nat
  /-- The number of characters before it. -/
  index : Nat
  /-- It does not count where the next token is looked for. -/
  passed : Bool := false
  deriving DecidableEq, Repr

instance : Inhabited Spot := ⟨{ char := endOfText, line := 0, column := 0, index := 0 }⟩

/-- The characters with their places, the first of which is given, and the end of the text. Carriage
return and line feed are one break. -/
def spotsFrom (line column index : Nat) : List Char → List Spot
  | [] => [{ char := endOfText, line, column, index }]
  | '\r' :: '\n' :: rest =>
    { char := '\n', line, column, index } :: spotsFrom (line + 1) 0 (index + 2) rest
  | c :: rest =>
    { char := c, line, column, index } ::
      if isBreak c then spotsFrom (line + 1) 0 (index + 1) rest
      else spotsFrom line (column + 1) (index + 1) rest

/-- The characters of a text with their places. If the text starts with one more byte order mark, the
first characters of the lines of its first block do not count where a token is looked for. -/
def Text.spots (text : Text) : List Spot :=
  let spots := spotsFrom 0 0 0 text.chars
  if text.chars.head? == some byteOrderMark then
    spots.map fun s =>
      { s with passed := s.column == 0 && (s.index == 0 || s.index + 2 ≤ text.firstBlock) }
  else spots

namespace Spot

/-- The next place. -/
def head (rest : List Spot) : Spot :=
  rest.headD default

/-- The next character. -/
def peek (rest : List Spot) : Char :=
  (head rest).char

/-- The `n`-th character after the next one. -/
def peekAt (n : Nat) (rest : List Spot) : Char :=
  peek (rest.drop n)

/-- The characters of some places. -/
def chars (spots : List Spot) : List Char :=
  spots.map (·.char)

/-- The mark `c` three times at the start of a line, with nothing on the same line right behind it. -/
def isTripled (c : Char) (rest : List Spot) : Bool :=
  (head rest).column == 0 && chars (rest.take 3) == [c, c, c] && isBoundary (peekAt 3 rest)

/-- A mark between documents. -/
def isDocumentMark (rest : List Spot) : Bool :=
  isTripled '-' rest || isTripled '.' rest

end Spot

end MorrowindScript.Yaml
