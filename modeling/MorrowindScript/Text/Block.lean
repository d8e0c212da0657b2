import MorrowindScript.Text.Utf8

/-!
# Text read in blocks

A long text is read block by block. A block holds whole characters: what is left of a character at
the end of a block is taken over into the next one, which then has the less room for new bytes. If a
reader stops at a fault, the bytes behind the block that holds the fault have not been read.

* `Piece`: a stretch of text that is judged as a whole.
* `Piece.blockStart`: where the block starts that holds a piece.
* `Utf8.pieces`: the characters of a text as pieces.
-/

namespace MorrowindScript

/-- A stretch of text that is judged as a whole. -/
structure Piece where
  /-- The number of bytes it takes. -/
  length : Nat
  /-- The number of bytes, from its start, that must have been read before it is judged. -/
  need : Nat
  deriving DecidableEq, Repr

namespace Piece

/-- Where the block starts that holds the last of some pieces, the first of which stands at `offset`
in the block that starts at `start`. -/
def blockStartFrom (size start offset : Nat) : List Piece → Nat
  | [] => start
  | p :: rest =>
    blockStartFrom size (if offset + p.need > start + size then offset else start)
      (offset + p.length) rest

/-- Where the block of at most `size` bytes starts that holds the last of some pieces. -/
def blockStart (size : Nat) (pieces : List Piece) : Nat :=
  blockStartFrom size 0 0 pieces

end Piece

namespace Utf8

/-- The number of bytes that show that the byte `a`, followed by `rest`, starts no character. -/
def strayNeed (a : UInt8) (rest : Bytes) : Nat :=
  if 0xC2 ≤ a && a ≤ 0xDF then 2
  else if 0xE0 ≤ a && a ≤ 0xEF then
    match rest with
    | b :: _ => if isSecondOfThree a b then 3 else 2
    | [] => 2
  else if 0xF0 ≤ a && a ≤ 0xF4 then
    match rest with
    | b :: c :: _ => if isSecondOfFour a b then (if isTail c then 4 else 3) else 2
    | [b] => if isSecondOfFour a b then 3 else 2
    | [] => 2
  else 1

/-- The glyph and the piece at a byte `a` that `rest` follows. -/
def pieceAt (a : UInt8) (rest : Bytes) : Glyph × Piece :=
  match glyphAt a rest with
  | .char code => (.char code, ⟨(encode code).length, (encode code).length⟩)
  | .stray b => (.stray b, ⟨1, strayNeed b rest⟩)

/-- The glyphs of a text with their pieces, the first `skip` bytes of which are already read. -/
def piecesAfter : Nat → Bytes → List (Glyph × Piece)
  | _, [] => []
  | skip + 1, _ :: rest => piecesAfter skip rest
  | 0, b :: rest =>
    let piece := pieceAt b rest
    piece :: piecesAfter (piece.2.length - 1) rest

/-- The glyphs of a text with their pieces. -/
def pieces (s : Bytes) : List (Glyph × Piece) :=
  piecesAfter 0 s

end Utf8

end MorrowindScript
