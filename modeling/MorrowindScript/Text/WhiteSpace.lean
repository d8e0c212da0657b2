import MorrowindScript.Text.Utf8

/-!
# White space

The characters that Unicode counts as white space: more than the blanks that matter in a script.
-/

namespace MorrowindScript.WhiteSpace

/-- The ranges of white space, by their first and last characters. -/
def ranges : List (Nat × Nat) :=
  [(0x09, 0x0D), (0x20, 0x20), (0x85, 0x85), (0xA0, 0xA0), (0x1680, 0x1680), (0x2000, 0x200A),
    (0x2028, 0x2029), (0x202F, 0x202F), (0x205F, 0x205F), (0x3000, 0x3000)]

/-- The character is white space. -/
def isSpace (code : Nat) : Bool :=
  ranges.any fun (low, high) => low ≤ code && code ≤ high

/-- The glyph is white space; a stray byte is not. -/
def isSpaceGlyph : Glyph → Bool
  | .char code => isSpace code
  | .stray _ => false

/-- The text without its white space. -/
def remove (s : Bytes) : Bytes :=
  ((Utf8.glyphs s).filter (!isSpaceGlyph ·)).flatMap Glyph.bytes

end MorrowindScript.WhiteSpace
