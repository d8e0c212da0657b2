import MorrowindScript.Bytes

/-!
# Characters in a byte string

A byte string is read as UTF-8 only where it is shown to a person: in quoted messages, in columns and
in file names. A byte that is not part of a well-formed character stands for itself.

* `Glyph`: a character or a stray byte.
* `Utf8.glyphs`: the glyphs of a byte string, from left to right.
* `Utf8.encode`: the bytes of a character.
-/

namespace MorrowindScript

/-- What a byte string shows at one place. -/
inductive Glyph where
  /-- A well-formed character, by its code point. -/
  | char (code : Nat)
  /-- A byte that no well-formed character covers. -/
  | stray (byte : UInt8)
  deriving DecidableEq, Repr

namespace Utf8

/-- The character shown in place of a stray byte. -/
def replacement : Nat := 0xFFFD

/-- A byte that continues a character. -/
def isTail (b : UInt8) : Bool :=
  0x80 ≤ b && b ≤ 0xBF

/-- The six low bits of a continuation byte. -/
def tailBits (b : UInt8) : Nat :=
  b.toNat % 64

/-- The bytes of a character. -/
def encode (code : Nat) : Bytes :=
  if code < 0x80 then [UInt8.ofNat code]
  else if code < 0x800 then
    [UInt8.ofNat (0xC0 + code / 64), UInt8.ofNat (0x80 + code % 64)]
  else if code < 0x10000 then
    [UInt8.ofNat (0xE0 + code / 4096), UInt8.ofNat (0x80 + code / 64 % 64),
      UInt8.ofNat (0x80 + code % 64)]
  else
    [UInt8.ofNat (0xF0 + code / 262144), UInt8.ofNat (0x80 + code / 4096 % 64),
      UInt8.ofNat (0x80 + code / 64 % 64), UInt8.ofNat (0x80 + code % 64)]

/-- The second byte of a three-byte character: no overlong form and no surrogate. -/
def isSecondOfThree (a b : UInt8) : Bool :=
  (if a == 0xE0 then 0xA0 else 0x80) ≤ b && b ≤ (if a == 0xED then 0x9F else 0xBF)

/-- The second byte of a four-byte character: no overlong form and nothing above U+10FFFF. -/
def isSecondOfFour (a b : UInt8) : Bool :=
  (if a == 0xF0 then 0x90 else 0x80) ≤ b && b ≤ (if a == 0xF4 then 0x8F else 0xBF)

/-- The glyph at a byte `a` that `rest` follows. -/
def glyphAt (a : UInt8) (rest : Bytes) : Glyph :=
  if a < 0x80 then .char a.toNat
  else if 0xC2 ≤ a && a ≤ 0xDF then
    match rest with
    | b :: _ => if isTail b then .char (a.toNat % 32 * 64 + tailBits b) else .stray a
    | _ => .stray a
  else if 0xE0 ≤ a && a ≤ 0xEF then
    match rest with
    | b :: c :: _ =>
      if isSecondOfThree a b && isTail c then
        .char (a.toNat % 16 * 4096 + tailBits b * 64 + tailBits c)
      else .stray a
    | _ => .stray a
  else if 0xF0 ≤ a && a ≤ 0xF4 then
    match rest with
    | b :: c :: d :: _ =>
      if isSecondOfFour a b && isTail c && isTail d then
        .char (a.toNat % 8 * 262144 + tailBits b * 4096 + tailBits c * 64 + tailBits d)
      else .stray a
    | _ => .stray a
  else .stray a

end Utf8

namespace Glyph

/-- The bytes the glyph was read from. -/
def bytes : Glyph → Bytes
  | char code => Utf8.encode code
  | stray byte => [byte]

/-- The code point shown for the glyph, a stray byte being replaced. -/
def code : Glyph → Nat
  | char code => code
  | stray _ => Utf8.replacement

end Glyph

namespace Utf8

/-- The glyphs of a byte string, the first `skip` bytes of which belong to a glyph already read. -/
def glyphsAfter : Nat → Bytes → List Glyph
  | _, [] => []
  | skip + 1, _ :: rest => glyphsAfter skip rest
  | 0, b :: rest =>
    let glyph := glyphAt b rest
    glyph :: glyphsAfter (glyph.bytes.length - 1) rest

/-- The glyphs of a byte string. -/
def glyphs (s : Bytes) : List Glyph :=
  glyphsAfter 0 s

/-- Every byte belongs to a well-formed character. -/
def isValid (s : Bytes) : Bool :=
  (glyphs s).all fun
    | .char _ => true
    | .stray _ => false

/-- The text filled up on the right with spaces to at least `width` glyphs. -/
def padRight (width : Nat) (s : Bytes) : Bytes :=
  s ++ List.replicate (width - (glyphs s).length) Bytes.space

end Utf8

end MorrowindScript
