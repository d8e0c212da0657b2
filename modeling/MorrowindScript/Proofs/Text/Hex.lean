import MorrowindScript.Proofs.Bytes.Length
import MorrowindScript.Text.Hex
import MorrowindScript.Text.WhiteSpace

/-!
# Digits laid out in a text

Bytes that were written in hexadecimal digits are read back from every text that shows these digits,
however it is laid out.

## Main definitions

* `WhiteSpace.isAsciiSpace`: the bytes that are white space.
* `Hex.Shows`: a text shows digits, each in either case, with white space anywhere.

## Main results

* `WhiteSpace.remove_cons`: removing white space from the ASCII bytes of a text.
* `Hex.decode_of_lower_eq`: reading inverts writing, whichever case the digits are in.
* `Hex.decode_remove_of_shows`: and however they are laid out.
-/

namespace MorrowindScript

open Bytes

/-! ## White space in ASCII -/

namespace WhiteSpace

/-- The bytes that are white space: the tab and what follows it up to the carriage return, and the
space. -/
def isAsciiSpace (c : UInt8) : Bool :=
  (tab ≤ c && c ≤ carriageReturn) || c == space

theorem lt_of_isAsciiSpace {c : UInt8} : isAsciiSpace c = true → c < 0x80 := by
  apply forall_byte _ c
  decide +kernel

/-- An ASCII byte is white space as a character exactly if it is as a byte. -/
theorem isSpace_toNat {c : UInt8} : c < 0x80 → isSpace c.toNat = isAsciiSpace c := by
  apply forall_byte _ c
  decide +kernel

/-- An ASCII byte is the only byte of its character. -/
theorem bytes_char_toNat {c : UInt8} (hc : c < 0x80) : (Glyph.char c.toNat).bytes = [c] := by
  have hlt : c.toNat < 0x80 := UInt8.lt_iff_toNat_lt.1 hc
  rw [Glyph.bytes, Utf8.encode, if_pos hlt, UInt8.ofNat_toNat]

/-- An ASCII byte is a character of its own, whatever follows it. -/
theorem glyphs_cons {c : UInt8} (hc : c < 0x80) (s : Bytes) :
    Utf8.glyphs (c :: s) = .char c.toNat :: Utf8.glyphs s := by
  have hglyph : Utf8.glyphAt c s = .char c.toNat := by
    unfold Utf8.glyphAt
    rw [if_pos hc]
  rw [Utf8.glyphs, Utf8.glyphsAfter]
  simp only [hglyph, bytes_char_toNat hc]
  rfl

/-- White space is removed byte by byte as far as a text is ASCII. -/
theorem remove_cons {c : UInt8} (hc : c < 0x80) (s : Bytes) :
    remove (c :: s) = if isAsciiSpace c then remove s else c :: remove s := by
  have hspace : isSpaceGlyph (.char c.toNat) = isAsciiSpace c := isSpace_toNat hc
  rw [remove, glyphs_cons hc, List.filter_cons, hspace]
  by_cases h : isAsciiSpace c = true
  · rw [if_neg (by simp [h]), if_pos h, remove]
  · rw [if_pos (by simpa using h), if_neg h, List.flatMap_cons, bytes_char_toNat hc]
    rfl

end WhiteSpace

namespace Hex

/-! ## Digits in either case -/

/-- What has a given lower case is that byte or its upper case. -/
theorem eq_or_eq_upperByte {c d : UInt8} (h : lowerByte c = d) : c = d ∨ c = upperByte d := by
  rw [← h]
  apply forall_byte _ c
  decide +kernel

/-- A digit in either case is ASCII, is no white space and has its value. -/
theorem digitValue?_of_lowerByte {c : UInt8} {n : Nat} (hn : n < 16)
    (h : lowerByte c = hexDigit n) :
    c < 0x80 ∧ WhiteSpace.isAsciiSpace c = false ∧ digitValue? c = some n := by
  have hlower : ∀ n < 16, hexDigit n < 0x80 ∧ WhiteSpace.isAsciiSpace (hexDigit n) = false ∧
      digitValue? (hexDigit n) = some n := by
    decide
  have hupper : ∀ n < 16, hexDigitUpper n < 0x80 ∧
      WhiteSpace.isAsciiSpace (hexDigitUpper n) = false ∧
      digitValue? (hexDigitUpper n) = some n := by
    decide
  rcases eq_or_eq_upperByte h with rfl | rfl
  · exact hlower n hn
  · exact hupper n hn

/-- The digits of a text are those of its first byte and those of the others. -/
theorem encode_cons (b : UInt8) (s : Bytes) :
    encode (b :: s) = hexDigit (b.toNat / 16) :: hexDigit (b.toNat % 16) :: encode s := by
  have hhigh : b.toNat / 16 % 16 = b.toNat / 16 := by
    have := b.toNat_lt
    omega
  rw [encode, List.flatMap_cons, hexDigits, hexDigits, hexDigits, hhigh]
  rfl

/-- All digits are digits of numbers below sixteen. -/
theorem exists_hexDigit_of_mem_encode {s : Bytes} {d : UInt8} (h : d ∈ encode s) :
    ∃ n < 16, d = hexDigit n := by
  induction s with
  | nil => exact absurd h List.not_mem_nil
  | cons b s ih =>
    rw [encode_cons, List.mem_cons, List.mem_cons] at h
    rcases h with rfl | rfl | h
    · exact ⟨_, by have := b.toNat_lt; omega, rfl⟩
    · exact ⟨_, Nat.mod_lt _ (by decide), rfl⟩
    · exact ih h

/-- Bytes are read back from their digits in either case. -/
theorem decode_of_lower_eq {text s : Bytes} (h : text.lower = encode s) : decode text = .ok s := by
  induction s generalizing text with
  | nil =>
    obtain rfl := List.map_eq_nil_iff.1 h
    rfl
  | cons b s ih =>
    rw [encode_cons] at h
    obtain ⟨c, text, rfl, hc, h⟩ := List.map_eq_cons_iff.1 h
    obtain ⟨d, text, rfl, hd, h⟩ := List.map_eq_cons_iff.1 h
    have hbyte := b.toNat_lt
    obtain ⟨-, -, hhigh⟩ := digitValue?_of_lowerByte (by omega) hc
    obtain ⟨-, -, hlow⟩ := digitValue?_of_lowerByte (Nat.mod_lt _ (by decide)) hd
    -- the two digits make up the byte
    have hsum : UInt8.ofNat (16 * (b.toNat / 16) + b.toNat % 16) = b := by
      rw [Nat.div_add_mod, UInt8.ofNat_toNat]
    simp only [decode, hhigh, hlow, ih h, hsum]

/-! ## Layouts -/

/-- A text shows digits: it has them in order, each in either case, and white space anywhere. -/
inductive Shows : Bytes → Bytes → Prop where
  /-- Nothing is shown by nothing. -/
  | nil : Shows [] []
  /-- White space shows nothing. -/
  | space {text digits : Bytes} {c : UInt8} (hc : WhiteSpace.isAsciiSpace c = true)
      (h : Shows text digits) : Shows (c :: text) digits
  /-- A digit is shown by itself, in either case. -/
  | digit {text digits : Bytes} {c d : UInt8} (hc : lowerByte c = d) (h : Shows text digits) :
      Shows (c :: text) (d :: digits)

/-- Every text shows the lower case of what it has besides white space. -/
theorem shows_lower_filter (text : Bytes) :
    Shows text (lower (text.filter (!WhiteSpace.isAsciiSpace ·))) := by
  induction text with
  | nil => exact .nil
  | cons c text ih =>
    by_cases hc : WhiteSpace.isAsciiSpace c = true
    · rw [List.filter_cons_of_neg (by simp [hc])]
      exact .space hc ih
    · rw [List.filter_cons_of_pos (by simpa using hc)]
      exact .digit rfl ih

/-- The digits are what is left without white space and difference in case. -/
theorem Shows.lower_remove {text digits : Bytes} (h : Shows text digits)
    (hdigits : ∀ d ∈ digits, ∃ n < 16, d = hexDigit n) :
    (WhiteSpace.remove text).lower = digits := by
  induction h with
  | nil => rfl
  | @space text digits c hc _ ih =>
    rw [WhiteSpace.remove_cons (WhiteSpace.lt_of_isAsciiSpace hc), if_pos hc]
    exact ih hdigits
  | @digit text digits c d hc _ ih =>
    obtain ⟨⟨n, hn, rfl⟩, hrest⟩ := List.forall_mem_cons.1 hdigits
    obtain ⟨hascii, hspace, -⟩ := digitValue?_of_lowerByte hn hc
    rw [WhiteSpace.remove_cons hascii, if_neg (by simp [hspace]), lower, List.map_cons, hc]
    exact congrArg _ (ih hrest)

/-- Bytes are read back from every text that shows their digits. -/
theorem decode_remove_of_shows {text s : Bytes} (h : Shows text (encode s)) :
    decode (WhiteSpace.remove text) = .ok s :=
  decode_of_lower_eq (h.lower_remove fun _ => exists_hexDigit_of_mem_encode)

end Hex

end MorrowindScript
