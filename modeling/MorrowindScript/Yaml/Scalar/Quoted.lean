import MorrowindScript.Yaml.Spacing

/-!
# Text in quotes

In single quotes a quote is written twice and everything else stands for itself. In double quotes a
backslash starts an escape. Line breaks are folded in both.

* `Yaml.quotedText`: the text and what follows the closing quote.
-/

namespace MorrowindScript.Yaml

open Spot

/-- The characters that a backslash and one character stand for. -/
def escapes : List (Char × Nat) :=
  [('0', 0x00), ('a', 0x07), ('b', 0x08), ('t', 0x09), ('\t', 0x09), ('n', 0x0A), ('v', 0x0B),
    ('f', 0x0C), ('r', 0x0D), ('e', 0x1B), (' ', 0x20), ('"', 0x22), ('\'', 0x27), ('\\', 0x5C),
    ('N', 0x85), ('_', 0xA0), ('L', 0x2028), ('P', 0x2029)]

/-- The number of hexadecimal digits after a backslash and one character. -/
def escapeDigits : List (Char × Nat) :=
  [('x', 2), ('u', 4), ('U', 8)]

/-- The code points that characters have. -/
def isCodePoint (code : Nat) : Bool :=
  code < 0xD800 || (0xE000 ≤ code && code ≤ 0x10FFFF)

/-- The character that is written behind a backslash, and how many characters write it. -/
def escape? (rest : List Spot) : Option (Char × Nat) :=
  match escapes.lookup (peek rest) with
  | some code => some (Char.ofNat code, 1)
  | none => do
    let digits ← escapeDigits.lookup (peek rest)
    let code ← hexValue? 0 (chars (rest.tail.take digits))
    if isCodePoint code then some (Char.ofNat code, digits + 1) else none

/-- The text up to the closing quote, and what follows it. -/
def quotedText (quote : Char) (rest : List Spot) : Option (List Char × List Spot) :=
  if isDocumentMark rest then none
  else
    match rest with
    | [] => none
    | s :: later =>
      let continueWith (start : List Char) (result : Option (List Char × List Spot)) :=
        result.map fun (text, rest) => (start ++ text, rest)
      if s.char == endOfText then none
      else if s.char == quote then
        if quote == '\'' && peek later == quote then
          continueWith [quote] (quotedText quote later.tail)
        else some ([], later)
      else if isSpacing s.char then
        continueWith (Gap.ofSpots (spacing (s :: later))).text (quotedText quote (afterSpacing later))
      else if quote == '"' && s.char == '\\' then
        if isBreak (peek later) then
          continueWith (Gap.ofSpots (spacing later.tail)).breaks
            (quotedText quote (afterSpacing later.tail))
        else
          match escape? later with
          | none => none
          | some (c, n) => continueWith [c] (quotedText quote (later.drop n))
      else continueWith [s.char] (quotedText quote later)
termination_by rest.length
decreasing_by
  · exact Nat.lt_succ_of_le (length_tail_le later)
  · exact Nat.lt_succ_of_le (length_afterSpacing_le later)
  · exact Nat.lt_succ_of_le (Nat.le_trans (length_afterSpacing_le _) (length_tail_le later))
  · exact Nat.lt_succ_of_le (Nat.le_trans (Nat.le_of_eq List.length_drop) (Nat.sub_le ..))
  · exact Nat.lt_succ_self _

end MorrowindScript.Yaml
