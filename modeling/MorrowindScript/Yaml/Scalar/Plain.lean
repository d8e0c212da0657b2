import MorrowindScript.Yaml.Spacing

/-!
# Text without quotes

Text without quotes is made of words on one or more lines. It ends before a comment, a colon that a
blank follows, a line that is not indented enough, a mark between documents and, inside brackets,
before the characters that have a meaning there.

* `Yaml.plainText`: the text and what follows it.
-/

namespace MorrowindScript.Yaml

open Spot

/-- The characters that have a meaning inside brackets. -/
def isFlowIndicator (c : Char) : Bool :=
  c == ',' || c == '?' || c == '[' || c == ']' || c == '\x7b' || c == '\x7d'

/-- A word and what follows it. -/
def plainWord (inFlow : Bool) : List Spot → List Char × List Spot
  | [] => ([], [])
  | s :: later =>
    if isBoundary s.char || (s.char == ':' && isBoundary (peek later)) ||
        (inFlow && isFlowIndicator s.char) then
      ([], s :: later)
    else
      let (word, rest) := plainWord inFlow later
      (s.char :: word, rest)

theorem length_plainWord (inFlow : Bool) (rest : List Spot) :
    (plainWord inFlow rest).1.length + (plainWord inFlow rest).2.length = rest.length := by
  induction rest with
  | nil => rfl
  | cons s later ih =>
    rw [plainWord]
    split
    · simp
    · simp only [List.length_cons]
      omega

/-- A text without quotes. -/
structure PlainText where
  /-- The text. -/
  text : List Char
  /-- It ends on another line than its last word. -/
  isBroken : Bool
  /-- What follows it. -/
  rest : List Spot
  deriving Repr

/-- The same text with something before it. -/
def PlainText.after (start : List Char) (p : PlainText) : PlainText :=
  { p with text := start ++ p.text }

/-- Text behind the spacing `gap`, on lines that start at column `margin` or behind it. Tabs do not
indent a line. -/
def plainFrom (inFlow : Bool) (margin : Nat) (gap : Gap) (rest : List Spot) : Option PlainText :=
  if isDocumentMark rest || peek rest == '#' then some ⟨[], gap.isBroken, rest⟩
  else
    match h : plainWord inFlow rest with
    | ([], _) => some ⟨[], gap.isBroken, rest⟩
    | (c :: word, later) =>
      let start := gap.text ++ c :: word
      let between := spacing later
      let next := afterSpacing later
      if between.isEmpty then some ⟨start, false, later⟩
      else if (between.dropWhile (isBlank ·.char)).any
          fun s => s.char == '\t' && s.column < margin then none
      else
        let gap := Gap.ofSpots between
        if !inFlow && (head next).column < margin then some ⟨start, gap.isBroken, next⟩
        else
          have : next.length < rest.length := by
            have h₁ := length_plainWord inFlow rest
            have h₂ := length_afterSpacing_le later
            rw [h] at h₁
            simp only [List.length_cons] at h₁
            exact Nat.lt_of_le_of_lt h₂ (by omega)
          (plainFrom inFlow margin gap next).map (PlainText.after start)
termination_by rest.length

/-- A text without quotes. -/
def plainText (inFlow : Bool) (margin : Nat) (rest : List Spot) : Option PlainText :=
  plainFrom inFlow margin {} rest

end MorrowindScript.Yaml
