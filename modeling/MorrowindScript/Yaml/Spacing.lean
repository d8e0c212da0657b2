import MorrowindScript.Yaml.Spot

/-!
# Blanks, breaks and comments

What stands between the words of a text, and between the tokens of a document.

* `Yaml.Gap`: the spacing between two words, and what it stands for.
* `Yaml.skipComments`: comments on lines that follow each other.
* `Yaml.nextToken`: the place where the next token starts.
-/

namespace MorrowindScript.Yaml

open Spot

/-! ## Lengths of what is left -/

theorem length_dropWhile_le {α : Type} (p : α → Bool) (l : List α) :
    (l.dropWhile p).length ≤ l.length :=
  (List.dropWhile_sublist p).length_le

theorem length_tail_le {α : Type} (l : List α) : l.tail.length ≤ l.length :=
  Nat.le_trans (Nat.le_of_eq List.length_tail) (Nat.sub_le ..)

/-! ## Between words -/

/-- The spacing between two words. -/
structure Gap where
  /-- The blanks before the first break. -/
  blanks : List Char := []
  /-- What the breaks stand for. -/
  breaks : List Char := []
  deriving DecidableEq, Repr

namespace Gap

/-- The spacing at the given places. -/
def ofSpots (spots : List Spot) : Gap :=
  { blanks := chars (spots.takeWhile (isBlank ·.char))
    breaks := (spots.filter (isBreak ·.char)).map (breakText ·.char) }

/-- The spacing reaches beyond its line. -/
def isBroken (gap : Gap) : Bool :=
  !gap.breaks.isEmpty

/-- What the spacing stands for: its blanks if it stays on its line. A line feed alone is folded into
a space, and before further breaks it does not count; a separator is kept. -/
def text (gap : Gap) : List Char :=
  match gap.breaks with
  | [] => gap.blanks
  | ['\n'] => [' ']
  | '\n' :: breaks => breaks
  | breaks => breaks

end Gap

/-- The spacing at the start of some places. -/
def spacing (rest : List Spot) : List Spot :=
  rest.takeWhile (isSpacing ·.char)

/-- What follows the spacing at the start of some places. -/
def afterSpacing (rest : List Spot) : List Spot :=
  rest.dropWhile (isSpacing ·.char)

theorem length_afterSpacing_le (rest : List Spot) : (afterSpacing rest).length ≤ rest.length :=
  length_dropWhile_le _ rest

/-! ## Between tokens -/

/-- The end of the line. -/
def lineEnd (rest : List Spot) : List Spot :=
  rest.dropWhile fun s => !isLineEnd s.char

/-- The place after the rest of a line that holds a comment or nothing. -/
def emptyLine? (rest : List Spot) : Option (List Spot) :=
  let rest := rest.dropWhile (isBlank ·.char)
  let rest := if peek rest == '#' then lineEnd rest else rest
  if isBreak (peek rest) then some rest.tail
  else if isLineEnd (peek rest) then some rest
  else none

/-- How far the next comment is looked for. -/
def commentReach : Nat := 512

/-- Passes over a comment, and over those on the lines that follow, up to the end of a line. Between
two comments there may be any blanks, and breaks by line feed or carriage return. -/
def skipComments (rest : List Spot) : List Spot :=
  match h : lineEnd rest with
  | [] => []
  | stop :: later =>
    let next := later.dropWhile fun s => isBlank s.char || isFeed s.char
    if isFeed stop.char && peek next == '#' && (head next).index < stop.index + commentReach then
      have : next.length < rest.length := by
        have h₁ := length_dropWhile_le (fun s => isBlank s.char || isFeed s.char) later
        have h₂ := length_dropWhile_le (fun s => !isLineEnd s.char) rest
        have h₃ := congrArg List.length h
        simp only [lineEnd, List.length_cons] at h₃
        exact Nat.lt_of_le_of_lt h₁ (by omega)
      skipComments next
    else stop :: later
termination_by rest.length

theorem length_skipComments_le (rest : List Spot) : (skipComments rest).length ≤ rest.length := by
  fun_induction skipComments rest with
  | case1 => exact Nat.zero_le _
  | case2 rest stop later h next _ hlt ih => exact Nat.le_trans ih (Nat.le_of_lt hlt)
  | case3 rest stop later h next _ =>
    rw [← h]
    exact length_dropWhile_le _ rest

/-- Passes over a comment behind a token on the same line. -/
def skipLineComment (rest : List Spot) : List Spot :=
  let next := rest.dropWhile (isBlank ·.char)
  if peek next == '#' && (head next).index < (head rest).index + commentReach then lineEnd next
  else rest

/-- Passes over a character that does not count. -/
def dropPassed (rest : List Spot) : List Spot :=
  if (head rest).passed then rest.tail else rest

theorem length_dropPassed_le (rest : List Spot) : (dropPassed rest).length ≤ rest.length := by
  unfold dropPassed
  split
  · exact length_tail_le rest
  · exact Nat.le_refl _

/-- Passes over the blanks before a token; tabs are blanks only where no line can start. -/
def skipBlanks (tabs : Bool) (rest : List Spot) : List Spot :=
  let rest := (dropPassed rest).dropWhile fun s => s.char == ' ' || (tabs && s.char == '\t')
  if peek rest == '#' then skipComments rest else rest

theorem length_skipBlanks_le (tabs : Bool) (rest : List Spot) :
    (skipBlanks tabs rest).length ≤ rest.length := by
  have hblanks :=
    length_dropWhile_le (fun s => s.char == ' ' || (tabs && s.char == '\t')) (dropPassed rest)
  have hle := Nat.le_trans hblanks (length_dropPassed_le rest)
  simp only [skipBlanks]
  split
  · exact Nat.le_trans (length_skipComments_le _) hle
  · exact hle

/-- The place where the next token starts, and whether a key may stand there. Outside brackets, every
new line may start with a key. -/
def nextToken (inFlow keyAllowed : Bool) (rest : List Spot) : List Spot × Bool :=
  match h : skipBlanks (inFlow || !keyAllowed) rest with
  | [] => ([], keyAllowed)
  | s :: later =>
    if isBreak s.char then
      have : later.length < rest.length := by
        have h₁ := length_skipBlanks_le (inFlow || !keyAllowed) rest
        have h₂ := congrArg List.length h
        simp only [List.length_cons] at h₂
        omega
      nextToken inFlow (!inFlow || keyAllowed) later
    else (s :: later, keyAllowed)
termination_by rest.length

end MorrowindScript.Yaml
