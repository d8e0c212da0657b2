import MorrowindScript.Yaml.Spacing

/-!
# Blocks of text

A block of text stands on the lines below its indicator, indented further than what it belongs to. In
a literal block lines stay as they are; in a folded block a line break between two lines that start
with no blank becomes a space.

* `Yaml.BlockHeader`: what is said behind the indicator.
* `Yaml.blockText`: the text and what follows it.
-/

namespace MorrowindScript.Yaml

open Spot

/-- What is kept of the line breaks at the end. -/
inductive Chomping where
  /-- The first of them. -/
  | clip
  /-- None of them. -/
  | strip
  /-- All of them. -/
  | keep
  deriving DecidableEq, Repr

/-- What is said behind the indicator of a block. -/
structure BlockHeader where
  /-- What is kept of the line breaks at the end. -/
  chomping : Chomping := .clip
  /-- By how much the block is indented; it shows by itself if this is zero. -/
  increment : Nat := 0
  deriving DecidableEq, Repr

/-- Reads an indicator of the line breaks that are kept. -/
def takeChomping (rest : List Spot) : Option Chomping × List Spot :=
  if peek rest == '+' then (some .keep, rest.tail)
  else if peek rest == '-' then (some .strip, rest.tail)
  else (none, rest)

/-- Reads a digit. -/
def takeDigit (rest : List Spot) : Option Nat × List Spot :=
  if (peek rest).isDigit then (hexDigit? (peek rest), rest.tail) else (none, rest)

/-- Reads what is said behind the indicator of a block, up to the line below. -/
def blockHeader? (rest : List Spot) : Option (BlockHeader × List Spot) := do
  let (first, rest) := takeChomping rest
  let (digit, rest) := takeDigit rest
  let (chomping, rest) := if first.isNone then takeChomping rest else (first, rest)
  let rest ← emptyLine? rest
  if digit = some 0 then none
  some ({ chomping := chomping.getD .clip, increment := digit.getD 0 }, rest)

/-- The place is indentation of a block at column `limit`; every place is if that is zero. -/
def isIndentation (limit : Nat) (s : Spot) : Bool :=
  limit == 0 || s.column < limit

/-- Passes over empty lines and over the indentation of the next line, up to column `limit` or, if that
is zero, as far as it goes. Gives the breaks that were passed, the last column reached on any of the
lines and what follows. -/
def blankLines (limit : Nat) : List Spot → Option (List Char × Nat × List Spot)
  | [] => some ([], 0, [])
  | s :: later =>
    if s.char == ' ' && isIndentation limit s then blankLines limit later
    else if s.char == '\t' && isIndentation limit s then none
    else if isBreak s.char then
      (blankLines limit later).map fun (breaks, widest, rest) =>
        (breakText s.char :: breaks, Nat.max s.column widest, rest)
    else some ([], s.column, s :: later)

theorem length_blankLines_le (limit : Nat) (rest : List Spot) :
    ∀ lines ∈ blankLines limit rest, lines.2.2.length ≤ rest.length := by
  induction rest with
  | nil => simp [blankLines]
  | cons s later ih =>
    intro lines hlines
    rw [blankLines] at hlines
    split at hlines
    · exact Nat.le_succ_of_le (ih lines hlines)
    · split at hlines
      · cases hlines
      · split at hlines
        · obtain ⟨lines', hlines', rfl⟩ := Option.map_eq_some_iff.1 hlines
          exact Nat.le_succ_of_le (ih lines' hlines')
        · cases hlines
          exact Nat.le_refl _

/-- What comes before the next line of a block. -/
structure BlockJoint where
  /-- The break at the end of the line before. -/
  lead : List Char := []
  /-- The breaks of the empty lines between. -/
  breaks : List Char := []
  /-- The line before starts with a blank. -/
  afterBlank : Bool := false
  deriving DecidableEq, Repr

/-- What a joint stands for before a line; `blank` tells whether the line starts with a blank. -/
def BlockJoint.text (joint : BlockJoint) (folded blank : Bool) : List Char :=
  let lead :=
    if folded && !joint.afterBlank && !blank && joint.lead == ['\n'] then
      if joint.breaks.isEmpty then [' '] else []
    else joint.lead
  lead ++ joint.breaks

/-- What a joint stands for at the end of a block. -/
def BlockJoint.tail (joint : BlockJoint) : Chomping → List Char
  | .strip => []
  | .clip => joint.lead
  | .keep => joint.lead ++ joint.breaks

/-- The lines of a block at column `indent`, behind `joint`, and what follows the block. -/
def blockLines (folded : Bool) (chomping : Chomping) (indent : Nat) (joint : BlockJoint)
    (rest : List Spot) : Option (List Char × List Spot) :=
  match rest with
  | [] => some (joint.tail chomping, [])
  | s :: later =>
    if s.column == indent && !isLineEnd s.char then
      let start := joint.text folded (isBlank s.char) ++
        s.char :: chars (later.takeWhile fun s => !isLineEnd s.char)
      let stop := lineEnd later
      let isBroken := isBreak (peek stop)
      match h : blankLines indent (if isBroken then stop.tail else stop) with
      | none => none
      | some (breaks, _, next) =>
        have : next.length < later.length + 1 := by
          have h₁ := length_blankLines_le _ _ _ h
          have h₂ := length_dropWhile_le (fun s => !isLineEnd s.char) later
          have h₃ : (if isBroken then stop.tail else stop).length ≤ stop.length := by
            split
            · exact length_tail_le stop
            · exact Nat.le_refl _
          exact Nat.lt_succ_of_le (Nat.le_trans h₁ (Nat.le_trans h₃ h₂))
        let joint : BlockJoint :=
          { lead := if isBroken then [breakText (peek stop)] else []
            breaks
            afterBlank := isBlank s.char }
        (blockLines folded chomping indent joint next).map fun (text, rest) => (start ++ text, rest)
    else some (joint.tail chomping, s :: later)
termination_by rest.length

/-- The text of a block below its indicator, and what follows it. The block belongs to something at
column `parent`, if to anything. -/
def blockText (folded : Bool) (parent : Option Nat) (rest : List Spot) :
    Option (List Char × List Spot) := do
  let (header, rest) ← blockHeader? rest
  let limit := if header.increment == 0 then 0 else parent.getD 0 + header.increment
  let (breaks, widest, rest) ← blankLines limit rest
  let indent := if limit == 0 then Nat.max 1 (Nat.max widest (parent.elim 0 (· + 1))) else limit
  blockLines folded header.chomping indent { breaks } rest

end MorrowindScript.Yaml
