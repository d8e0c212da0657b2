import MorrowindScript.Token

/-!
# Blocks

A branch or a loop is skipped by the number of lines in its body. The number is found by looking
ahead in the kinds of the lines that follow: blocks of the same family are skipped as a whole, and
blocks of the other family are not looked at.

* `Block.bodyLength?`: the number of lines before the line that ends a body.
* `Block.lengthAfter?`: that number for the body after a line of a given kind.
-/

namespace MorrowindScript

/-- The lines that delimit a family of blocks. -/
structure BlockFamily where
  /-- The kind of line that opens a block. -/
  opener : LineKind
  /-- The kind of line that closes it. -/
  closer : LineKind
  deriving DecidableEq, Repr

namespace BlockFamily

/-- The conditionals. -/
def conditional : BlockFamily := ⟨.ifBranch, .ifEnd⟩

/-- The loops. -/
def loop : BlockFamily := ⟨.whileLoop, .whileEnd⟩

end BlockFamily

namespace Block

/-- How many lines come before the one that ends a body, `isEnd` telling which lines end it. A block
of the family inside the body is skipped up to its closing line, and there is no answer if that line
is missing. -/
def bodyLength? (family : BlockFamily) (isEnd : LineKind → Bool) : List LineKind → Option Nat
  | [] => none
  | kind :: rest =>
    if isEnd kind then some 0
    else if kind = family.opener then
      match bodyLength? family (· = family.closer) rest with
      | some n => (bodyLength? family isEnd (rest.drop (n + 1))).map (· + (n + 2))
      | none => none
    else (bodyLength? family isEnd rest).map (· + 1)
termination_by kinds => kinds.length
decreasing_by all_goals simp only [List.length_drop, List.length_cons]; omega

/-- The lines that end a branch with a condition. -/
def endsBranch : LineKind → Bool
  | .elseIfBranch | .elseBranch | .ifEnd => true
  | _ => false

/-- The length of the body of a branch with a condition. -/
def branchLength? (following : List LineKind) : Option Nat :=
  bodyLength? .conditional endsBranch following

/-- The length of the body of the last branch of a conditional, which only the end of the
conditional ends. -/
def elseLength? (following : List LineKind) : Option Nat :=
  bodyLength? .conditional (· = .ifEnd) following

/-- The length of the body of a loop. -/
def loopLength? (following : List LineKind) : Option Nat :=
  bodyLength? .loop (· = .whileEnd) following

/-- The largest body that can be skipped. -/
def maxLength : Nat := 255

end Block

end MorrowindScript
