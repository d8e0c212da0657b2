import MorrowindScript.Bytes

/-!
# Places in a source

Messages name a line of a source and, if it has one, the name of the source. Statements take whole
lines, so there are no columns.
-/

namespace MorrowindScript

open Bytes

/-- A line of a source. -/
structure Position where
  /-- The name of the source, or nothing. -/
  file : Bytes := []
  /-- The number of the line, counted from one; smaller numbers name no line. -/
  line : Int := 0
  deriving DecidableEq, Repr

namespace Position

/-- The position names a line. -/
def isValid (p : Position) : Bool :=
  p.line > 0

/-- The position in words. -/
def render (p : Position) : Bytes :=
  if p.file.isEmpty then decimalInt p.line else p.file ++ ascii ":" ++ decimalInt p.line

/-- A message about the position; one that names no line is left out. -/
def describe (p : Position) (message : Bytes) : Bytes :=
  if p.isValid then p.render ++ ascii ": " ++ message else message

end Position

end MorrowindScript
