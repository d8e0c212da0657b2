import MorrowindScript.Scan

/-!
# The lines of a source

A source is cut at line feeds. Of each line the comment, one carriage return at the end and the
blanks around the rest are dropped, and a line of which nothing is left is skipped. A line that goes
on after `else` counts as two lines with one number.

* `SourceLine.split`: the lines of a source.
* `LineKind.classify`: the kind of a line.
-/

namespace MorrowindScript

open Bytes

/-- A line of a script. -/
structure SourceLine where
  /-- The text without comment and surrounding blanks. -/
  text : Bytes
  /-- The number of the physical line, counted from one. -/
  number : Nat
  deriving DecidableEq, Repr

namespace SourceLine

/-- What is left of a physical line without its comment, carriage return and surrounding blanks. -/
def clean (raw : Bytes) : Bytes :=
  let code := match Scan.commentStart raw with
    | some i => raw.take i
    | none => raw
  trim (dropCarriageReturn code)

/-- The text after `else` and a blank, if the line starts so. -/
def afterElse? (s : Bytes) : Option Bytes :=
  if s.take 4 == ascii "else" then
    match s.drop 4 with
    | c :: rest => if isBlank c then some (trimLeft rest) else none
    | [] => none
  else none

theorem length_afterElse_lt {s rest : Bytes} (h : afterElse? s = some rest) :
    rest.length < s.length := by
  unfold afterElse? at h
  split at h
  · split at h
    · next c tail hs =>
      split at h
      · simp only [Option.some.injEq] at h
        have hlen := congrArg List.length hs
        have := length_trimLeft_le tail
        simp only [List.length_drop, List.length_cons] at hlen
        rw [← h]
        omega
      · simp at h
    · simp at h
  · simp at h

/-- Takes a line apart after each leading `else`. -/
def splitElse (s : Bytes) : List Bytes :=
  match h : afterElse? s with
  | some rest =>
    have := length_afterElse_lt h
    ascii "else" :: splitElse rest
  | none => [s]
termination_by s.length

/-- The lines of a physical line with the given number. -/
def ofRaw (number : Nat) (raw : Bytes) : List SourceLine :=
  let text := clean raw
  if text.isEmpty then [] else (splitElse text).map fun piece => ⟨piece, number⟩

/-- The lines of a source. -/
def split (source : Bytes) : List SourceLine :=
  (source.lines.zipIdx 1).flatMap fun (raw, number) => ofRaw number raw

end SourceLine

namespace LineKind

/-- The text starts with `word`, and a byte that `follows` accepts comes next. -/
def opens (word : String) (follows : UInt8 → Bool) (s : Bytes) : Bool :=
  (ascii word).isPrefixOf s && (s.drop (ascii word).length).head?.any follows

/-- The kind of a line in lower case, by its keyword. -/
def keyword? (s : Bytes) : Option LineKind :=
  if opens "short" isBlank s then some (declaration .short)
  else if opens "long" isBlank s then some (declaration .long)
  else if opens "float" isBlank s then some (declaration .float)
  else if opens "set" (· == space) s then some assignment
  else if opens "choice" (fun c => c == space || c == 0x2C) s then some choice
  else if s == ascii "return" then some returning
  else if opens "if" (· == space) s then some ifBranch
  else if opens "elseif" (· == space) s then some elseIfBranch
  else if s == ascii "else" then some elseBranch
  else if s == ascii "endif" then some ifEnd
  else if opens "while" (· == space) s then some whileLoop
  else if s == ascii "endwhile" then some whileEnd
  else if s == ascii "end" || opens "end" isBlank s then some scriptEnd
  else none

/-- The kind of a line. A line without keyword is a call, on a named object if it has an unquoted
arrow. -/
def classify (s : Bytes) : LineKind :=
  match keyword? s.lower with
  | some kind => kind
  | none => if (Scan.qualifierStart s).isSome then qualifiedCall else call

/-- The line opens a script. -/
def isBegin (s : Bytes) : Bool :=
  opens "begin" isBlank s.lower

end LineKind

/-- The kind of the line. -/
def SourceLine.kind (line : SourceLine) : LineKind :=
  LineKind.classify line.text

end MorrowindScript
