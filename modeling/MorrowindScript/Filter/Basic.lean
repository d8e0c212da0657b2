import MorrowindScript.Text.CaseFold

/-!
# Filters

A filter selects scripts by their names. It is a regular expression over the bytes of a name; a
character is matched by its bytes in UTF-8.

* `CharSet`: sets of characters.
* `Filter`: the expressions.
* `Filter.ends`: where the matches that start at a given place end.
* `Filter.matchesFrom`: the filter matches somewhere behind a given place.
-/

namespace MorrowindScript

/-- A set of characters. -/
structure CharSet where
  /-- The ranges of the set, by their first and last characters. -/
  ranges : List (Nat × Nat)
  /-- All other characters are meant. -/
  negated : Bool := false
  /-- Case does not matter. -/
  folded : Bool := false
  deriving DecidableEq, Repr

namespace CharSet

/-- The character lies in one of the ranges. -/
def inRanges (set : CharSet) (code : Nat) : Bool :=
  set.ranges.any fun (low, high) => low ≤ code && code ≤ high

/-- The character is in the set. -/
def contains (set : CharSet) (code : Nat) : Bool :=
  (if set.folded then (CaseFold.variants code).any set.inRanges else set.inRanges code)
    != set.negated

/-- The number of characters outside ASCII from which on they are not told apart. -/
def wideSize : Nat := 256

/-- The number of characters in the ranges that are not ASCII. -/
def wideCount (set : CharSet) : Nat :=
  set.ranges.foldl (fun n (low, high) => n + (high + 1 - max low 0x80)) 0

/-- The set has so many characters outside ASCII that any byte outside ASCII counts as one of them. -/
def isWide (set : CharSet) : Bool :=
  set.negated || wideSize < set.wideCount

/-- The most characters that a set can have and be spelt out. -/
def maxSpelt : Nat := 10

/-- The characters in the ranges in ascending order, unless there are too many. -/
def spelt? (set : CharSet) : Option (List Nat) :=
  if set.negated || set.ranges.any (fun (low, high) => low + maxSpelt ≤ high) then none
  else
    let codes := set.ranges.flatMap fun (low, high) => (List.range (high + 1 - low)).map (low + ·)
    let codes := if set.folded then codes.flatMap CaseFold.variants else codes
    let codes := codes.eraseDups.mergeSort
    if codes.length ≤ maxSpelt then some codes else none

end CharSet

/-- A regular expression. -/
inductive Filter where
  /-- Nothing. -/
  | empty
  /-- The start of the name. -/
  | start
  /-- The end of the name. -/
  | stop
  /-- One letter or other character, in any case if it is folded. -/
  | letter (code : Nat) (folded : Bool)
  /-- One character of a set. -/
  | char (set : CharSet)
  /-- One expression after another. -/
  | sequence (first second : Filter)
  /-- One of two expressions. -/
  | alternative (first second : Filter)
  /-- An expression any number of times. -/
  | star (body : Filter)
  /-- An expression in brackets. -/
  | group (body : Filter)
  deriving DecidableEq, Repr

namespace Filter

/-- One character of a set. A set of one character is that character, and a set of a letter in its two
cases is that letter, by its upper case. -/
def ofSet (set : CharSet) : Filter :=
  match set.spelt? with
  | some [c] => .letter c false
  | some [upper, lower] =>
    let variants := CaseFold.variants upper
    if variants.length == 2 && variants.contains lower then .letter upper true else .char set
  | _ => .char set

/-! ## Matches -/

/-- The places reached from `reached` in at most `steps` steps. -/
def closure (step : Nat → List Nat) : Nat → List Nat → List Nat
  | 0, reached => reached
  | steps + 1, reached => closure step steps (reached ++ reached.flatMap step).eraseDups

/-- Where a character at a given place of the text ends, if it is one of those that `isMember` holds
of. -/
def charEnd (text : Bytes) (isMember : Nat → Bool) (i : Nat) : List Nat :=
  match text.drop i with
  | [] => []
  | b :: rest =>
    match Utf8.glyphAt b rest with
    | .char code => if isMember code then [i + (Utf8.encode code).length] else []
    | .stray _ => []

/-- Where a byte at a given place of the text ends, if it is an ASCII character that `isMember` holds of
or not ASCII. -/
def byteEnd (text : Bytes) (isMember : Nat → Bool) (i : Nat) : List Nat :=
  match text[i]? with
  | some b => if 0x80 ≤ b || isMember b.toNat then [i + 1] else []
  | none => []

/-- Where the matches that start at a given place of the text end. -/
def ends (text : Bytes) : Filter → Nat → List Nat
  | empty, i => [i]
  | start, i => if i == 0 then [i] else []
  | stop, i => if i == text.length then [i] else []
  | letter c folded, i =>
    let members := if folded then CaseFold.variants c else [c]
    charEnd text members.contains i
  | char set, i => if set.isWide then byteEnd text set.contains i else charEnd text set.contains i
  | sequence first second, i => ((ends text first i).flatMap (ends text second)).eraseDups
  | alternative first second, i => (ends text first i ++ ends text second i).eraseDups
  | star body, i => closure (ends text body) text.length [i]
  | group body, i => ends text body i

/-- A match starts at the place `i` or behind it. -/
def matchesFrom (filter : Filter) (text : Bytes) (i : Nat) : Bool :=
  (List.range (text.length + 1 - i)).any fun k => !(filter.ends text (i + k)).isEmpty

/-- A match starts at the place `low` or behind it and ends at the place `high`. -/
def matchesUpTo (filter : Filter) (text : Bytes) (low high : Nat) : Bool :=
  (List.range (high + 1 - low)).any fun k => (filter.ends text (low + k)).contains high

end Filter

end MorrowindScript
