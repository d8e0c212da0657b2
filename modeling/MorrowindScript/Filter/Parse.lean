import MorrowindScript.Filter.Basic
import MorrowindScript.Text.Quoted

/-!
# Reading filters

The syntax is the usual one: characters stand for themselves, `.` for any but a line feed, `^` and
`$` for the ends of the name, `[...]` for a set, `|` for a choice, brackets for grouping, and `*`, `+`
and `?` for repetition. A filter that starts with `(?i)` pays no attention to case.

* `FilterError`: what can be wrong.
* `Filter.parse`: reads a filter.
-/

namespace MorrowindScript

open Bytes

/-- What is wrong with a filter. -/
inductive FilterError where
  /-- A set, given from its bracket on, is not closed. -/
  | missingBracket (text : List Nat)
  /-- A group is not closed. -/
  | missingParenthesis
  /-- A group is closed that was not opened. -/
  | unexpectedParenthesis
  /-- There is nothing to repeat. -/
  | missingOperand (operator : Nat)
  /-- A repetition is repeated. -/
  | nestedRepetition (operators : List Nat)
  /-- The last character of a range comes before the first. -/
  | badRange (text : List Nat)
  /-- The filter ends after a backslash. -/
  | trailingBackslash
  /-- The character after a backslash has no meaning there. -/
  | badEscape (code : Nat)
  /-- What follows the bracket and question mark of a group is not known. -/
  | badGroup (text : List Nat)
  /-- The filter has bytes that belong to no character. -/
  | strayBytes
  deriving DecidableEq, Repr

/-- Characters in UTF-8. -/
def utf8Text (codes : List Nat) : Bytes :=
  codes.flatMap Utf8.encode

/-- What is wrong with the filter `pattern`, in words. -/
def FilterError.message (pattern : Bytes) (error : FilterError) : Bytes :=
  let say (cause : String) (part : Bytes) : Bytes :=
    ascii "error parsing regexp: " ++ ascii cause ++ ascii ": " ++ [0x60] ++ part ++ [0x60]
  match error with
  | missingBracket text => say "missing closing ]" (utf8Text text)
  | missingParenthesis => say "missing closing )" pattern
  | unexpectedParenthesis => say "unexpected )" pattern
  | missingOperand operator => say "missing argument to repetition operator" (utf8Text [operator])
  | nestedRepetition operators =>
    say "invalid nested repetition operator" (utf8Text operators)
  | badRange text => say "invalid character class range" (utf8Text text)
  | trailingBackslash => say "trailing backslash at end of expression" []
  | badEscape code => say "invalid escape sequence" (ascii "\\" ++ utf8Text [code])
  | badGroup text => say "invalid or unsupported Perl syntax" (utf8Text text)
  | strayBytes => say "invalid UTF-8" pattern

namespace Filter

/-- The code of an ASCII character. -/
def code (c : Char) : Nat := c.toNat

/-- The character is a letter or digit of ASCII. -/
def isAlphanumeric (c : Nat) : Bool :=
  (0x30 ≤ c && c ≤ 0x39) || (0x41 ≤ c && c ≤ 0x5A) || (0x61 ≤ c && c ≤ 0x7A)

/-- The ranges of an escape that stands for a set, and whether all other characters are meant. -/
def escapedSet? (c : Nat) : Option (List (Nat × Nat) × Bool) :=
  let digits := [(0x30, 0x39)]
  let words := [(0x30, 0x39), (0x41, 0x5A), (0x5F, 0x5F), (0x61, 0x7A)]
  let spaces := [(0x09, 0x0A), (0x0C, 0x0D), (0x20, 0x20)]
  if c == code 'd' then some (digits, false)
  else if c == code 'D' then some (digits, true)
  else if c == code 'w' then some (words, false)
  else if c == code 'W' then some (words, true)
  else if c == code 's' then some (spaces, false)
  else if c == code 'S' then some (spaces, true)
  else none

/-- The character of an escape: punctuation stands for itself. -/
def escapedChar (c : Nat) : Except FilterError Nat :=
  if c == code 'n' then .ok 0x0A
  else if c == code 't' then .ok 0x09
  else if c == code 'r' then .ok 0x0D
  else if c == code 'f' then .ok 0x0C
  else if c == code 'v' then .ok 0x0B
  else if c == code 'a' then .ok 0x07
  else if c < 0x80 && !isAlphanumeric c then .ok c
  else .error (.badEscape c)

/-- Reads a character of a set; `whole` is the set from its bracket on. -/
def setChar (whole : List Nat) : List Nat → Except FilterError (Nat × List Nat)
  | [] => .error (.missingBracket whole)
  | c :: rest =>
    if c == code '\\' then
      match rest with
      | [] => .error .trailingBackslash
      | d :: rest => (escapedChar d).map fun e => (e, rest)
    else .ok (c, rest)

/-- Reads the ranges of a set up to its closing bracket. A closing bracket at the very start stands
for itself, and so does a hyphen that no character follows. -/
def setRanges (whole : List Nat) :
    Nat → Bool → List Nat → Except FilterError (List (Nat × Nat) × List Nat)
  | 0, _, _ => .error (.missingBracket whole)
  | fuel + 1, first, s =>
    match s with
    | [] => .error (.missingBracket whole)
    | c :: rest =>
      if c == code ']' && !first then .ok ([], rest)
      else do
        let (low, after) ← setChar whole s
        match after with
        | hyphen :: next :: _ =>
          if hyphen == code '-' && next != code ']' then do
            let (high, afterHigh) ← setChar whole after.tail
            if high < low then
              throw (.badRange (s.take (s.length - afterHigh.length)))
            let (ranges, rest) ← setRanges whole fuel false afterHigh
            pure ((low, high) :: ranges, rest)
          else do
            let (ranges, rest) ← setRanges whole fuel false after
            pure ((low, low) :: ranges, rest)
        | _ => do
          let (ranges, rest) ← setRanges whole fuel false after
          pure ((low, low) :: ranges, rest)

/-- Reads a set after its opening bracket. -/
def parseSet (folded : Bool) (s : List Nat) : Except FilterError (Filter × List Nat) := do
  let whole := code '[' :: s
  let negated := s.head? == some (code '^')
  let (ranges, rest) ← setRanges whole (s.length + 1) true (if negated then s.tail else s)
  pure (ofSet { ranges, negated, folded }, rest)

/-- One character as a filter; a letter in any case is given by its upper case. -/
def literal (folded : Bool) (c : Nat) : Filter :=
  if folded then .letter ((CaseFold.variants c).foldl min c) true else .letter c false

/-- The ranges of a set, with all cases of their characters if case does not matter; nothing if there
are too many. -/
def spreadRanges? (set : CharSet) : Option (List (Nat × Nat)) :=
  if set.negated then none
  else if set.folded then set.spelt?.map (·.map fun c => (c, c))
  else some set.ranges

/-- The ranges of a filter that is one character. -/
def ranges? : Filter → Option (List (Nat × Nat))
  | .letter c folded => spreadRanges? { ranges := [(c, c)], folded }
  | .char set => spreadRanges? set
  | _ => none

/-- One more alternative before others. Two single characters become one character of a set. -/
def consAlternative (first : Filter) : List Filter → List Filter
  | [] => [first]
  | second :: rest =>
    match ranges? first, ranges? second with
    | some a, some b => .char { ranges := a ++ b } :: rest
    | _, _ => first :: second :: rest

/-- One of several alternatives. -/
def choice : List Filter → Filter
  | [] => .empty
  | [.char set] => ofSet set
  | [filter] => filter
  | first :: rest => .alternative first (choice rest)

/-- One part of an alternative before the others. -/
def andThen (first : Filter) : Filter → Filter
  | .empty => first
  | others => .sequence first others

/-- The character repeats what is before it. -/
def isRepetition (c : Nat) : Bool :=
  c == code '*' || c == code '+' || c == code '?'

/-- The filter `body` as often as the character says. -/
def repeated (body : Filter) (operator : Nat) : Filter :=
  if operator == code '*' then .star body
  else if operator == code '+' then .sequence body (.star body)
  else .alternative body .empty

/-- Reads a repetition of `body`. A question mark after it says which match is preferred and makes no
difference here. -/
def parseRepetition (body : Filter) (s : List Nat) : Except FilterError (Filter × List Nat) :=
  match s with
  | [] => .ok (body, s)
  | c :: rest =>
    if isRepetition c then
      let (operators, rest) :=
        if rest.head? == some (code '?') then ([c, code '?'], rest.tail) else ([c], rest)
      match rest with
      | [] => .ok (repeated body c, [])
      | d :: _ =>
        if isRepetition d then .error (.nestedRepetition (operators ++ [d]))
        else .ok (repeated body c, rest)
    else .ok (body, s)

/-- Reads the character after a backslash. -/
def parseEscape (folded : Bool) : List Nat → Except FilterError (Filter × List Nat)
  | [] => .error .trailingBackslash
  | c :: rest =>
    match escapedSet? c with
    | some (ranges, negated) => .ok (ofSet { ranges, negated, folded }, rest)
    | none => (escapedChar c).map fun d => (literal folded d, rest)

/-- What stands after the bracket of a group: the body of the group, unless a question mark asks for
something that is not known. -/
def groupBody (s : List Nat) : Except FilterError (List Nat) :=
  match s with
  | q :: c :: rest =>
    if q == code '?' then
      if c == code ':' then .ok rest else .error (.badGroup [code '(', q, c])
    else .ok s
  | _ => .ok s

mutual

/-- Reads the alternatives of a group up to the bracket that closes it. -/
def parseAlternatives : Nat → Bool → List Nat → Except FilterError (List Filter × List Nat)
  | 0, _, _ => .error .missingParenthesis
  | fuel + 1, folded, s => do
    let (first, rest) ← parseSequence fuel folded s
    match rest with
    | [] => pure ([first], rest)
    | c :: after =>
      if c == code '|' then do
        let (others, rest) ← parseAlternatives fuel folded after
        pure (consAlternative first others, rest)
      else pure ([first], rest)

/-- Reads the parts of an alternative. -/
def parseSequence : Nat → Bool → List Nat → Except FilterError (Filter × List Nat)
  | 0, _, _ => .error .missingParenthesis
  | fuel + 1, folded, s =>
    match s with
    | [] => .ok (.empty, [])
    | c :: rest =>
      if c == code '|' || c == code ')' then .ok (.empty, s)
      else do
        let (part, rest) ← parsePart fuel folded c rest
        let (part, rest) ← parseRepetition part rest
        let (others, rest) ← parseSequence fuel folded rest
        pure (andThen part others, rest)

/-- Reads the part that starts with the character `c`. -/
def parsePart : Nat → Bool → Nat → List Nat → Except FilterError (Filter × List Nat)
  | 0, _, _, _ => .error .missingParenthesis
  | fuel + 1, folded, c, rest =>
    if c == code '(' then do
      let body ← groupBody rest
      let (inner, after) ← parseAlternatives fuel folded body
      match after with
      | _ :: after => pure (.group (choice inner), after)
      | [] => throw .missingParenthesis
    else if c == code '[' then parseSet folded rest
    else if c == code '.' then .ok (.char { ranges := [(0x0A, 0x0A)], negated := true }, rest)
    else if c == code '^' then .ok (.start, rest)
    else if c == code '$' then .ok (.stop, rest)
    else if c == code '\\' then parseEscape folded rest
    else if isRepetition c then .error (.missingOperand c)
    else .ok (literal folded c, rest)

end

/-- Takes off the mark at the start of a filter that pays no attention to case. -/
def splitFold (s : List Nat) : Bool × List Nat :=
  let mark := "(?i)".toList.map Char.toNat
  if s.take mark.length == mark then (true, s.drop mark.length) else (false, s)

/-- Reads a filter. -/
def parse (pattern : Bytes) : Except FilterError Filter := do
  if !Utf8.isValid pattern then throw .strayBytes
  let (folded, s) := splitFold ((Utf8.glyphs pattern).map Glyph.code)
  let (alternatives, rest) ← parseAlternatives (3 * s.length + 3) folded s
  if rest.isEmpty then pure (choice alternatives) else throw .unexpectedParenthesis

end Filter

end MorrowindScript
