import MorrowindScript.Filter.Basic

/-!
# Searching with a filter

A filter that is not tied to an end of the name is looked for by the texts that its first part stands
for or, if these have nothing in common, by the texts that its last part stands for. Such texts are
compared as they are, a letter in any case being taken in its upper case, so that they decide where
matches are looked for at all.

* `Filter.heads`, `Filter.tails`: these texts of a filter.
* `Filter.accepts`: the filter matches somewhere in a name.
-/

namespace MorrowindScript

namespace Filter

/-! ## Ends of the name -/

/-- Every match starts at the start of the name. -/
def isHeadTied : Filter → Bool
  | start => true
  | sequence first _ => isHeadTied first
  | alternative first second => isHeadTied first && isHeadTied second
  | group body => isHeadTied body
  | _ => false

/-- Every match ends at the end of the name. -/
def isTailTied : Filter → Bool
  | stop => true
  | sequence _ second => isTailTied second
  | alternative first second => isTailTied first && isTailTied second
  | group body => isTailTied body
  | _ => false

/-! ## Texts of the first and the last part -/

/-- The filter has a letter in any case. -/
def isFolded : Filter → Bool
  | letter _ folded => folded
  | char set => set.folded
  | sequence first second | alternative first second => isFolded first || isFolded second
  | star body | group body => isFolded body
  | empty | start | stop => false

/-- The texts of one character; any text if its set cannot be spelt out. -/
def charTexts (set : CharSet) : List Bytes :=
  match set.spelt? with
  | some codes => codes.map Utf8.encode
  | none => [[]]

/-- The letters at the start of a filter that are all folded or all not, and whether nothing follows
them. -/
def letterRun (folded : Bool) : Filter → Bytes × Bool
  | empty => ([], true)
  | letter c f => if f == folded then (Utf8.encode c, true) else ([], false)
  | sequence (letter c f) rest =>
    if f == folded then
      let (text, whole) := letterRun folded rest
      (Utf8.encode c ++ text, whole)
    else ([], false)
  | _ => ([], false)

/-- The text of a filter that is made of letters only, all folded or all not. -/
def letters? (filter : Filter) : Option Bytes :=
  match filter with
  | letter _ f | sequence (letter _ f) _ =>
    let (text, whole) := letterRun f filter
    if whole then some text else none
  | _ => none

/-- The texts that the first part of a filter stands for. Letters that follow each other are one part. -/
def heads : Filter → List Bytes
  | letter c _ => [Utf8.encode c]
  | char set => charTexts set
  | sequence first second =>
    match first with
    | letter c folded => [Utf8.encode c ++ (letterRun folded second).1]
    | first => heads first
  | alternative first second => heads first ++ heads second
  | group body => heads body
  | empty | start | stop | star _ => [[]]

/-- The texts that the last part of a filter stands for. -/
def tails : Filter → List Bytes
  | letter c _ => [Utf8.encode c]
  | char set => charTexts set
  | sequence first second =>
    match letters? (sequence first second), letters? second with
    | some text, _ => [text]
    | none, some text => [text]
    | none, none => tails second
  | alternative first second => tails first ++ tails second
  | group body => tails body
  | empty | start | stop | star _ => [[]]

/-- The longest text that two texts start with. -/
def commonStart : Bytes → Bytes → Bytes
  | a :: s, b :: t => if a == b then a :: commonStart s t else []
  | _, _ => []

/-- The longest text that all texts start with. -/
def commonStartOf : List Bytes → Bytes
  | [] => []
  | s :: rest => rest.foldl commonStart s

/-- The longest text that all texts end with. -/
def commonEndOf (texts : List Bytes) : Bytes :=
  (commonStartOf (texts.map List.reverse)).reverse

/-! ## Search -/

/-- The places of a text where one of several texts stands. -/
def occurrences (parts : List Bytes) (text : Bytes) : List Nat :=
  (List.range (text.length + 1)).filter fun i => parts.any (·.isPrefixOf (text.drop i))

/-- The filter matches at or behind the first place where one of the texts stands. -/
def acceptsBehind (filter : Filter) (parts : List Bytes) (text : Bytes) : Bool :=
  match occurrences parts text with
  | [] => false
  | i :: _ => filter.matchesFrom text i

/-- The filter matches up to `length` bytes behind a place where one of the texts stands. -/
def acceptsUpTo (filter : Filter) (parts : List Bytes) (length : Nat) (text : Bytes) : Bool :=
  (occurrences parts text).any fun i => filter.matchesUpTo text 0 (i + length)

/-- The length from which on several texts are looked for at once. -/
def minLength : Nat := 3

/-- All texts are long enough to be looked for at once. -/
def areLong (parts : List Bytes) : Bool :=
  parts.all (minLength ≤ ·.length)

/-- The filter matches somewhere in a name. Where several texts with a common end are looked for and
letters may be in any case, only as much of them as they have in common is taken into a match. -/
def accepts (filter : Filter) (name : Bytes) : Bool :=
  let heads := filter.heads
  let tails := filter.tails.eraseDups
  let headText := commonStartOf heads
  let tailText := commonEndOf tails
  if filter.isHeadTied || filter.isTailTied then filter.matchesFrom name 0
  else if !headText.isEmpty then filter.acceptsBehind [headText] name
  else if !tailText.isEmpty then
    if tails.length == 1 || (filter.isFolded && areLong tails) then
      filter.acceptsUpTo tails tailText.length name
    else filter.matchesFrom name 0
  else if areLong heads then filter.acceptsBehind heads name
  else filter.matchesFrom name 0

end Filter

end MorrowindScript
