import MorrowindScript.Yaml.Scalar.Block
import MorrowindScript.Yaml.Scalar.Plain
import MorrowindScript.Yaml.Scalar.Quoted
import MorrowindScript.Yaml.Token

/-!
# From text to tokens

Outside brackets the columns of a document tell where collections start and end: an entry or a key
further right than all open collections opens one, and a token further left closes those it is left
of. A key shows only when its colon is reached, so the places where one may have started are kept.

Tokens are used one after the other, and a token is given out when two more have been read and when it
is known that it does not start a key. So a fault in a text takes away the tokens shortly before it.

* `Yaml.Layout`: how far a text has been read, and what is open there.
* `Yaml.Layout.step`: reads one more token.
* `Yaml.Token.ofText`: the tokens of a text.
-/

namespace MorrowindScript.Yaml

open Spot

/-- A place where a key may have started. -/
structure PossibleKey where
  /-- The number of tokens before it. -/
  number : Nat
  /-- Where it starts. -/
  spot : Spot
  /-- Nothing but a key may stand there. -/
  required : Bool
  /-- Its first token may be used before it is known whether a key starts there. -/
  settled : Bool := false
  deriving DecidableEq, Repr

/-- The longest key. -/
def maxKeyLength : Nat := 1024

/-- A key that starts there does not reach the place `s`: it stands on one line and is not too long. -/
def PossibleKey.isStale (k : PossibleKey) (s : Spot) : Bool :=
  k.spot.line < s.line || k.spot.index + maxKeyLength < s.index

/-- The first token has been used when `count` tokens were read, so nothing can be put before it. -/
def PossibleKey.isUsed (k : PossibleKey) (count : Nat) : Bool :=
  k.settled && k.number + 3 ≤ count

/-- The text outside brackets, or inside a bracket. -/
structure Level where
  /-- A place where a key may have started. -/
  key : Option PossibleKey := none
  /-- The number of tokens before the last such place or, if there was none, before the bracket. -/
  number : Nat := 0
  deriving DecidableEq, Repr

/-- A level that a bracket closes again. If no key could start inside, the bracket itself may be used
before it is known whether it starts a key. -/
def Level.settle (inner outer : Level) : Level :=
  { outer with
    key := outer.key.map fun k => { k with settled := k.settled || k.number == inner.number } }

/-- How far a text has been read, and what is open there. -/
structure Layout where
  /-- What has not been read. -/
  rest : List Spot
  /-- Nothing follows the rest; otherwise there is a fault behind it. -/
  intact : Bool
  /-- The columns of the open collections by indentation, the innermost first. -/
  indents : List Nat := []
  /-- The text outside brackets and the open brackets, the innermost first. -/
  levels : List Level := [{}]
  /-- A key may start at the next token. -/
  keyAllowed : Bool := true
  /-- The tokens, the last one first. -/
  tokens : List Token := []
  /-- The number of tokens. -/
  count : Nat := 0
  deriving Repr

namespace Layout

/-- The text is inside brackets. -/
def inFlow (l : Layout) : Bool :=
  !l.levels.tail.isEmpty

/-- The next place. -/
def spot (l : Layout) : Spot :=
  head l.rest

/-- The next `n` characters can be read. -/
def canRead (l : Layout) (n : Nat) : Bool :=
  l.intact || !(l.rest.take n).any (·.char == endOfText)

/-- Appends a token. -/
def push (l : Layout) (token : Token) : Layout :=
  { l with tokens := token :: l.tokens, count := l.count + 1 }

/-- Puts a token behind the first `number` tokens. -/
def insert (l : Layout) (number : Nat) (token : Token) : Layout :=
  let later := l.count - number
  { l with tokens := l.tokens.take later ++ token :: l.tokens.drop later, count := l.count + 1 }

/-! ## Indentation -/

/-- The least column of what belongs to the innermost collection. -/
def margin (l : Layout) : Nat :=
  l.indents.head?.elim 0 (· + 1)

/-- Opens a collection at a column, unless one is open there; its token comes behind the first `number`
tokens. -/
def openBlock (l : Layout) (column number : Nat) (token : Token) : Layout :=
  if l.inFlow || column < l.margin then l
  else { l.insert number token with indents := column :: l.indents }

/-- Closes the innermost `n` collections by indentation. -/
def closeBlocks (l : Layout) (n : Nat) : Layout :=
  { l with
    indents := l.indents.drop n
    tokens := List.replicate n .blockEnd ++ l.tokens
    count := l.count + n }

/-- Closes the collections further right than a column. -/
def closeRightOf (l : Layout) (column : Nat) : Layout :=
  if l.inFlow then l else l.closeBlocks (l.indents.takeWhile (column < ·)).length

/-- Closes all collections by indentation. -/
def closeAll (l : Layout) : Layout :=
  if l.inFlow then l else l.closeBlocks l.indents.length

/-! ## Keys -/

/-- The place on the present level where a key may have started. -/
def key? (l : Layout) : Option PossibleKey :=
  l.levels.head?.bind (·.key)

/-- Changes the present level. -/
def setLevel (l : Layout) (level : Level) : Layout :=
  { l with levels := level :: l.levels.tail }

/-- No key has started on the present level. -/
def clearKey (l : Layout) : Layout :=
  l.setLevel { l.levels.headD {} with key := none }

/-- Gives up the place where a key may have started, unless nothing else may stand there. -/
def dropKey (l : Layout) : Option Layout :=
  if l.key?.any (·.required) then none else some l.clearKey

/-- A key may start here, if one is allowed. -/
def saveKey (l : Layout) : Option Layout :=
  if l.keyAllowed then
    l.dropKey.map fun l =>
      let required := !l.inFlow && l.indents.head? == some l.spot.column
      l.setLevel { key := some { number := l.count, spot := l.spot, required }, number := l.count }
  else some l

/-- The key that ends here, if there is one. A place where only a key may stand must not be left. -/
def validKey (l : Layout) : Option (Option PossibleKey) :=
  match l.key? with
  | none => some none
  | some k =>
    if k.isStale l.spot then (if k.required then none else some none) else some (some k)

/-! ## Tokens -/

/-- Appends a token, what follows it being given, and passes over a comment behind it. -/
def take (l : Layout) (token : Token) (rest : List Spot) : Layout :=
  { l.push token with rest := skipLineComment rest }

/-- The end of the text. -/
def takeEnd (l : Layout) : Option Layout :=
  l.closeAll.dropKey.map (·.push .streamEnd)

/-- A mark between documents or a directive. -/
def takeMark (l : Layout) (token : Token) (rest : List Spot) : Option Layout :=
  l.closeAll.dropKey.map fun l => { l.push token with rest, keyAllowed := false }

/-- An opening bracket. -/
def takeOpening (l : Layout) (token : Token) : Option Layout :=
  l.saveKey.map fun l =>
    { l.take token l.rest.tail with levels := { number := l.count } :: l.levels, keyAllowed := true }

/-- Closes the innermost bracket, if one is open. -/
def closeLevel : List Level → List Level
  | inner :: outer :: rest => inner.settle outer :: rest
  | levels => levels

/-- A closing bracket. -/
def takeClosing (l : Layout) (token : Token) : Option Layout :=
  l.dropKey.map fun l =>
    { l.take token l.rest.tail with levels := closeLevel l.levels, keyAllowed := false }

/-- A comma in brackets. -/
def takeFlowEntry (l : Layout) : Option Layout :=
  l.dropKey.map fun l => { l.take .flowEntry l.rest.tail with keyAllowed := true }

/-- The hyphen of an entry. -/
def takeBlockEntry (l : Layout) : Option Layout :=
  if !l.inFlow && !l.keyAllowed then none
  else
    (l.openBlock l.spot.column l.count .blockSequenceStart).dropKey.map fun l =>
      { l.push .blockEntry with rest := l.rest.tail, keyAllowed := true }

/-- The question mark before a key. -/
def takeKey (l : Layout) : Option Layout :=
  if !l.inFlow && !l.keyAllowed then none
  else
    (l.openBlock l.spot.column l.count .blockMappingStart).dropKey.map fun l =>
      { l.take .key l.rest.tail with keyAllowed := !l.inFlow }

/-- The colon before a value. -/
def takeValue (l : Layout) : Option Layout := do
  match ← l.validKey with
  | some k =>
    let number := if k.isUsed l.count then l.count else k.number
    let l := (l.insert number .key).openBlock k.spot.column number .blockMappingStart
    some { l.clearKey.take .value l.rest.tail with keyAllowed := false }
  | none =>
    if !l.inFlow && !l.keyAllowed then none
    else
      let l := l.openBlock l.spot.column l.count .blockMappingStart
      some { l.clearKey.take .value l.rest.tail with keyAllowed := !l.inFlow }

/-- A token that may start a key. -/
def takeContent (l : Layout) (content : Option (Token × List Spot)) : Option Layout := do
  let l ← l.saveKey
  let (token, rest) ← content
  some { l.take token rest with keyAllowed := false }

/-- A text without quotes. -/
def takePlain (l : Layout) : Option Layout := do
  let l ← l.saveKey
  let p ← plainText l.inFlow l.margin l.rest
  let token := Token.scalar true p.text
  if p.isBroken then some { l.push token with rest := p.rest, keyAllowed := true }
  else some { l.take token p.rest with keyAllowed := false }

/-- A text in quotes. -/
def takeQuoted (l : Layout) (quote : Char) : Option Layout :=
  l.takeContent ((quotedText quote l.rest.tail).map fun (text, rest) => (.scalar false text, rest))

/-- A block of text. -/
def takeBlockText (l : Layout) (folded : Bool) : Option Layout := do
  let l ← l.dropKey
  let (text, rest) ← blockText folded l.indents.head? l.rest.tail
  some { l.push (.scalar false text) with rest, keyAllowed := true }

/-- The characters that no text without quotes starts with. -/
def isIndicator (c : Char) : Bool :=
  ['-', '?', ':', ',', '[', ']', '\x7b', '\x7d', '#', '&', '*', '!', '|', '>', '\'', '"', '%', '@',
    '\x60'].contains c

/-- A text without quotes may start with `c`, which `next` follows. -/
def startsPlain (l : Layout) (c next : Char) : Bool :=
  !(isBoundary c || isIndicator c) || (c == '-' && !isBlank next) ||
    (!l.inFlow && (c == '?' || c == ':') && !isBoundary next)

/-- Takes the token that starts with `c`, which `next` follows. -/
def takeToken (l : Layout) (c next : Char) : Option Layout :=
  let indicates := l.inFlow || isBoundary next
  if c == '[' then l.takeOpening .flowSequenceStart
  else if c == '\x7b' then l.takeOpening .flowMappingStart
  else if c == ']' then l.takeClosing .flowSequenceEnd
  else if c == '\x7d' then l.takeClosing .flowMappingEnd
  else if c == ',' then l.takeFlowEntry
  else if c == '-' && isBoundary next then l.takeBlockEntry
  else if c == '?' && indicates then l.takeKey
  else if c == ':' && indicates then l.takeValue
  else if c == '*' then l.takeContent ((name? l.rest.tail).map fun (n, rest) => (.alias n, rest))
  else if c == '&' then l.takeContent ((name? l.rest.tail).map fun (n, rest) => (.anchor n, rest))
  else if c == '!' then l.takeContent (tag? l.rest)
  else if c == '|' && !l.inFlow then l.takeBlockText false
  else if c == '>' && !l.inFlow then l.takeBlockText true
  else if c == '\'' || c == '"' then l.takeQuoted c
  else if l.startsPlain c next then l.takePlain
  else none

/-- The number of characters that are looked at where a token starts. -/
def lookAhead : Nat := 4

/-- Reads one more token, if there is one. -/
def step (l : Layout) : Option Layout :=
  let (rest, keyAllowed) := nextToken l.inFlow l.keyAllowed l.rest
  let l := { l with rest, keyAllowed }.closeRightOf (head rest).column
  let c := peek rest
  let next :=
    if !l.canRead lookAhead then none
    else if c == endOfText then l.takeEnd
    else if l.spot.column == 0 && c == '%' then
      (directive? rest).bind fun (token, rest) => l.takeMark token rest
    else if isTripled '-' rest then l.takeMark .documentStart (rest.drop 3)
    else if isTripled '.' rest then l.takeMark .documentEnd (rest.drop 3)
    else l.takeToken c (peekAt 1 rest)
  next.filter (·.canRead 1)

/-! ## All tokens -/

/-- The numbers of the tokens that may still turn out to start a key. -/
def openNumbers (l : Layout) : List Nat :=
  (l.levels.filterMap (·.key)).filterMap fun k =>
    if !k.settled && (k.required || !k.isStale l.spot) then some k.number else none

/-- The number of tokens that can be used if the next one cannot be read. -/
def usable (l : Layout) : Nat :=
  l.openNumbers.foldl min (l.count - 2)

/-- The tokens from here on, as far as they can be used. `fuel` bounds the number of steps. -/
def run : Nat → Layout → List Token
  | 0, l => l.tokens.reverse.take l.usable
  | fuel + 1, l =>
    match l.step with
    | none => l.tokens.reverse.take l.usable
    | some l =>
      if l.tokens.head? == some .streamEnd then l.tokens.reverse else run fuel l

end Layout

/-- The tokens of a text, as far as they can be used. If all can, the last one is the end of the text. -/
def Token.ofText (text : Text) : List Token :=
  Layout.run (text.chars.length + 1) { rest := text.spots, intact := text.intact }

end MorrowindScript.Yaml
