import MorrowindScript.Yaml.Spacing

/-!
# Tokens

The tokens of a document: its indicators, its scalars and what is said about them, and tokens without
a character of their own, which stand where indentation opens or closes a collection or where a key
starts.

* `Yaml.Token`: the tokens.
* `Yaml.name?`, `Yaml.tag?`, `Yaml.directive?`: anchors and aliases, tags and directives as they are
  written.
-/

namespace MorrowindScript.Yaml

open Spot

/-- The tokens of a document. -/
inductive Token where
  /-- The version of the language. -/
  | version (major minor : Nat)
  /-- What a handle in a tag stands for. -/
  | handle (name uri : List Char)
  /-- The mark before a document. -/
  | documentStart
  /-- The mark after a document. -/
  | documentEnd
  /-- The end of the text. -/
  | streamEnd
  /-- A sequence by indentation starts. -/
  | blockSequenceStart
  /-- A mapping by indentation starts. -/
  | blockMappingStart
  /-- A collection by indentation ends. -/
  | blockEnd
  /-- A sequence in brackets starts. -/
  | flowSequenceStart
  /-- A sequence in brackets ends. -/
  | flowSequenceEnd
  /-- A mapping in braces starts. -/
  | flowMappingStart
  /-- A mapping in braces ends. -/
  | flowMappingEnd
  /-- An entry of a sequence by indentation starts. -/
  | blockEntry
  /-- An entry in brackets or braces ends. -/
  | flowEntry
  /-- A key starts. -/
  | key
  /-- A value starts. -/
  | value
  /-- A value that was given elsewhere. -/
  | alias (name : List Char)
  /-- The name of the next value. -/
  | anchor (name : List Char)
  /-- The tag of the next value. -/
  | tag (handle suffix : List Char)
  /-- A piece of text. -/
  | scalar (plain : Bool) (text : List Char)
  deriving DecidableEq, Repr

/-! ## Names -/

/-- The characters that may follow a name. -/
def isAfterName (c : Char) : Bool :=
  isBoundary c || ['?', ':', ',', ']', '\x7d', '%', '@', '\x60'].contains c

/-- The name of an anchor or an alias, and what follows it. -/
def name? (rest : List Spot) : Option (List Char × List Spot) :=
  let name := chars (rest.takeWhile (isNameChar ·.char))
  let rest := rest.dropWhile (isNameChar ·.char)
  if !name.isEmpty && isAfterName (peek rest) then some (name, rest) else none

/-! ## Tags -/

/-- The characters of a tag, besides escapes. -/
def isUriChar (c : Char) : Bool :=
  isNameChar c || ";/?:@&=+$,.!~*'()[]".toList.contains c

/-- The longest text of a tag, and what follows it; an escape is a percent sign and two digits. -/
def uri? (rest : List Spot) : Option (List Char × List Spot) :=
  match rest with
  | [] => some ([], [])
  | s :: later =>
    if s.char == '%' then
      match hexValue? 0 (chars (later.take 2)) with
      | none => none
      | some code => (uri? (later.drop 2)).map fun (uri, rest) => (Char.ofNat code :: uri, rest)
    else if isUriChar s.char then (uri? later).map fun (uri, rest) => (s.char :: uri, rest)
    else some ([], s :: later)
termination_by rest.length

/-- A tag whose exclamation mark stands at the start of `rest`, as its handle and what follows the
handle, and the rest. -/
def tagParts? (rest : List Spot) : Option (List Char × List Char × List Spot) :=
  if peekAt 1 rest == '<' then do
    let (uri, rest) ← uri? (rest.drop 2)
    if uri.isEmpty || peek rest != '>' then none
    some ([], uri, rest.tail)
  else do
    let name := chars (rest.tail.takeWhile (isNameChar ·.char))
    let after := rest.tail.dropWhile (isNameChar ·.char)
    if peek after == '!' then
      let (suffix, rest) ← uri? after.tail
      if suffix.isEmpty then none
      some ('!' :: name ++ ['!'], suffix, rest)
    else
      let (uri, rest) ← uri? after
      let suffix := name ++ uri
      if suffix.isEmpty then some ([], ['!'], rest) else some (['!'], suffix, rest)

/-- A tag and what follows it. -/
def tag? (rest : List Spot) : Option (Token × List Spot) := do
  let (handle, suffix, rest) ← tagParts? rest
  if isBoundary (peek rest) then some (.tag handle suffix, rest) else none

/-! ## Directives -/

/-- The longest number of a version. -/
def maxVersionDigits : Nat := 9

/-- A number and what follows it. -/
def number? (rest : List Spot) : Option (Nat × List Spot) :=
  let digits := chars (rest.takeWhile (·.char.isDigit))
  if digits.isEmpty || digits.length > maxVersionDigits then none
  else some (digits.foldl (fun n c => 10 * n + (c.toNat - '0'.toNat)) 0,
    rest.dropWhile (·.char.isDigit))

/-- The version behind its directive. -/
def version? (rest : List Spot) : Option (Token × List Spot) := do
  let (major, rest) ← number? (rest.dropWhile (isBlank ·.char))
  if peek rest != '.' then none
  let (minor, rest) ← number? rest.tail
  some (.version major minor, rest)

/-- The handle behind its directive, and what it stands for. -/
def handle? (rest : List Spot) : Option (Token × List Spot) := do
  let rest := rest.dropWhile (isBlank ·.char)
  if peek rest != '!' then none
  let name := chars (rest.tail.takeWhile (isNameChar ·.char))
  let after := rest.tail.dropWhile (isNameChar ·.char)
  let (handle, rest) ←
    if peek after == '!' then some ('!' :: name ++ ['!'], after.tail)
    else if name.isEmpty then some (['!'], after)
    else none
  if !isBlank (peek rest) then none
  let (uri, rest) ← uri? (rest.dropWhile (isBlank ·.char))
  if uri.isEmpty || !isBoundary (peek rest) then none
  some (.handle handle uri, rest)

/-- A directive, whose percent sign stands at the start of `rest`, and the line below it. -/
def directive? (rest : List Spot) : Option (Token × List Spot) := do
  let name := String.ofList (chars (rest.tail.takeWhile (isNameChar ·.char)))
  let rest := rest.tail.dropWhile (isNameChar ·.char)
  if !isBoundary (peek rest) then none
  let (token, rest) ←
    if name == "YAML" then version? rest else if name == "TAG" then handle? rest else none
  let rest ← emptyLine? rest
  some (token, rest)

end MorrowindScript.Yaml
