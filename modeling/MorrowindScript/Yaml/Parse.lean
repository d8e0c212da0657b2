import MorrowindScript.Yaml.Layout
import MorrowindScript.Yaml.Node

/-!
# From tokens to values

The first document of a text is read; of what follows it only the next token is looked at. A value may
have a name, by which it is given again elsewhere, and a tag, whose handle stands for the start of a
longer name.

* `Yaml.Parsing`: the tokens that are left, and the names and handles that are known.
* `Yaml.node`: reads a value.
* `Yaml.parse`: the first document of a text.
-/

namespace MorrowindScript.Yaml

/-- The tokens that are left, and the names and handles that are known. -/
structure Parsing where
  /-- The tokens that are left. -/
  tokens : List Token
  /-- The values with a name, the last one first. A value has none before it is complete. -/
  anchors : List (List Char × Option Node) := []
  /-- What the handles of tags stand for. -/
  handles : List (List Char × List Char) := []

/-- What is said before a value. -/
structure Properties where
  /-- The name of the value. -/
  anchor : Option (List Char) := none
  /-- The tag of the value. -/
  tag : Option (List Char) := none
  deriving DecidableEq, Repr

/-- The start of the tags of the language itself. -/
def coreTags : List Char := "tag:yaml.org,2002:".toList

/-- The handles that every document knows. -/
def coreHandles : List (List Char × List Char) :=
  [(['!'], ['!']), (['!', '!'], coreTags)]

/-- A tag in its short form. -/
def shortTag (tag : List Char) : List Char :=
  if coreTags.isPrefixOf tag then '!' :: '!' :: tag.drop coreTags.length else tag

namespace Parsing

/-- Goes on with the given tokens. -/
def withTokens (p : Parsing) (tokens : List Token) : Parsing :=
  { p with tokens }

/-- The tag of a handle and what follows it, if the handle is known. -/
def tag? (p : Parsing) (handle suffix : List Char) : Option (List Char) :=
  if handle.isEmpty then some (shortTag suffix)
  else (p.handles.lookup handle).map fun start => shortTag (start ++ suffix)

/-- The value of a name. A value that is not complete would have to hold itself. -/
def alias? (p : Parsing) (name : List Char) : Option Node :=
  (p.anchors.lookup name).map (·.getD .endless)

/-- A value with this name starts. -/
def openAnchor (p : Parsing) : Option (List Char) → Parsing
  | none => p
  | some name => { p with anchors := (name, none) :: p.anchors }

/-- The last value with this name that started is complete. -/
def closeAnchor (p : Parsing) (node : Node) : Option (List Char) → Parsing
  | none => p
  | some name =>
    let isOpen (entry : List Char × Option Node) := entry.1 == name && entry.2.isNone
    let later := p.anchors.takeWhile (!isOpen ·)
    { p with anchors := later ++ (name, some node) :: p.anchors.drop (later.length + 1) }

/-- Reads what is said before a value. -/
def properties? (p : Parsing) : Option (Properties × Parsing) :=
  match p.tokens with
  | .anchor name :: .tag handle suffix :: rest =>
    (p.tag? handle suffix).map fun tag => (⟨some name, some tag⟩, p.withTokens rest)
  | .tag handle suffix :: .anchor name :: rest =>
    (p.tag? handle suffix).map fun tag => (⟨some name, some tag⟩, p.withTokens rest)
  | .anchor name :: rest => some ({ anchor := some name }, p.withTokens rest)
  | .tag handle suffix :: rest =>
    (p.tag? handle suffix).map fun tag => ({ tag := some tag }, p.withTokens rest)
  | _ => some ({}, p)

end Parsing

/-- A scalar with its properties; the tag `!` says nothing. -/
def Properties.scalar (properties : Properties) (plain : Bool) (text : List Char) : Node :=
  .scalar { plain, text, tag := properties.tag.filter (· != ['!']) }

/-- Where a value may stand. -/
inductive Context where
  /-- Inside brackets. -/
  | flow
  /-- Outside brackets. -/
  | block
  /-- Behind a key outside brackets, where the entries of a sequence need no indentation. -/
  | entry
  deriving DecidableEq, Repr

/-! ## Collections -/

mutual

/-- Reads a value. `fuel` bounds the depth of the recursion. -/
def node (fuel : Nat) (context : Context) (p : Parsing) : Option (Node × Parsing) :=
  match fuel with
  | 0 => none
  | fuel + 1 =>
    match p.tokens with
    | .alias name :: rest => (p.alias? name).map (·, p.withTokens rest)
    | _ => do
      let (properties, p) ← p.properties?
      let p := p.openAnchor properties.anchor
      let (node, p) ← content fuel context properties p
      some (node, p.closeAnchor node properties.anchor)

/-- Reads a value behind its properties. -/
def content (fuel : Nat) (context : Context) (properties : Properties) (p : Parsing) :
    Option (Node × Parsing) :=
  match fuel with
  | 0 => none
  | fuel + 1 =>
    let isBlock := context != .flow
    match p.tokens with
    | [] => none
    | .scalar plain text :: rest => some (properties.scalar plain text, p.withTokens rest)
    | .flowSequenceStart :: rest => (flowItems fuel true (p.withTokens rest)).map (.map .sequence id)
    | .flowMappingStart :: rest => (flowEntries fuel true (p.withTokens rest)).map (.map .mapping id)
    | token :: rest =>
      if token == .blockEntry && context == .entry then
        (looseItems fuel p).map (.map .sequence id)
      else if token == .blockSequenceStart && isBlock then
        (blockItems fuel (p.withTokens rest)).map (.map .sequence id)
      else if token == .blockMappingStart && isBlock then
        (blockEntries fuel (p.withTokens rest)).map (.map .mapping id)
      else if properties.anchor.isSome || properties.tag.isSome then
        some (properties.scalar true [], p)
      else none

/-- Reads a value, which is left out where one of the tokens `stops` comes next. -/
def optional (fuel : Nat) (context : Context) (stops : List Token) (p : Parsing) :
    Option (Node × Parsing) :=
  match fuel with
  | 0 => none
  | fuel + 1 =>
    match p.tokens with
    | [] => none
    | token :: _ => if stops.contains token then some (.absent, p) else node fuel context p

/-- Reads a value behind its indicator; it is left out where the indicator is. -/
def optionalValue (fuel : Nat) (context : Context) (stops : List Token) (p : Parsing) :
    Option (Node × Parsing) :=
  match fuel with
  | 0 => none
  | fuel + 1 =>
    match p.tokens with
    | [] => none
    | .value :: rest => optional fuel context stops (p.withTokens rest)
    | _ => some (.absent, p)

/-- Reads the rest of a sequence by indentation. -/
def blockItems (fuel : Nat) (p : Parsing) : Option (List Node × Parsing) :=
  match fuel with
  | 0 => none
  | fuel + 1 =>
    match p.tokens with
    | .blockEntry :: rest => do
      let (item, p) ← optional fuel .block [.blockEntry, .blockEnd] (p.withTokens rest)
      let (items, p) ← blockItems fuel p
      some (item :: items, p)
    | .blockEnd :: rest => some ([], p.withTokens rest)
    | _ => none

/-- Reads the rest of a sequence that is not indented. -/
def looseItems (fuel : Nat) (p : Parsing) : Option (List Node × Parsing) :=
  match fuel with
  | 0 => none
  | fuel + 1 =>
    match p.tokens with
    | [] => none
    | .blockEntry :: rest => do
      let (item, p) ←
        optional fuel .block [.blockEntry, .key, .value, .blockEnd] (p.withTokens rest)
      let (items, p) ← looseItems fuel p
      some (item :: items, p)
    | _ => some ([], p)

/-- Reads the rest of a mapping by indentation. -/
def blockEntries (fuel : Nat) (p : Parsing) :
    Option (List (Node × Node) × Parsing) :=
  match fuel with
  | 0 => none
  | fuel + 1 =>
    match p.tokens with
    | .key :: rest => do
      let (key, p) ← optional fuel .entry [.key, .value, .blockEnd] (p.withTokens rest)
      let (value, p) ← optionalValue fuel .entry [.key, .value, .blockEnd] p
      let (entries, p) ← blockEntries fuel p
      some ((key, value) :: entries, p)
    | .blockEnd :: rest => some ([], p.withTokens rest)
    | _ => none

/-- Reads a mapping of one entry in a sequence in brackets. -/
def flowPair (fuel : Nat) (p : Parsing) : Option (Node × Parsing) :=
  match fuel with
  | 0 => none
  | fuel + 1 => do
    let (key, p) ←
      match p.tokens with
      | [] => none
      | token :: rest =>
        if [.value, .flowEntry, .flowSequenceEnd].contains token then
          some (.absent, p.withTokens rest)
        else node fuel .flow p
    let (value, p) ← optionalValue fuel .flow [.flowEntry, .flowSequenceEnd] p
    some (.mapping [(key, value)], p)

/-- Reads the rest of a sequence in brackets. -/
def flowItems (fuel : Nat) (first : Bool) (p : Parsing) : Option (List Node × Parsing) :=
  match fuel with
  | 0 => none
  | fuel + 1 =>
    match p.tokens with
    | .flowSequenceEnd :: rest => some ([], p.withTokens rest)
    | tokens => do
      let p ← if first then some p else
        match tokens with
        | .flowEntry :: rest => some (p.withTokens rest)
        | _ => none
      match p.tokens with
      | .flowSequenceEnd :: rest => some ([], p.withTokens rest)
      | .key :: rest =>
        let (item, p) ← flowPair fuel (p.withTokens rest)
        let (items, p) ← flowItems fuel false p
        some (item :: items, p)
      | _ =>
        let (item, p) ← node fuel .flow p
        let (items, p) ← flowItems fuel false p
        some (item :: items, p)

/-- Reads the rest of a mapping in braces. -/
def flowEntries (fuel : Nat) (first : Bool) (p : Parsing) :
    Option (List (Node × Node) × Parsing) :=
  match fuel with
  | 0 => none
  | fuel + 1 =>
    match p.tokens with
    | .flowMappingEnd :: rest => some ([], p.withTokens rest)
    | tokens => do
      let p ← if first then some p else
        match tokens with
        | .flowEntry :: rest => some (p.withTokens rest)
        | _ => none
      match p.tokens with
      | .flowMappingEnd :: rest => some ([], p.withTokens rest)
      | .key :: rest =>
        let (key, p) ←
          optional fuel .flow [.value, .flowEntry, .flowMappingEnd] (p.withTokens rest)
        let (value, p) ← optionalValue fuel .flow [.flowEntry, .flowMappingEnd] p
        let (entries, p) ← flowEntries fuel false p
        some ((key, value) :: entries, p)
      | _ =>
        let (key, p) ← node fuel .flow p
        let (entries, p) ← flowEntries fuel false p
        some ((key, .absent) :: entries, p)

end

/-! ## Documents -/

/-- Reads the directives before a document: the version at most once, and every handle at most once. -/
def directives? (versioned : Bool) (handles : List (List Char × List Char)) :
    List Token → Option (List (List Char × List Char) × List Token)
  | .version major minor :: rest =>
    if versioned || major != 1 || minor != 1 then none else directives? true handles rest
  | .handle name uri :: rest =>
    if (handles.lookup name).isSome then none
    else directives? versioned ((name, uri) :: handles) rest
  | tokens => some (handles, tokens)

/-- Reads the first document. Nothing is left out where a document is: a text without one is as good as
one that holds nothing. -/
def document? (tokens : List Token) : Option Node := do
  let fuel := 4 * tokens.length + 4
  let result : Node × Parsing ←
    match tokens with
    | .streamEnd :: _ => some (.absent, { tokens })
    | .version .. :: _ | .handle .. :: _ | .documentStart :: _ =>
      match directives? false [] tokens with
      | some (handles, .documentStart :: token :: rest) =>
        let p : Parsing := { tokens := token :: rest, handles := handles ++ coreHandles }
        match token with
        | .version .. | .handle .. | .documentStart | .documentEnd | .streamEnd => some (.absent, p)
        | _ => node fuel .block p
      | _ => none
    | _ => node fuel .block { tokens, handles := coreHandles }
  if result.2.tokens.isEmpty then none else some result.1

/-- The first document of a text. -/
def parse (text : Bytes) : Option Node :=
  document? (Token.ofText (Text.ofBytes text))

end MorrowindScript.Yaml
