import MorrowindScript.CodePage.Basic
import MorrowindScript.GameData.Basic
import MorrowindScript.Yaml.Parse

/-!
# Data sets on disk

A data set is a YAML document with one key for each table. Every key must be known and given once,
and every value must have the shape its key asks for. A value that is left out leaves its field
empty, and a member of a list that is left out does not count. An entry whose key is left out is
passed over.

* `DataFile.ofNode`: the records of a document.
* `DataFile.encode`: the records with their names and texts in a code page.
* `GameData.decode`: the data set of a text.
-/

namespace MorrowindScript

open Yaml

/-- Reads a text; it is nothing if it is left out. -/
def readText? : Node → Option (Option Bytes)
  | .scalar s => s.value?
  | _ => none

/-- Reads a text that is empty if it is left out. -/
def readText (node : Node) : Option Bytes :=
  (readText? node).map (·.getD [])

/-- What is read where a value is left out; another scalar does not fit. -/
def readAbsent {α : Type} (default : α) (s : Scalar) : Option α :=
  match s.value? with
  | some none => some default
  | _ => none

/-- Reads a list; members that are left out do not count, and a list that is left out is empty. -/
def readList {α : Type} (read : Node → Option (Option α)) : Node → Option (List α)
  | .sequence items => (items.mapM read).map (·.filterMap id)
  | .scalar s => readAbsent [] s
  | _ => none

/-- Reads a record; it is nothing if it is left out. `set` gives nothing for a name or a value that does
not fit. -/
def readRecord {α : Type} (set : α → Bytes → Node → Option α) (start : α) :
    Node → Option (Option α)
  | .mapping entries => do
    let fields ← fields? entries
    let record ← fields.foldlM (fun record field => set record field.1 field.2) start
    some (some record)
  | .scalar s => readAbsent none s
  | _ => none

/-- Sets a field of an object. -/
def ObjectRecord.setField (record : ObjectRecord) (key : Bytes) (value : Node) :
    Option ObjectRecord :=
  if key == ascii "id" then (readText value).map ({ record with id := · })
  else if key == ascii "script" then (readText value).map ({ record with script := · })
  else none

/-- Sets a field of a script. -/
def ScriptRecord.setField (record : ScriptRecord) (key : Bytes) (value : Node) :
    Option ScriptRecord :=
  let names := readList readText? value
  if key == ascii "id" then (readText value).map ({ record with id := · })
  else if key == ascii "shorts" then names.map ({ record with shorts := · })
  else if key == ascii "longs" then names.map ({ record with longs := · })
  else if key == ascii "floats" then names.map ({ record with floats := · })
  else if key == ascii "text" then (readText value).map ({ record with text := · })
  else if key == ascii "data" then (readText value).map ({ record with data := · })
  else none

namespace DataFile

/-- Sets a table of a data set. -/
def setField (file : DataFile) (key : Bytes) (value : Node) : Option DataFile :=
  let objects := readList (readRecord ObjectRecord.setField {}) value
  if key == ascii "globals" then (readList readText? value).map ({ file with globals := · })
  else if key == ascii "activators" then objects.map ({ file with activators := · })
  else if key == ascii "npcs" then objects.map ({ file with npcs := · })
  else if key == ascii "creatures" then objects.map ({ file with creatures := · })
  else if key == ascii "statics" then objects.map ({ file with statics := · })
  else if key == ascii "containers" then objects.map ({ file with containers := · })
  else if key == ascii "scripts" then
    (readList (readRecord ScriptRecord.setField {}) value).map ({ file with scripts := · })
  else none

/-- The records of a document, unless it has another shape. -/
def ofNode (node : Node) : Option DataFile :=
  (readRecord setField {} node).map (·.getD {})

/-! ## Conversion -/

/-- Converts an object. -/
def encodeObject (encoding : TextEncoding) (record : ObjectRecord) : Option ObjectRecord := do
  let id ← encoding.encode? record.id
  let script ← encoding.encode? record.script
  some { id, script }

/-- Converts a script. Its bytecode is digits and stays as it is. -/
def encodeScript (encoding : TextEncoding) (record : ScriptRecord) : Option ScriptRecord := do
  let id ← encoding.encode? record.id
  let text ← encoding.encode? record.text
  let shorts ← record.shorts.mapM encoding.encode?
  let longs ← record.longs.mapM encoding.encode?
  let floats ← record.floats.mapM encoding.encode?
  some { record with id, text, shorts, longs, floats }

/-- The records with their names and texts in the given encoding, if it has all their characters. -/
def encode (encoding : TextEncoding) (file : DataFile) : Option DataFile := do
  let globals ← file.globals.mapM encoding.encode?
  let activators ← file.activators.mapM (encodeObject encoding)
  let npcs ← file.npcs.mapM (encodeObject encoding)
  let creatures ← file.creatures.mapM (encodeObject encoding)
  let statics ← file.statics.mapM (encodeObject encoding)
  let containers ← file.containers.mapM (encodeObject encoding)
  let scripts ← file.scripts.mapM (encodeScript encoding)
  some { globals, activators, npcs, creatures, statics, containers, scripts }

end DataFile

/-- Why a text is no data set. -/
inductive DataError where
  /-- It is no document of the right shape. -/
  | malformed
  /-- It has characters that the encoding does not have. -/
  | unsupported (encoding : TextEncoding)
  /-- It has a record without a name. -/
  | nameless (place : NamelessRecord)
  deriving DecidableEq, Repr

/-- The error in words. -/
def DataError.message : DataError → Bytes
  | malformed => ascii "gamedata: yaml: malformed document"
  | unsupported encoding => ascii "gamedata: " ++ encoding.encodeMessage
  | nameless place => place.message

/-- The data set of a text in UTF-8, with names and texts converted to the given encoding. -/
def GameData.decode (encoding : TextEncoding) (text : Bytes) : Except DataError GameData :=
  match (Yaml.parse text).bind DataFile.ofNode with
  | none => .error .malformed
  | some file =>
    match file.encode encoding with
    | none => .error (.unsupported encoding)
    | some file =>
      match GameData.ofFile file with
      | .ok data => .ok data
      | .error place => .error (.nameless place)

end MorrowindScript
