import MorrowindScript.GameData.Index
import MorrowindScript.Scope

/-!
# Game data

The records of the game that a script refers to: global variables, objects that can carry a script,
and scripts with their locals. All names are looked up without regard to ASCII case.

* `DataFile`: the records as they are stored.
* `GameData.ofFile`: their index, which refuses records without a name.
* `GameData.tables`: the index as the compiler sees it.
-/

namespace MorrowindScript

/-- An object of the game and the script attached to it. -/
structure ObjectRecord where
  /-- The name of the object. -/
  id : Bytes := []
  /-- The name of its script, or nothing. -/
  script : Bytes := []
  deriving DecidableEq, Repr

/-- A script on record. Source and bytecode serve to check the compiler. -/
structure ScriptRecord where
  /-- The name of the script. -/
  id : Bytes := []
  /-- The names of its short locals. -/
  shorts : List Bytes := []
  /-- The names of its long locals. -/
  longs : List Bytes := []
  /-- The names of its float locals. -/
  floats : List Bytes := []
  /-- Its source. -/
  text : Bytes := []
  /-- Its bytecode in hexadecimal digits. -/
  data : Bytes := []
  deriving DecidableEq, Repr

/-- The locals of a script on record. -/
def ScriptRecord.locals (record : ScriptRecord) : StoredLocals where
  id := record.id
  shorts := record.shorts.length
  longs := record.longs.length
  floats := record.floats.length
  names := record.shorts ++ record.longs ++ record.floats

/-- The records of a data set as they are stored. -/
structure DataFile where
  /-- The names of the global variables. -/
  globals : List Bytes := []
  /-- Things to be used. -/
  activators : List ObjectRecord := []
  /-- People. -/
  npcs : List ObjectRecord := []
  /-- Animals and monsters. -/
  creatures : List ObjectRecord := []
  /-- Scenery, which never carries a script. -/
  statics : List ObjectRecord := []
  /-- Things that hold other things. -/
  containers : List ObjectRecord := []
  /-- The scripts. -/
  scripts : List ScriptRecord := []
  deriving DecidableEq, Repr

/-- The place of a record without a name. -/
inductive NamelessRecord where
  /-- Among the globals. -/
  | ofGlobals
  /-- In the table with the given title, counted from zero. -/
  | ofTable (title : String) (index : Nat)
  deriving DecidableEq, Repr

/-- The error in words. -/
def NamelessRecord.message (place : NamelessRecord) : Bytes :=
  (match place with
    | ofGlobals => ascii "globals"
    | ofTable title index => ascii title ++ ascii "[" ++ Bytes.decimal index ++ ascii "]") ++
    ascii ": gamedata: record without id"

/-- The records of a data set, indexed by name. -/
structure GameData where
  /-- The globals. -/
  globals : Index Bytes := {}
  /-- The things to be used. -/
  activators : Index ObjectRecord := {}
  /-- The people. -/
  npcs : Index ObjectRecord := {}
  /-- The animals and monsters. -/
  creatures : Index ObjectRecord := {}
  /-- The scenery. -/
  statics : Index ObjectRecord := {}
  /-- The things that hold other things. -/
  containers : Index ObjectRecord := {}
  /-- The locals of the scripts. -/
  scripts : Index StoredLocals := {}
  /-- All scripts, in the order of the file. -/
  records : List ScriptRecord := []

namespace GameData

/-- The index of one table, unless a record of it has no name. -/
def indexTable {α : Type} (title : String) (id : α → Bytes) (records : List α) :
    Except NamelessRecord (Index α) :=
  match records.findIdx? fun record => (id record).isEmpty with
  | some i => .error (.ofTable title i)
  | none => .ok (.ofList id records)

/-- The index of a data set, unless a record of it has no name. -/
def ofFile (file : DataFile) : Except NamelessRecord GameData := do
  if file.globals.any (·.isEmpty) then throw .ofGlobals
  let activators ← indexTable "activators" ObjectRecord.id file.activators
  let npcs ← indexTable "npcs" ObjectRecord.id file.npcs
  let creatures ← indexTable "creatures" ObjectRecord.id file.creatures
  let statics ← indexTable "statics" ObjectRecord.id file.statics
  let containers ← indexTable "containers" ObjectRecord.id file.containers
  let scripts ← indexTable "scripts" StoredLocals.id (file.scripts.map ScriptRecord.locals)
  pure
    { globals := .ofList id file.globals
      activators, npcs, creatures, statics, containers, scripts
      records := file.scripts }

/-- The registered spelling of a global. -/
def global? (data : GameData) (name : Bytes) : Option Bytes :=
  data.globals.find? name

/-- The locals of the script with the given name. -/
def script? (data : GameData) (name : Bytes) : Option StoredLocals :=
  data.scripts.find? name

/-- The object of the given name that may carry a script, in the first table that has one. -/
def scripted? (data : GameData) (name : Bytes) : Option ObjectRecord :=
  [data.activators, data.npcs, data.creatures, data.containers].findSome? (·.find? name)

/-- The object of the given name, in the first table that has one. -/
def object? (data : GameData) (name : Bytes) : Option ObjectRecord :=
  [data.activators, data.npcs, data.creatures, data.statics, data.containers].findSome?
    (·.find? name)

/-- The slot of a variable in the script attached to an object. -/
def foreign? (data : GameData) (object name : Bytes) : Option Slot := do
  let record ← data.scripted? object
  let locals ← data.script? record.script
  locals.lookup name

/-- The registered spelling of an object, or the name itself if the object is not known. -/
def objectSpelling (data : GameData) (name : Bytes) : Bytes :=
  match data.object? name with
  | some record => record.id
  | none => name

/-- The data set as the compiler sees it. -/
def tables (data : GameData) : Tables where
  globalSpelling := data.global?
  foreignSlot := data.foreign?
  objectSpelling := data.objectSpelling

end GameData

end MorrowindScript
