import MorrowindScript.Proofs.GameData.Index

/-!
# A data set against its records

A data set keeps an index of each table under names in lower case. This module compares its answers
with a plain search of the records, and says when there is a data set at all.

## Main definitions

* `DataFile.object?`, `DataFile.foreign?`: the searches for an object and for a variable of its
  script.
* `DataFile.HasNameless`: some record has no name.
* `NamelessRecord.IsIn`: the record at a place has no name.
* `GameData.Answers`: a data set answers as a search of the records does.

## Main results

* `GameData.ofFile_eq_error_or_answers`: records without names are refused, and all other records
  have a data set that answers as a search of them does.
-/

namespace MorrowindScript

open Bytes

variable {α : Type}

/-! ## Searching a table -/

/-- Of the names that are equal up to ASCII case, each finds the same record. -/
theorem lastNamed?_of_equalFold {name other : Bytes} (h : equalFold name other = true)
    (id : α → Bytes) (records : List α) :
    lastNamed? id name records = lastNamed? id other records := by
  have hlower : name.lower = other.lower := eq_of_beq h
  simp only [lastNamed?, equalFold, hlower]

/-- The record that is found has the name. -/
theorem equalFold_of_lastNamed? {id : α → Bytes} {name : Bytes} {records : List α} {record : α}
    (h : lastNamed? id name records = some record) : equalFold (id record) name = true :=
  List.find?_some (p := fun record => equalFold (id record) name) h

theorem isSome_lastNamed?_iff {id : α → Bytes} {name : Bytes} {records : List α} :
    (lastNamed? id name records).isSome = true ↔
      ∃ record ∈ records, equalFold (id record) name = true := by
  simp only [lastNamed?, List.find?_isSome, List.mem_reverse]

/-! ## Searching the records -/

namespace DataFile

/-- All objects, table by table. -/
def objects (file : DataFile) : List ObjectRecord :=
  file.activators ++ file.npcs ++ file.creatures ++ file.statics ++ file.containers

/-- The object of the given name: the last one in the first table that has one. -/
def object? (file : DataFile) (name : Bytes) : Option ObjectRecord :=
  [file.activators, file.npcs, file.creatures, file.statics, file.containers].findSome?
    (lastNamed? ObjectRecord.id name)

/-- The slot of a variable in the script attached to an object, if all of these are found. -/
def foreign? (file : DataFile) (object name : Bytes) : Option Slot := do
  let record ← file.scripted? object
  let script ← file.script? record.script
  script.locals.lookup name

/-- Some global, object or script has no name. -/
def HasNameless (file : DataFile) : Prop :=
  [] ∈ file.globals ∨ (∃ record ∈ file.objects, record.id = []) ∨
    ∃ record ∈ file.scripts, record.id = []

instance (file : DataFile) : Decidable file.HasNameless :=
  inferInstanceAs (Decidable ([] ∈ file.globals ∨ (∃ record ∈ file.objects, record.id = []) ∨
    ∃ record ∈ file.scripts, record.id = []))

/-- The names in each table under its title, in the order in which the tables are indexed. -/
def titledNames (file : DataFile) : List (String × List Bytes) :=
  [("activators", file.activators.map ObjectRecord.id), ("npcs", file.npcs.map ObjectRecord.id),
    ("creatures", file.creatures.map ObjectRecord.id),
    ("statics", file.statics.map ObjectRecord.id),
    ("containers", file.containers.map ObjectRecord.id),
    ("scripts", file.scripts.map ScriptRecord.id)]

theorem isNamed_iff (file : DataFile) : file.IsNamed ↔ ¬file.HasNameless := by
  constructor
  · intro hnamed hnameless
    obtain hmem | ⟨record, hmem, hname⟩ | ⟨record, hmem, hname⟩ := hnameless
    · exact hnamed.globals [] hmem rfl
    · simp only [objects, List.mem_append] at hmem
      obtain (((hmem | hmem) | hmem) | hmem) | hmem := hmem
      · exact hnamed.activators record hmem hname
      · exact hnamed.npcs record hmem hname
      · exact hnamed.creatures record hmem hname
      · exact hnamed.statics record hmem hname
      · exact hnamed.containers record hmem hname
    · exact hnamed.scripts record hmem hname
  · intro h
    have hobject (record : ObjectRecord) (hmem : record ∈ file.objects) : record.id ≠ [] :=
      fun hname => h (.inr (.inl ⟨record, hmem, hname⟩))
    refine ⟨fun name hmem hname => h (.inl (hname ▸ hmem)), ?_, ?_, ?_, ?_, ?_,
      fun record hmem hname => h (.inr (.inr ⟨record, hmem, hname⟩))⟩
    all_goals
      intro record hmem
      exact hobject record (by simp [objects, hmem])

theorem object?_index (file : DataFile) (name : Bytes) :
    file.index.object? name = file.object? name := by
  simp only [GameData.object?, object?, index, List.findSome?_cons, List.findSome?_nil,
    Index.find?_ofList]

/-- What is found for one of two names that are equal up to ASCII case is found for the other. -/
theorem object?_of_equalFold (file : DataFile) {name other : Bytes}
    (h : equalFold name other = true) : file.object? name = file.object? other := by
  have hsearch : lastNamed? ObjectRecord.id name = lastNamed? ObjectRecord.id other :=
    funext (lastNamed?_of_equalFold h ObjectRecord.id)
  rw [object?, object?, hsearch]

/-- An object that is found has the name. -/
theorem equalFold_of_object? {file : DataFile} {name : Bytes} {record : ObjectRecord}
    (h : file.object? name = some record) : equalFold record.id name = true := by
  obtain ⟨table, -, hfound⟩ := List.exists_of_findSome?_eq_some h
  exact equalFold_of_lastNamed? hfound

end DataFile

/-! ## Records without names -/

/-- The record at the place has no name. -/
def NamelessRecord.IsIn (file : DataFile) : NamelessRecord → Prop
  | ofGlobals => [] ∈ file.globals
  | ofTable title i => ∃ names, (title, names) ∈ file.titledNames ∧ names[i]? = some []

namespace GameData

/-- An error in indexing a table, or in what comes after it, points to a record without a name. -/
theorem isIn_of_indexTable_bind {β : Type} {file : DataFile} {title : String} {id : α → Bytes}
    {records : List α} (htitle : (title, records.map id) ∈ file.titledNames)
    {f : Index α → Except NamelessRecord β} {place : NamelessRecord}
    (hrest : ∀ index, f index = .error place → place.IsIn file)
    (h : (indexTable title id records >>= f) = .error place) : place.IsIn file := by
  rw [indexTable] at h
  cases hfind : records.findIdx? fun record => (id record).isEmpty with
  | none =>
    rw [hfind] at h
    exact hrest _ h
  | some i =>
    rw [hfind] at h
    obtain rfl : NamelessRecord.ofTable title i = place := Except.error.inj h
    obtain ⟨hlt, hempty, -⟩ := List.findIdx?_eq_some_iff_getElem.1 hfind
    refine ⟨records.map id, htitle, ?_⟩
    rw [List.getElem?_map, List.getElem?_eq_getElem hlt, Option.map_some,
      List.isEmpty_iff.1 hempty]

/-- The error of a data set that cannot be indexed points to a record without a name. -/
theorem isIn_of_ofFile_eq_error {file : DataFile} {place : NamelessRecord}
    (h : ofFile file = .error place) : place.IsIn file := by
  rw [ofFile] at h
  by_cases hglobals : file.globals.any (·.isEmpty) = true
  · rw [if_pos hglobals] at h
    obtain rfl : NamelessRecord.ofGlobals = place := Except.error.inj h
    obtain ⟨name, hname, hempty⟩ := List.any_eq_true.1 hglobals
    rw [List.isEmpty_iff.1 hempty] at hname
    exact hname
  · rw [if_neg hglobals] at h
    -- the tables in the order in which they are indexed
    refine isIn_of_indexTable_bind (by simp [DataFile.titledNames]) (fun activators h => ?_) h
    refine isIn_of_indexTable_bind (by simp [DataFile.titledNames]) (fun npcs h => ?_) h
    refine isIn_of_indexTable_bind (by simp [DataFile.titledNames]) (fun creatures h => ?_) h
    refine isIn_of_indexTable_bind (by simp [DataFile.titledNames]) (fun statics h => ?_) h
    refine isIn_of_indexTable_bind (by simp [DataFile.titledNames]) (fun containers h => ?_) h
    have hscripts : ("scripts", (file.scripts.map ScriptRecord.locals).map StoredLocals.id) ∈
        file.titledNames := by
      rw [List.map_map]
      exact List.mem_cons_of_mem _ (List.mem_of_mem_getLast? rfl)
    refine isIn_of_indexTable_bind hscripts (fun scripts h => ?_) h
    exact absurd h (by simp [pure, Except.pure])

/-- A data set cannot be indexed exactly if a record has no name. -/
theorem exists_ofFile_eq_error_iff {file : DataFile} :
    (∃ place, ofFile file = .error place) ↔ file.HasNameless := by
  rw [← Classical.not_not (a := file.HasNameless), ← file.isNamed_iff]
  cases h : ofFile file with
  | error place =>
    have hnot : ¬file.IsNamed := fun hnamed => by
      have hok : ofFile file = .ok file.index := ofFile_eq_ok_iff.2 ⟨hnamed, rfl⟩
      exact absurd (hok.symm.trans h) (by simp)
    exact ⟨fun _ => hnot, fun _ => ⟨place, rfl⟩⟩
  | ok data =>
    have hnamed : file.IsNamed := (ofFile_eq_ok_iff.1 h).1
    constructor
    · rintro ⟨place, hplace⟩
      exact absurd hplace (by simp)
    · intro hnot
      exact absurd hnamed hnot

/-! ## Answers -/

/-- The data set answers as a plain search of the records does. -/
structure Answers (data : GameData) (file : DataFile) : Prop where
  /-- A global is known if a record has its name. -/
  isSome_global? : ∀ name, (data.global? name).isSome = true ↔
    ∃ spelling ∈ file.globals, equalFold spelling name = true
  /-- Its spelling is that of the last such record. -/
  global? : ∀ name, data.global? name = lastNamed? id name file.globals
  /-- An object that is known is spelled as in its record. -/
  objectSpelling_of_some : ∀ name record, file.object? name = some record →
    data.objectSpelling name = record.id
  /-- An object that is not known is spelled as it is. -/
  objectSpelling_of_none : ∀ name, file.object? name = none → data.objectSpelling name = name
  /-- A variable of an object is looked up in the script of the object. -/
  foreign? : ∀ object name, data.foreign? object name = file.foreign? object name
  /-- The spelling of an object is its own spelling. -/
  objectSpelling_idem : ∀ name,
    data.objectSpelling (data.objectSpelling name) = data.objectSpelling name
  /-- All names of an object that is known have one spelling. -/
  objectSpelling_of_equalFold : ∀ name other, (file.object? name).isSome = true →
    equalFold name other = true → data.objectSpelling name = data.objectSpelling other

theorem objectSpelling_index_of_some {file : DataFile} {name : Bytes} {record : ObjectRecord}
    (h : file.object? name = some record) : file.index.objectSpelling name = record.id := by
  rw [objectSpelling, DataFile.object?_index, h]

theorem objectSpelling_index_of_none {file : DataFile} {name : Bytes}
    (h : file.object? name = none) : file.index.objectSpelling name = name := by
  rw [objectSpelling, DataFile.object?_index, h]

/-- All names of an object that is known have one spelling. -/
theorem objectSpelling_index_of_equalFold {file : DataFile} {name other : Bytes}
    (hknown : (file.object? name).isSome = true) (h : equalFold name other = true) :
    file.index.objectSpelling name = file.index.objectSpelling other := by
  obtain ⟨record, hrecord⟩ := Option.isSome_iff_exists.1 hknown
  rw [objectSpelling_index_of_some hrecord,
    objectSpelling_index_of_some (file.object?_of_equalFold h ▸ hrecord)]

/-- The spelling of an object is its own spelling. -/
theorem objectSpelling_index_idem (file : DataFile) (name : Bytes) :
    file.index.objectSpelling (file.index.objectSpelling name) =
      file.index.objectSpelling name := by
  cases hobject : file.object? name with
  | none => rw [objectSpelling_index_of_none hobject, objectSpelling_index_of_none hobject]
  | some record =>
    -- the spelling is one of the names of the object
    have hfold := DataFile.equalFold_of_object? hobject
    have hspelling : file.object? record.id = some record := by
      rw [file.object?_of_equalFold hfold, hobject]
    rw [objectSpelling_index_of_some hobject, objectSpelling_index_of_some hspelling]

theorem foreign?_index_eq (file : DataFile) (object name : Bytes) :
    file.index.foreign? object name = file.foreign? object name := by
  rw [foreign?, DataFile.foreign?, DataFile.scripted?_index]
  cases file.scripted? object with
  | none => rfl
  | some record =>
    simp only [Option.bind_eq_bind, Option.bind_some, DataFile.script?_index, Option.bind_map]
    rfl

theorem global?_index (file : DataFile) (name : Bytes) :
    file.index.global? name = lastNamed? id name file.globals :=
  Index.find?_ofList id name file.globals

/-- An index of each table answers as a search of the records does. -/
theorem answers_index (file : DataFile) : file.index.Answers file where
  isSome_global? name := by
    rw [global?_index]
    exact isSome_lastNamed?_iff
  global? := global?_index file
  objectSpelling_of_some _ _ := objectSpelling_index_of_some
  objectSpelling_of_none _ := objectSpelling_index_of_none
  foreign? := foreign?_index_eq file
  objectSpelling_idem := objectSpelling_index_idem file
  objectSpelling_of_equalFold _ _ := objectSpelling_index_of_equalFold

/-- A data set cannot be indexed exactly if some global, object or script has no name, and then the
error points to such a record. In all other cases the data set answers every question as a plain
search of the records does. -/
theorem ofFile_eq_error_or_answers (file : DataFile) :
    ((∃ place, ofFile file = .error place) ↔ file.HasNameless) ∧
    (∀ place, ofFile file = .error place →
      place.IsIn file ∧ ascii ": gamedata: record without id" <:+ place.message) ∧
    (¬file.HasNameless → ∃ data, ofFile file = .ok data ∧ data.Answers file) := by
  refine ⟨exists_ofFile_eq_error_iff, fun place hplace => ?_, fun hnamed => ?_⟩
  · exact ⟨isIn_of_ofFile_eq_error hplace, List.suffix_append _ _⟩
  · have hok : ofFile file = .ok file.index :=
      ofFile_eq_ok_iff.2 ⟨file.isNamed_iff.2 hnamed, rfl⟩
    exact ⟨file.index, hok, answers_index file⟩

/-- A data set with names in several spellings and in several tables. -/
def bazaar : DataFile where
  globals := [ascii "GameHour", ascii "Day", ascii "GAMEHOUR"]
  npcs := [⟨ascii "guard", ascii "lock"⟩, ⟨ascii "Guard", []⟩]
  statics := [⟨ascii "CHEST", []⟩]
  containers := [⟨ascii "guard", ascii "lock"⟩, ⟨ascii "chest", ascii "Lock"⟩]
  scripts := [{ id := ascii "lock" }, { id := ascii "LOCK", shorts := [ascii "open"] }]

/-- The last spelling of a global counts. The scenery named as the chest spells it but has no
script, and the person named as the guard hides the container of that name with its script. -/
theorem ofFile_eq_error_or_answers_bazaar :
    ¬bazaar.HasNameless ∧ ∃ data, ofFile bazaar = .ok data ∧
      data.global? (ascii "gamehour") = some (ascii "GAMEHOUR") ∧
      data.objectSpelling (ascii "Chest") = ascii "CHEST" ∧
      data.objectSpelling (ascii "GUARD") = ascii "Guard" ∧
      data.foreign? (ascii "Chest") (ascii "OPEN") = some ⟨.short, 1⟩ ∧
      data.foreign? (ascii "guard") (ascii "open") = none := by
  have hnamed : ¬bazaar.HasNameless := by decide
  obtain ⟨data, hdata, hanswers⟩ := (ofFile_eq_error_or_answers bazaar).2.2 hnamed
  refine ⟨hnamed, data, hdata, ?_, ?_, ?_, ?_, ?_⟩
  · rw [hanswers.global?]
    decide
  · exact hanswers.objectSpelling_of_some _ ⟨ascii "CHEST", []⟩ (by decide)
  · exact hanswers.objectSpelling_of_some _ ⟨ascii "Guard", []⟩ (by decide)
  · rw [hanswers.foreign?]
    decide +kernel
  · rw [hanswers.foreign?]
    decide +kernel

end GameData

end MorrowindScript
