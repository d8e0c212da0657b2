import MorrowindScript.GameData.Basic

/-!
# Indexes and lists

What an index finds is what a plain search of the records finds: under each name, up to ASCII case,
the last record counts, and of several tables the first one that has the name.

## Main definitions

* `lastNamed?`: the last record with a name.
* `DataFile.scripted?`, `DataFile.script?`: the search for an object that may carry a script and for
  a script.
* `DataFile.IsNamed`: every record has a name.
* `DataFile.index`: an index of each table.

## Main results

* `Index.find?_ofList`: an index finds the last record with a name.
* `DataFile.foreign?_index`: the slot of a variable of an object, by plain search.
* `GameData.ofFile_eq_ok_iff`: a data set is indexed if every record has a name.
-/

namespace MorrowindScript

open Bytes

variable {α : Type}

/-- The last of the records that have a name, up to ASCII case. -/
def lastNamed? (id : α → Bytes) (name : Bytes) (records : List α) : Option α :=
  records.reverse.find? fun record => equalFold (id record) name

theorem lastNamed?_cons (id : α → Bytes) (name : Bytes) (record : α) (records : List α) :
    lastNamed? id name (record :: records) =
      (lastNamed? id name records).or (if equalFold (id record) name then some record else none) := by
  rw [lastNamed?, List.reverse_cons, List.find?_append, List.find?_singleton]
  rfl

theorem lastNamed?_map {β : Type} (id : β → Bytes) (f : α → β) (name : Bytes) (records : List α) :
    lastNamed? id name (records.map f) = (lastNamed? (fun a => id (f a)) name records).map f := by
  rw [lastNamed?, ← List.map_reverse, List.find?_map]
  rfl

namespace Index

/-- A value that is entered is found under its name, and hides what was under it before. -/
theorem find?_insert (index : Index α) (name key : Bytes) (value : α) :
    (index.insert name value).find? key =
      if equalFold name key then some value else index.find? key := by
  rw [insert, find?, List.find?_cons, equalFold]
  by_cases hkey : (name.lower == key.lower) = true
  · simp [hkey]
  · rw [if_neg hkey]
    simp only [hkey]
    rw [List.find?_filter, find?]
    congr 2
    ext entry
    -- the entries that were taken out are not under the key
    by_cases hentry : entry.1 = key.lower
    · have hname : key.lower ≠ name.lower := fun h => hkey (beq_iff_eq.2 h.symm)
      simp [hentry, hname]
    · simp [hentry]

/-- Entering values one after another, the last one under a name counts. -/
theorem find?_foldl_insert (id : α → Bytes) (key : Bytes) (values : List α) (index : Index α) :
    (values.foldl (fun index value => index.insert (id value) value) index).find? key =
      (lastNamed? id key values).or (index.find? key) := by
  induction values generalizing index with
  | nil => rfl
  | cons value values ih =>
    -- the first value is found only if no later one is, and then instead of what the index had
    rw [List.foldl_cons, ih, find?_insert, lastNamed?_cons, Option.or_assoc]
    split
    · rfl
    · rfl

/-- An index finds the last record with a name. -/
theorem find?_ofList (id : α → Bytes) (key : Bytes) (values : List α) :
    (ofList id values).find? key = lastNamed? id key values := by
  rw [ofList, find?_foldl_insert]
  exact Option.or_none

end Index

namespace DataFile

/-- The object of the given name that may carry a script: the last one in the first table that has
one. -/
def scripted? (file : DataFile) (name : Bytes) : Option ObjectRecord :=
  [file.activators, file.npcs, file.creatures, file.containers].findSome?
    (lastNamed? ObjectRecord.id name)

/-- The last script with the given name. -/
def script? (file : DataFile) (name : Bytes) : Option ScriptRecord :=
  lastNamed? ScriptRecord.id name file.scripts

/-- Every record has a name. -/
structure IsNamed (file : DataFile) : Prop where
  globals : ∀ name ∈ file.globals, name ≠ []
  activators : ∀ record ∈ file.activators, record.id ≠ []
  npcs : ∀ record ∈ file.npcs, record.id ≠ []
  creatures : ∀ record ∈ file.creatures, record.id ≠ []
  statics : ∀ record ∈ file.statics, record.id ≠ []
  containers : ∀ record ∈ file.containers, record.id ≠ []
  scripts : ∀ record ∈ file.scripts, record.id ≠ []

/-- An index of each table. -/
def index (file : DataFile) : GameData where
  globals := .ofList id file.globals
  activators := .ofList ObjectRecord.id file.activators
  npcs := .ofList ObjectRecord.id file.npcs
  creatures := .ofList ObjectRecord.id file.creatures
  statics := .ofList ObjectRecord.id file.statics
  containers := .ofList ObjectRecord.id file.containers
  scripts := .ofList StoredLocals.id (file.scripts.map ScriptRecord.locals)
  records := file.scripts

theorem scripted?_index (file : DataFile) (name : Bytes) :
    file.index.scripted? name = file.scripted? name := by
  simp only [GameData.scripted?, scripted?, index, List.findSome?_cons, List.findSome?_nil,
    Index.find?_ofList]

theorem script?_index (file : DataFile) (name : Bytes) :
    file.index.script? name = (file.script? name).map ScriptRecord.locals := by
  rw [GameData.script?, index, Index.find?_ofList, lastNamed?_map]
  rfl

/-- The slot of a variable of an object, by plain search. -/
theorem foreign?_index {file : DataFile} {object : Bytes} {record : ObjectRecord}
    {script : ScriptRecord} (hrecord : file.scripted? object = some record)
    (hscript : file.script? record.script = some script) (name : Bytes) :
    file.index.foreign? object name = script.locals.lookup name := by
  rw [GameData.foreign?, scripted?_index, hrecord, Option.bind_eq_bind, Option.bind_some,
    script?_index, hscript]
  rfl

end DataFile

namespace GameData

/-- A table can be indexed, and what comes after goes on with its index, if its records have names. -/
theorem indexTable_bind_eq_ok_iff {β : Type} {title : String} {id : α → Bytes} {records : List α}
    {f : Index α → Except NamelessRecord β} {b : β} :
    (indexTable title id records >>= f) = .ok b ↔
      (∀ record ∈ records, id record ≠ []) ∧ f (.ofList id records) = .ok b := by
  rw [indexTable]
  cases hfind : records.findIdx? fun record => (id record).isEmpty with
  | none =>
    have hnamed : ∀ record ∈ records, id record ≠ [] := by
      simpa using List.findIdx?_eq_none_iff.1 hfind
    exact ⟨fun h => ⟨hnamed, h⟩, And.right⟩
  | some i =>
    constructor
    · intro h
      nomatch h
    · rintro ⟨hnamed, -⟩
      have hnone : records.findIdx? (fun record => (id record).isEmpty) = none :=
        List.findIdx?_eq_none_iff.2 (by simpa using hnamed)
      exact absurd (hnone.symm.trans hfind) (by simp)

/-- A data set is indexed table by table, if every record has a name. -/
theorem ofFile_eq_ok_iff {file : DataFile} {data : GameData} :
    ofFile file = .ok data ↔ file.IsNamed ∧ data = file.index := by
  rw [ofFile]
  -- globals come before the tables, and have names but no records
  by_cases hglobals : file.globals.any (·.isEmpty) = true
  · rw [if_pos hglobals]
    constructor
    · intro h
      nomatch h
    · rintro ⟨hnamed, -⟩
      obtain ⟨name, hname, hempty⟩ := List.any_eq_true.1 hglobals
      exact absurd (List.isEmpty_iff.1 hempty) (hnamed.globals name hname)
  · rw [if_neg hglobals]
    have hglobals : ∀ name ∈ file.globals, name ≠ [] := by
      rintro name hname rfl
      exact hglobals (List.any_eq_true.2 ⟨[], hname, rfl⟩)
    simp only [indexTable_bind_eq_ok_iff, List.forall_mem_map]
    constructor
    · rintro ⟨hactivators, hnpcs, hcreatures, hstatics, hcontainers, hscripts, hdata⟩
      exact ⟨⟨hglobals, hactivators, hnpcs, hcreatures, hstatics, hcontainers, hscripts⟩,
        (Except.ok.inj hdata).symm⟩
    · rintro ⟨⟨-, hactivators, hnpcs, hcreatures, hstatics, hcontainers, hscripts⟩, rfl⟩
      exact ⟨hactivators, hnpcs, hcreatures, hstatics, hcontainers, hscripts, rfl⟩

end GameData

end MorrowindScript
