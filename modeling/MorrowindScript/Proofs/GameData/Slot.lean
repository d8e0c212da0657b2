import MorrowindScript.Proofs.GameData.Index
import MorrowindScript.Proofs.Variable

/-!
# Slots of variables of objects

A variable of an object is a local of the script attached to the object. It has the slot that the
script itself gives it, which is that of the first of all its names that is equal to the name of the
variable.

## Main results

* `Scope.locals_declareEach`: declarations with the names of some locals declare these locals.
* `ScriptRecord.locals_eq_stored`: a script on record with the names of some locals.
* `GameData.foreign?_eq_slot?`: the slot of a variable, from inside and from outside.
-/

namespace MorrowindScript

open Bytes

/-- Locals are the same if their names of each kind are. -/
theorem Locals.ext_ofKind {locals locals' : Locals}
    (h : ∀ kind, locals.ofKind kind = locals'.ofKind kind) : locals = locals' := by
  obtain ⟨shorts, longs, floats⟩ := locals
  obtain ⟨shorts', longs', floats'⟩ := locals'
  obtain rfl : shorts = shorts' := h .short
  obtain rfl : longs = longs' := h .long
  obtain rfl : floats = floats' := h .float
  rfl

/-- Declarations with the names of some locals, in any order of the kinds, declare these locals. -/
theorem Scope.locals_declareEach {scope : Scope} (hscope : scope.locals = {}) {locals : Locals}
    {declarations : List (LocalKind × Bytes)}
    (hdeclared : ∀ kind, namesOf kind declarations = locals.ofKind kind) :
    (scope.declareEach declarations).locals = locals := by
  apply Locals.ext_ofKind
  intro kind
  rw [ofKind_declareEach, hscope, hdeclared]
  cases kind <;> rfl

/-- A script on record has the locals that its lists name. -/
theorem ScriptRecord.locals_eq_stored {script : ScriptRecord} {locals : Locals}
    (hshorts : script.shorts = locals.shorts) (hlongs : script.longs = locals.longs)
    (hfloats : script.floats = locals.floats) : script.locals = locals.stored script.id := by
  rw [ScriptRecord.locals, hshorts, hlongs, hfloats]
  rfl

namespace GameData

/-- A variable has the same slot from inside and from outside its script. Let `declarations` declare
`locals`, the kinds in any order, in a scope that has no locals yet. Then a name has the slot there
that it has in the script on record with the same lists and their lengths, and that it has as a
variable of any object that is first found with such a script. As long as each kind has at most 65535
names, the slot is that of the first of all names that is equal to the name, and there is none only if
no name is equal to it.

The number of names is the length of a list in memory, which fits a signed machine word. -/
theorem foreign?_eq_slot? (scope : Scope) (hscope : scope.locals = {}) {locals : Locals}
    {declarations : List (LocalKind × Bytes)}
    (hdeclared : ∀ kind, namesOf kind declarations = locals.ofKind kind)
    (hsize : locals.names.length < StoredLocals.wordSize / 2) (name : Bytes) :
    (∀ id, (scope.declareEach declarations).slot? name = (locals.stored id).lookup name) ∧
    (∀ file data object record script, ofFile file = .ok data →
      file.scripted? object = some record → file.script? record.script = some script →
      script.shorts = locals.shorts → script.longs = locals.longs →
      script.floats = locals.floats →
      (scope.declareEach declarations).slot? name = data.foreign? object name) ∧
    ((∀ kind, (locals.ofKind kind).length ≤ 65535) →
      (∀ kind index, (scope.declareEach declarations).slot? name = some ⟨kind, index⟩ ↔
        locals.IsFirst name kind index.toNat) ∧
      ((scope.declareEach declarations).slot? name = none ↔
        ∀ own ∈ locals.names, equalFold own name = false)) := by
  rw [Scope.slot?, Scope.locals_declareEach hscope hdeclared]
  refine ⟨fun id => ?_, ?_, fun hcount => ⟨fun kind index => ?_, ?_⟩⟩
  · exact (locals.lookup_stored id name hsize).symm
  · -- the object leads to the script on record
    intro file data object record script hdata hrecord hscript hshorts hlongs hfloats
    obtain ⟨-, rfl⟩ := ofFile_eq_ok_iff.1 hdata
    rw [DataFile.foreign?_index hrecord hscript,
      ScriptRecord.locals_eq_stored hshorts hlongs hfloats, locals.lookup_stored _ name hsize]
  · exact Locals.resolve_eq_some_iff hcount
  · exact Locals.resolve_eq_none_iff

/-- The locals of a script. -/
def watchLocals : Locals where
  shorts := [ascii "step", ascii "count"]
  longs := [ascii "Step", ascii "timer"]
  floats := [ascii "Timer"]

/-- Their declarations, with the kinds mixed. -/
def watchDeclarations : List (LocalKind × Bytes) :=
  [(.float, ascii "Timer"), (.short, ascii "step"), (.long, ascii "Step"),
    (.short, ascii "count"), (.long, ascii "timer")]

/-- The script on record. -/
def watch : ScriptRecord where
  id := ascii "WATCH"
  shorts := watchLocals.shorts
  longs := watchLocals.longs
  floats := watchLocals.floats

/-- A data set with an object in two tables and two scripts of one name. -/
def harbour : DataFile where
  npcs := [⟨ascii "guard", ascii "Watch"⟩]
  containers := [⟨ascii "Guard", ascii "chest"⟩]
  scripts := [{ id := ascii "watch", shorts := [ascii "old"] }, watch]

theorem foreign?_eq_slot?_watch :
    ∃ data, ofFile harbour = .ok data ∧
      (Scope.declareEach {} watchDeclarations).slot? (ascii "TIMER") =
        data.foreign? (ascii "GUARD") (ascii "TIMER") ∧
      (Scope.declareEach {} watchDeclarations).slot? (ascii "TIMER") = some ⟨.long, 2⟩ ∧
      watchLocals.IsFirst (ascii "TIMER") .long 2 ∧
      (Scope.declareEach {} watchDeclarations).slot? (ascii "old") = none := by
  have hnamed : harbour.IsNamed :=
    ⟨by decide, by decide, by decide, by decide, by decide, by decide, by decide⟩
  have hdata : ofFile harbour = .ok harbour.index := ofFile_eq_ok_iff.2 ⟨hnamed, rfl⟩
  have hdeclared (kind : LocalKind) :
      namesOf kind watchDeclarations = watchLocals.ofKind kind := by
    cases kind <;> rfl
  have hcount (kind : LocalKind) : (watchLocals.ofKind kind).length ≤ 65535 := by
    cases kind <;> decide
  have hslot : (Scope.declareEach {} watchDeclarations).slot? (ascii "TIMER") =
      some ⟨.long, 2⟩ := by
    decide +kernel
  obtain ⟨-, hforeign, htimer⟩ :=
    foreign?_eq_slot? {} rfl hdeclared (by decide) (ascii "TIMER")
  obtain ⟨-, -, hold⟩ := foreign?_eq_slot? {} rfl hdeclared (by decide) (ascii "old")
  refine ⟨_, hdata, ?_, hslot, ((htimer hcount).1 .long 2).1 hslot, (hold hcount).2.2 ?_⟩
  · exact hforeign harbour _ _ ⟨ascii "guard", ascii "Watch"⟩ watch hdata (by decide +kernel)
      (by decide +kernel) rfl rfl rfl
  · decide +kernel

end GameData

end MorrowindScript
