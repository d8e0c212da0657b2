import MorrowindScript.Variable

/-!
# What names mean in a script

A name is looked up among the locals of the script first. Names that are not local are looked up in
tables of the game, which a script only reads.
-/

namespace MorrowindScript

/-- What the game knows outside the script. -/
structure Tables where
  /-- The registered spelling of a global variable, if there is one of that name. -/
  globalSpelling : Bytes → Option Bytes
  /-- The slot of a variable in the script attached to an object, if all of these exist. -/
  foreignSlot : Bytes → Bytes → Option Slot
  /-- The registered spelling of an object, or the name itself if the object is not known. -/
  objectSpelling : Bytes → Bytes

/-- Tables without globals and objects. -/
def Tables.empty : Tables where
  globalSpelling _ := none
  foreignSlot _ _ := none
  objectSpelling id := id

/-- Everything the meaning of a name depends on. -/
structure Scope where
  /-- The locals declared so far. -/
  locals : Locals := {}
  /-- The tables of the game. -/
  tables : Tables := .empty

namespace Scope

/-- The slot of a local of the script. -/
def slot? (scope : Scope) (name : Bytes) : Option Slot :=
  scope.locals.resolve name

/-- The registered spelling of a global. -/
def global? (scope : Scope) (name : Bytes) : Option Bytes :=
  scope.tables.globalSpelling name

/-- The slot of a variable of another object. -/
def foreign? (scope : Scope) (object name : Bytes) : Option Slot :=
  scope.tables.foreignSlot object name

/-- The registered spelling of an object. -/
def object (scope : Scope) (id : Bytes) : Bytes :=
  scope.tables.objectSpelling id

/-- Declares one more local. -/
def declare (scope : Scope) (kind : LocalKind) (name : Bytes) : Scope :=
  { scope with locals := scope.locals.declare kind name }

/-- Declares several locals of one kind, in order. -/
def declareAll (scope : Scope) (kind : LocalKind) (names : List Bytes) : Scope :=
  { scope with locals := scope.locals.declareAll kind names }

end Scope

end MorrowindScript
