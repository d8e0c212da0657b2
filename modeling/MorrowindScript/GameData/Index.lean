import MorrowindScript.Bytes

/-!
# Indexes by name

An index finds values by name, up to ASCII case. A value entered later replaces an earlier one of
the same name, as later plugins override earlier ones in the game.
-/

namespace MorrowindScript

open Bytes

/-- Values under names in lower case, each name at most once. -/
structure Index (α : Type) where
  /-- The names with their values. -/
  entries : List (Bytes × α) := []
  deriving Repr

namespace Index

variable {α : Type}

/-- The index without values. -/
def empty : Index α := {}

/-- Enters a value under a name, in place of an earlier one. -/
def insert (index : Index α) (name : Bytes) (value : α) : Index α :=
  { entries := (name.lower, value) :: index.entries.filter (·.1 != name.lower) }

/-- The value under a name. -/
def find? (index : Index α) (name : Bytes) : Option α :=
  (index.entries.find? (·.1 == name.lower)).map (·.2)

/-- The index of a list of values under their names. -/
def ofList (name : α → Bytes) (values : List α) : Index α :=
  values.foldl (fun index value => index.insert (name value) value) empty

end Index

end MorrowindScript
