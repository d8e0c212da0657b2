import MorrowindScript.Yaml.Scalar.Basic

/-!
# Values of a document

A document is a tree of scalars, sequences and mappings. A mapping may take in others under the key
`<<`: their fields count where it has none of its own.

* `Yaml.Node`: the values.
* `Yaml.fields?`: the fields of a mapping, with those of the mappings that it takes in.
-/

namespace MorrowindScript.Yaml

/-- A value of a document. -/
inductive Node where
  /-- A piece of text. -/
  | scalar (s : Scalar)
  /-- A sequence of values. -/
  | sequence (items : List Node)
  /-- Values under keys, in the order of the document. -/
  | mapping (entries : List (Node × Node))
  /-- A value that would have to hold itself. -/
  | endless
  deriving Repr

/-- The value where nothing is written. -/
def Node.absent : Node := .scalar .absent

/-- A field: its name and its value. -/
abbrev Field := Bytes × Node

/-- The text of a key that is a scalar. -/
def Node.keyText? : Node → Option (List Char)
  | .scalar s => some s.text
  | _ => none

/-- The key under which a mapping takes in others. -/
def Node.isMerge : Node → Bool
  | .scalar s => s.isMerge
  | _ => false

/-- The field of an entry. An entry whose key is left out has none, and one under which others are taken
in has none of its own; a key that is no scalar is a fault. -/
def ownField? : Node × Node → Option (Option Field)
  | (.scalar key, value) =>
    if key.isMerge then some none else key.value?.map (·.map (·, value))
  | _ => none

/-- The fields that entries have of their own, if every key is a scalar and none is given twice. -/
def ownFields? (entries : List (Node × Node)) : Option (List Field) := do
  let texts ← entries.mapM (·.1.keyText?)
  let own ← entries.mapM ownField?
  let own := own.filterMap id
  if texts.Nodup && (own.map (·.1)).Nodup then some own else none

mutual

/-- The fields of a mapping that are not among the names `taken`: its own, and then those of the
mappings that it takes in. -/
def fieldsBeside (taken : List Bytes) (entries : List (Node × Node)) : Option (List Field) := do
  let own ← ownFields? entries
  let own := own.filter fun field => !taken.contains field.1
  let merged ← mergedFields (taken ++ own.map (·.1)) entries
  some (own ++ merged)
termination_by (sizeOf entries, 1)

/-- The fields that a mapping takes in. -/
def mergedFields (taken : List Bytes) (entries : List (Node × Node)) : Option (List Field) :=
  match entries with
  | [] => some []
  | (key, value) :: rest =>
    if key.isMerge then
      match value with
      | .mapping entries => fieldsBeside taken entries
      | .sequence items => mergedItems taken items
      | _ => none
    else mergedFields taken rest
termination_by (sizeOf entries, 0)

/-- The fields of several mappings, the first of which counts where two have a field. -/
def mergedItems (taken : List Bytes) (items : List Node) : Option (List Field) :=
  match items with
  | [] => some []
  | .mapping entries :: rest => do
    let first ← fieldsBeside taken entries
    let others ← mergedItems (taken ++ first.map (·.1)) rest
    some (first ++ others)
  | _ => none
termination_by (sizeOf items, 0)

end

/-- The fields of a mapping, with those of the mappings that it takes in. -/
def fields? (entries : List (Node × Node)) : Option (List Field) :=
  fieldsBeside [] entries

end MorrowindScript.Yaml
