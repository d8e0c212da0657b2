import MorrowindScript.Proofs.Program.Derivation
import Mathlib.Order.Nat

/-!
# Slots of locals

A script looks a name up among its shorts, its longs and its floats in turn, and others look it up in
the list of all its names and tell the kind by the place. Both find the first name of that list that
is equal up to ASCII case.

## Main definitions

* `namesOf`: the names that declarations give to the locals of a kind.
* `Locals.ofKind`, `Locals.start`: the names of a kind and where they start in the list of all names.
* `Locals.slotAt`: the slot of the local at a place in that list.
* `Locals.IsFirst`: a local has the first of all names that is equal to a name.
* `Locals.stored`: the locals as they are on record.

## Main results

* `Scope.ofKind_declareEach`: declarations of several kinds may be mixed in any order.
* `Locals.lookup_stored`: a script on record has the slots of the script itself.
* `Locals.resolve_eq_some_iff`, `Locals.resolve_eq_none_iff`: the slot of a name.
-/

namespace MorrowindScript

open Bytes

/-- The names that declarations give to the locals of a kind, in order. -/
def namesOf (kind : LocalKind) (declarations : List (LocalKind × Bytes)) : List Bytes :=
  (declarations.filter (·.1 = kind)).map Prod.snd

/-- Where a name is first among names. -/
theorem indexOfName_eq_some_iff {names : List Bytes} {name : Bytes} {n : Nat} :
    indexOfName names name = some n ↔
      (∃ spelling, names[n]? = some spelling ∧ equalFold spelling name = true) ∧
        ∀ j < n, ∀ earlier, names[j]? = some earlier → equalFold earlier name = false := by
  rw [indexOfName, List.findIdx?_eq_some_iff_getElem]
  constructor
  · rintro ⟨hlt, hfound, hfirst⟩
    refine ⟨⟨_, List.getElem?_eq_getElem hlt, hfound⟩, fun j hj earlier hearlier => ?_⟩
    obtain ⟨-, rfl⟩ := List.getElem?_eq_some_iff.1 hearlier
    exact Bool.eq_false_iff.2 (hfirst j hj)
  · rintro ⟨⟨spelling, hspelling, hfound⟩, hfirst⟩
    obtain ⟨hlt, rfl⟩ := List.getElem?_eq_some_iff.1 hspelling
    refine ⟨hlt, hfound, fun j hj => ?_⟩
    simp [hfirst j hj _ (List.getElem?_eq_getElem (by omega))]

theorem indexOfName_append (names names' : List Bytes) (name : Bytes) :
    indexOfName (names ++ names') name =
      (indexOfName names name).or ((indexOfName names' name).map (· + names.length)) :=
  List.findIdx?_append

namespace Locals

/-- The names of the locals of a kind. -/
def ofKind (locals : Locals) : LocalKind → List Bytes
  | .short => locals.shorts
  | .long => locals.longs
  | .float => locals.floats

/-- The number of names before those of a kind. -/
def start (locals : Locals) : LocalKind → Nat
  | .short => 0
  | .long => locals.shorts.length
  | .float => locals.shorts.length + locals.longs.length

/-- The slot of the local at a place in the list of all names. -/
def slotAt (locals : Locals) (n : Nat) : Slot :=
  if n < locals.start .long then ⟨.short, UInt16.ofNat (n + 1)⟩
  else if n < locals.start .float then ⟨.long, UInt16.ofNat (n - locals.start .long + 1)⟩
  else ⟨.float, UInt16.ofNat (n - locals.start .float + 1)⟩

/-- The `i`-th local of a kind, counted from one, has the first of all names that is equal to `name`
up to ASCII case. -/
structure IsFirst (locals : Locals) (name : Bytes) (kind : LocalKind) (i : Nat) : Prop where
  pos : 1 ≤ i
  own : ∃ spelling, (locals.ofKind kind)[i - 1]? = some spelling ∧ equalFold spelling name = true
  first : ∀ j < locals.start kind + (i - 1), ∀ earlier, locals.names[j]? = some earlier →
    equalFold earlier name = false

/-- The locals as they are on record: their numbers, and all names in one list. -/
def stored (locals : Locals) (id : Bytes) : StoredLocals where
  id := id
  shorts := locals.shorts.length
  longs := locals.longs.length
  floats := locals.floats.length
  names := locals.names

theorem length_names (locals : Locals) :
    locals.names.length =
      locals.shorts.length + locals.longs.length + locals.floats.length := by
  rw [names, List.length_append, List.length_append]

theorem ofKind_declare (locals : Locals) (kind : LocalKind) (name : Bytes) (other : LocalKind) :
    (locals.declare kind name).ofKind other =
      locals.ofKind other ++ if kind = other then [name] else [] := by
  cases kind <;> cases other <;> simp [declare, ofKind]

/-! ## Places in the list of all names -/

/-- The names of a kind are in the list of all names, from their start on. -/
theorem getElem?_names (locals : Locals) {kind : LocalKind} {i : Nat}
    (hi : i < (locals.ofKind kind).length) :
    locals.names[locals.start kind + i]? = (locals.ofKind kind)[i]? := by
  cases kind with
  | short =>
    have hi : i < locals.shorts.length := hi
    rw [names, List.append_assoc, start, Nat.zero_add, List.getElem?_append_left hi]
    rfl
  | long =>
    have hi : i < locals.longs.length := hi
    rw [names, List.append_assoc, start, List.getElem?_append_right (Nat.le_add_right _ _),
      Nat.add_sub_cancel_left, List.getElem?_append_left hi]
    rfl
  | float =>
    rw [names, start, ← List.length_append, List.getElem?_append_right (Nat.le_add_right _ _),
      Nat.add_sub_cancel_left]
    rfl

/-- Every place in the list of all names is a place among the names of a kind. -/
theorem exists_start_add (locals : Locals) {n : Nat} (hn : n < locals.names.length) :
    ∃ kind i, n = locals.start kind + i ∧ i < (locals.ofKind kind).length := by
  rw [length_names] at hn
  by_cases hshort : n < locals.shorts.length
  · exact ⟨.short, n, (Nat.zero_add n).symm, hshort⟩
  · by_cases hlong : n < locals.shorts.length + locals.longs.length
    · refine ⟨.long, n - locals.shorts.length, ?_, ?_⟩
      · rw [start]
        omega
      · rw [ofKind]
        omega
    · refine ⟨.float, n - (locals.shorts.length + locals.longs.length), ?_, ?_⟩
      · rw [start]
        omega
      · rw [ofKind]
        omega

/-- The slot of a local does not depend on the locals of other kinds. -/
theorem slotAt_start_add (locals : Locals) {kind : LocalKind} {i : Nat}
    (hi : i < (locals.ofKind kind).length) :
    locals.slotAt (locals.start kind + i) = ⟨kind, UInt16.ofNat (i + 1)⟩ := by
  rw [slotAt]
  cases kind with
  | short =>
    have hi : i < locals.start .long := hi
    rw [start, Nat.zero_add, if_pos hi]
  | long =>
    have hi : locals.start .long + i < locals.start .float := Nat.add_lt_add_left hi _
    rw [if_neg (by omega), if_pos hi, Nat.add_sub_cancel_left]
  | float =>
    have hle : locals.start .long ≤ locals.start .float := Nat.le_add_right _ _
    rw [if_neg (by omega), if_neg (by omega), Nat.add_sub_cancel_left]

/-! ## Slots from inside and from outside -/

/-- A script finds a name where it is first among all names. -/
theorem resolve_eq_map (locals : Locals) (name : Bytes) :
    locals.resolve name = (indexOfName locals.names name).map locals.slotAt := by
  -- where a name is found among the names of a kind, the place is one of that kind
  have hslot (kind : LocalKind) {n : Nat} (hn : indexOfName (locals.ofKind kind) name = some n) :
      locals.slotAt (n + locals.start kind) = ⟨kind, UInt16.ofNat (n + 1)⟩ := by
    rw [Nat.add_comm]
    exact locals.slotAt_start_add (List.findIdx?_eq_some_iff_getElem.1 hn).1
  rw [names, indexOfName_append, indexOfName_append, List.length_append, resolve, slotIn, slotIn,
    slotIn]
  cases hshort : indexOfName locals.shorts name with
  | some n => exact congrArg some (hslot .short hshort).symm
  | none =>
    cases hlong : indexOfName locals.longs name with
    | some n => exact congrArg some (hslot .long hlong).symm
    | none =>
      cases hfloat : indexOfName locals.floats name with
      | some n => exact congrArg some (hslot .float hfloat).symm
      | none => rfl

/-- Small numbers do not depend on whether they are taken as integers. -/
theorem ofInt_natCast (n : Nat) : UInt16.ofInt n = UInt16.ofNat n := by
  have hmod : ((n : Int) % 2 ^ 16).toNat = n % 2 ^ 16 := by omega
  rw [UInt16.ofInt, hmod]
  exact UInt16.ofNat_mod_size

/-- The floats on record start after the shorts and longs. The number of names is a machine word, so
that the place does not wrap. -/
theorem floatStart_stored (locals : Locals) (id : Bytes)
    (hsize : locals.names.length < StoredLocals.wordSize / 2) :
    (locals.stored id).floatStart = locals.start .float := by
  rw [length_names] at hsize
  have hsum : (locals.stored id).shorts + (locals.stored id).longs = locals.start .float :=
    (Int.natCast_add ..).symm
  have hlt : locals.start .float < StoredLocals.wordSize / 2 := by
    rw [start]
    omega
  rw [StoredLocals.floatStart, hsum]
  rw [StoredLocals.wordSize] at hlt ⊢
  exact Int.bmod_eq_of_le (by omega) (by omega)

/-- A place in the list of all names is the same slot on record. -/
theorem slotAt_stored (locals : Locals) (id : Bytes)
    (hsize : locals.names.length < StoredLocals.wordSize / 2) (n : Nat) :
    (locals.stored id).slotAt n = locals.slotAt n := by
  have hshorts : (locals.stored id).shorts = locals.start .long := rfl
  have hsum : (locals.stored id).shorts + (locals.stored id).longs = locals.start .float :=
    (Int.natCast_add ..).symm
  have hle : locals.start .long ≤ locals.start .float := Nat.le_add_right _ _
  rw [StoredLocals.slotAt, floatStart_stored locals id hsize, slotAt]
  by_cases hfloat : locals.start .float ≤ n
  · have hindex : (n : Int) - (locals.stored id).shorts - (locals.stored id).longs + 1 =
        ((n - locals.start .float + 1 : Nat) : Int) := by omega
    rw [if_pos (Int.ofNat_le.2 hfloat), if_neg (by omega), if_neg (by omega), hindex, ofInt_natCast]
  · rw [if_neg (by omega)]
    by_cases hlong : locals.start .long ≤ n
    · have hindex : (n : Int) - (locals.stored id).shorts + 1 =
          ((n - locals.start .long + 1 : Nat) : Int) := by omega
      rw [if_pos (by omega), if_neg (by omega), if_pos (by omega), hindex, ofInt_natCast]
    · rw [if_neg (by omega), if_pos (by omega), ← Int.natCast_succ, ofInt_natCast]

/-- A script on record has the slots of the script itself. -/
theorem lookup_stored (locals : Locals) (id name : Bytes)
    (hsize : locals.names.length < StoredLocals.wordSize / 2) :
    (locals.stored id).lookup name = locals.resolve name := by
  have hconsistent : (locals.stored id).isConsistent = true := by
    have hsum : (locals.stored id).shorts + (locals.stored id).longs + (locals.stored id).floats -
        (locals.stored id).names.length = 0 := by
      have hlength : (locals.stored id).names.length = _ := locals.length_names
      rw [hlength]
      simp [stored]
    rw [StoredLocals.isConsistent, hsum]
    rfl
  have hnames : (locals.stored id).names = locals.names := rfl
  rw [StoredLocals.lookup, if_pos hconsistent, resolve_eq_map, hnames]
  cases indexOfName locals.names name with
  | none => rfl
  | some n => exact congrArg some (slotAt_stored locals id hsize n)

/-! ## The slot of a name -/

theorem resolve_eq_none_iff {locals : Locals} {name : Bytes} :
    locals.resolve name = none ↔ ∀ own ∈ locals.names, equalFold own name = false := by
  rw [resolve_eq_map, Option.map_eq_none_iff, indexOfName, List.findIdx?_eq_none_iff]

/-- A name has the slot of the local with the first of all names that is equal to it, as long as the
locals of each kind can be counted in 16 bits. -/
theorem resolve_eq_some_iff {locals : Locals} {name : Bytes} {kind : LocalKind} {index : UInt16}
    (hsize : ∀ kind, (locals.ofKind kind).length ≤ 65535) :
    locals.resolve name = some ⟨kind, index⟩ ↔ locals.IsFirst name kind index.toNat := by
  rw [resolve_eq_map, Option.map_eq_some_iff]
  constructor
  · rintro ⟨n, hn, hslot⟩
    obtain ⟨⟨spelling, hspelling, hequal⟩, hfirst⟩ := indexOfName_eq_some_iff.1 hn
    obtain ⟨kind', i, rfl, hi⟩ :=
      locals.exists_start_add (List.getElem?_eq_some_iff.1 hspelling).1
    rw [locals.slotAt_start_add hi] at hslot
    obtain ⟨rfl, rfl⟩ := Slot.mk.inj hslot
    have hindex : (UInt16.ofNat (i + 1)).toNat = i + 1 := by
      have := hsize kind'
      rw [UInt16.toNat_ofNat']
      omega
    rw [hindex]
    rw [locals.getElem?_names hi] at hspelling
    exact ⟨Nat.succ_pos i, ⟨spelling, hspelling, hequal⟩, hfirst⟩
  · rintro ⟨hpos, ⟨spelling, hspelling, hequal⟩, hfirst⟩
    have hi := (List.getElem?_eq_some_iff.1 hspelling).1
    refine ⟨locals.start kind + (index.toNat - 1), indexOfName_eq_some_iff.2 ⟨?_, hfirst⟩, ?_⟩
    · exact ⟨spelling, by rw [locals.getElem?_names hi, hspelling], hequal⟩
    · rw [locals.slotAt_start_add hi, Nat.sub_add_cancel hpos, UInt16.ofNat_toNat]

end Locals

/-! ## Declarations -/

/-- The names of each kind are those that the declarations of that kind give, in order, whatever is
declared in between. -/
theorem Scope.ofKind_declareEach (scope : Scope) (declarations : List (LocalKind × Bytes))
    (kind : LocalKind) :
    (scope.declareEach declarations).locals.ofKind kind =
      scope.locals.ofKind kind ++ namesOf kind declarations := by
  induction declarations generalizing scope with
  | nil => exact (List.append_nil _).symm
  | cons declaration declarations ih =>
    obtain ⟨other, name⟩ := declaration
    have hdeclare : (scope.declare other name).locals.ofKind kind =
        scope.locals.ofKind kind ++ if other = kind then [name] else [] :=
      Locals.ofKind_declare ..
    rw [declareEach_cons, ih, hdeclare, List.append_assoc]
    by_cases hkind : other = kind
    · simp [hkind, namesOf]
    · simp [hkind, namesOf]

end MorrowindScript
