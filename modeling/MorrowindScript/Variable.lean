import MorrowindScript.Bytes

/-!
# Variables

A script declares locals of three kinds. A local is addressed by its kind and its position among the
locals of that kind, counted from one. Names are compared up to ASCII case; the first of several
equal names wins, and shorts come before longs before floats.

* `LocalKind`, `Slot`: what a compiled script says about a local.
* `Locals`: the locals a script has declared so far.
* `StoredLocals`: the locals of a script on record, as counts and one list of names.
-/

namespace MorrowindScript

open Bytes

/-- The kinds of local variables. -/
inductive LocalKind where
  /-- A 16-bit integer. -/
  | short
  /-- A 32-bit integer. -/
  | long
  /-- A single-precision number. -/
  | float
  deriving DecidableEq, Repr

namespace LocalKind

/-- The keyword that declares a local of the kind. -/
def name : LocalKind → String
  | short => "short"
  | long => "long"
  | float => "float"

/-- The byte that marks a reference to a local of the kind. -/
def tag : LocalKind → UInt8
  | short => 0x73
  | long => 0x6C
  | float => 0x66

end LocalKind

/-- What a variable may be, by its number in the tables of the game. -/
inductive VariableKind where
  /-- A variable of the whole game. -/
  | global
  /-- A local of a script. -/
  | ofLocal (kind : LocalKind)
  /-- A number that names no kind. -/
  | unassigned (number : UInt8)
  deriving DecidableEq, Repr

namespace VariableKind

/-- The kind with the given number. -/
def ofNumber (number : UInt8) : VariableKind :=
  match number with
  | 0 => global
  | 1 => ofLocal .short
  | 2 => ofLocal .long
  | 3 => ofLocal .float
  | n => unassigned n

/-- The name of the kind. -/
def name : VariableKind → String
  | global => "global"
  | ofLocal kind => kind.name
  | unassigned _ => "unknown"

/-- The byte that marks a reference; only locals have one. -/
def tag : VariableKind → UInt8
  | ofLocal kind => kind.tag
  | _ => 0

/-- Everything but a global counts as local. -/
def isLocal : VariableKind → Bool
  | global => false
  | _ => true

end VariableKind

/-- A local variable of some script. -/
structure Slot where
  /-- The kind of the local. -/
  kind : LocalKind
  /-- Its position among the locals of its kind, counted from one and 16 bits wide. -/
  index : UInt16
  deriving DecidableEq, Repr

/-- The position of the first name equal to `name` up to ASCII case. -/
def indexOfName (names : List Bytes) (name : Bytes) : Option Nat :=
  names.findIdx? (equalFold · name)

/-- The locals a script has declared, each kind in order of declaration. -/
structure Locals where
  /-- The names of the short locals. -/
  shorts : List Bytes := []
  /-- The names of the long locals. -/
  longs : List Bytes := []
  /-- The names of the float locals. -/
  floats : List Bytes := []
  deriving DecidableEq, Repr

namespace Locals

/-- Declares one more local. -/
def declare (locals : Locals) (kind : LocalKind) (name : Bytes) : Locals :=
  match kind with
  | .short => { locals with shorts := locals.shorts ++ [name] }
  | .long => { locals with longs := locals.longs ++ [name] }
  | .float => { locals with floats := locals.floats ++ [name] }

/-- Declares several locals of one kind, in order. -/
def declareAll (locals : Locals) (kind : LocalKind) (names : List Bytes) : Locals :=
  match kind with
  | .short => { locals with shorts := locals.shorts ++ names }
  | .long => { locals with longs := locals.longs ++ names }
  | .float => { locals with floats := locals.floats ++ names }

/-- All names: shorts, then longs, then floats. -/
def names (locals : Locals) : List Bytes :=
  locals.shorts ++ locals.longs ++ locals.floats

/-- The slot of a name among the locals of one kind. -/
def slotIn (kind : LocalKind) (names : List Bytes) (name : Bytes) : Option Slot :=
  (indexOfName names name).map fun i => ⟨kind, UInt16.ofNat (i + 1)⟩

/-- The slot a name refers to, if it is the name of a local. -/
def resolve (locals : Locals) (name : Bytes) : Option Slot :=
  slotIn .short locals.shorts name
    <|> slotIn .long locals.longs name
    <|> slotIn .float locals.floats name

end Locals

/-- The locals of a script on record. The counts come from outside and need not fit the names. -/
structure StoredLocals where
  /-- The identifier of the script. -/
  id : Bytes := []
  /-- The number of shorts. -/
  shorts : Int := 0
  /-- The number of longs. -/
  longs : Int := 0
  /-- The number of floats. -/
  floats : Int := 0
  /-- The names: shorts, then longs, then floats. -/
  names : List Bytes := []
  deriving DecidableEq, Repr

namespace StoredLocals

/-- The number of values of a machine word. -/
def wordSize : Nat := 18446744073709551616

/-- The place after the last long, as a signed machine word. -/
def floatStart (stored : StoredLocals) : Int :=
  Int.bmod (stored.shorts + stored.longs) wordSize

/-- The slot of the `i`-th name, counted from zero. -/
def slotAt (stored : StoredLocals) (i : Int) : Slot :=
  if i ≥ stored.floatStart then ⟨.float, UInt16.ofInt (i - stored.shorts - stored.longs + 1)⟩
  else if i ≥ stored.shorts then ⟨.long, UInt16.ofInt (i - stored.shorts + 1)⟩
  else ⟨.short, UInt16.ofInt (i + 1)⟩

/-- The counts add up to the number of names, as machine words. -/
def isConsistent (stored : StoredLocals) : Bool :=
  Int.bmod (stored.shorts + stored.longs + stored.floats - stored.names.length) wordSize == 0

/-- The slot a name refers to. A record whose counts do not add up to its names has none. -/
def lookup (stored : StoredLocals) (name : Bytes) : Option Slot :=
  if stored.isConsistent then
    (indexOfName stored.names name).map fun i => stored.slotAt (i : Int)
  else none

end StoredLocals

end MorrowindScript
