import MorrowindScript.Program.Compile
import MorrowindScript.Script.Basic
import MorrowindScript.Text.CaseFold
import MorrowindScript.Text.Hex

/-!
# Verification

A script on record is verified by compiling its source again and comparing the result with the
record. Names, numbers of locals, names of locals and bytecode are compared in this order, and the
first difference is reported.

* `Script.mismatch?`: the first difference between two scripts.
* `Script.verify`: compiles and compares.
-/

namespace MorrowindScript

open Bytes

/-- A difference between a fresh script and a script on record. -/
inductive Mismatch where
  /-- The fresh script has another name. -/
  | name (fresh : Bytes)
  /-- The numbers of locals differ. -/
  | counts (fresh stored : Int × Int × Int)
  /-- The names of locals differ. -/
  | locals (fresh stored : List Bytes)
  /-- The bytecode differs from `offset` on; of the fresh bytecode the size and the digest of its
  script are given, of the other the size. -/
  | bytecode (offset size : Nat) (digest : Bytes) (storedSize : Nat)
  deriving DecidableEq, Repr

namespace Mismatch

/-- Three numbers with slashes between them. -/
def countsText (counts : Int × Int × Int) : Bytes :=
  decimalInt counts.1 ++ ascii "/" ++ decimalInt counts.2.1 ++ ascii "/" ++ decimalInt counts.2.2

/-- The difference in words. -/
def message : Mismatch → Bytes
  | name fresh => ascii "script is named " ++ Quoted.text fresh
  | counts fresh stored =>
    ascii "locals are " ++ countsText fresh ++ ascii ", stored " ++ countsText stored
  | locals fresh stored =>
    ascii "local names " ++ Quoted.list fresh ++ ascii ", stored " ++ Quoted.list stored
  | bytecode _ size digest storedSize =>
    ascii "bytecode differs (" ++ decimal size ++ ascii " bytes, digest " ++ Hex.encode digest ++
      ascii "; stored " ++ decimal storedSize ++ ascii " bytes)"

/-- Where the bytecode differs, if that was compared. -/
def offset? : Mismatch → Option Nat
  | bytecode offset _ _ _ => some offset
  | _ => none

end Mismatch

/-- How a failed verification reads, given the script, the offset if there is one, and the message. -/
def verifyErrorText (id : Bytes) (offset : Option Nat) (message : Bytes) : Bytes :=
  ascii "verify " ++ id ++ ascii ": " ++
    (match offset with
      | some n => ascii "offset " ++ decimal n ++ ascii ": "
      | none => []) ++ message

/-- Why a script on record is refused. -/
inductive VerifyError where
  /-- Its source does not compile. -/
  | compile (error : CompileError)
  /-- It differs from what its source compiles to. -/
  | mismatch (id : Bytes) (difference : Mismatch)
  deriving DecidableEq, Repr

/-- The error in words. -/
def VerifyError.message : VerifyError → Bytes
  | compile error => error.message
  | mismatch id difference => verifyErrorText id difference.offset? difference.message

/-- The first offset at which two texts differ; one that is a proper beginning of the other differs
from it where it ends. -/
def firstDifference : Bytes → Bytes → Option Nat
  | [], [] => none
  | a :: as, b :: bs => if a == b then (firstDifference as bs).map (· + 1) else some 0
  | _, _ => some 0

namespace Script

/-- The numbers of locals. -/
def counts (s : Script) : Int × Int × Int :=
  (s.shorts, s.longs, s.floats)

/-- The first difference between a fresh script and a script on record. -/
def mismatch? (fresh stored : Script) : Option Mismatch :=
  if !CaseFold.equalFold fresh.id stored.id then some (.name fresh.id)
  else if fresh.counts ≠ stored.counts then some (.counts fresh.counts stored.counts)
  else if fresh.locals ≠ stored.locals then some (.locals fresh.locals stored.locals)
  else
    (firstDifference fresh.data stored.data).map fun offset =>
      .bytecode offset fresh.data.length fresh.digest stored.data.length

/-- Compiles the source of a script on record and compares the result with the record. -/
def verify (tables : Tables) (stored : Script) : Outcome LineWarning VerifyError Unit := do
  let program ← (Program.compile tables stored.text).mapError VerifyError.compile
  match mismatch? program.script stored with
  | some difference => Outcome.fail (.mismatch stored.id difference)
  | none => pure ()

end Script

end MorrowindScript
