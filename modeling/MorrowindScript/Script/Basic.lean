import MorrowindScript.Blake2b
import MorrowindScript.Program.Basic

/-!
# Script records

A script as it is kept: its name, the numbers and names of its locals, its bytecode and its source.
In front of the bytecode stands a header of fixed size.

* `Script`: the record.
* `Script.header`, `Header.parse`: the header and its reading.
* `Script.digest`: the digest of header and bytecode.
-/

namespace MorrowindScript

open Bytes

/-- A script on record. The counts may come from outside and need not fit the names. -/
structure Script where
  /-- The name of the script. -/
  id : Bytes := []
  /-- The number of shorts. -/
  shorts : Int := 0
  /-- The number of longs. -/
  longs : Int := 0
  /-- The number of floats. -/
  floats : Int := 0
  /-- The names of the locals: shorts, then longs, then floats. -/
  locals : List Bytes := []
  /-- The bytecode. -/
  data : Bytes := []
  /-- The source. -/
  text : Bytes := []
  deriving DecidableEq, Repr

/-- The record of a compiled script. -/
def Program.script (p : Program) : Script where
  id := p.id
  shorts := p.locals.shorts.length
  longs := p.locals.longs.length
  floats := p.locals.floats.length
  locals := p.locals.names
  data := p.data
  text := p.source

/-- What a header says. -/
structure Header where
  /-- The name of the script, as far as it fits. -/
  id : Bytes
  /-- The number of shorts. -/
  shorts : Nat
  /-- The number of longs. -/
  longs : Nat
  /-- The number of floats. -/
  floats : Nat
  /-- The size of the bytecode. -/
  dataSize : Nat
  /-- The size of the list of local names. -/
  localsSize : Nat
  deriving DecidableEq, Repr

namespace Header

/-- The number of bytes in a header. -/
def size : Nat := 52

/-- The number of bytes a header has for the name. -/
def idSize : Nat := 32

/-- A name filled up with zeros, or cut, to the place it has. -/
def idField (id : Bytes) : Bytes :=
  id.take idSize ++ List.replicate (idSize - id.length) 0

/-- The number in the four bytes at `offset`. -/
def field (h : Bytes) (offset : Nat) : Nat :=
  ofLittleEndian ((h.drop offset).take 4)

/-- Reads a header, or gives the number of bytes of a text that is none. The name ends before its
first zero. -/
def parse (h : Bytes) : Except Nat Header :=
  if h.length ≠ size then .error h.length
  else
    .ok
      { id := (h.take idSize).takeWhile (· != 0)
        shorts := field h 32
        longs := field h 36
        floats := field h 40
        dataSize := field h 44
        localsSize := field h 48 }

/-- What is wrong with a header of the given number of bytes, in words. -/
def sizeMessage (length : Nat) : Bytes :=
  ascii "mwscript: header is " ++ decimal length ++ ascii " bytes, want " ++ decimal size

end Header

namespace Script

/-- The size of the list of local names, each with a zero at its end. -/
def localsSize (s : Script) : Nat :=
  s.locals.foldr (fun name size => name.length + 1 + size) 0

/-- The header: the name, the numbers of locals, and the sizes of bytecode and local names. Numbers
wrap to 32 bits. -/
def header (s : Script) : Bytes :=
  Header.idField s.id ++ littleEndianInt 4 s.shorts ++ littleEndianInt 4 s.longs ++
    littleEndianInt 4 s.floats ++ littleEndianInt 4 s.data.length ++
    littleEndianInt 4 s.localsSize

/-- The digest of header and bytecode. -/
def digest (s : Script) : Bytes :=
  Blake2b.digest (s.header ++ s.data)

end Script

end MorrowindScript
