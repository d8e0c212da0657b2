import MorrowindScript.Program.Basic
import MorrowindScript.Text.Hex

/-!
# Listings

A listing shows a compiled script for reading: its name and sizes, its locals, and for every
statement its offset, its source line, its opcode and its bytes.
-/

namespace MorrowindScript

open Bytes

/-- The line of a listing for a statement. -/
def PlacedStatement.listing (p : PlacedStatement) : Bytes :=
  ascii "  " ++ padLeft 0x30 4 (decimal p.offset) ++
    ascii "  line " ++ Utf8.padRight 4 (decimal p.statement.line.number) ++
    ascii " " ++ Utf8.padRight 20 p.statement.opcode.name ++
    ascii " " ++ Hex.spaced p.bytes ++ [lineFeed]

namespace Program

/-- The part of a listing with the locals; a script without locals has none. -/
def localsListing (p : Program) : Bytes :=
  if p.locals.names.isEmpty then []
  else
    ascii "\n=== Locals ===\n" ++
      p.locals.names.zipIdx.flatMap fun (name, i) =>
        ascii "  [" ++ decimal i ++ ascii "] " ++ name ++ [lineFeed]

/-- The listing of a compiled script. -/
def listing (p : Program) : Bytes :=
  ascii "=== Script " ++ p.id ++ ascii " ===\n" ++
    ascii "  shorts=" ++ decimal p.locals.shorts.length ++
    ascii " longs=" ++ decimal p.locals.longs.length ++
    ascii " floats=" ++ decimal p.locals.floats.length ++
    ascii " bytes=" ++ decimal p.data.length ++ [lineFeed] ++
    p.localsListing ++
    ascii "\n=== Code ===\n" ++ p.placed.flatMap PlacedStatement.listing

end Program

end MorrowindScript
