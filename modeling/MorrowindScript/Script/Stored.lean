import MorrowindScript.GameData.Basic
import MorrowindScript.Script.Basic
import MorrowindScript.Text.Hex
import MorrowindScript.Text.WhiteSpace

/-!
# Scripts of a data set

A data set keeps the bytecode of a script as hexadecimal digits, with white space anywhere between
them.
-/

namespace MorrowindScript

/-- The script of a record in a data set, unless its bytecode cannot be read. -/
def ScriptRecord.script (record : ScriptRecord) : Except Hex.DecodeError Script :=
  (Hex.decode (WhiteSpace.remove record.data)).map fun data =>
    { id := record.id
      shorts := record.locals.shorts
      longs := record.locals.longs
      floats := record.locals.floats
      locals := record.locals.names
      data := data
      text := record.text }

/-- What is said about bytecode that cannot be read. -/
def storedBytecodeMessage (error : Hex.DecodeError) : Bytes :=
  ascii "stored bytecode: " ++ error.message

end MorrowindScript
