import MorrowindScript.Batch
import MorrowindScript.Blake2b
import MorrowindScript.Block
import MorrowindScript.Bytes
import MorrowindScript.CodePage.Basic
import MorrowindScript.CodePage.Table
import MorrowindScript.Command.AnimationGroup
import MorrowindScript.Command.Call
import MorrowindScript.Command.Effect
import MorrowindScript.Command.Operand
import MorrowindScript.Command.Table
import MorrowindScript.CommandLine.Options
import MorrowindScript.CommandLine.Run
import MorrowindScript.Datum
import MorrowindScript.Diagnostic
import MorrowindScript.Expression.Basic
import MorrowindScript.Expression.Parse
import MorrowindScript.Fault
import MorrowindScript.FileTree
import MorrowindScript.Filter.Basic
import MorrowindScript.Filter.Parse
import MorrowindScript.Filter.Search
import MorrowindScript.GameData.Basic
import MorrowindScript.GameData.Document
import MorrowindScript.GameData.Index
import MorrowindScript.Instruction
import MorrowindScript.Literal.Integer
import MorrowindScript.Literal.Single
import MorrowindScript.Main
import MorrowindScript.Opcode
import MorrowindScript.Outcome
import MorrowindScript.Position
import MorrowindScript.Program.Basic
import MorrowindScript.Program.Compile
import MorrowindScript.Program.Listing
import MorrowindScript.Proofs.Batch.Accounts
import MorrowindScript.Proofs.Batch.Lossless
import MorrowindScript.Proofs.Batch.Pool
import MorrowindScript.Proofs.Block
import MorrowindScript.Proofs.Block.Counter
import MorrowindScript.Proofs.Block.Nesting
import MorrowindScript.Proofs.Bounds.Access
import MorrowindScript.Proofs.Bounds.Command
import MorrowindScript.Proofs.Bounds.Expression
import MorrowindScript.Proofs.Bounds.Position
import MorrowindScript.Proofs.Bounds.Program
import MorrowindScript.Proofs.Bytecode.Call
import MorrowindScript.Proofs.Bytecode.Field
import MorrowindScript.Proofs.Bytecode.Format
import MorrowindScript.Proofs.Bytecode.Instruction
import MorrowindScript.Proofs.Bytes.Length
import MorrowindScript.Proofs.Command.Marker
import MorrowindScript.Proofs.Command.Message
import MorrowindScript.Proofs.Command.Spelling
import MorrowindScript.Proofs.Expression.Chain
import MorrowindScript.Proofs.Expression.Decode
import MorrowindScript.Proofs.Expression.Derivation
import MorrowindScript.Proofs.Expression.Grammar
import MorrowindScript.Proofs.Expression.InOrder
import MorrowindScript.Proofs.Expression.LookAhead
import MorrowindScript.Proofs.Expression.Step
import MorrowindScript.Proofs.GameData.Index
import MorrowindScript.Proofs.GameData.Search
import MorrowindScript.Proofs.GameData.Slot
import MorrowindScript.Proofs.Literal.Grammar
import MorrowindScript.Proofs.Literal.Integer
import MorrowindScript.Proofs.Literal.Single
import MorrowindScript.Proofs.Outcome
import MorrowindScript.Proofs.Program.Derivation
import MorrowindScript.Proofs.Program.Independence
import MorrowindScript.Proofs.Program.Layout
import MorrowindScript.Proofs.Program.Names
import MorrowindScript.Proofs.Program.Nesting
import MorrowindScript.Proofs.Program.Qualifier
import MorrowindScript.Proofs.Program.Resolution
import MorrowindScript.Proofs.Program.SelfDelimiting
import MorrowindScript.Proofs.Program.Skip
import MorrowindScript.Proofs.Program.Tiling
import MorrowindScript.Proofs.Program.ValueLength
import MorrowindScript.Proofs.Scan.Bracket
import MorrowindScript.Proofs.Scan.FirstHit
import MorrowindScript.Proofs.Scan.Word
import MorrowindScript.Proofs.Script.Header
import MorrowindScript.Proofs.Script.Stored
import MorrowindScript.Proofs.Script.Verify
import MorrowindScript.Proofs.Search
import MorrowindScript.Proofs.SourceLine.Layout
import MorrowindScript.Proofs.SourceLine.NormalForm
import MorrowindScript.Proofs.SourceLine.Tidy
import MorrowindScript.Proofs.Text.Hex
import MorrowindScript.Proofs.Variable
import MorrowindScript.Proofs.Variable.Aliasing
import MorrowindScript.Scan
import MorrowindScript.Scope
import MorrowindScript.Script.Basic
import MorrowindScript.Script.Stored
import MorrowindScript.Script.Verify
import MorrowindScript.SourceLine
import MorrowindScript.Text.Block
import MorrowindScript.Text.CaseFold
import MorrowindScript.Text.Hex
import MorrowindScript.Text.Printable
import MorrowindScript.Text.Quoted
import MorrowindScript.Text.Utf8
import MorrowindScript.Text.WhiteSpace
import MorrowindScript.Token
import MorrowindScript.Variable
import MorrowindScript.Yaml.Character
import MorrowindScript.Yaml.Layout
import MorrowindScript.Yaml.Node
import MorrowindScript.Yaml.Parse
import MorrowindScript.Yaml.Scalar.Basic
import MorrowindScript.Yaml.Scalar.Block
import MorrowindScript.Yaml.Scalar.Plain
import MorrowindScript.Yaml.Scalar.Quoted
import MorrowindScript.Yaml.Spacing
import MorrowindScript.Yaml.Spot
import MorrowindScript.Yaml.Token
