import MorrowindScript.Batch
import MorrowindScript.CommandLine.Options
import MorrowindScript.FileTree
import MorrowindScript.Filter.Search
import MorrowindScript.GameData.Document
import MorrowindScript.Program.Listing
import MorrowindScript.Script.Stored
import MorrowindScript.Script.Verify

/-!
# Running the command line

The command compiles source files, or verifies the scripts of a data set. It is a function from the
words of the command line, the standard input and the files to what is shown, what is reported, the
files afterwards and the exit code. Compiled text is shown in UTF-8.

* `CommandLine.Report`: what a run gives.
* `CommandLine.run`: a run.
-/

namespace MorrowindScript

open Bytes

/-! ## File names -/

/-- The characters that file names do not have. -/
def forbiddenInNames : Bytes :=
  ascii "/\\:*?\"<>|"

/-- The name of a file for a script: characters that file names do not have become underscores. -/
def fileName (id : Bytes) : Bytes :=
  (Utf8.glyphs id).flatMap fun g =>
    if g.code < 0x20 || (forbiddenInNames.map UInt8.toNat).contains g.code then ascii "_"
    else Utf8.encode g.code

namespace CommandLine

/-! ## Texts -/

/-- How the command is called. -/
def shortUsage : String :=
  "usage: mwsc [-d data.yaml] [-e encoding] [-j N] [-filter regex] [-o dir] [-da] [file ...]\n" ++
  "       mwsc -verify -d data.yaml [-e encoding] [-filter regex]"

/-- What the options mean. -/
def longUsage : String :=
  "Compiling:\n" ++
  "  -d data.yaml      game data: globals, objects and scripts (YAML)\n" ++
  "  -e encoding       code page of compiled text: cp1252 (default), cp1250,\n" ++
  "                    cp1251, utf8 (no conversion)\n" ++
  "  -j N              compile N files in parallel (default: number of CPUs)\n" ++
  "  -filter regex     only output scripts whose ID matches regex\n" ++
  "  -o dir            write <ID>.scpt files (header and bytecode) to dir\n" ++
  "\n" ++
  "Verifying:\n" ++
  "  -verify           recompile the scripts stored in the data set and\n" ++
  "                    compare them with their stored bytecode\n" ++
  "\n" ++
  "Debugging arguments:\n" ++
  "  -da               print bytecode listing and hex dump to stdout\n" ++
  "\n" ++
  "Other:\n" ++
  "  -h, --help        show this help message\n" ++
  "  -version          show mwsc version and exit\n" ++
  "\n" ++
  "With no files, the script is read from standard input.\n"

/-- The help text. -/
def helpText : Bytes :=
  ascii "mwsc dev - Morrowind script compiler\n\n" ++ ascii shortUsage ++ ascii "\n\n" ++
    ascii longUsage

/-- The version text. -/
def versionText : Bytes :=
  ascii "mwsc version dev\n  commit: none\n  built:  unknown\n"

/-- The mark before warnings about scripts. -/
def warningLabel : Bytes := ascii "mwscript: "

/-- A line of the error output. -/
def errorLine (message : Bytes) : Bytes :=
  ascii "mwsc: " ++ message ++ [lineFeed]

/-! ## Runs -/

/-- What a run gives. -/
structure Report where
  /-- What is shown. -/
  shown : Bytes := []
  /-- What is reported as an error or a warning. -/
  reported : Bytes := []
  /-- Something failed. -/
  failed : Bool := false
  /-- The files afterwards. -/
  files : FileTree := {}
  deriving DecidableEq, Repr

namespace Report

/-- The exit code of a run. -/
def exitCode (report : Report) : Nat :=
  if report.failed then 1 else 0

/-- Shows a text. -/
def put (report : Report) (text : Bytes) : Report :=
  { report with shown := report.shown ++ text }

/-- Reports a warning or another text that is no failure. -/
def note (report : Report) (text : Bytes) : Report :=
  { report with reported := report.reported ++ text }

/-- Reports a failure. -/
def failWith (report : Report) (message : Bytes) : Report :=
  { report with reported := report.reported ++ errorLine message, failed := true }

end Report

/-! ## Reading sources -/

/-- The name that stands for the standard input. -/
def standardInput : Bytes := [minus]

/-- What is said about the source of a name. -/
def sourceName (name : Bytes) : Bytes :=
  if name == standardInput then ascii "<stdin>" else name

/-- What was read of the sources. -/
structure Reading where
  /-- The sources that could be read. -/
  sources : List Source := []
  /-- What is left of the standard input. -/
  input : Bytes
  /-- The run so far. -/
  report : Report

/-- Reads one more source. What a source that names the standard input does not read is left for the
next one. -/
def Reading.step (encoding : TextEncoding) (state : Reading) (name : Bytes) : Reading :=
  let (content, input) : Except Bytes Bytes × Bytes :=
    if name == standardInput then (.ok state.input, encoding.unread state.input)
    else ((state.report.files.read name).mapError FileError.message, state.input)
  let text : Except Bytes Bytes := do
    let content ← content
    match encoding.encode? content with
    | some text => pure text
    | none => throw unsupportedCharacter
  match text with
  | .ok text =>
    { state with sources := state.sources ++ [⟨sourceName name, text⟩], input }
  | .error message =>
    { state with
      input
      report := state.report.failWith
        (ascii "cannot read " ++ sourceName name ++ ascii ": " ++ message) }

/-! ## Showing scripts -/

/-- A number filled up on the left with spaces. -/
def column (width n : Nat) : Bytes :=
  padLeft space width (decimal n)

/-- The line that is shown for a script. -/
def scriptLine (p : Program) : Bytes :=
  Utf8.padRight 32 p.id ++ ascii " " ++ column 3 p.locals.shorts.length ++
    ascii " " ++ column 3 p.locals.longs.length ++ ascii " " ++ column 3 p.locals.floats.length ++
    ascii " " ++ column 6 p.data.length ++ ascii "  " ++ Hex.encode p.script.digest ++ [lineFeed]

/-- What is shown for a script. -/
def scriptText (options : Options) (p : Program) : Bytes :=
  scriptLine p ++
    if options.listing then p.listing ++ [lineFeed] ++ Hex.dump p.data ++ [lineFeed] else []

/-- Writes a script into the directory that the options name, if they name one. -/
def writeScript (encoding : TextEncoding) (options : Options) (p : Program) (files : FileTree) :
    Except FileError FileTree :=
  if options.outDir.isEmpty then .ok files
  else
    match files.makeDirectories options.outDir with
    | .error e => .error e
    | .ok files =>
      let name := fileName (encoding.decode p.id) ++ ascii ".scpt"
      files.write (Path.join options.outDir name) (p.script.header ++ p.data)

/-- The filter of the options lets a name pass. -/
def isSelected (options : Options) (id : Bytes) : Bool :=
  options.filter.all (·.accepts id)

/-- Shows and writes a script. -/
def putScript (encoding : TextEncoding) (options : Options) (source : Bytes) (p : Program)
    (report : Report) : Report :=
  if !isSelected options p.id then report
  else
    let report := report.put (scriptText options p)
    match writeScript encoding options p report.files with
    | .ok files => { report with files }
    | .error e => report.failWith (source ++ ascii ": " ++ e.message)

/-- Takes the result of compiling a source into the report. -/
def putResult (encoding : TextEncoding) (options : Options) (report : Report)
    (result : Source × JobResult (ScriptOutcome Program)) : Report :=
  match result with
  | (_, .canceled) => { report with failed := true }
  | (source, .done outcome) =>
    match outcome.result with
    | .ok p => putScript encoding options source.name p report
    | .error e => report.failWith (source.name ++ ascii ": " ++ e.message)

/-- Compiles the files that the options name, or the standard input. Warnings about all sources come
before the results. -/
def compileFiles (encoding : TextEncoding) (tables : Tables) (options : Options) (input : Bytes)
    (report : Report) : Report :=
  let names := if options.files.isEmpty then [standardInput] else options.files
  let reading := names.foldl (Reading.step encoding) { input, report }
  let results := Batch.compile tables false reading.sources
  let report := reading.report.note (Batch.log warningLabel reading.sources results)
  (reading.sources.zip results).foldl (putResult encoding options) report

/-! ## Verifying -/

/-- A run and the number of scripts verified in it. -/
structure Verification where
  /-- The run so far. -/
  report : Report
  /-- The number of scripts that were compared. -/
  checked : Nat := 0

/-- Verifies one more script. Scripts without source or bytecode, and scripts that the filter does not
let pass, are left out. -/
def Verification.step (tables : Tables) (options : Options) (state : Verification)
    (record : ScriptRecord) : Verification :=
  if record.text.isEmpty || record.data.isEmpty || !isSelected options record.id then state
  else
    match record.script with
    | .error e =>
      { state with
        report := state.report.failWith (record.id ++ ascii ": " ++ storedBytecodeMessage e) }
    | .ok script =>
      let outcome := script.verify tables
      let report := state.report.note (outcome.warnings.flatMap (LineWarning.logLine warningLabel []))
      match outcome.result with
      | .ok () =>
        { report := report.put (ascii "ok  " ++ record.id ++ [lineFeed])
          checked := state.checked + 1 }
      | .error e =>
        { report := report.failWith (record.id ++ ascii ": " ++ e.message)
          checked := state.checked + 1 }

/-- Verifies the scripts of a data set. -/
def verifyScripts (data : GameData) (options : Options) (report : Report) : Report :=
  let state := data.records.foldl (Verification.step data.tables options) { report }
  state.report.put (decimal state.checked ++ ascii " scripts verified\n")

/-! ## The command -/

/-- The data set of a file. -/
def loadData (encoding : TextEncoding) (path : Bytes) (files : FileTree) : Except Bytes GameData :=
  match files.read path with
  | .ok text =>
    (GameData.decode encoding text).mapError fun e => path ++ ascii ": " ++ e.message
  | .error e =>
    .error <|
      if e.fault = .isDirectory then
        path ++ ascii ": gamedata: yaml: input error: " ++ e.message
      else e.message

/-- What is given when nothing is compiled. -/
def stopReport (files : FileTree) : Stop → Report
  | .help => { shown := helpText, files }
  | .version => { shown := versionText, files }
  | .error e => { reported := errorLine e.message, failed := true, files }

/-- Runs the command with options that were read. -/
def runOptions (options : Options) (input : Bytes) (files : FileTree) : Report :=
  match TextEncoding.lookup options.encoding with
  | none => Report.failWith { files } (TextEncoding.unknownMessage options.encoding)
  | some encoding =>
    let data :=
      if options.dataFile.isEmpty then .ok none
      else (loadData encoding options.dataFile files).map some
    match data with
    | .error message => Report.failWith { files } message
    | .ok data =>
      let report :=
        match options.verify, data with
        | true, some data => verifyScripts data options { files }
        | _, _ =>
          let tables := match data with
            | some data => data.tables
            | none => .empty
          compileFiles encoding tables options input { files }
      { report with shown := encoding.decode report.shown }

/-- Runs the command. -/
def run (words : List Bytes) (input : Bytes) (files : FileTree) : Report :=
  match Options.parse words with
  | .error stop => stopReport files stop
  | .ok options => runOptions options input files

end CommandLine

end MorrowindScript
