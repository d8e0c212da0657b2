import MorrowindScript.CommandLine.Run

/-!
# The command

Reads the files that the command line names, runs the command on them, shows what it gives and writes
the files it changes.
-/

open MorrowindScript

/-- The bytes of a word of the command line. -/
def wordBytes (word : String) : Bytes :=
  word.toUTF8.toList

/-- The path with the given bytes. -/
def pathString (path : Bytes) : String :=
  (String.fromUTF8? ⟨path.toArray⟩).getD ""

/-- Reads the rest of a stream. -/
partial def readAll (stream : IO.FS.Stream) (before : ByteArray) : IO ByteArray := do
  let chunk ← stream.read 4096
  if chunk.isEmpty then pure before else readAll stream (before ++ chunk)

/-- What a path leads to in the file system. -/
def entryAt? (path : Bytes) : IO (Option FileEntry) := do
  try
    let found ← IO.FS.realPath (pathString path)
    if ← found.isDir then pure (some .directory)
    else
      let data ← IO.FS.readBinFile found
      pure (some (.file data.toList))
  catch _ => pure none

/-- The names on the way to a path. -/
def namesOf (path : Bytes) : List Bytes :=
  let names := (Path.names (Path.clean path)).filter (!·.isEmpty)
  if Path.isRooted path then Path.root :: names else names

/-- The files and directories that the options name. -/
def readTree (options : Options) : IO FileTree := do
  let outDir := namesOf options.outDir
  let above := (List.range outDir.length).map fun i =>
    Path.clean (Bytes.joinWith [Path.separator] (outDir.take (i + 1)))
  let mut tree : FileTree := {}
  for path in (options.dataFile :: options.files ++ above) do
    if let some entry ← entryAt? path then
      tree := tree.add (namesOf path) entry
  pure tree

/-- Writes the files that a run changed. -/
def writeChanges (changes : List (Bytes × Bytes)) : IO Unit := do
  for (path, data) in changes do
    IO.FS.createDirAll (pathString (Path.parent path))
    IO.FS.writeBinFile (pathString path) ⟨data.toArray⟩

/-- Shows what a run gives. -/
def showReport (report : CommandLine.Report) : IO UInt32 := do
  (← IO.getStderr).write ⟨report.reported.toArray⟩
  (← IO.getStdout).write ⟨report.shown.toArray⟩
  pure report.exitCode.toUInt32

/-- Runs the command. -/
def main (words : List String) : IO UInt32 := do
  match Options.parse (words.map wordBytes) with
  | .error stop => showReport (CommandLine.stopReport {} stop)
  | .ok options =>
    let tree ← readTree options
    let needsInput := !options.verify &&
      (options.files.isEmpty || options.files.contains CommandLine.standardInput)
    let input ← if needsInput then readAll (← IO.getStdin) ByteArray.empty else pure ByteArray.empty
    let report := CommandLine.runOptions options input.toList tree
    writeChanges (tree.changes report.files)
    showReport report
