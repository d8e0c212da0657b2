import MorrowindScript.Bytes

/-!
# Files

The part of the file system that the command line works on, as a value: files and directories by the
names on the way to them from the working directory.

* `FileTree`: files and directories.
* `FileTree.stat`, `FileTree.read`: what a path leads to.
* `FileTree.makeDirectories`, `FileTree.write`: the changes the command line makes.
* `Path.clean`, `Path.join`: the shortest spelling of a path.
-/

namespace MorrowindScript

open Bytes

/-- What a name stands for. -/
inductive FileEntry where
  /-- A file with its content. -/
  | file (data : Bytes)
  /-- A directory. -/
  | directory
  deriving DecidableEq, Repr

/-- Why a path cannot be used. -/
inductive PathFault where
  /-- A name on the way does not exist. -/
  | notFound
  /-- A name on the way, or at its end, is not a directory. -/
  | notDirectory
  /-- The path leads to a directory. -/
  | isDirectory
  /-- The path leads to something that exists. -/
  | alreadyExists
  /-- A name or the whole path is too long. -/
  | nameTooLong
  deriving DecidableEq, Repr

/-- The fault in words. -/
def PathFault.message : PathFault → String
  | notFound => "no such file or directory"
  | notDirectory => "not a directory"
  | isDirectory => "is a directory"
  | alreadyExists => "file exists"
  | nameTooLong => "file name too long"

/-- An operation on a path that failed. -/
structure FileError where
  /-- The operation. -/
  operation : String
  /-- The path as it was given. -/
  path : Bytes
  /-- The fault. -/
  fault : PathFault
  deriving DecidableEq, Repr

/-- The error in words. -/
def FileError.message (e : FileError) : Bytes :=
  ascii e.operation ++ ascii " " ++ e.path ++ ascii ": " ++ ascii e.fault.message

namespace Path

/-- The byte between the names of a path. -/
def separator : UInt8 := 0x2F

/-- The longest name in bytes. -/
def maxName : Nat := 255

/-- The longest path in bytes. -/
def maxLength : Nat := 4095

/-- The name of the directory a name stands in. -/
def here : Bytes := ascii "."

/-- The name of the directory above. -/
def above : Bytes := ascii ".."

/-- The names of a path. -/
def names (path : Bytes) : List Bytes :=
  splitOn separator path

/-- The path starts at the root of the file system. -/
def isRooted (path : Bytes) : Bool :=
  path.head? == some separator

/-- The name that stands for the root of the file system. -/
def root : Bytes := [separator]

/-- Takes one more name into a path without detours; the names before it are in reverse. -/
def cleanStep (rooted : Bool) (before : List Bytes) (name : Bytes) : List Bytes :=
  if name.isEmpty || name == here then before
  else if name == above then
    match before with
    | [] => if rooted then [] else [above]
    | last :: rest => if last == above then above :: before else rest
  else name :: before

/-- The shortest path that leads to the same place by its spelling alone. -/
def clean (path : Bytes) : Bytes :=
  let kept := ((names path).foldl (cleanStep (isRooted path)) []).reverse
  let text := joinWith [separator] kept
  if isRooted path then separator :: text else if text.isEmpty then here else text

/-- The path of a name in a directory. -/
def join (directory name : Bytes) : Bytes :=
  clean (directory ++ separator :: name)

/-- The path without separators at its end. -/
def dropSeparators (path : Bytes) : Bytes :=
  (path.reverse.dropWhile (· == separator)).reverse

/-- The last name of a path that does not end in a separator. -/
def lastName (path : Bytes) : Bytes :=
  (path.reverse.takeWhile (· != separator)).reverse

/-- What stands before the last name, with the separator between them. -/
def directory (path : Bytes) : Bytes :=
  let path := dropSeparators path
  path.take (path.length - (lastName path).length)

/-- What stands before the last name, without the separator between them. -/
def parent (path : Bytes) : Bytes :=
  (directory path).dropLast

theorem length_parent_lt {path : Bytes} (h : parent path ≠ []) :
    (parent path).length < path.length := by
  have hdrop : (dropSeparators path).length ≤ path.length := by
    have := (List.dropWhile_sublist (· == separator) (l := path.reverse)).length_le
    simpa [dropSeparators] using this
  have hpos := List.length_pos_iff.2 h
  simp only [parent, directory, List.length_dropLast, List.length_take] at hpos ⊢
  omega

end Path

/-- Files and directories by the names on the way to them. -/
structure FileTree where
  /-- The entries; the first under some names counts. -/
  entries : List (List Bytes × FileEntry) := []
  deriving DecidableEq, Repr

namespace FileTree

/-- The names lead to the working directory or to one above it. -/
def isAbove (names : List Bytes) : Bool :=
  names.all (· == Path.above)

/-- What stands under the given names. The working directory, those above it and the root of the file
system exist. -/
def find? (tree : FileTree) (names : List Bytes) : Option FileEntry :=
  if isAbove names || names == [Path.root] then some .directory
  else (tree.entries.find? (·.1 == names)).map (·.2)

/-- Puts an entry under the given names. -/
def insert (tree : FileTree) (names : List Bytes) (entry : FileEntry) : FileTree :=
  { entries := (names, entry) :: tree.entries.filter (·.1 != names) }

/-- Puts an entry under the given names, and directories on the way to it. -/
def add (tree : FileTree) (names : List Bytes) (entry : FileEntry) : FileTree :=
  let onTheWay := (List.range names.length).map names.take
  (onTheWay.foldl (fun tree names =>
    if (tree.find? names).isSome then tree else tree.insert names .directory) tree).insert names entry

/-- The directory above some names. -/
def stepUp (position : List Bytes) : List Bytes :=
  if isAbove position then position ++ [Path.above]
  else if position == [Path.root] then position
  else position.dropLast

/-- The names that a path leads to from `position`. -/
def walk (tree : FileTree) (position : List Bytes) : List Bytes → Except PathFault (List Bytes)
  | [] => .ok position
  | name :: rest =>
    match tree.find? position with
    | some .directory =>
      if name.isEmpty || name == Path.here then walk tree position rest
      else if name == Path.above then walk tree (stepUp position) rest
      else if name.length > Path.maxName then .error .nameTooLong
      else if (tree.find? (position ++ [name])).isSome then walk tree (position ++ [name]) rest
      else .error .notFound
    | _ => .error .notDirectory

/-- The names that a path leads to. -/
def resolve (tree : FileTree) (path : Bytes) : Except PathFault (List Bytes) :=
  if path.isEmpty then .error .notFound
  else if path.length > Path.maxLength then .error .nameTooLong
  else tree.walk (if Path.isRooted path then [Path.root] else []) (Path.names path)

/-- What a path leads to. -/
def stat (tree : FileTree) (path : Bytes) : Except PathFault FileEntry := do
  let names ← tree.resolve path
  match tree.find? names with
  | some entry => pure entry
  | none => throw .notFound

/-- The content of a file. A directory can be opened but not read. -/
def read (tree : FileTree) (path : Bytes) : Except FileError Bytes :=
  match tree.stat path with
  | .ok (.file data) => .ok data
  | .ok .directory => .error ⟨"read", path, .isDirectory⟩
  | .error fault => .error ⟨"open", path, fault⟩

/-- The names of a new entry at a path: where what stands before the last name leads to, and the last
name. -/
def place (tree : FileTree) (path : Bytes) : Except PathFault (List Bytes) := do
  let directory := Path.directory path
  if path.length > Path.maxLength then throw .nameTooLong
  let position ← if directory.isEmpty then pure [] else tree.resolve directory
  let name := Path.lastName (Path.dropSeparators path)
  if tree.find? position ≠ some .directory then throw .notDirectory
  if name.length > Path.maxName then throw .nameTooLong
  pure (position ++ [name])

/-- Makes a directory. -/
def makeDirectory (tree : FileTree) (path : Bytes) : Except PathFault FileTree :=
  match tree.stat (Path.dropSeparators path) with
  | .ok _ => .error .alreadyExists
  | .error _ => do
    let names ← tree.place path
    pure (tree.insert names .directory)

/-- Makes a directory and all directories on the way to it, unless they exist. -/
def makeDirectories (tree : FileTree) (path : Bytes) : Except FileError FileTree :=
  match tree.stat path with
  | .ok .directory => .ok tree
  | .ok (.file _) => .error ⟨"mkdir", path, .notDirectory⟩
  | .error _ =>
    let parents : Except FileError FileTree :=
      if h : Path.parent path = [] then .ok tree
      else
        have := Path.length_parent_lt h
        tree.makeDirectories (Path.parent path)
    match parents with
    | .error e => .error e
    | .ok tree =>
      match tree.makeDirectory path with
      | .ok tree => .ok tree
      | .error fault =>
        match tree.stat path with
        | .ok .directory => .ok tree
        | _ => .error ⟨"mkdir", path, fault⟩
termination_by path.length

/-- Writes a file, in place of one that is there. -/
def write (tree : FileTree) (path data : Bytes) : Except FileError FileTree :=
  match tree.stat path with
  | .ok .directory => .error ⟨"open", path, .isDirectory⟩
  | _ =>
    match tree.place path with
    | .ok names => .ok (tree.insert names (.file data))
    | .error fault => .error ⟨"open", path, fault⟩

/-- The files of `after` that are not in `before` with the same content, by their paths. -/
def changes (before after : FileTree) : List (Bytes × Bytes) :=
  after.entries.filterMap fun (names, entry) =>
    match entry with
    | .directory => none
    | .file data =>
      if before.find? names = some entry then none
      else some (Path.clean (joinWith [Path.separator] names), data)

end FileTree

end MorrowindScript
