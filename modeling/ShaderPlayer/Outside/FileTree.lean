/-
The file tree.

Files and directories are known by their location, the names on the way to them.  A
path in text is followed name by name, as the file system does it: every name but the
last has to be a directory.  Paths that do not start at the root are relative to the
working directory.  A directory stays when what it held is gone, and it counts as
changed when something is put into it or taken out of it.

Main statement: a file that was put at a location is found there (`file?_put`).
-/
import ShaderPlayer.Fault
import ShaderPlayer.Text.Newline

namespace ShaderPlayer

/-- The names on the way to a file or directory. -/
abbrev Location := List Text

namespace Location

/-- The working directory. -/
def workingDirectory : Location := ["tmp".toList, "tmp-working".toList]

/-- The path of a location from the root. -/
def path (l : Location) : Text := l.flatMap fun name => '/' :: name

/-- The absolute name of a location. -/
def name (l : Location) : Text := if l.isEmpty then ['/'] else l.path

/-- The directories at the root. -/
def rootNames : List String :=
  ["bin", "dev", "etc", "home", "lib", "proc", "root", "sbin", "tmp", "usr", "var"]

/-- Whether a location is a directory in every tree. -/
def isStanding (l : Location) : Bool :=
  workingDirectory.take l.length = l || (rootNames.map fun name => [name.toList]).contains l

/-- Whether a path starts at the root. -/
def isAbsolute (path : Text) : Bool := path.head? = some '/'

/-- Whether a path starts with exactly two slashes.  These stay in its absolute name, as
those of another root. -/
def isDoubled : Text → Bool
  | '/' :: '/' :: rest => rest.head? ≠ some '/'
  | _ => false

/-- The second path, seen from the first. -/
def joinPath (base path : Text) : Text :=
  if isAbsolute path then path
  else if base.isEmpty || base.getLast? = some '/' then base ++ path
  else base ++ '/' :: path

/-- Follows a name without looking at any file. -/
def enter (l : Location) (name : Text) : Location :=
  if name.isEmpty || name = ['.'] then l
  else if name = ['.', '.'] then l.dropLast
  else l ++ [name]

/-- The location of a path seen from a location, by its names alone. -/
def ofPath (base : Location) (path : Text) : Location :=
  (path.splitOn '/').foldl enter (if isAbsolute path then [] else base)

/-- Whether the location is the other one or lies below it. -/
def isBelow (l base : Location) : Bool := base.isPrefixOf l

/-- The absolute name of the directory that a path's last name is looked up in. -/
def directoryOf (path : Text) : Text :=
  let directory := name (ofPath workingDirectory path).dropLast
  if isDoubled path then '/' :: directory else directory

/-- The directories on the way to a location, the root first. -/
def ancestors (l : Location) : List Location := (List.range l.length).map l.take

end Location

/-- When something was changed: at a time that was set, or else by which of the changes
that a tree has seen. -/
inductive Stamp where
  | set (seconds : Int)
  | counted (change : Nat)
  deriving DecidableEq, Repr

/-- A file: its bytes, and when it was last written. -/
structure File where
  bytes : Bytes
  modified : Stamp := .counted 0
  deriving DecidableEq, Repr

/-- The file that is there in every tree and holds nothing. -/
def nullDevice : Location × File := (["dev".toList, "null".toList], { bytes := [] })

/-- Files, and the directories that were made, with their last changes. -/
structure FileTree where
  files : List (Location × File) := [nullDevice]
  directories : List (Location × Stamp) := []
  /-- How many changes there were. -/
  changes : Nat := 0
  deriving DecidableEq, Repr

namespace FileTree

/-- The file at a location. -/
def file? (t : FileTree) (l : Location) : Option File := t.files.lookup l

/-- The last change of the directory at a location. -/
def directory? (t : FileTree) (l : Location) : Option Stamp :=
  t.directories.lookup l <|> if l.isStanding then some (.counted 0) else none

/-- Whether a location is a directory. -/
def isDirectory (t : FileTree) (l : Location) : Bool := (t.directory? l).isSome

/-- The longest name of a file, in bytes. -/
def maxName : Nat := 255

/-- The longest path, in bytes. -/
def maxPath : Nat := 4095

/-- Follows the names of a path through directories. -/
def follow (t : FileTree) (l : Location) : List Text → Except FileDefect Location
  | [] => .ok l
  | name :: names =>
    if (t.file? l).isSome then .error .notDirectory
    else if !t.isDirectory l then .error .notFound
    else if maxName < name.byteLength then .error .nameTooLong
    else t.follow (l.enter name) names

/-- The location a path leads to; its last name need not exist. -/
def resolve (t : FileTree) (path : Text) : Except Fault Location :=
  if path.contains '\x00' then .error .nullInPath
  else if path.isEmpty then .error (.file .notFound path)
  else if maxPath < path.byteLength then .error (.file .nameTooLong path)
  else
    let start := if Location.isAbsolute path then [] else Location.workingDirectory
    match t.follow start (path.splitOn '/') with
    | .ok l => .ok l
    | .error defect => .error (.file defect path)

/-- The last change of what a path leads to. -/
def stamp? (t : FileTree) (path : Text) : Option Stamp :=
  match t.resolve path with
  | .ok l => (t.file? l).map (·.modified) <|> t.directory? l
  | .error _ => none

/-- Whether a path leads to a file or directory. -/
def hasPath (t : FileTree) (path : Text) : Bool := (t.stamp? path).isSome

/-- Whether a path leads to a directory. -/
def leadsToDirectory (t : FileTree) (path : Text) : Bool :=
  match t.resolve path with
  | .ok l => t.isDirectory l
  | .error _ => false

/-- The file a path leads to. -/
def fileAt (t : FileTree) (path : Text) : Except Fault File := do
  let l ← t.resolve path
  match t.file? l with
  | some file => .ok file
  | none => .error (.file (if t.isDirectory l then .isDirectory else .notFound) path)

/-- The bytes of a file as text. -/
def File.text (file : File) : Except Fault Text :=
  match Text.decode file.bytes with
  | .ok t => .ok t.unifyNewlines
  | .error malformed => .error (.undecodable malformed)

/-- The text of the file a path leads to. -/
def readText (t : FileTree) (path : Text) : Except Fault Text := do
  File.text (← t.fileAt path)

/-! ### Changes -/

/-- The change that comes next. -/
def nextStamp (t : FileTree) : Stamp := .counted (t.changes + 1)

/-- The tree with the next change to the directory at a location. -/
def touch (t : FileTree) (l : Location) : FileTree :=
  { t with directories := (l, t.nextStamp) :: t.directories.filter fun (place, _) => place != l }

/-- The tree with one directory, in a directory that is there. -/
def addDirectory (t : FileTree) (l : Location) : FileTree :=
  if t.isDirectory l then t else (t.touch l).touch l.dropLast

/-- The tree with the directories on the way to a location. -/
def addAncestors (t : FileTree) (l : Location) : FileTree :=
  l.ancestors.foldl addDirectory t

/-- The tree with a file at a location, below directories made for it, written at a time
or by the next change. -/
def put (t : FileTree) (l : Location) (bytes : Bytes) (seconds : Option Int) : FileTree :=
  let t := if (t.file? l).isSome then t else (t.addAncestors l).touch l.dropLast
  let file : File := ⟨bytes, (seconds.map Stamp.set).getD t.nextStamp⟩
  { t with
    files := (l, file) :: t.files.filter fun (place, _) => place != l
    changes := t.changes + 1 }

/-- The tree without the file at a location. -/
def erase (t : FileTree) (l : Location) : FileTree :=
  let t := t.touch l.dropLast
  { t with
    files := t.files.filter fun (place, _) => place != l
    changes := t.changes + 1 }

/-- The tree with a file written to a path, in a directory that is there, at a time or by
the next change. -/
def write (t : FileTree) (path : Text) (bytes : Bytes) (seconds : Option Int) :
    Except Fault FileTree := do
  let l ← t.resolve path
  if t.isDirectory l then .error (.file .isDirectory path)
  else .ok (t.put l bytes seconds)

/-- The tree without the file that a path leads to. -/
def remove (t : FileTree) (path : Text) : Except Fault FileTree := do
  let l ← t.resolve path
  if (t.file? l).isSome then .ok (t.erase l)
  else .error (.file (if t.isDirectory l then .isDirectory else .notFound) path)

theorem file?_put (t : FileTree) (l : Location) (bytes : Bytes) (seconds : Option Int) :
    ((t.put l bytes seconds).file? l).map (·.bytes) = some bytes := by
  simp [file?, put]

/-! ### Making directories -/

/-- The path without slashes at its end, unless it is all slashes. -/
def trimSlashes (path : Text) : Text :=
  let kept := (path.reverse.dropWhile (· = '/')).reverse
  if kept.isEmpty then path else kept

/-- The path of the directory that holds a path's last name, and that name. -/
def splitPath (path : Text) : Text × Text :=
  let tail := (path.reverse.takeWhile (· ≠ '/')).reverse
  (trimSlashes (path.take (path.length - tail.length)), tail)

/-- The tree with one directory made, which may be there already. -/
def makeDirectory (t : FileTree) (path : Text) : Except Fault FileTree :=
  match t.resolve (trimSlashes path) with
  | .error (.file defect _) => .error (.file defect path)
  | .error fault => .error fault
  | .ok l =>
    if (t.file? l).isSome then .error (.file .exists path)
    else if t.isDirectory l then .ok t
    else
      let t := t.addDirectory l
      .ok { t with changes := t.changes + 1 }

/-- The tree with a directory and those above it made, at most `depth` of them, and what
stopped that. -/
def makeDirectories : Nat → Text → FileTree → FileTree × Option Fault
  | 0, _, t => (t, none)
  | depth + 1, path, t =>
    let (head, tail) := splitPath path
    let (head, tail) := if tail.isEmpty then splitPath head else (head, tail)
    let make (t : FileTree) : FileTree × Option Fault :=
      match t.makeDirectory path with
      | .ok t => (t, none)
      | .error fault => (t, if t.leadsToDirectory path then none else some fault)
    if head.isEmpty || tail.isEmpty || t.hasPath head then make t
    else match makeDirectories depth head t with
      | (t, none) | (t, some (.file .exists _)) =>
        -- a directory that was just made holds itself
        if tail = ['.'] then (t, none) else make t
      | stopped => stopped

end FileTree

end ShaderPlayer
