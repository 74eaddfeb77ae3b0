/-
The world outside.

What this library can ask of its surroundings: files, images, servers, environment
variables.  It is a value that operations pass on, so that every run is a function
of it; the notes that an operation makes on the way are collected in it too.
-/
import ShaderPlayer.Entries
import ShaderPlayer.Log
import ShaderPlayer.Outside.FileTree
import ShaderPlayer.Picture.Format
import ShaderPlayer.Text.Lower

namespace ShaderPlayer

/-- What a server does with a request. -/
inductive Response where
  | answer (status : Int) (text : Text)
  /-- The request fails, with a message. -/
  | unreachable (message : Text)
  /-- The request breaks down in a way nobody foresaw. -/
  | breakdown (message : Text)
  deriving DecidableEq, Repr

/-- The surroundings. -/
structure Outside where
  files : FileTree := {}
  /-- The picture files, by location. -/
  pictures : List (Location × Picture.Stored) := []
  /-- What servers answer, by address. -/
  servers : Entries Response := []
  /-- The addresses that were requested. -/
  requests : Array Text := #[]
  environment : Entries Text := []
  notes : Array Note := #[]

/-- An operation on the surroundings; what it did before a fault stays. -/
abbrev Reach (α : Type) := EStateM Fault Outside α

namespace Outside

/-- Makes a note. -/
def note (n : Note) : Reach Unit := modify fun o => { o with notes := o.notes.push n }

/-- The value of an environment variable. -/
def setting? (o : Outside) (name : Text) : Option Text := o.environment.lookup name

/-- The value of an environment variable that has to be there. -/
def setting (name : Text) : Reach Text := do
  match (← get).setting? name with
  | some value => pure value
  | none => throw (.unknownKey name)

/-- What a server answers; one that is not known cannot be reached. -/
def request (address : Text) : Reach Response := do
  modify fun o => { o with requests := o.requests.push address }
  return ((← get).servers.lookup address).getD (.unreachable "offline".toList)

/-- The text of a file. -/
def readText (path : Text) : Reach Text := do
  MonadExcept.ofExcept ((← get).files.readText path)

/-- Writes bytes to a file, in a directory that is there, at a time or by the next change.
A picture that was in it is gone. -/
def writeAt (path : Text) (bytes : Bytes) (seconds : Option Int) : Reach Unit := do
  let o ← get
  let files ← MonadExcept.ofExcept (o.files.write path bytes seconds)
  let place ← MonadExcept.ofExcept (o.files.resolve path)
  set { o with files, pictures := o.pictures.filter (·.1 != place) }

/-- Writes bytes to a file. -/
def write (path : Text) (bytes : Bytes) : Reach Unit := writeAt path bytes none

/-- Removes a file. -/
def remove (path : Text) : Reach Unit := do
  let files ← MonadExcept.ofExcept ((← get).files.remove path)
  modify fun o => { o with files }

/-- Makes a directory and those above it; what was made before an obstacle stays. -/
def makeDirectories (path : Text) : Reach Unit := do
  let (files, stopped) := FileTree.makeDirectories (path.length + 1) path (← get).files
  modify fun o => { o with files }
  match stopped with
  | none => return
  | some fault => throw fault

/-- Writes bytes to a file, below directories made for it, at a time or by the next
change. -/
def deposit (path : Text) (bytes : Bytes) (seconds : Option Int) : Reach Unit := do
  makeDirectories (FileTree.splitPath path).1
  writeAt path bytes seconds

/-! ### Picture files -/

/-- What a picture file holds. -/
def openStored (path : Text) : Reach Picture.Stored := do
  let o ← get
  discard (MonadExcept.ofExcept (o.files.fileAt path))
  let place ← MonadExcept.ofExcept (o.files.resolve path)
  match o.pictures.lookup place with
  | some stored => return stored
  | none => throw (.notImage path)

/-- The picture in a file. -/
def openPicture (path : Text) : Reach Picture := do return (← openStored path).picture

/-- The ending of a path's last name, from its last dot on; dots at its start do not
count. -/
def extensionOf (path : Text) : Text :=
  let name := ((path.splitOn '/').getLast?.getD []).dropWhile (· = '.')
  match Text.beforeLast? '.' name with
  | some before => Text.lower (name.drop before.length)
  | none => []

/-- Writes a picture to a file, in a directory that is there.  A file that was made for a
picture which its format does not take goes away again. -/
def savePicture (path : Text) (picture : Picture.Stored) : Reach Unit := do
  let format ← MonadExcept.ofExcept (Picture.Format.ofExtension (extensionOf path))
  let files := (← get).files
  -- the file's bytes are not modelled, only that it is there
  write path []
  let place ← MonadExcept.ofExcept (files.resolve path)
  match format.store picture with
  | .ok (some stored) => modify fun o => { o with pictures := (place, stored) :: o.pictures }
  | .ok none => return
  | .error fault =>
    if (files.file? place).isNone then
      modify fun o => { o with files := o.files.erase place }
    throw fault

/-- Writes a picture to a file, below directories made for it. -/
def depositPicture (path : Text) (picture : Picture.Stored) : Reach Unit := do
  makeDirectories (FileTree.splitPath path).1
  savePicture path picture

/-! ### The cache directory -/

/-- The user's cache directory of a platform, before this program's own name. -/
def cacheHome (platform : Text) : Reach Text := do
  if Text.startsWith "win".toList platform then setting "LOCALAPPDATA".toList
  else if Text.startsWith "darwin".toList platform then
    return Location.joinPath (Location.joinPath (← setting "HOME".toList) "Library".toList)
      "Caches".toList
  else match (← get).setting? "XDG_CACHE_HOME".toList with
    | some home => return home
    | none => return Location.joinPath (← setting "HOME".toList) ".cache".toList

/-- A directory below this program's cache directory, made if it is not there. -/
def cacheDirectory (platform subdirectory : Text) : Reach Text := do
  let path := Location.joinPath
    (Location.joinPath (← cacheHome platform) "codeskew".toList) subdirectory
  try
    makeDirectories path
    return path
  catch
    | .file defect blocked => throw (.cacheDirectory path defect blocked)
    | fault => throw fault

end Outside

end ShaderPlayer
