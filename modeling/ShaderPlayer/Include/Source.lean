/-
Sources of include texts.

An include path is looked up in a dictionary, in directories, on a server, or in
several sources one after the other.  A directory lookup never leaves its
directory; a server's answer is kept in the cache directory, one file for each
path, and asked for once.
-/
import ShaderPlayer.Include.Library
import ShaderPlayer.Outside.Basic
import ShaderPlayer.Shader.Preprocess

namespace ShaderPlayer.Include

/-- A directory to look in. -/
inductive Directory where
  /-- The library that comes with the player. -/
  | library
  /-- A directory by its path. -/
  | named (path : Text)
  deriving DecidableEq, Repr

/-- A place to find include texts. -/
inductive Source where
  /-- Texts by path, and paths that fail with a message. -/
  | dictionary (texts failing : Entries Text)
  | directories (list : List Directory)
  /-- A server by its address, and whether its answers are kept. -/
  | server (base : Text) (cached : Bool)
  | chain (sources : List Source)
  deriving Inhabited

/-! ### Directories -/

/-- The ending of shader files, which a path may leave out. -/
def extension : Text := ".wgsl".toList

/-- The file that a path means below a location: that of the path itself, or else
that of the path with the ending.  A path that leads out of the location means
nothing. -/
def fileBelow? (files : FileTree) (root : Location) (path : Text) : Option File :=
  [path, path ++ extension].findSome? fun candidate =>
    let place := Location.ofPath root candidate
    -- a device is no file that includes are kept in
    if place.isBelow root ∧ place ≠ nullDevice.1 then files.file? place else none

/-- The file that a path means below a directory. -/
def Directory.find? (files : FileTree) (path : Text) : Directory → Option File
  | .library => fileBelow? Include.library libraryRoot path
  | .named directory =>
    -- nothing is told to lie below another root
    if Location.isDoubled directory then none
    else fileBelow? files (Location.ofPath Location.workingDirectory directory) path

/-- The first file that a path means below one of the directories. -/
def findFile? (files : FileTree) (directories : List Directory) (path : Text) : Option File :=
  directories.findSome? (Directory.find? files path)

/-! ### Servers -/

/-- The server that is asked when none is given. -/
def defaultServer : Text := "https://compute-toys.github.io/include/".toList

/-- How requests introduce themselves. -/
def userAgent : Text := "https://github.com/cyrup-ai/codeskew script".toList

/-- A server's address with a slash at its end. -/
def serverAddress (base : Text) : Text :=
  if base.getLast? = some '/' then base else base ++ ['/']

/-- A server: the given one, or that of the environment, or else the usual one. -/
def Source.ofServer (base : Option Text) (cached : Bool) (o : Outside) : Source :=
  let given := base <|> o.setting? "CODESKEW_INCLUDE_URL".toList
  .server (serverAddress (given.getD defaultServer)) cached

/-- The name of the file that keeps a path's text. -/
def cacheName (path : Text) : Text := Text.replace ['/'] ['_', '_'] path ++ extension

/-- The path of the file that keeps a path's text. -/
def cachePath (path : Text) : Reach Text := do
  return Location.joinPath (← Outside.cacheDirectory "linux".toList "includes".toList)
    (cacheName path)

/-- The text that is kept for a path. -/
def cached? (path : Text) : Reach (Option Text) := do
  let place ← cachePath path
  if (← get).files.hasPath place then return some (← Outside.readText place)
  else return none

/-- Asks a server for a path; what it does not deliver is noted. -/
def download (base path : Text) : Reach (Option Text) := do
  let address := base ++ path ++ extension
  let failed := "Failed to fetch include ".toList ++ address
  match ← Outside.request address with
  | .answer 200 text => return some text
  | .answer status _ =>
    Outside.note ⟨.warning, failed ++ " with status code ".toList ++ Text.ofInt status⟩
    return none
  | .unreachable message =>
    Outside.note ⟨.warning, failed ++ ": ".toList ++ message⟩
    return none
  | .breakdown message => throw (.breakdown message)

/-- The text of a path, from the cache or else from the server. -/
def fetchCached (base path : Text) : Reach (Option Text) := do
  match ← cached? path with
  | some text => return some text
  | none =>
    match ← download base path with
    -- a failure is not kept, so the next look-up asks again
    | none => return none
    | some text =>
      Outside.write (← cachePath path) text.encode
      return some text

/-! ### Looking up -/

mutual

/-- The text of a path, if the source has it. -/
def Source.fetch (path : Text) : Source → Reach (Option Text)
  | .dictionary texts failing =>
    match failing.lookup path with
    | some message => throw (.source message)
    | none => return texts.lookup path
  | .directories list => do
    match findFile? (← get).files list path with
    | none => return none
    | some file => return some (← MonadExcept.ofExcept (FileTree.File.text file))
  | .server base true => fetchCached base path
  | .server base false => download base path
  | .chain sources => fetchFirst path sources

/-- The text of a path from the first of some sources that has it. -/
def fetchFirst (path : Text) : List Source → Reach (Option Text)
  | [] => return none
  | source :: sources => do
    match ← source.fetch path with
    | some text => return some text
    | none => fetchFirst path sources

end

/-- The library, and behind it the usual server. -/
def Source.default (o : Outside) : Source :=
  .chain [.directories [.library], .ofServer none true o]

/-- The source as a resolver: a fault on the way is a failure with its message. -/
def Source.resolver (source : Source) : Shader.Resolver Outside where
  fetch path outside :=
    let answer (fetched : Shader.Fetched) (after : Outside) :=
      (fetched, after.notes.toList, { after with notes := outside.notes })
    match (source.fetch path).run { outside with notes := #[] } with
    | .ok (some text) after => answer (.text text) after
    | .ok none after => answer .missing after
    | .error fault after => answer (.failed fault.message) after

end ShaderPlayer.Include
