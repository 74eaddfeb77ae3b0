/-
The program on the command line.

It reads the shader that its arguments name and plays it on a device that only keeps
what it is asked for; the compute passes of the frames are listed, and the notes of the
log go to the error stream.
-/
import ShaderPlayer.CommandLine.Program
import ShaderPlayer.Gpu.Trace

namespace ShaderPlayer.CommandLine

/-- Text as a string. -/
def shownText (t : Text) : String := String.ofList t

/-- The environment variables that the program looks at. -/
def variableNames : List String :=
  ["CODESKEW_INCLUDE_URL", "CODESKEW_LOG_LEVEL", "XDG_CACHE_HOME", "HOME"]

/-- The environment of the program. -/
def environment : IO (Entries Text) := do
  let found ← variableNames.mapM fun name => do
    return (← IO.getEnv name).map fun value => (name.toList, value.toList)
  return found.filterMap id

/-- The file at a path, if it can be read. -/
def fileAt? (path : Text) : IO (Option Bytes) := do
  try
    return some (← IO.FS.readBinFile (shownText path)).toList
  catch _ => return none

/-- The surroundings in which a shader is played: its file and the environment. -/
def surroundings (shader : Text) : IO Outside := do
  let files : FileTree := match ← fileAt? shader with
    | some bytes =>
      FileTree.put {} (Location.ofPath Location.workingDirectory shader) bytes none
    | none => {}
  return { files, environment := ← environment }

/-- The line that lists a compute pass. -/
def dispatchLine (d : Gpu.Dispatch) : Text :=
  Text.join [' '] [d.label, d.pipeline.name, Text.ofInt d.x, Text.ofInt d.y, Text.ofInt d.z]

/-- Writes down what a run left: its compute passes and its notes. -/
def tell (p : Player) : IO Unit := do
  for d in Gpu.dispatches p.rig.gpu.calls.toList do
    IO.println (shownText (dispatchLine d))
  let setting := (p.outside.setting? "CODESKEW_LOG_LEVEL".toList).getD []
  let (threshold, notes) := Level.configure setting
  for n in visible threshold (notes ++ p.outside.notes.toList) do
    IO.eprintln (shownText (n.level.name ++ ' ' :: n.message))

/-- Runs the program; gives its exit code. -/
def execute (texts : List Text) : IO UInt32 := do
  match request texts with
  | .error .help =>
    IO.println (shownText ("usage: ".toList ++ programName ++ " shader [switches]".toList))
    return 0
  | .error (.usage error) =>
    IO.eprintln (shownText error.display)
    return 2
  | .ok (a, uniforms) =>
    match run a uniforms {} (← surroundings a.shader) with
    | .ok outcome p =>
      tell p
      return if outcome = .failed then 1 else 0
    | .error fault p =>
      tell p
      IO.eprintln (shownText fault.message)
      return 1

end ShaderPlayer.CommandLine

/-- The program. -/
def main (arguments : List String) : IO UInt32 :=
  ShaderPlayer.CommandLine.execute (arguments.map String.toList)
