/-
The program.

It plays the shader that its command line names: frames offscreen, the last of which
is saved, or a window.
-/
import ShaderPlayer.CommandLine.Arguments
import ShaderPlayer.Player.Window

namespace ShaderPlayer.CommandLine

/-- How a run of the program ends, or that it waits for its window. -/
inductive Outcome where
  | finished
  /-- The shader has a defect. -/
  | failed
  | opened
  deriving DecidableEq, Repr

/-- The settings of a player by the arguments. -/
def Arguments.settings (a : Arguments) : Player.Settings where
  sides := [.int a.resolution.1, .int a.resolution.2]
  wide := a.wide
  logged := true

/-- A path that is given and not empty. -/
def givenPath : Option (Given Text) → Option Text
  | some (.value path) => if path.isEmpty then none else some path
  | _ => none

/-- Loads the picture at a path into a channel. -/
def loadPicture (index : Int) (path : Option (Given Text)) : Player.Op Unit := do
  match givenPath path with
  | none => return
  | some path =>
    let p ← Player.onOutside (Outside.openPicture path)
    Player.loadChannel (.int index) (.ok ⟨.byte, [p.height, p.width, 4], p.texels⟩)

/-- What the snapshot of a frame sets. -/
def Arguments.moment (a : Arguments) (frame : Nat) : Player.Moment where
  elapsed := match a.time with
    | .value seconds => .float seconds
    | .nothing => .list []
  frame := .int frame

/-- How many snapshots are taken after the first. -/
def Arguments.furtherFrames (a : Arguments) : Except Fault Nat :=
  match a.frames with
  | .value count => .ok (count - 1).toNat
  | .nothing => .error (.incomparable ['>'] "int".toList "list".toList)

/-- Takes the snapshots of so many frames after a first one; gives the last. -/
def snapshots (a : Arguments) : Nat → Player.Op Picture
  | 0 => Player.snapshot (a.moment 0)
  | more + 1 => do
    discard (snapshots a more)
    Player.snapshot (a.moment (more + 1))

/-- Renders offscreen and saves the last frame. -/
def saveFrames (a : Arguments) (output : Text) : Player.Op Unit := do
  let screen ← snapshots a (← MonadExcept.ofExcept a.furtherFrames)
  Player.onOutside (Outside.savePicture output (.ofPicture screen))
  discard Player.checkAssertions

/-- Plays the shader that the arguments name, with custom uniforms.  They belong to
what precedes a shader, so they are set before it is loaded. -/
def play (a : Arguments) (uniforms : List (Text × Double)) : Player.Op Outcome := do
  loadPicture 0 a.channel0
  loadPicture 1 a.channel1
  discard (Player.setCustom (.list (uniforms.map fun (name, _) => .text name))
    (.list (uniforms.map fun (_, x) => .float x)))
  let loaded ← Player.loadFile a.shader
  match givenPath a.output with
  | some output =>
    if !loaded then return .failed
    saveFrames a output
    return .finished
  | none =>
    Player.openWindow a.watch
    return .opened

/-- A run of the program on a device. -/
def run (a : Arguments) (uniforms : List (Text × Double)) (device : Gpu.Device)
    (o : Outside) : EStateM.Result Fault Player Outcome :=
  match Player.make a.settings device o with
  | .ok _ p => play a uniforms p
  | .error fault p => .error fault p

/-- What a command line asks for: arguments with their custom uniforms. -/
def request (texts : List Text) : Except Stop (Arguments × List (Text × Double)) := do
  let a ← Arguments.ofTexts texts
  match uniformsOf a.uniforms with
  | .ok uniforms => return (a, uniforms)
  | .error fault => throw (.usage (.uniform fault))

end ShaderPlayer.CommandLine
