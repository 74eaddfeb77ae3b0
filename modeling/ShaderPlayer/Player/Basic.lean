/-
The player.

A player holds a device with its bindings, the shader it was given last, and the
source map and pipelines that are installed.  A shader is preprocessed and compiled
first and installed after, so that one with a defect leaves the installed one alone.
Defects are reported to a sink: kept, or written to the log.

Main statement: a fault while compiling leaves the installed source map, its pipelines
and the count of frames as they were (`installed_of_compile_error`).
-/
import ShaderPlayer.Bindings.Frame
import ShaderPlayer.Include.Source
import ShaderPlayer.Screen
import ShaderPlayer.Window.Blitter

namespace ShaderPlayer

open Gpu Shader

/-- A shader's file, and when it was written as far as the player knows. -/
structure WatchedFile where
  path : Text
  modified : Stamp
  deriving DecidableEq, Repr

/-- A window.  Its blitter comes last: a window without one has no event handlers. -/
structure Window where
  blitter : Option Blitter := none
  deriving DecidableEq, Repr

/-- A player of shaders. -/
structure Player where
  title : Text
  /-- Where includes are looked up, unless it is the usual place. -/
  includes : Option Include.Source
  rig : Rig
  /-- The shader that was given last. -/
  shader : Option Text := none
  file : Option WatchedFile := none
  /-- Whether the file is looked at before every frame. -/
  watching : Bool := false
  /-- The installed source map. -/
  map : SourceMap := {}
  /-- The installed pipelines. -/
  pipelines : List Pipeline := []
  /-- The frames since the pipelines were installed. -/
  frames : Nat := 0
  window : Option Window := none
  /-- The window's size in the units of its events. -/
  logicalSize : Value × Value := (.int 100, .int 100)
  /-- The time of the last drawn frame. -/
  lastTime : Option Double := none
  /-- The time now. -/
  clock : Double := .zero false
  /-- Whether reports go to the log. -/
  logged : Bool := false
  /-- The reports that were made. -/
  reports : Array Report := #[]
  outside : Outside := {}

namespace Player

/-- An operation on a player; what it did before a fault stays. -/
abbrev Op (α : Type) := EStateM Fault Player α

/-- An operation on the bindings. -/
def onRig {α : Type} (op : Rig.Op α) : Op α := fun p =>
  match op p.rig with
  | .ok a rig => .ok a { p with rig }
  | .error fault rig => .error fault { p with rig }

/-- An operation on the surroundings. -/
def onOutside {α : Type} (op : Reach α) : Op α := fun p =>
  match op p.outside with
  | .ok a outside => .ok a { p with outside }
  | .error fault outside => .error fault { p with outside }

/-- An operation with its fault as an answer. -/
def attempt {α : Type} (op : Op α) : Op (Except Fault α) := fun p =>
  match op p with
  | .ok a p => .ok (.ok a) p
  | .error fault p => .ok (.error fault) p

/-- Makes notes. -/
def note (notes : Array Note) : Op Unit :=
  modify fun p => { p with outside := { p.outside with notes := p.outside.notes ++ notes } }

/-! ### Reports -/

/-- The note about a report that goes to the log. -/
def reportNote (r : Report) : Note :=
  ⟨.error, Text.ofInt r.line ++ ":0: ".toList ++ r.summary⟩

/-- Makes a report. -/
def report (r : Report) : Op Unit := do
  if (← get).logged then note #[reportNote r]
  else modify fun p => { p with reports := p.reports.push r }

/-! ### Preprocessing -/

/-- The size of the screen. -/
def size (p : Player) : Int × Int := (p.rig.host.width, p.rig.host.height)

/-- The macros that tell a shader the size of the screen. -/
def screenMacros (width height : Int) : Entries Text :=
  [("SCREEN_WIDTH".toList, Text.ofInt width), ("SCREEN_HEIGHT".toList, Text.ofInt height)]

/-- Where a player looks includes up. -/
def includeSource (p : Player) : Include.Source :=
  p.includes.getD (Include.Source.default p.outside)

/-- Preprocesses a shader for the screen.  A defect is reported. -/
def preprocess (text : Text) : Op (Option SourceMap) := do
  let p ← get
  let start := Run.start (screenMacros p.size.1 p.size.2) p.outside
  let (run, ending) := start.shader p.includeSource.resolver text
  set { p with outside := run.world }
  note run.notes
  match ending with
  | .complete => return some run.source
  | .reported r => report r; return none
  | .numeral digits => throw (.numeral digits)
  | .used => return none

/-! ### Compiling and installing -/

/-- Compiles a source map for the bindings. -/
def compile (m : SourceMap) : Op (List Pipeline) := fun p =>
  let layout := p.rig.bound.map (·.resources.pipelineLayout)
  let after (w : Workbench) : Player :=
    { p with
      rig := { p.rig with gpu := w.gpu }
      outside := { p.outside with notes := p.outside.notes ++ w.notes } }
  match Workbench.compile p.rig.host layout m ⟨p.rig.gpu, #[]⟩ with
  | .ok pipelines w => .ok pipelines (after w)
  | .error fault w => .error fault (after w)

theorem installed_of_compile_error {m : SourceMap} {p after : Player} {fault : Fault}
    (h : compile m p = .error fault after) :
    after.map = p.map ∧ after.pipelines = p.pipelines ∧ after.frames = p.frames := by
  simp only [compile] at h
  split at h
  · simp at h
  · simp only [EStateM.Result.error.injEq] at h
    obtain ⟨_, rfl⟩ := h
    exact ⟨rfl, rfl, rfl⟩

/-- Puts a compiled source map in the place of the installed one. -/
def swap (m : SourceMap) (pipelines : List Pipeline) : Op Unit := do
  note (pipelines.filterMap Pipeline.limitNote?).toArray
  onRig (Rig.setTables m.tables)
  modify fun p => { p with map := m, pipelines := pipelines.map Pipeline.limited, frames := 0 }

/-- Compiles and installs a source map; says whether it was installed.  An error of
the shader is reported. -/
def install (m : SourceMap) : Op Bool := do
  match ← attempt (compile m) with
  | .ok pipelines => swap m pipelines; return true
  | .error (.shader r) => report r; return false
  -- what is not about the shader is not for the sink
  | .error fault => throw fault

/-- Loads a shader; says whether it was installed. -/
def loadShader (text : Text) : Op Bool := do
  -- the text stays even if it has a defect: a change of size tries it again
  modify fun p => { p with shader := some text }
  match ← preprocess text with
  | some m => install m
  | none => return false

/-! ### Files -/

/-- Where includes of a file are looked up: next to it, and then at the usual place. -/
def includesOf (path : Text) (o : Outside) : Include.Source :=
  .chain [.directories [.named (Location.directoryOf path)], .default o]

/-- Loads a shader file; says whether it was installed.  The first file decides where
includes are looked up, unless that was given. -/
def loadFile (path : Text) : Op Bool := do
  modify fun p => { p with includes := p.includes <|> some (includesOf path p.outside) }
  let text ← onOutside (Outside.readText path)
  let file ← MonadExcept.ofExcept ((← get).outside.files.fileAt path)
  -- the file is watched from here on, whether or not its shader can be installed
  modify fun p => { p with file := some ⟨path, file.modified⟩ }
  loadShader text

/-! ### Custom uniforms -/

/-- Whether values are given names. -/
def areNames (values : List Value) (names : List Text) : Bool :=
  values.map Value.text? == names.map some

/-- Sets the custom uniforms; says whether they could be.  Other names compile the
installed source map again; if that has a defect, the names and values from before
come back. -/
def setCustom (names values : Value) : Op Bool := do
  let names ← MonadExcept.ofExcept names.items
  let p ← get
  let host := p.rig.host
  -- the prelude is made from the names, so they are set before compiling
  onRig (Rig.setCustomValues (.list names) values)
  if areNames names host.customNames || p.shader.isNone then return true
  else if ← install p.map then return true
  else
    onRig (Rig.setCustom (host.customNames.zip host.customValues))
    return false

/-! ### Host state -/

/-- Sets the time since the start. -/
def setElapsed (seconds : Value) : Op Unit :=
  onRig (Rig.onTime (UniformBlock.set "elapsed".toList seconds))

/-- Sets the position of the mouse in texels. -/
def setPosition (position : List Int) : Op Unit :=
  onRig (Rig.onMouse
    (UniformBlock.assign .tupleTooShort "pos".toList (.list (position.map .int))))

/-- A fraction of a side in texels. -/
def texelsOf (fraction : Value) (side : Int) : Except Fault Int := do
  (← fraction.times (.int side)).toInteger

/-- Moves the mouse to a place in fractions of the screen; while it is not clicked,
it stays. -/
def setMousePosition (x y : Value) : Op Unit := do
  let h := (← get).rig.host
  if h.mouse.wordAt "click".toList = 1 then
    let x ← MonadExcept.ofExcept (texelsOf x h.width)
    let y ← MonadExcept.ofExcept (texelsOf y h.height)
    setPosition [x, y]

/-- Clicks the mouse or lets go of it. -/
def setMouseClick (click : Bool) : Op Unit :=
  onRig (Rig.onMouse (UniformBlock.set "click".toList (.int (if click then 1 else 0))))

/-- Sets a key down or up. -/
def setKey (code : Value) (down : Bool) : Op Unit := onRig (Rig.setKey code down)

/-- Puts an array into a channel as its picture. -/
def loadChannel (index : Value) (data : Except Fault NumericArray) : Op Unit :=
  onRig (Rig.loadChannel index data)

/-- Uploads an array to the start of a storage buffer. -/
def writeStorage (index : Value) (data : Except Fault NumericArray) : Op Unit :=
  onRig (Rig.writeStorage index data)

/-- Empties storage and pass textures and starts time anew. -/
def reset : Op Unit := do
  onRig Rig.reset
  onRig (Rig.changeHost fun h => { h with time := Host.timeBlock })
  modify fun p => { p with frames := 0, lastTime := none }

/-- Changes the size of the screen, which resets the player and loads the shader
again. -/
def resize (width height : Value) : Op Unit := do
  let width ← MonadExcept.ofExcept width.toInteger
  let height ← MonadExcept.ofExcept height.toInteger
  if (width, height) = (← get).size then return
  onRig (Rig.resize width height)
  reset
  -- the shader's macros hold the old size
  if let some text := (← get).shader then discard (loadShader text)

/-! ### Frames -/

/-- The pipelines that the next frame dispatches. -/
def due (p : Player) : List Pipeline :=
  p.pipelines.filter fun pipeline => !pipeline.once || p.frames = 0

/-- Encodes the next frame. -/
def encodeFrame : Op CommandBuffer := do onRig (Rig.encodeFrame (← get).due)

/-- Counts a frame. -/
def countFrame : Op Unit := do
  modify fun p => { p with frames := p.frames + 1 }
  onRig (Rig.changeHost fun h =>
    { h with time := h.time.putWord "frame".toList (h.time.wordAt "frame".toList + 1) })

/-- Dispatches a frame. -/
def render : Op Unit := do
  let commands ← encodeFrame
  onRig (Rig.submit [commands])
  countFrame

/-- The counter of an assertion. -/
def counterAt (counts : List UInt32) (index : Nat) : Except Fault UInt32 :=
  match counts[index]? with
  | some count => .ok count
  | none => .error (.arrayIndex index counts.length)

/-- Reports the assertions that failed, of those from one on; gives their lines. -/
def checkFrom (counts : List UInt32) (texels : Int) : Nat → List Int → Op (List Int)
  | _, [] => return []
  | index, line :: lines => do
    let count ← MonadExcept.ofExcept (counterAt counts index)
    if count = 0 then checkFrom counts texels (index + 1) lines
    else
      -- a share of more texels than a double can count is no percentage
      discard (MonadExcept.ofExcept (Value.doubleOfInteger texels))
      report ⟨.general, Screen.failureMessage count texels, line⟩
      return line :: (← checkFrom counts texels (index + 1) lines)

/-- Reports the assertions that failed in the last frame; gives their lines. -/
def checkAssertions : Op (List Int) := do
  let counts ← onRig Rig.readCounters
  let p ← get
  checkFrom counts (p.size.1 * p.size.2) 0 p.map.assertLines.toList

/-- What a snapshot sets before its frame; nothing where a value is null. -/
structure Moment where
  elapsed : Value := .null
  delta : Value := .float (.ofDecimal false 167 (-4))
  frame : Value := .null
  position : Value := .null

/-- Does something with a value that is given. -/
def given (value : Value) (op : Value → Op Unit) : Op Unit :=
  match value with
  | .null => pure ()
  | v => op v

/-- Dispatches a frame at a moment and reads the screen's texels. -/
def snapshot (moment : Moment) : Op Picture := do
  given moment.elapsed setElapsed
  given moment.frame fun frame => onRig (Rig.onTime (UniformBlock.set "frame".toList frame))
  given moment.position fun position => do
    let items ← MonadExcept.ofExcept position.items
    setPosition (← MonadExcept.ofExcept (items.mapM Value.toInteger))
  -- a fault in any of these comes before the frame
  onRig (Rig.onTime (UniformBlock.set "delta".toList moment.delta))
  render
  let components ← onRig Rig.readScreen
  let (width, height) := (← get).size
  return ⟨width.toNat, height.toNat, Screen.texelBytes components⟩

/-! ### Making a player -/

/-- What a player is made with. -/
structure Settings where
  /-- The sides of the screen: its width and its height. -/
  sides : List Value := [.int 800, .int 450]
  /-- Whether the pass textures have single precision. -/
  wide : Bool := false
  storageSize : Int := Host.defaultStorageSize
  title : Text := "codeskew".toList
  includes : Option Include.Source := none
  /-- Whether reports go to the log. -/
  logged : Bool := false

/-- A player on a device, with its bindings made. -/
def make (s : Settings) (device : Device) (outside : Outside) :
    EStateM.Result Fault Player Unit :=
  let empty (host : Host) : Player :=
    { title := s.title, includes := s.includes, logged := s.logged, outside
      rig := { host, gpu := { device } } }
  match Host.sizeOf s.sides with
  | .error fault => .error fault (empty (.start 0 0 s.wide s.storageSize))
  | .ok (width, height) => onRig Rig.connect (empty (.start width height s.wide s.storageSize))

end Player

end ShaderPlayer
