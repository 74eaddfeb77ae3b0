/-
The player's window.

A window shows the screen after every frame it asks for, and its events set the mouse,
the keyboard and the size of the screen.  Before a frame the time advances by the
clock, and a watched shader file that was written meanwhile is loaded again.
-/
import ShaderPlayer.Player.Basic
import ShaderPlayer.Window.Keyboard

namespace ShaderPlayer.Player

open Gpu

/-! ### Opening -/

/-- The format of what a window shows. -/
def windowFormat : TextureFormat := .bgra8unormSrgb

/-- An operation on the device. -/
def onDevice {α : Type} (op : Gpu.Op α) : Op α := onRig (Rig.onDevice op)

/-- Makes the window. -/
def prepareWindow : Op Unit := do
  let p ← get
  onDevice (record (.openCanvas p.title p.size.1 p.size.2))
  -- from here on there is a window, even if its blitter is refused
  modify fun p => { p with window := some {} }
  onDevice (record .getContext)
  onDevice (record (.configure windowFormat))
  let blitter ← onDevice (Blitter.make windowFormat)
  modify fun p => { p with window := some ⟨some blitter⟩ }

/-- Opens the window, if there is none yet, and asks for the first frame. -/
def openWindow (watching : Bool) : Op Unit := do
  modify fun p => { p with watching }
  if (← get).window.isNone then prepareWindow
  onDevice (record (.requestDraw true))

/-! ### Drawing -/

/-- Loads a watched file again if it was written since it was loaded, or gave way to a
directory. -/
def reloadIfChanged (file : WatchedFile) : Op Unit := do
  match (← get).outside.files.stamp? file.path with
  | none => return
  | some modified =>
    if modified = file.modified then return
    -- noted first, so that a file with a defect is tried only once
    modify fun p => { p with file := some ⟨file.path, modified⟩ }
    note #[⟨.info, "Reloading ".toList ++ file.path⟩]
    discard (loadShader (← onOutside (Outside.readText file.path)))

/-- Advances the time to that of the clock. -/
def advanceTime : Op Unit := do
  let p ← get
  let step := p.clock.sub (p.lastTime.getD p.clock)
  modify fun p => { p with lastTime := some p.clock }
  onRig (Rig.changeHost fun h =>
    let elapsed := (Double.ofSingle (h.time.wordAt "elapsed".toList)).add step
    { h with
      time := (h.time.putWord "delta".toList step.toSingle).putWord "elapsed".toList
        elapsed.toSingle })

/-- Encodes drawing the screen onto what the window shows. -/
def blit (target : Texture) : Op CommandBuffer := do
  let p ← get
  match p.rig.bound, p.window.bind (·.blitter) with
  | some bound, some blitter => onDevice (blitter.draw bound.resources.screen target)
  | _, _ => throw (.missingPart "ComputeToy".toList "_blitter".toList)

/-- Draws a frame in the window at a time. -/
def draw (now : Double) : Op Unit := do
  modify fun p => { p with clock := now }
  let p ← get
  if p.watching then
    if let some file := p.file then reloadIfChanged file
  advanceTime
  let target ← onDevice (unrecordedTexture p.size.1 p.size.2 windowFormat)
  let frame ← encodeFrame
  let shown ← blit target
  -- both go in one submission: the window shows the frame just computed
  onRig (Rig.submit [frame, shown])
  countFrame
  if !(← get).map.assertLines.isEmpty then discard checkAssertions
  onDevice (record (.requestDraw false))

/-! ### Events -/

/-- An event: its particulars by name. -/
abbrev Event := List (Text × Value)

/-- A particular that an event has to have. -/
def particular (event : Event) (name : String) : Op Value :=
  MonadExcept.ofExcept (Value.field event name.toList)

/-- A length of a resize event in texels. -/
def scaled (event : Event) (name : String) (ratio : Value) : Op Int := do
  MonadExcept.ofExcept (do (← (← Value.field event name.toList).times ratio).toInteger)

/-- Follows the window's size, unless nothing of it is left. -/
def onResize (event : Event) : Op Unit := do
  let ratio := (event.lookup "pixel_ratio".toList).getD (.int 1)
  let width ← scaled event "width" ratio
  let height ← scaled event "height" ratio
  if 0 < width ∧ 0 < height then resize (.int width) (.int height)

/-- A place of an event as a fraction of the window's side. -/
def fraction (event : Event) (name : String) (side : Value) : Op Value := do
  MonadExcept.ofExcept (do (← Value.field event name.toList).dividedBy side)

/-- Follows the pointer. -/
def onPointerMove (event : Event) : Op Unit := do
  let (width, height) := (← get).logicalSize
  let x ← fraction event "x" width
  let y ← fraction event "y" height
  setMousePosition x y

/-- Whether an event is about the first button: itself, or among the buttons held. -/
def concernsFirstButton (event : Event) : Op Bool := do
  if (← particular event "button").equalsInteger 1 then return true
  MonadExcept.ofExcept ((← particular event "buttons").holdsInteger 1)

/-- Clicks with the first button. -/
def onPointerDown (event : Event) : Op Unit := do
  if ← concernsFirstButton event then
    -- the position follows the pointer only while the mouse is clicked
    setMouseClick true
    onPointerMove event

/-- Lets go of the first button. -/
def onPointerUp (event : Event) : Op Unit := do
  if (← particular event "button").equalsInteger 1 then setMouseClick false

/-- Sets an event's key down or up; a key without a code is ignored. -/
def onKey (event : Event) (down : Bool) : Op Unit := do
  let key ← particular event "key"
  match ← MonadExcept.ofExcept (Keyboard.ofValue? key) with
  | some code => setKey (.int code) down
  | none => return

/-- The kinds of events that the window listens to. -/
inductive EventKind where
  | resize
  | pointerMove
  | pointerDown
  | pointerUp
  | keyDown
  | keyUp
  deriving DecidableEq, Repr

/-- The kinds of events by name. -/
def EventKind.named : List (Text × EventKind) := [
  ("resize".toList, .resize), ("pointer_move".toList, .pointerMove),
  ("pointer_down".toList, .pointerDown), ("pointer_up".toList, .pointerUp),
  ("key_down".toList, .keyDown), ("key_up".toList, .keyUp)]

/-- Handles an event of a kind. -/
def handle (kind : EventKind) (event : Event) : Op Unit :=
  match kind with
  | .resize => onResize event
  | .pointerMove => onPointerMove event
  | .pointerDown => onPointerDown event
  | .pointerUp => onPointerUp event
  | .keyDown => onKey event true
  | .keyUp => onKey event false

/-- Receives an event of a named kind.  A window that was never completed listens to
none. -/
def receive (name : Text) (event : Event) : Op Unit := do
  match (← get).window.bind (·.blitter), EventKind.named.lookup name with
  | some _, some kind => handle kind event
  | _, _ => return

end ShaderPlayer.Player
