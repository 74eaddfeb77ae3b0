/-
Bindings on a device.

A rig is the host's side of the bindings together with the device and what was made
on it: buffers, textures, samplers and the bind group that ties them to the shader.
Every operation that replaces a resource makes a new bind group, so that the group
never refers to what is no longer used.  Data tables that do not fit into a buffer break
a connection off: what was made before them stays and can be used.

What a bind group binds are the resources it was made from, in the order that
`Rig.entriesOf` gives.

Main statement: a connection that is begun has the buffers it was begun with, whatever
there was before (`Connection.buffers?_begin`).
-/
import ShaderPlayer.Bindings.Host
import ShaderPlayer.Gpu.Device

namespace ShaderPlayer

open Gpu

/-- The layers of the pass textures. -/
def passLayers : Nat := 4

/-- The most dispatches of an entry point in a frame. -/
def maxDispatches : Nat := 64

/-- The bytes between the numbers of two dispatches: offsets into a uniform buffer
have to be multiples of it. -/
def dispatchStride : Nat := 256

/-- The buffers that shaders store to and those of the host's blocks. -/
structure HostBuffers where
  storage0 : Buffer
  storage1 : Buffer
  time : Buffer
  mouse : Buffer
  keyboard : Buffer
  custom : Buffer
  deriving DecidableEq, Repr

/-- The textures that have the size of the screen. -/
structure ScreenTextures where
  screen : Texture
  passIn : Texture
  passOut : Texture
  deriving DecidableEq, Repr

/-- The resources that the bindings refer to. -/
structure Resources extends HostBuffers, ScreenTextures where
  data : Buffer
  counters : Buffer
  dispatch : Buffer
  channel0 : Texture
  channel1 : Texture
  nearest : Sampler
  bilinear : Sampler
  nearestRepeat : Sampler
  bilinearRepeat : Sampler
  layout : BindGroupLayout
  pipelineLayout : PipelineLayout
  deriving DecidableEq, Repr

/-- Resources with the bind group made from them. -/
structure Bound where
  resources : Resources
  group : BindGroup
  deriving DecidableEq, Repr

/-- What there is after a connection that the data tables broke off: its buffers, and
what later operations added to them. -/
structure Fragment where
  buffers : HostBuffers
  data : Option Buffer := none
  textures : Option ScreenTextures := none
  deriving DecidableEq, Repr

/-- How far the bindings are connected with the device. -/
inductive Connection where
  | absent
  | broken (made : Fragment)
  | complete (bound : Bound)
  deriving DecidableEq, Repr

/-- Resources made anew, to take the place of others. -/
structure Renewal where
  storage : Option (Buffer × Buffer) := none
  custom : Option Buffer := none
  data : Option Buffer := none
  textures : Option ScreenTextures := none

/-- The buffers after a renewal. -/
def HostBuffers.renew (b : HostBuffers) (new : Renewal) : HostBuffers :=
  let (storage0, storage1) := new.storage.getD (b.storage0, b.storage1)
  { b with storage0, storage1, custom := new.custom.getD b.custom }

/-- What there is of a broken connection after a renewal. -/
def Fragment.renew (f : Fragment) (new : Renewal) : Fragment where
  buffers := f.buffers.renew new
  data := new.data <|> f.data
  textures := new.textures <|> f.textures

/-- The resources after a renewal. -/
def Resources.renew (r : Resources) (new : Renewal) : Resources :=
  { r with
    toHostBuffers := r.toHostBuffers.renew new
    toScreenTextures := new.textures.getD r.toScreenTextures
    data := new.data.getD r.data }

namespace Connection

/-- What is bound. -/
def bound? : Connection → Option Bound
  | complete bound => some bound
  | _ => none

/-- The buffers of a connection. -/
def buffers? : Connection → Option HostBuffers
  | absent => none
  | broken made => some made.buffers
  | complete bound => some bound.resources.toHostBuffers

/-- The textures of a connection. -/
def textures? : Connection → Option ScreenTextures
  | absent => none
  | broken made => made.textures
  | complete bound => some bound.resources.toScreenTextures

/-- A connection begun anew: its first buffers take the place of those before. -/
def begin (c : Connection) (buffers : HostBuffers) : Connection :=
  match c with
  | absent => broken { buffers }
  | broken made => broken { made with buffers }
  | complete bound =>
    complete { bound with resources := { bound.resources with toHostBuffers := buffers } }

theorem buffers?_begin (c : Connection) (buffers : HostBuffers) :
    (c.begin buffers).buffers? = some buffers := by
  cases c <;> rfl

end Connection

/-- The host's side of the bindings, the device, and the connection between them. -/
structure Rig where
  host : Host
  gpu : Gpu.State := {}
  connection : Connection := .absent

namespace Rig

/-- What is bound on the device. -/
def bound (r : Rig) : Option Bound := r.connection.bound?

/-- An operation on a rig; what it did before a fault stays. -/
abbrev Op (α : Type) := EStateM Fault Rig α

/-- An operation on the device. -/
def onDevice {α : Type} (op : Gpu.Op α) : Op α := fun r =>
  match op r.gpu with
  | .ok a gpu => .ok a { r with gpu }
  | .error fault gpu => .error fault { r with gpu }

/-- An operation on one of the host's blocks. -/
def onBlock {α : Type} (block : Host → UniformBlock) (put : Host → UniformBlock → Host)
    (op : EStateM Fault UniformBlock α) : Op α := fun r =>
  match op (block r.host) with
  | .ok a b => .ok a { r with host := put r.host b }
  | .error fault b => .error fault { r with host := put r.host b }

/-- An operation on the time. -/
def onTime {α : Type} (op : EStateM Fault UniformBlock α) : Op α :=
  onBlock (·.time) (fun h b => { h with time := b }) op

/-- An operation on the mouse. -/
def onMouse {α : Type} (op : EStateM Fault UniformBlock α) : Op α :=
  onBlock (·.mouse) (fun h b => { h with mouse := b }) op

/-- An operation on the keyboard. -/
def onKeyboard {α : Type} (op : EStateM Fault UniformBlock α) : Op α :=
  onBlock (·.keyboard) (fun h b => { h with keyboard := b }) op

/-- Changes the host's side. -/
def changeHost (change : Host → Host) : Op Unit :=
  modify fun r => { r with host := change r.host }

/-- What an earlier step has to have made. -/
def missing {α : Type} (owner part : String) : Op α :=
  throw (.missingPart owner.toList part.toList)

/-! ### Resources -/

/-- Makes the storage buffers. -/
def makeStorage : Op (Buffer × Buffer) := do
  let size := (← get).host.storageSize
  let usage := storageUsage + copyTarget
  let first ← onDevice (createBuffer "storage1".toList size usage)
  let second ← onDevice (createBuffer "storage2".toList size usage)
  return (first, second)

/-- Makes the buffer of a uniform block. -/
def makeUniform (block : UniformBlock) (label : String) : Op Buffer :=
  onDevice (createBuffer label.toList block.size (uniformUsage + copyTarget))

/-- Makes the buffer of the data tables. -/
def makeData : Op Buffer := do
  let bytes ← MonadExcept.ofExcept (Host.tableBytes (← get).host.tables)
  onDevice (createBufferWithData bytes storageUsage)

/-- The bytes of the dispatch buffer: the number of each dispatch at its offset. -/
def dispatchBytes : Bytes :=
  (List.range maxDispatches).flatMap fun id =>
    littleEndian (UInt32.ofNat id) ++ List.replicate (dispatchStride - 4) 0

/-- The format of the pass textures. -/
def passFormat (h : Host) : TextureFormat := if h.wide then .rgba32float else .rgba16float

/-- Makes the screen and the pass textures. -/
def makeTextures : Op ScreenTextures := do
  let h := (← get).host
  let screen ← onDevice (createTexture (some "screen".toList) h.width h.height 1 .rgba16float
    (textureStored + textureSampled + textureCopySource))
  let passIn ← onDevice (createTexture (some "pass_in".toList) h.width h.height passLayers
    (passFormat h) (textureSampled + textureCopyTarget))
  let passOut ← onDevice (createTexture (some "pass_out".toList) h.width h.height passLayers
    (passFormat h) (textureStored + textureCopySource))
  return { screen, passIn, passOut }

/-- Makes a channel's texture and uploads its picture. -/
def makeChannel (picture : Option Picture) : Op Texture := do
  let p := picture.getD .blank
  let texture ← onDevice (createTexture none p.width p.height 1 .rgba8unormSrgb
    (textureSampled + textureCopyTarget))
  onDevice (record (.writeTexture texture p))
  return texture

/-! ### The bind group -/

/-- The layout of the bind group. -/
def layoutEntries (h : Host) : List LayoutEntry :=
  let slots : List Slot := [
    .buffer .storage false, .buffer .storage false, .buffer .uniform false,
    .buffer .uniform false, .buffer .uniform false, .buffer .uniform false,
    .buffer .readOnlyStorage false, .buffer .storage false, .buffer .uniform true,
    .storageTexture .rgba16float .flat, .texture .layered,
    .storageTexture (passFormat h) .layered, .texture .flat, .texture .flat,
    .sampler, .sampler, .sampler, .sampler]
  slots.zipIdx.map fun (slot, binding) => ⟨binding, .compute, slot⟩

/-- The bytes that a dispatch's number takes up. -/
def dispatchWindow : Int := 16

/-- What the bindings refer to, the views of the textures given. -/
def entriesOf (r : Resources) (screen passIn passOut channel0 channel1 : View) :
    List BindEntry :=
  let whole (b : Buffer) : Resource := .buffer b b.size
  let bound : List Resource := [
    whole r.storage0, whole r.storage1, whole r.time, whole r.mouse, whole r.keyboard,
    whole r.custom, whole r.data, whole r.counters, .buffer r.dispatch dispatchWindow,
    .view screen, .view passIn, .view passOut, .view channel0, .view channel1,
    .sampler r.nearest, .sampler r.bilinear, .sampler r.nearestRepeat,
    .sampler r.bilinearRepeat]
  bound.zipIdx.map fun (resource, binding) => ⟨binding, resource⟩

/-- Makes the bind group of resources and binds them. -/
def bind (r : Resources) : Op Unit := do
  let screen ← onDevice (createView r.screen none none)
  let passIn ← onDevice (createView r.passIn (some .layered) none)
  let passOut ← onDevice (createView r.passOut (some .layered) none)
  let channel0 ← onDevice (createView r.channel0 none none)
  let channel1 ← onDevice (createView r.channel1 none none)
  let group ← onDevice (createBindGroup (some "codeskew bind group".toList) r.layout
    (entriesOf r screen passIn passOut channel0 channel1))
  modify fun rig => { rig with connection := .complete ⟨r, group⟩ }

/-- Replaces some of the resources, if there is a device.  After a broken connection
they are kept, but there is not enough for a bind group. -/
def rebind (renew : Op Renewal) : Op Unit := do
  match (← get).connection with
  | .absent => return
  | .broken made =>
    let made := made.renew (← renew)
    modify fun rig => { rig with connection := .broken made }
    missing "Bindings" (if made.data.isNone then "_data_buffer" else "assert_buffer")
  | .complete bound => bind (bound.resources.renew (← renew))

/-! ### Operations -/

/-- Makes everything on the device. -/
def connect : Op Unit := do
  let (storage0, storage1) ← makeStorage
  let time ← makeUniform (← get).host.time "time"
  let mouse ← makeUniform (← get).host.mouse "mouse"
  let keyboard ← makeUniform (← get).host.keyboard "keyboard"
  let custom ← makeUniform (← get).host.custom "custom"
  let buffers : HostBuffers := { storage0, storage1, time, mouse, keyboard, custom }
  -- the tables may not fit into a buffer, and the buffers stay
  modify fun rig => { rig with connection := rig.connection.begin buffers }
  let data ← makeData
  let counters ← onDevice (createBuffer "assert counts".toList
    (4 * Shader.maxAssertions : Nat) (storageUsage + copySource + copyTarget))
  let dispatch ← onDevice (createBufferWithData dispatchBytes uniformUsage)
  let textures ← makeTextures
  let channel0 ← makeChannel (← get).host.channel0
  let channel1 ← makeChannel (← get).host.channel1
  let nearest ← onDevice (createSampler (some .clamp) .nearest)
  let bilinear ← onDevice (createSampler (some .clamp) .linear)
  let nearestRepeat ← onDevice (createSampler (some .repeating) .nearest)
  let bilinearRepeat ← onDevice (createSampler (some .repeating) .linear)
  let layout ← onDevice (createBindGroupLayout (some "codeskew bindings".toList)
    (layoutEntries (← get).host))
  let pipelineLayout ← onDevice (createPipelineLayout [layout])
  bind { toHostBuffers := buffers, toScreenTextures := textures, data, counters, dispatch,
         channel0, channel1, nearest, bilinear, nearestRepeat, bilinearRepeat, layout,
         pipelineLayout }

/-- Replaces the storage buffers and textures by empty ones. -/
def reset : Op Unit := rebind do
  let storage ← makeStorage
  return { storage := some storage, textures := some (← makeTextures) }

/-- Changes the size of the screen. -/
def resize (width height : Int) : Op Unit := do
  changeHost fun h => { h with width, height }
  rebind do return { textures := some (← makeTextures) }

/-- Sets custom uniforms to doubles; other names need another buffer. -/
def setCustom (pairs : List (Text × Double)) : Op Unit := do
  -- a buffer of other names has another size; new values alone are staged with a frame
  let renamed := pairs.map (·.1) != (← get).host.customNames
  changeHost (·.setCustom pairs)
  if renamed then
    rebind do return { custom := some (← makeUniform (← get).host.custom "custom") }

/-- Sets custom uniforms to what a caller gives. -/
def setCustomValues (names values : Value) : Op Unit := do
  let (names, values) ← MonadExcept.ofExcept (Host.customArguments names values)
  setCustom (Host.customOrPlaceholder names values)

/-- Replaces the data tables. -/
def setTables (tables : Shader.Tables) : Op Unit := do
  -- the tables stay even if they do not fit into a buffer
  changeHost (·.setTables tables)
  rebind do return { data := some (← makeData) }

/-- Sets a key down or up. -/
def setKey (code : Value) (down : Bool) : Op Unit := do
  let code ← MonadExcept.ofExcept (Host.keycode code)
  changeHost (·.setKey code down)

/-- Puts an array into a channel as its picture. -/
def loadChannel (index : Value) (data : Except Fault NumericArray) : Op Unit := do
  let second ← MonadExcept.ofExcept (Host.pairIndex (.channel index.shown) index)
  let picture ← MonadExcept.ofExcept (data >>= Picture.ofArray)
  -- a double may equal an index, but it is no subscript
  MonadExcept.ofExcept (Host.checkSubscript index)
  changeHost (·.setChannel second picture)
  match (← get).connection with
  | .absent => return
  | .broken _ =>
    discard (makeChannel (some picture))
    missing "Bindings" "_channel_textures"
  | .complete bound =>
    let texture ← makeChannel (some picture)
    let r := bound.resources
    bind (if second then { r with channel1 := texture } else { r with channel0 := texture })

/-- Uploads an array to the start of a storage buffer. -/
def writeStorage (index : Value) (data : Except Fault NumericArray) : Op Unit := do
  let second ← MonadExcept.ofExcept (Host.pairIndex .storageIndex index)
  let bytes := (← MonadExcept.ofExcept data).bytes
  let limit := (← get).host.storageSize
  if limit < bytes.length then throw (.storageSize bytes.length limit)
  match (← get).connection.buffers? with
  | none => missing "NoneType" "queue"
  | some b =>
    MonadExcept.ofExcept (Host.checkSubscript index)
    onDevice (record (.writeStorage (if second then b.storage1 else b.storage0) bytes))

/-- Writes the host's blocks to their buffers. -/
def stage : Op Unit := do
  match (← get).connection.buffers? with
  | none => missing "Bindings" "_time_buffer"
  | some b =>
    let h := (← get).host
    onDevice (record (.writeUniform b.time h.time.bytes))
    onDevice (record (.writeUniform b.mouse h.mouse.bytes))
    onDevice (record (.writeUniform b.keyboard h.keyboard.bytes))
    onDevice (record (.writeUniform b.custom h.custom.bytes))

/-- Makes what was stored to the pass textures readable from them. -/
def copyPasses (encoder : Encoder) : Op Unit := do
  match (← get).connection.textures? with
  | none => missing "Bindings" "_pass_out"
  | some t =>
    let h := (← get).host
    onDevice (record (.copyTexture encoder t.passOut t.passIn h.width h.height passLayers))

/-- Reads the counters of failed assertions. -/
def readCounters : Op (List UInt32) := do
  match (← get).connection with
  | .absent => missing "NoneType" "queue"
  | .broken _ => missing "Bindings" "assert_buffer"
  | .complete bound => onDevice (Gpu.readCounters bound.resources.counters)

/-- Reads the screen: its half-precision numbers, four for each texel. -/
def readScreen : Op (List UInt16) := do
  let c := (← get).connection
  match c.textures? with
  | none =>
    if c = .absent then missing "NoneType" "queue" else missing "Bindings" "screen_texture"
  | some t =>
    let h := (← get).host
    let components ← onDevice (Gpu.readScreen t.screen h.width h.height)
    -- sides are told from the texels, so one of them at most may be negative
    if h.width < 0 ∧ h.height < 0 then throw .unknownSides
    if min h.width h.height < 0 ∧ h.width * h.height = 0 then
      throw (.unfillable h.width h.height)
    return components

end Rig

end ShaderPlayer
