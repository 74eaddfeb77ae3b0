/-
The graphics device.

How a device behaves is a value: which shader modules and pipelines it refuses, what
the counters of failed assertions hold and what is on the screen.  The state beside
it numbers the objects of each kind and keeps the calls in order; a refused call
makes nothing and is not kept.

Main statements: a call that is kept, and one that makes an object, goes behind the
calls before it and changes nothing about the device (`record_eq`, `make_eq`).
-/
import ShaderPlayer.Gpu.Call

namespace ShaderPlayer.Gpu

/-- Why a device refuses. -/
structure Refusal where
  kind : RefusalKind
  message : Text
  deriving DecidableEq, Repr

/-- A device's behaviour. -/
structure Device where
  refusesModule : ShaderModule → Option Refusal := fun _ => none
  refusesPipeline : ComputePipeline → Option Refusal := fun _ => none
  /-- The counters of failed assertions. -/
  counters : List UInt32 := List.replicate Shader.maxAssertions 0
  /-- The half-precision numbers of the screen's texels, over and over. -/
  screen : List UInt16 := [0]

/-- How many objects of each kind were made. -/
structure Made where
  buffers : Nat := 0
  textures : Nat := 0
  views : Nat := 0
  samplers : Nat := 0
  bindGroupLayouts : Nat := 0
  pipelineLayouts : Nat := 0
  bindGroups : Nat := 0
  shaderModules : Nat := 0
  computePipelines : Nat := 0
  renderPipelines : Nat := 0
  encoders : Nat := 0
  computePasses : Nat := 0
  renderPasses : Nat := 0
  commandBuffers : Nat := 0
  deriving DecidableEq, Repr

/-- A device with the objects it made and the calls it got. -/
structure State where
  device : Device := {}
  made : Made := {}
  calls : Array Call := #[]

/-- An operation on a device; calls before a refusal stay. -/
abbrev Op (α : Type) := EStateM Fault State α

/-- Keeps a call. -/
def record (call : Call) : Op Unit := modify fun s => { s with calls := s.calls.push call }

/-- Makes an object: numbers it and keeps the call that made it. -/
def make {α : Type} (count : Made → Nat) (counted : Made → Nat → Made) (object : Nat → α)
    (call : α → Call) : Op α := do
  let s ← get
  let number := count s.made + 1
  let made := object number
  set { s with made := counted s.made number, calls := s.calls.push (call made) }
  return made

theorem record_eq (call : Call) (s : State) :
    record call s = .ok () { s with calls := s.calls.push call } := rfl

theorem make_eq {α : Type} (count : Made → Nat) (counted : Made → Nat → Made)
    (object : Nat → α) (call : α → Call) (s : State) :
    make count counted object call s =
      .ok (object (count s.made + 1))
        { s with
          made := counted s.made (count s.made + 1)
          calls := s.calls.push (call (object (count s.made + 1))) } := rfl

/-- Makes a buffer. -/
def createBuffer (label : Text) (size : Int) (usage : Nat) : Op Buffer :=
  make (·.buffers) (fun m n => { m with buffers := n })
    (fun number => ⟨number, some label, size, usage, none⟩) .createBuffer

/-- Makes a buffer that holds data. -/
def createBufferWithData (data : Bytes) (usage : Nat) : Op Buffer :=
  make (·.buffers) (fun m n => { m with buffers := n })
    (fun number => ⟨number, none, data.length, usage, some data⟩)
    (fun b => .createBufferWithData b data)

/-- Makes a texture. -/
def createTexture (label : Option Text) (width height layers : Int) (format : TextureFormat)
    (usage : Nat) : Op Texture :=
  make (·.textures) (fun m n => { m with textures := n })
    (fun number => ⟨number, label, width, height, layers, format, usage⟩) .createTexture

/-- Makes a texture of which only the number is known to callers: the target of a
window's frame. -/
def unrecordedTexture (width height : Int) (format : TextureFormat) : Op Texture := do
  -- numbered like every texture, but nothing asked the device for it
  let s ← get
  let number := s.made.textures + 1
  set { s with made.textures := number }
  return ⟨number, none, width, height, 1, format, textureDrawn⟩

/-- Makes a view of a texture. -/
def createView (texture : Texture) (dimension : Option ViewDimension) (usage : Option Nat) :
    Op View :=
  make (·.views) (fun m n => { m with views := n })
    (fun number => ⟨number, texture, dimension, usage⟩) .createView

/-- Makes a sampler. -/
def createSampler (address : Option AddressMode) (filter : Filter) : Op Sampler :=
  make (·.samplers) (fun m n => { m with samplers := n })
    (fun number => ⟨number, address, filter⟩) .createSampler

/-- Makes a layout of a bind group. -/
def createBindGroupLayout (label : Option Text) (entries : List LayoutEntry) :
    Op BindGroupLayout :=
  make (·.bindGroupLayouts) (fun m n => { m with bindGroupLayouts := n })
    (fun number => ⟨number, label, entries⟩) .createBindGroupLayout

/-- Makes a layout of a pipeline. -/
def createPipelineLayout (groups : List BindGroupLayout) : Op PipelineLayout :=
  make (·.pipelineLayouts) (fun m n => { m with pipelineLayouts := n })
    (fun number => ⟨number, groups⟩) .createPipelineLayout

/-- Makes a bind group. -/
def createBindGroup (label : Option Text) (layout : BindGroupLayout)
    (entries : List BindEntry) : Op BindGroup :=
  make (·.bindGroups) (fun m n => { m with bindGroups := n })
    (fun number => ⟨number, label, layout, entries⟩) .createBindGroup

/-- Makes a shader module, unless the device refuses it. -/
def createShaderModule (label code : Text) : Op ShaderModule := do
  let s ← get
  let module : ShaderModule := ⟨s.made.shaderModules + 1, label, code⟩
  match s.device.refusesModule module with
  | some refusal => throw (.refused refusal.kind refusal.message)
  | none =>
    set { s with
      made.shaderModules := module.number, calls := s.calls.push (.createShaderModule module) }
    return module

/-- Makes a compute pipeline, unless the device refuses it. -/
def createComputePipeline (layout : Option PipelineLayout) (module : ShaderModule)
    (entry : Text) : Op ComputePipeline := do
  let s ← get
  let pipeline : ComputePipeline := ⟨s.made.computePipelines + 1, layout, module, entry⟩
  match s.device.refusesPipeline pipeline with
  | some refusal => throw (.refused refusal.kind refusal.message)
  | none =>
    set { s with
      made.computePipelines := pipeline.number
      calls := s.calls.push (.createComputePipeline pipeline) }
    return pipeline

/-- Makes a render pipeline. -/
def createRenderPipeline (layout : PipelineLayout) (module : ShaderModule)
    (target : TextureFormat) : Op RenderPipeline :=
  make (·.renderPipelines) (fun m n => { m with renderPipelines := n })
    (fun number => ⟨number, layout, module, target⟩) .createRenderPipeline

/-- Makes an encoder. -/
def createEncoder : Op Encoder :=
  make (·.encoders) (fun m n => { m with encoders := n }) Encoder.mk .createEncoder

/-- Begins a compute pass. -/
def beginComputePass (encoder : Encoder) (label : Text) : Op ComputePass :=
  make (·.computePasses) (fun m n => { m with computePasses := n })
    (fun number => ⟨number, encoder, label⟩) .beginComputePass

/-- Begins a render pass. -/
def beginRenderPass (encoder : Encoder) (view : View) : Op RenderPass :=
  make (·.renderPasses) (fun m n => { m with renderPasses := n })
    (fun number => ⟨number, encoder, view⟩) .beginRenderPass

/-- Finishes an encoder. -/
def finish (encoder : Encoder) : Op CommandBuffer :=
  make (·.commandBuffers) (fun m n => { m with commandBuffers := n })
    (fun number => ⟨number, encoder⟩) .finish

/-- Reads the counters of failed assertions. -/
def readCounters (buffer : Buffer) : Op (List UInt32) := do
  record (.readBuffer buffer)
  return (← get).device.counters

/-- The most numbers that are read at once. -/
def maxRead : Nat := 0x10000000

/-- The half-precision numbers of a screen of so many texels: a pattern over and over. -/
def screenNumbers (pattern : List UInt16) (texels : Int) : Except Fault (List UInt16) :=
  if texels < 0 then .error .negativeScreen
  else
    let count := (4 * texels).toNat
    let repeats := (count + pattern.length - 1) / pattern.length
    if 0x8000000000000000 ≤ repeats then .error .repetitionCount
    else if maxRead < count then .error .outOfMemory
    else .ok (NumericArray.cycled 0 pattern count)

/-- Reads the screen: its half-precision numbers, four for each texel. -/
def readScreen (texture : Texture) (width height : Int) : Op (List UInt16) := do
  record (.readTexture texture width height)
  MonadExcept.ofExcept (screenNumbers (← get).device.screen (width * height))

end ShaderPlayer.Gpu
