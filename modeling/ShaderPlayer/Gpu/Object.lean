/-
Objects of the graphics device.

What the device makes for this library.  An object is known by its number among
those of its kind and carries what it was made with, so that what a pipeline, a
bind group or a view refers to can be read off it.
-/
import ShaderPlayer.Picture

namespace ShaderPlayer.Gpu

/-! ### Usages -/

/-- Usages of a buffer. -/
def copySource : Nat := 4
/-- A buffer that is written. -/
def copyTarget : Nat := 8
/-- A buffer of uniforms. -/
def uniformUsage : Nat := 64
/-- A buffer of storage. -/
def storageUsage : Nat := 128

/-- Usages of a texture: read by copying. -/
def textureCopySource : Nat := 1
/-- A texture that is written by copying. -/
def textureCopyTarget : Nat := 2
/-- A texture that shaders sample. -/
def textureSampled : Nat := 4
/-- A texture that shaders store to. -/
def textureStored : Nat := 8
/-- A texture that is drawn to. -/
def textureDrawn : Nat := 16

/-- The shader stages that a binding is visible to. -/
inductive Stage where
  | fragment
  | compute
  deriving DecidableEq, Repr

/-- Texture formats. -/
inductive TextureFormat where
  | rgba16float
  | rgba32float
  | rgba8unormSrgb
  | bgra8unormSrgb
  deriving DecidableEq, Repr

/-- The dimensions of a view. -/
inductive ViewDimension where
  | flat
  | layered
  deriving DecidableEq, Repr

/-- How texels between texels are read. -/
inductive Filter where
  | nearest
  | linear
  deriving DecidableEq, Repr

/-- What lies beyond a texture's edge. -/
inductive AddressMode where
  | clamp
  | repeating
  deriving DecidableEq, Repr

/-! ### Resources -/

/-- A buffer. -/
structure Buffer where
  number : Nat
  label : Option Text
  size : Int
  usage : Nat
  /-- What the buffer was made with. -/
  contents : Option Bytes := none
  deriving DecidableEq, Repr

/-- A texture. -/
structure Texture where
  number : Nat
  label : Option Text
  width : Int
  height : Int
  layers : Int
  format : TextureFormat
  usage : Nat
  deriving DecidableEq, Repr

/-- A view of a texture. -/
structure View where
  number : Nat
  texture : Texture
  dimension : Option ViewDimension
  usage : Option Nat
  deriving DecidableEq, Repr

/-- A sampler. -/
structure Sampler where
  number : Nat
  address : Option AddressMode
  filter : Filter
  deriving DecidableEq, Repr

/-! ### Bind groups -/

/-- The kinds of buffer bindings. -/
inductive BufferBinding where
  | storage
  | uniform
  | readOnlyStorage
  deriving DecidableEq, Repr

/-- What a layout has at a binding. -/
inductive Slot where
  /-- A buffer, perhaps with an offset that each dispatch sets. -/
  | buffer (kind : BufferBinding) (dynamicOffset : Bool)
  | texture (dimension : ViewDimension)
  | storageTexture (format : TextureFormat) (dimension : ViewDimension)
  | sampler
  deriving DecidableEq, Repr

/-- A binding of a layout. -/
structure LayoutEntry where
  binding : Nat
  stage : Stage
  slot : Slot
  deriving DecidableEq, Repr

/-- A layout of a bind group. -/
structure BindGroupLayout where
  number : Nat
  label : Option Text
  entries : List LayoutEntry
  deriving DecidableEq, Repr

/-- A layout of a pipeline. -/
structure PipelineLayout where
  number : Nat
  groups : List BindGroupLayout
  deriving DecidableEq, Repr

/-- What is bound. -/
inductive Resource where
  /-- The first bytes of a buffer. -/
  | buffer (buffer : Buffer) (size : Int)
  | view (view : View)
  | sampler (sampler : Sampler)
  deriving DecidableEq, Repr

/-- A bound resource. -/
structure BindEntry where
  binding : Nat
  resource : Resource
  deriving DecidableEq, Repr

/-- A bind group. -/
structure BindGroup where
  number : Nat
  label : Option Text
  layout : BindGroupLayout
  entries : List BindEntry
  deriving DecidableEq, Repr

/-! ### Shaders and pipelines -/

/-- A shader module. -/
structure ShaderModule where
  number : Nat
  label : Text
  code : Text
  deriving DecidableEq, Repr

/-- A compute pipeline; bindings without a device have no layout. -/
structure ComputePipeline where
  number : Nat
  layout : Option PipelineLayout
  module : ShaderModule
  entry : Text
  deriving DecidableEq, Repr

/-- A pipeline that draws a triangle. -/
structure RenderPipeline where
  number : Nat
  layout : PipelineLayout
  module : ShaderModule
  target : TextureFormat
  deriving DecidableEq, Repr

/-! ### Commands -/

/-- An encoder of commands. -/
structure Encoder where
  number : Nat
  deriving DecidableEq, Repr

/-- A pass of compute commands. -/
structure ComputePass where
  number : Nat
  encoder : Encoder
  label : Text
  deriving DecidableEq, Repr

/-- A pass of render commands. -/
structure RenderPass where
  number : Nat
  encoder : Encoder
  view : View
  deriving DecidableEq, Repr

/-- The commands of a finished encoder. -/
structure CommandBuffer where
  number : Nat
  encoder : Encoder
  deriving DecidableEq, Repr

end ShaderPlayer.Gpu
