/-
The trace of calls.

A call is written down as its name, its arguments by position and by keyword, and
its result; objects are written by their kind and number.  Long data is written as
its length and a hash.
-/
import ShaderPlayer.Entries
import ShaderPlayer.Gpu.Call

namespace ShaderPlayer.Gpu

/-- An argument of a call as it is written down. -/
inductive Argument where
  | null
  | bool (b : Bool)
  | int (n : Int)
  | text (t : Text)
  | data (bytes : Bytes)
  | list (items : List Argument)
  | record (fields : List (Text × Argument))
  deriving Inhabited

/-- A call as it is written down. -/
structure TracedCall where
  name : Text
  positional : List Argument := []
  keywords : List (Text × Argument) := []
  result : Argument := .null

/-! ### Data -/

/-- The FNV-1a hash of bytes, 64 bits wide. -/
def hashBytes (bytes : Bytes) : UInt64 :=
  bytes.foldl (fun h b => (h ^^^ b.toUInt64) * 0x100000001b3) 0xcbf29ce484222325

/-- The most bytes that are written out. -/
def maxWritten : Nat := 256

/-- Bytes as hexadecimal digits. -/
def hexText (bytes : Bytes) : Text := bytes.flatMap fun b => Text.ofHex 2 b.toNat

/-! ### Names -/

/-- The name of an object by its kind and number. -/
def objectName (kind : String) (number : Nat) : Text := kind.toList ++ Text.ofNat number

/-- The name of a buffer. -/
def Buffer.name (b : Buffer) : Text := objectName "buffer" b.number
/-- The name of a texture. -/
def Texture.name (t : Texture) : Text := objectName "texture" t.number
/-- The name of a view. -/
def View.name (v : View) : Text := objectName "view" v.number
/-- The name of a sampler. -/
def Sampler.name (s : Sampler) : Text := objectName "sampler" s.number
/-- The name of a bind group's layout. -/
def BindGroupLayout.name (l : BindGroupLayout) : Text := objectName "bind_group_layout" l.number
/-- The name of a pipeline's layout. -/
def PipelineLayout.name (l : PipelineLayout) : Text := objectName "pipeline_layout" l.number
/-- The name of a bind group. -/
def BindGroup.name (g : BindGroup) : Text := objectName "bind_group" g.number
/-- The name of a shader module. -/
def ShaderModule.name (m : ShaderModule) : Text := objectName "shader_module" m.number
/-- The name of a compute pipeline. -/
def ComputePipeline.name (p : ComputePipeline) : Text := objectName "compute_pipeline" p.number
/-- The name of a render pipeline. -/
def RenderPipeline.name (p : RenderPipeline) : Text := objectName "render_pipeline" p.number
/-- The name of an encoder. -/
def Encoder.name (e : Encoder) : Text := objectName "encoder" e.number
/-- The name of a compute pass. -/
def ComputePass.name (p : ComputePass) : Text := objectName "compute_pass" p.number
/-- The name of a render pass. -/
def RenderPass.name (p : RenderPass) : Text := objectName "render_pass" p.number
/-- The name of finished commands. -/
def CommandBuffer.name (c : CommandBuffer) : Text := objectName "commands" c.number

/-- The name of a texture format. -/
def TextureFormat.name : TextureFormat → String
  | .rgba16float => "rgba16float"
  | .rgba32float => "rgba32float"
  | .rgba8unormSrgb => "rgba8unorm-srgb"
  | .bgra8unormSrgb => "bgra8unorm-srgb"

/-- The name of a view's dimension. -/
def ViewDimension.name : ViewDimension → String
  | .flat => "2d"
  | .layered => "2d-array"

/-- The name of a filter. -/
def Filter.name : Filter → String
  | .nearest => "nearest"
  | .linear => "linear"

/-- The name of an address mode. -/
def AddressMode.name : AddressMode → String
  | .clamp => "clamp-to-edge"
  | .repeating => "repeat"

/-- The name of a buffer binding's kind. -/
def BufferBinding.name : BufferBinding → String
  | .storage => "storage"
  | .uniform => "uniform"
  | .readOnlyStorage => "read-only-storage"

/-- The number of a shader stage. -/
def Stage.flag : Stage → Nat
  | .fragment => 2
  | .compute => 4

/-! ### Arguments -/

/-- A fixed word as an argument. -/
def word (s : String) : Argument := .text s.toList

/-- A number as an argument. -/
def number (n : Nat) : Argument := .int n

/-- A keyword with its argument. -/
def keyword (name : String) (argument : Argument) : Text × Argument := (name.toList, argument)

/-- A record of keywords. -/
def recordOf (fields : List (Text × Argument)) : Argument := .record fields

/-- A keyword that is left out where there is nothing to say. -/
def optional (name : String) (argument : Option Argument) : List (Text × Argument) :=
  match argument with
  | some a => [keyword name a]
  | none => []

/-- The size of a texture or of a part of one. -/
def sizeOf (width height layers : Int) : Argument := .list [.int width, .int height, .int layers]

/-- Where a texture begins. -/
def originOf : Argument := sizeOf 0 0 0

/-- What a layout has at a binding, as a keyword. -/
def Slot.traced : Slot → Text × Argument
  | .buffer kind dynamicOffset =>
    keyword "buffer" (recordOf (keyword "type" (word kind.name)
      :: if dynamicOffset then [keyword "has_dynamic_offset" (.bool true)] else []))
  | .texture dimension =>
    keyword "texture" (recordOf [
      keyword "sample_type" (word "float"), keyword "view_dimension" (word dimension.name)])
  | .storageTexture format dimension =>
    keyword "storage_texture" (recordOf [
      keyword "access" (word "write-only"), keyword "format" (word format.name),
      keyword "view_dimension" (word dimension.name)])
  | .sampler => keyword "sampler" (recordOf [keyword "type" (word "filtering")])

/-- A binding of a layout. -/
def LayoutEntry.traced (e : LayoutEntry) : Argument :=
  recordOf [keyword "binding" (number e.binding), keyword "visibility" (number e.stage.flag),
    e.slot.traced]

/-- What is bound. -/
def Resource.traced : Resource → Argument
  | .buffer b size =>
    recordOf [keyword "buffer" (.text b.name), keyword "offset" (number 0),
      keyword "size" (.int size)]
  | .view v => .text v.name
  | .sampler s => .text s.name

/-- A bound resource. -/
def BindEntry.traced (e : BindEntry) : Argument :=
  recordOf [keyword "binding" (number e.binding), keyword "resource" e.resource.traced]

/-- One side of a copy between textures. -/
def copySide (t : Texture) : Argument :=
  recordOf [keyword "texture" (.text t.name), keyword "mip_level" (number 0),
    keyword "origin" originOf, keyword "aspect" (word "all")]

/-- An entry point of a module with the particulars of its stage. -/
def stageOf (m : ShaderModule) (entry : String) (more : List (Text × Argument)) : Argument :=
  recordOf (keyword "module" (.text m.name) :: keyword "entry_point" (word entry) :: more)

/-! ### Calls -/

/-- The bytes between the rows of texels; nothing lies between them where no texel is. -/
def rowBytes (p : Picture) : Nat := if p.height = 0 then 0 else 4 * p.width

/-- A method's name on the device. -/
def onDevice (method : String) : Text := "device.".toList ++ method.toList

/-- A method's name on the queue. -/
def onQueue (method : String) : Text := "queue.".toList ++ method.toList

/-- A method's name on an object. -/
def on (object : Text) (method : String) : Text := object ++ '.' :: method.toList

/-- The keywords of a sampler. -/
def Sampler.keywords (s : Sampler) : List (Text × Argument) :=
  let mode := s.address.map fun a => word a.name
  optional "address_mode_u" mode ++ optional "address_mode_v" mode
    ++ optional "address_mode_w" mode
    ++ [keyword "mag_filter" (word s.filter.name), keyword "min_filter" (word s.filter.name)]

/-- The keywords of a render pipeline. -/
def RenderPipeline.keywords (p : RenderPipeline) : List (Text × Argument) := [
  keyword "label" (word "blit pipeline"),
  keyword "layout" (.text p.layout.name),
  keyword "vertex" (stageOf p.module "vs_main" [keyword "buffers" (.list [])]),
  keyword "primitive" (recordOf [
    keyword "topology" (word "triangle-list"), keyword "front_face" (word "ccw"),
    keyword "cull_mode" (word "none")]),
  keyword "depth_stencil" .null,
  keyword "multisample" .null,
  keyword "fragment" (stageOf p.module "fs_main" [
    keyword "targets" (.list [recordOf [keyword "format" (word p.target.name)]])])]

/-- A call as it is written down. -/
def Call.traced : Call → TracedCall
  | .createBuffer b =>
    { name := onDevice "create_buffer"
      keywords := optional "label" (b.label.map .text)
        ++ [keyword "size" (.int b.size), keyword "usage" (number b.usage)]
      result := .text b.name }
  | .createBufferWithData b data =>
    { name := onDevice "create_buffer_with_data"
      keywords := [keyword "data" (.data data), keyword "usage" (number b.usage)]
      result := .text b.name }
  | .createTexture t =>
    { name := onDevice "create_texture"
      keywords := optional "label" (t.label.map .text)
        ++ [keyword "size" (sizeOf t.width t.height t.layers),
          keyword "format" (word t.format.name), keyword "usage" (number t.usage)]
      result := .text t.name }
  | .createView v =>
    { name := on v.texture.name "create_view"
      keywords := optional "dimension" (v.dimension.map fun d => word d.name)
        ++ optional "usage" (v.usage.map number)
      result := .text v.name }
  | .createSampler s =>
    { name := onDevice "create_sampler", keywords := s.keywords, result := .text s.name }
  | .createBindGroupLayout l =>
    { name := onDevice "create_bind_group_layout"
      keywords := optional "label" (l.label.map .text)
        ++ [keyword "entries" (.list (l.entries.map LayoutEntry.traced))]
      result := .text l.name }
  | .createPipelineLayout l =>
    { name := onDevice "create_pipeline_layout"
      keywords := [keyword "bind_group_layouts" (.list (l.groups.map fun g => .text g.name))]
      result := .text l.name }
  | .createBindGroup g =>
    { name := onDevice "create_bind_group"
      keywords := optional "label" (g.label.map .text)
        ++ [keyword "layout" (.text g.layout.name),
          keyword "entries" (.list (g.entries.map BindEntry.traced))]
      result := .text g.name }
  | .createShaderModule m =>
    { name := onDevice "create_shader_module"
      keywords := [keyword "label" (.text m.label), keyword "code" (number m.code.length)]
      result := .text m.name }
  | .createComputePipeline p =>
    { name := onDevice "create_compute_pipeline"
      keywords := [
        keyword "label" (.text ("Compute Pipeline - ".toList ++ p.entry)),
        keyword "layout" (match p.layout with | some l => .text l.name | none => .null),
        keyword "compute" (recordOf [
          keyword "module" (.text p.module.name), keyword "entry_point" (.text p.entry)])]
      result := .text p.name }
  | .createRenderPipeline p =>
    { name := onDevice "create_render_pipeline", keywords := p.keywords, result := .text p.name }
  | .createEncoder e => { name := onDevice "create_command_encoder", result := .text e.name }
  | .writeTexture t p =>
    { name := onQueue "write_texture"
      keywords := [
        keyword "destination" (recordOf [keyword "texture" (.text t.name)]),
        keyword "data" (.data p.texels),
        keyword "data_layout" (recordOf [
          keyword "bytes_per_row" (number (rowBytes p)),
          keyword "rows_per_image" (number p.height)]),
        keyword "size" (sizeOf t.width t.height t.layers)] }
  | .writeUniform b data =>
    { name := onQueue "write_buffer"
      keywords := [keyword "buffer" (.text b.name), keyword "buffer_offset" (number 0),
        keyword "data" (.data data), keyword "data_offset" (number 0),
        keyword "size" (number data.length)] }
  | .writeStorage b data =>
    { name := onQueue "write_buffer", positional := [.text b.name, number 0, .data data] }
  | .readBuffer b => { name := onQueue "read_buffer", positional := [.text b.name] }
  | .readTexture t width height =>
    { name := onQueue "read_texture"
      positional := [
        recordOf [keyword "texture" (.text t.name), keyword "mip_level" (number 0),
          keyword "origin" originOf],
        recordOf [keyword "offset" (number 0), keyword "bytes_per_row" (.int (8 * width)),
          keyword "rows_per_image" (.int height)],
        sizeOf width height 1] }
  | .submit commands =>
    { name := onQueue "submit", positional := [.list (commands.map fun c => .text c.name)] }
  | .clearBuffer e b => { name := on e.name "clear_buffer", positional := [.text b.name] }
  | .beginComputePass p =>
    { name := on p.encoder.name "begin_compute_pass"
      keywords := [keyword "label" (.text p.label)], result := .text p.name }
  | .setPipeline p pipeline =>
    { name := on p.name "set_pipeline", positional := [.text pipeline.name] }
  | .setBindGroup p g offset =>
    { name := on p.name "set_bind_group"
      positional := [number 0, .text g.name, .list [number offset]] }
  | .dispatch p x y z =>
    { name := on p.name "dispatch_workgroups", positional := [.int x, .int y, .int z] }
  | .endComputePass p => { name := on p.name "end" }
  | .copyTexture e source target width height layers =>
    { name := on e.name "copy_texture_to_texture"
      keywords := [keyword "source" (copySide source), keyword "destination" (copySide target),
        keyword "copy_size" (sizeOf width height layers)] }
  | .beginRenderPass p =>
    { name := on p.encoder.name "begin_render_pass"
      keywords := [
        keyword "label" (word "blit"),
        keyword "color_attachments" (.list [recordOf [
          keyword "view" (.text p.view.name), keyword "resolve_target" .null,
          keyword "clear_value" (.list [number 0, number 0, number 0, number 1]),
          keyword "load_op" (word "clear"), keyword "store_op" (word "store")]])]
      result := .text p.name }
  | .setRenderPipeline p pipeline =>
    { name := on p.name "set_pipeline", positional := [.text pipeline.name] }
  | .setRenderBindGroup p g =>
    { name := on p.name "set_bind_group"
      positional := [number 0, .text g.name, .list [], number 0, number 99] }
  | .drawTriangle p =>
    { name := on p.name "draw", positional := [number 3, number 1, number 0, number 0] }
  | .endRenderPass p => { name := on p.name "end" }
  | .finish c => { name := on c.encoder.name "finish", result := .text c.name }
  | .openCanvas title width height =>
    { name := "RenderCanvas".toList
      keywords := [keyword "title" (.text title),
        keyword "size" (.list [.int width, .int height]), keyword "max_fps" (number 60)]
      result := word "canvas" }
  | .getContext =>
    { name := on "canvas".toList "get_context", positional := [word "wgpu"]
      result := word "context" }
  | .configure format =>
    { name := on "context".toList "configure"
      keywords := [keyword "format" (word format.name)] }
  | .requestDraw given =>
    { name := on "canvas".toList "request_draw", positional := [.bool given] }

/-! ### Dispatches -/

/-- A compute pass in short: its label, pipeline, bind group, offset and counts. -/
structure Dispatch where
  label : Text
  pipeline : ComputePipeline
  group : BindGroup
  offset : Nat
  x : Int
  y : Int
  z : Int

/-- The compute passes among calls; those of one pass follow one another. -/
def dispatches : List Call → List Dispatch
  | .setPipeline p pipeline :: .setBindGroup _ group offset :: .dispatch _ x y z :: rest =>
    ⟨p.label, pipeline, group, offset, x, y, z⟩ :: dispatches rest
  | _ :: rest => dispatches rest
  | [] => []

end ShaderPlayer.Gpu
