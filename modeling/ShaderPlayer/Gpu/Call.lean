/-
Calls to the graphics device.

Every call that this library makes, with the objects it concerns; calls that make an
object hold the object made.
-/
import ShaderPlayer.Gpu.Object

namespace ShaderPlayer.Gpu

/-- A call to the device, its queue, an encoder or the window. -/
inductive Call where
  | createBuffer (made : Buffer)
  | createBufferWithData (made : Buffer) (data : Bytes)
  | createTexture (made : Texture)
  | createView (made : View)
  | createSampler (made : Sampler)
  | createBindGroupLayout (made : BindGroupLayout)
  | createPipelineLayout (made : PipelineLayout)
  | createBindGroup (made : BindGroup)
  | createShaderModule (made : ShaderModule)
  | createComputePipeline (made : ComputePipeline)
  | createRenderPipeline (made : RenderPipeline)
  | createEncoder (made : Encoder)
  /-- Uploads a whole picture. -/
  | writeTexture (texture : Texture) (picture : Picture)
  /-- Uploads a whole uniform block. -/
  | writeUniform (buffer : Buffer) (data : Bytes)
  /-- Uploads data to the start of a storage buffer. -/
  | writeStorage (buffer : Buffer) (data : Bytes)
  | readBuffer (buffer : Buffer)
  | readTexture (texture : Texture) (width height : Int)
  | submit (commands : List CommandBuffer)
  | clearBuffer (encoder : Encoder) (buffer : Buffer)
  | beginComputePass (made : ComputePass)
  | setPipeline (pass : ComputePass) (pipeline : ComputePipeline)
  | setBindGroup (pass : ComputePass) (group : BindGroup) (offset : Nat)
  | dispatch (pass : ComputePass) (x y z : Int)
  | endComputePass (pass : ComputePass)
  /-- Copies all layers of one texture to another. -/
  | copyTexture (encoder : Encoder) (source target : Texture) (width height layers : Int)
  | beginRenderPass (made : RenderPass)
  | setRenderPipeline (pass : RenderPass) (pipeline : RenderPipeline)
  | setRenderBindGroup (pass : RenderPass) (group : BindGroup)
  /-- Draws one triangle. -/
  | drawTriangle (pass : RenderPass)
  | endRenderPass (pass : RenderPass)
  | finish (made : CommandBuffer)
  | openCanvas (title : Text) (width height : Int)
  | getContext
  | configure (format : TextureFormat)
  /-- Asks for a frame, perhaps with the function that draws frames. -/
  | requestDraw (given : Bool)
  deriving DecidableEq, Repr

end ShaderPlayer.Gpu
