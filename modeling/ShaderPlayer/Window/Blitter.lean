/-
The blitter.

It draws the screen's texture onto what a window shows: one triangle that covers the
target, whose texels are those of the screen nearest to them.
-/
import ShaderPlayer.Gpu.Device

namespace ShaderPlayer

open Gpu

/-- What the blitter made on its device. -/
structure Blitter where
  sampler : Sampler
  layout : BindGroupLayout
  pipeline : RenderPipeline
  deriving DecidableEq, Repr

namespace Blitter

/-- The lines of the blitter's shader. -/
def shaderLines : List String := [
  "",
  "struct VertexOut \x7b",
  "    @builtin(position) position: vec4<f32>,",
  "    @location(0) uv: vec2<f32>,",
  "\x7d",
  "",
  "@group(0) @binding(0) var screen: texture_2d<f32>;",
  "@group(0) @binding(1) var screen_sampler: sampler;",
  "",
  "@vertex",
  "fn vs_main(@builtin(vertex_index) vertIndex: u32) -> VertexOut \x7b",
  "    var pos = array(",
  "        vec2<f32>(-1.0, -1.0),",
  "        vec2<f32>(3.0, -1.0),",
  "        vec2<f32>(-1.0, 3.0),",
  "    );",
  "    var out: VertexOut;",
  "    out.position = vec4<f32>(pos[vertIndex], 0.0, 1.0);",
  "    // the screen texture has its origin at the top left",
  "    out.uv = vec2<f32>(0.5 + 0.5 * pos[vertIndex].x, 0.5 - 0.5 * pos[vertIndex].y);",
  "    return out;",
  "\x7d",
  "",
  "@fragment",
  "fn fs_main(in: VertexOut) -> @location(0) vec4<f32> \x7b",
  "    return textureSample(screen, screen_sampler, in.uv);",
  "\x7d",
  ""]

/-- The blitter's shader. -/
def shader : Text := Text.join ['\n'] (shaderLines.map String.toList)

/-- The blitter's bindings. -/
def entries : List LayoutEntry :=
  [⟨0, .fragment, .texture .flat⟩, ⟨1, .fragment, .sampler⟩]

/-- Makes a blitter for targets of a format. -/
def make (target : TextureFormat) : Gpu.Op Blitter := do
  let sampler ← createSampler none .nearest
  let layout ← createBindGroupLayout none entries
  let module ← createShaderModule "codeskew blit".toList shader
  let pipelineLayout ← createPipelineLayout [layout]
  let pipeline ← createRenderPipeline pipelineLayout module target
  return ⟨sampler, layout, pipeline⟩

/-- Encodes drawing the screen onto a target.  The screen's texture is replaced when
its size changes, so every frame binds it anew. -/
def draw (b : Blitter) (screen target : Texture) : Gpu.Op CommandBuffer := do
  let source ← createView screen none none
  let group ← createBindGroup none b.layout [⟨0, .view source⟩, ⟨1, .sampler b.sampler⟩]
  let encoder ← createEncoder
  let view ← createView target none (some textureDrawn)
  let pass ← beginRenderPass encoder view
  record (.setRenderPipeline pass b.pipeline)
  record (.setRenderBindGroup pass group)
  record (.drawTriangle pass)
  record (.endRenderPass pass)
  finish encoder

end Blitter

end ShaderPlayer
