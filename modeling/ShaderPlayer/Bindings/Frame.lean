/-
Frames.

Encoding a frame stages the host's uniforms, clears the counters of failed assertions
and dispatches pipelines in order, each as often as it asks for.  Every dispatch is a
pass of its own, whose number the shader reads at the pass's offset; after it, what
was stored to the pass textures is copied to where the next pass reads it.
-/
import ShaderPlayer.Pipeline

namespace ShaderPlayer

namespace Rig

open Gpu

/-- Encodes one dispatch of a pipeline. -/
def encodePass (encoder : Encoder) (p : Pipeline) (id : Nat) : Op Unit := do
  match (← get).bound with
  | none => missing "Bindings" "bind_group"
  | some bound =>
    let h := (← get).host
    let count := p.workgroups h.width h.height
    let pass ← onDevice (beginComputePass encoder (p.name ++ ' ' :: Text.ofNat id))
    onDevice (record (.setPipeline pass p.compiled))
    onDevice (record (.setBindGroup pass bound.group (id * dispatchStride)))
    onDevice (record (.dispatch pass count.x count.y count.z))
    onDevice (record (.endComputePass pass))
    -- a copy cannot be made inside a pass
    copyPasses encoder

/-- Encodes all dispatches of a pipeline in a frame. -/
def encodePipeline (encoder : Encoder) (p : Pipeline) : Op Unit :=
  (List.range p.repeats).forM (encodePass encoder p)

/-- Clears the counters of failed assertions. -/
def clearCounters (encoder : Encoder) : Op Unit := do
  match (← get).bound with
  | none => missing "Bindings" "assert_buffer"
  | some bound => onDevice (record (.clearBuffer encoder bound.resources.counters))

/-- Encodes a frame. -/
def encodeFrame (pipelines : List Pipeline) : Op CommandBuffer := do
  -- the queue writes before it runs what is submitted later
  stage
  let encoder ← onDevice createEncoder
  clearCounters encoder
  pipelines.forM (encodePipeline encoder)
  onDevice (finish encoder)

/-- Submits finished commands. -/
def submit (commands : List CommandBuffer) : Op Unit := onDevice (record (.submit commands))

end Rig

end ShaderPlayer
