/-
What encoding a frame tells a device.

* `EncodedPass` — a dispatch with the copy behind it, as a device is told of it;
* `turns` — the dispatches that pipelines ask for, each with its number;
* `Encoded` — a frame in which pipelines are dispatched with what is bound;
* `encodeFrame_eq` — where a connection is complete, a frame is encoded as a whole, and this is
  all that the device is told of frames;
* `Recorded` — what is bound suits the host, and so it was with each frame that was told: what
  tells nothing of frames keeps this (`keeps_recorded`), and so does encoding a frame
  (`encodeFrame_told`).
-/
import ShaderPlayer.Proofs.Bindings.Connection

namespace ShaderPlayer

open Gpu Shader

namespace Gpu

/-- A dispatch with the copy behind it, as a device is told of it. -/
structure EncodedPass where
  pass : ComputePass
  pipeline : ComputePipeline
  group : BindGroup
  /-- Where the shader reads the number of the dispatch. -/
  offset : Nat
  /-- The number of workgroups. -/
  count : Extent
  source : Texture
  target : Texture
  /-- What is copied: width, height and layers. -/
  copied : Extent

/-- The calls of a dispatch. -/
def EncodedPass.calls (d : EncodedPass) : List Call := [
  .beginComputePass d.pass, .setPipeline d.pass d.pipeline, .setBindGroup d.pass d.group d.offset,
  .dispatch d.pass d.count.x d.count.y d.count.z, .endComputePass d.pass,
  .copyTexture d.pass.encoder d.source d.target d.copied.x d.copied.y d.copied.z]

theorem EncodedPass.not_isWrite_of_mem {d : EncodedPass} {call : Call} (h : call ∈ d.calls) :
    ¬ call.isWrite := by
  unfold EncodedPass.calls at h
  simp only [List.mem_cons, List.not_mem_nil, or_false] at h
  rcases h with rfl | rfl | rfl | rfl | rfl | rfl <;> exact Bool.false_ne_true

end Gpu

namespace Rig

/-! ### Frames -/

/-- The dispatches that pipelines ask for, each with its number. -/
def turns (pipelines : List Pipeline) : List (Pipeline × Nat) :=
  pipelines.flatMap fun p => (List.range p.repeats).map fun id => (p, id)

/-- What is told of a dispatch: its pass gets a number, and everything else about it is known
before. -/
def dispatchOf (h : Host) (bound : Bound) (encoder : Encoder) (turn : Pipeline × Nat)
    (number : Nat) : EncodedPass where
  pass := ⟨number, encoder, turn.1.name ++ ' ' :: Text.ofNat turn.2⟩
  pipeline := turn.1.compiled
  group := bound.group
  offset := turn.2 * dispatchStride
  count := turn.1.workgroups h.width h.height
  source := bound.resources.passOut
  target := bound.resources.passIn
  copied := ⟨h.width, h.height, passLayers⟩

/-- The uniforms that are written for a frame. -/
def stageCalls (b : HostBuffers) (h : Host) : List Call := [
  .writeUniform b.time h.time.bytes, .writeUniform b.mouse h.mouse.bytes,
  .writeUniform b.keyboard h.keyboard.bytes, .writeUniform b.custom h.custom.bytes]

/-- Pipelines are dispatched in a frame with what is bound: uniforms are written, counters are
cleared, and then one dispatch follows the other. -/
structure Encoded (h : Host) (bound : Bound) (pipelines : List Pipeline) (frame : List Call) :
    Prop where
  told : ∃ (encoder : Encoder) (dispatches : List EncodedPass),
    frame = stageCalls bound.resources.toHostBuffers h
        ++ .clearBuffer encoder bound.resources.counters :: dispatches.flatMap EncodedPass.calls
      ∧ List.Forall₂ (fun turn d => ∃ number, d = dispatchOf h bound encoder turn number)
          (turns pipelines) dispatches

theorem Encoded.isWhole {h : Host} {bound : Bound} {pipelines : List Pipeline} {frame : List Call}
    (hframe : Encoded h bound pipelines frame) : IsWhole frame := by
  obtain ⟨encoder, dispatches, rfl, _⟩ := hframe.told
  refine ⟨_, _, _, _, _, rfl, ?_, ?_⟩
  · simp [Call.isWrite]
  · intro call hcall
    rcases List.mem_cons.mp hcall with rfl | hcall
    · exact Bool.false_ne_true
    · obtain ⟨d, _, hcall⟩ := List.mem_flatMap.mp hcall
      exact EncodedPass.not_isWrite_of_mem hcall

/-- Staging needs the buffers of uniforms only, which stay after a connection that broke off. -/
theorem stage_of_buffers {r : Rig} {b : HostBuffers} (hb : r.connection.buffers? = some b) :
    ∃ gpu, Served r.gpu gpu ∧ gpu.told = r.gpu.told ++ stageCalls b r.host
      ∧ stage r = .ok () { r with gpu } := by
  obtain ⟨host, gpu, connection⟩ := r
  cases connection with
  | absent => cases hb
  | broken | complete =>
    cases hb
    refine ⟨_, ?_, ?_, rfl⟩
    · rfl
    · simp [State.told, Call.inFrame, stageCalls]

section Encoding

variable {r : Rig} {bound : Bound} (hbound : r.connection = .complete bound)

include hbound

theorem stage_eq :
    ∃ gpu, Served r.gpu gpu
      ∧ gpu.told = r.gpu.told ++ stageCalls bound.resources.toHostBuffers r.host
      ∧ stage r = .ok () { r with gpu } :=
  stage_of_buffers (by rw [hbound]; rfl)

theorem clearCounters_eq (encoder : Encoder) :
    ∃ gpu, Served r.gpu gpu
      ∧ gpu.told = r.gpu.told ++ [.clearBuffer encoder bound.resources.counters]
      ∧ clearCounters encoder r = .ok () { r with gpu } := by
  obtain ⟨host, gpu, connection⟩ := r
  cases hbound
  refine ⟨_, ?_, told_push _ _, rfl⟩
  rfl

theorem encodePass_eq (encoder : Encoder) (turn : Pipeline × Nat) :
    ∃ number gpu, Served r.gpu gpu
      ∧ gpu.told = r.gpu.told ++ (dispatchOf r.host bound encoder turn number).calls
      ∧ encodePass encoder turn.1 turn.2 r = .ok () { r with gpu } := by
  obtain ⟨host, gpu, connection⟩ := r
  cases hbound
  refine ⟨gpu.made.computePasses + 1, _, ?_, ?_, rfl⟩
  · rfl
  · simp [State.told, Call.inFrame, EncodedPass.calls, dispatchOf]

omit hbound in
theorem forM_encodePipeline (encoder : Encoder) (pipelines : List Pipeline) :
    pipelines.forM (encodePipeline encoder)
      = (turns pipelines).forM fun turn => encodePass encoder turn.1 turn.2 := by
  induction pipelines with
  | nil => rfl
  | cons p pipelines ih =>
    rw [turns, List.flatMap_cons, ← turns]
    simp only [List.forM_eq_forM, List.forM_append, List.forM_map, List.forM_cons] at ih ⊢
    rw [← ih]
    rfl

/-- The induction is on the dispatches: each leaves the connection for the next. -/
theorem encodePasses_eq (encoder : Encoder) (todo : List (Pipeline × Nat)) :
    ∃ dispatches gpu, Served r.gpu gpu
      ∧ gpu.told = r.gpu.told ++ dispatches.flatMap EncodedPass.calls
      ∧ List.Forall₂ (fun turn d => ∃ number, d = dispatchOf r.host bound encoder turn number)
          todo dispatches
      ∧ todo.forM (fun turn => encodePass encoder turn.1 turn.2) r = .ok () { r with gpu } := by
  induction todo generalizing r with
  | nil => exact ⟨[], r.gpu, rfl, (List.append_nil _).symm, .nil, rfl⟩
  | cons turn todo ih =>
    obtain ⟨number, between, hserved, htold, hpass⟩ := encodePass_eq hbound encoder turn
    obtain ⟨dispatches, gpu, hserved', htold', hdispatches, hrest⟩ :=
      ih (r := { r with gpu := between }) hbound
    refine ⟨dispatchOf r.host bound encoder turn number :: dispatches, gpu,
      hserved.trans hserved', ?_, .cons ⟨number, rfl⟩ hdispatches, ?_⟩
    · rw [htold', htold, List.append_assoc, List.flatMap_cons]
    · exact (run_bind_of_ok hpass).trans hrest

/-- A frame is encoded as a whole. -/
theorem encodeFrame_eq (pipelines : List Pipeline) :
    ∃ frame gpu commands, Served r.gpu gpu ∧ Encoded r.host bound pipelines frame
      ∧ gpu.told = r.gpu.told ++ frame ∧ encodeFrame pipelines r = .ok commands { r with gpu } := by
  obtain ⟨first, hfirst, hwritten, hstage⟩ := stage_eq hbound
  -- making an encoder and finishing it are no part of the frame
  obtain ⟨encoder, second, hsecond, hbegun, hencoder⟩ : ∃ encoder gpu, Served first gpu
      ∧ gpu.told = first.told
      ∧ onDevice createEncoder { r with gpu := first } = .ok encoder { r with gpu } := by
    refine ⟨_, _, ?_, ?_, rfl⟩
    · rfl
    · exact told_push_of_not rfl
  obtain ⟨third, hthird, hcleared, hclear⟩ :=
    clearCounters_eq (r := { r with gpu := second }) hbound encoder
  obtain ⟨dispatches, fourth, hfourth, hdispatched, hdispatches, hpasses⟩ :=
    encodePasses_eq (r := { r with gpu := third }) hbound encoder (turns pipelines)
  obtain ⟨commands, last, hlast, hfinished, hfinish⟩ : ∃ commands gpu, Served fourth gpu
      ∧ gpu.told = fourth.told
      ∧ onDevice (finish encoder) { r with gpu := fourth } = .ok commands { r with gpu } := by
    refine ⟨_, _, ?_, ?_, rfl⟩
    · rfl
    · exact told_push_of_not rfl
  refine ⟨_, last, commands, ?_, ⟨encoder, dispatches, rfl, hdispatches⟩, ?_, ?_⟩
  · exact hfirst.trans (hsecond.trans (hthird.trans (hfourth.trans hlast)))
  · rw [hfinished, hdispatched, hcleared, hbegun, hwritten]
    simp
  · unfold encodeFrame
    rw [run_bind_of_ok hstage, run_bind_of_ok hencoder, run_bind_of_ok hclear,
      forM_encodePipeline, run_bind_of_ok hpasses]
    exact hfinish

end Encoding

/-! ### What is recorded -/

/-- The sizes of the blocks of time, mouse and keyboard in every host. -/
def standardSizes : Nat × Nat × Nat :=
  (Host.timeBlock.size, Host.mouseBlock.size, Host.keyboardBlock.size)

section Recorded

variable {drawn : List Pipeline → Prop}

/-- A frame was encoded with pipelines that could be drawn, and with what suited the host then. -/
structure Shown (drawn : List Pipeline → Prop) (frame : List Call) : Prop where
  encoded : ∃ (h : Host) (bound : Bound) (pipelines : List Pipeline),
    Suits bound h ∧ h.blockSizes = standardSizes ∧ drawn pipelines ∧ Encoded h bound pipelines frame

theorem Shown.isWhole {frame : List Call} (h : Shown drawn frame) : IsWhole frame := by
  obtain ⟨_, _, _, _, _, _, hframe⟩ := h.encoded
  exact hframe.isWhole

/-- What is bound suits the host, and so it was with every frame that was told. -/
structure Recorded (drawn : List Pipeline → Prop) (r : Profile) : Prop where
  sound : r.core.Sound
  sizes : r.ledger.sizes = standardSizes
  frames : ∀ frame ∈ framesOf r.ledger.told, Shown drawn frame

/-- Frames that were told stay as they are where none is encoded. -/
theorem Recorded.of_ledger {r after : Profile} (hr : Recorded drawn r) (hsound : after.core.Sound)
    (hledger : after.ledger = r.ledger) : Recorded drawn after where
  sound := hsound
  sizes := by
    rw [hledger]
    exact hr.sizes
  frames := by
    rw [hledger]
    exact hr.frames

theorem keeps_recorded {α : Type} {op : Op α} (hsound : KeepsSound op)
    (hledger : ∀ ledger, Keeps (fun r => r.ledger = ledger) op) :
    Keeps (fun r => Recorded drawn r.profile) op :=
  fun r hr => hr.of_ledger (hsound r hr.sound) (hledger r.ledger r rfl)

theorem Core.Sound.suits {r : Rig} (h : r.core.Sound) :
    ∃ bound, r.connection = .complete bound ∧ Suits bound r.host := by
  obtain ⟨bound, hbound, hsuits⟩ := h.bound
  exact ⟨bound, hbound, hsuits.binds, hsuits.custom, hsuits.sized, hsuits.standing⟩

/-- What is encoded is told as one frame more. -/
theorem encodeFrame_told {r : Rig} (hr : Recorded drawn r.profile) {pipelines : List Pipeline}
    (hdrawn : drawn pipelines) :
    ∃ bound frame gpu commands, Suits bound r.host ∧ Encoded r.host bound pipelines frame
      ∧ gpu.frames = r.gpu.frames ++ [frame]
      ∧ encodeFrame pipelines r = .ok commands { r with gpu }
      ∧ Recorded drawn ({ r with gpu } : Rig).profile := by
  obtain ⟨bound, hbound, hsuits⟩ := hr.sound.suits
  obtain ⟨frame, gpu, commands, _, hencoded, htold, hrun⟩ := encodeFrame_eq hbound pipelines
  have hframes : gpu.frames = r.gpu.frames ++ [frame] := by
    unfold State.frames
    rw [htold]
    exact framesOf_append (fun f hf => (hr.frames f hf).isWhole) hencoded.isWhole
  refine ⟨bound, frame, gpu, commands, hsuits, hencoded, hframes, hrun, hr.sound, hr.sizes, ?_⟩
  show ∀ f ∈ gpu.frames, Shown drawn f
  rw [hframes]
  intro f hf
  rcases List.mem_append.mp hf with hf | hf
  · exact hr.frames f hf
  · cases List.mem_singleton.mp hf
    exact ⟨r.host, bound, pipelines, hsuits, hr.sizes, hdrawn, hencoded⟩

end Recorded

end Rig

end ShaderPlayer
