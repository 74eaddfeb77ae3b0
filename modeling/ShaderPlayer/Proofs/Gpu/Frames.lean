/-
Frames among the calls to a device.

A frame begins with writing uniforms and goes on with its passes, and what else a device is
asked for is no part of any.  So the calls tell where one frame ends and the next begins.

* `State.told` — the calls that belong to frames;
* `framesOf` — the frames among them, one begun wherever uniforms are written after something
  else;
* `framesOf_append` — a whole frame that is told last is the last frame;
* `Quiet` — an operation on the device tells nothing of frames: the lemmas beside it follow the
  ways in which such operations are made.
-/
import Mathlib.Data.List.SplitBy
import ShaderPlayer.Proofs.Effect
import ShaderPlayer.Window.Blitter

namespace ShaderPlayer.Gpu

/-! ### Frames -/

/-- A call writes the uniforms of a block. -/
def Call.isWrite : Call → Bool
  | .writeUniform .. => true
  | _ => false

/-- A call is part of a frame. -/
def Call.inFrame : Call → Bool
  | .writeUniform .. | .clearBuffer .. | .beginComputePass .. | .setPipeline ..
  | .setBindGroup .. | .dispatch .. | .endComputePass .. | .copyTexture .. => true
  | _ => false

/-- What a device was told of frames. -/
def State.told (s : State) : List Call := s.calls.toList.filter Call.inFrame

/-- The frames among calls: another one begins where uniforms are written after something
else. -/
def framesOf (calls : List Call) : List (List Call) :=
  calls.splitBy fun call next => call.isWrite || !next.isWrite

/-- The frames that a device was told. -/
def State.frames (s : State) : List (List Call) := framesOf s.told

/-- The calls of a whole frame: uniforms are written, and then something else is done. -/
def IsWhole (frame : List Call) : Prop :=
  ∃ (buffer : Buffer) (data : Bytes) (writes : List Call) (first : Call) (rest : List Call),
    frame = .writeUniform buffer data :: writes ++ first :: rest
      ∧ (∀ call ∈ writes, call.isWrite) ∧ ∀ call ∈ first :: rest, ¬ call.isWrite

theorem IsWhole.framesOf_eq {frame : List Call} (h : IsWhole frame) : framesOf frame = [frame] := by
  obtain ⟨buffer, data, writes, first, rest, rfl, hwrites, hrest⟩ := h
  refine List.splitBy_of_isChain (by simp) ?_
  -- no cut among the writes, none behind them, and none where nothing is written
  rw [List.isChain_append]
  refine ⟨?_, ?_, ?_⟩
  · refine List.Pairwise.isChain (List.pairwise_of_forall_mem_list fun call hcall next _ => ?_)
    rcases List.mem_cons.mp hcall with rfl | hcall
    · rfl
    · simp [hwrites call hcall]
  · refine List.Pairwise.isChain (List.pairwise_of_forall_mem_list fun call _ next hnext => ?_)
    simp [hrest next hnext]
  · intro call _ next hnext
    simp [hrest next (List.mem_of_mem_head? hnext)]

theorem IsWhole.not_isWrite_getLast? {frame : List Call} (h : IsWhole frame) :
    ∀ call ∈ frame.getLast?, ¬ call.isWrite := by
  obtain ⟨buffer, data, writes, first, rest, rfl, _, hrest⟩ := h
  intro call hcall
  rw [List.getLast?_append_cons] at hcall
  exact hrest call (List.mem_of_mem_getLast? hcall)

theorem getLast?_of_frames {calls : List Call} (h : ∀ frame ∈ framesOf calls, IsWhole frame) :
    ∀ call ∈ calls.getLast?, ¬ call.isWrite := by
  intro call hcall
  rw [← List.flatten_splitBy (fun call next => call.isWrite || !next.isWrite) calls] at hcall
  change call ∈ (framesOf calls).flatten.getLast? at hcall
  rcases List.eq_nil_or_concat (framesOf calls) with hnil | ⟨before, frame, hlast⟩
  · rw [hnil] at hcall
    cases hcall
  · rw [hlast, List.concat_eq_append] at hcall h
    have hframe : IsWhole frame := h frame (by simp)
    have hne : frame ≠ [] := by
      rintro rfl
      obtain ⟨_, _, _, _, _, hempty, _⟩ := hframe
      cases hempty
    rw [List.flatten_append, List.flatten_singleton, List.getLast?_append_of_ne_nil _ hne] at hcall
    exact hframe.not_isWrite_getLast? call hcall

/-- A whole frame that is told after whole frames is the last one. -/
theorem framesOf_append {calls frame : List Call} (h : ∀ frame ∈ framesOf calls, IsWhole frame)
    (hframe : IsWhole frame) : framesOf (calls ++ frame) = framesOf calls ++ [frame] := by
  have hcut : framesOf (calls ++ frame) = framesOf calls ++ framesOf frame := by
    refine List.splitBy_append fun call hcall next hnext => ?_
    obtain ⟨buffer, data, writes, first, rest, rfl, _⟩ := hframe
    have hwrite : next = .writeUniform buffer data := by
      rw [List.cons_append, List.head?_cons, Option.mem_some_iff] at hnext
      exact hnext.symm
    have hcall : call.isWrite = false := by simpa using getLast?_of_frames h call hcall
    rw [hwrite, hcall]
    rfl
  rw [hcut, hframe.framesOf_eq]

/-! ### What tells nothing of frames -/

section Quiet

variable {α β : Type}

/-- An operation tells nothing of frames. -/
def Quiet (op : Op α) : Prop := ∀ s, (left (op s)).told = s.told

theorem told_push (s : State) (call : Call) :
    ({ s with calls := s.calls.push call } : State).told
      = s.told ++ if call.inFrame then [call] else [] := by
  unfold State.told
  rw [Array.toList_push, List.filter_append, List.filter_singleton]
  cases call.inFrame <;> rfl

theorem told_push_of_not {s : State} {call : Call} (h : call.inFrame = false) :
    ({ s with calls := s.calls.push call } : State).told = s.told := by
  rw [told_push, h]
  exact List.append_nil _

theorem quiet_pure (a : α) : Quiet (pure a : Op α) := fun _ => rfl

theorem quiet_bind {x : Op α} {f : α → Op β} (hx : Quiet x) (hf : ∀ a, Quiet (f a)) :
    Quiet (x >>= f) := by
  intro s
  refine keeps_bind (fun s' hs' => (hx s').trans hs') (fun a s' hs' => (hf a s').trans hs') s rfl

theorem quiet_record {call : Call} (h : call.inFrame = false) : Quiet (record call) :=
  fun _ => told_push_of_not h

theorem quiet_make {count : Made → Nat} {counted : Made → Nat → Made} {object : Nat → α}
    {call : α → Call} (h : ∀ a, (call a).inFrame = false) :
    Quiet (make count counted object call) := fun _ => told_push_of_not (h _)

theorem quiet_createShaderModule (label code : Text) : Quiet (createShaderModule label code) := by
  intro s
  have hkeeps : Keeps (fun s' => s'.told = s.told) (createShaderModule label code) := by
    refine keeps_get_bind fun s' hs' => ?_
    rcases s'.device.refusesModule ⟨s'.made.shaderModules + 1, label, code⟩ with _ | refusal
    · exact (told_push_of_not rfl).trans hs'
    · exact hs'
  exact hkeeps s rfl

theorem quiet_createComputePipeline (layout : Option PipelineLayout) (module : ShaderModule)
    (entry : Text) : Quiet (createComputePipeline layout module entry) := by
  intro s
  have hkeeps : Keeps (fun s' => s'.told = s.told) (createComputePipeline layout module entry) := by
    refine keeps_get_bind fun s' hs' => ?_
    rcases s'.device.refusesPipeline ⟨s'.made.computePipelines + 1, layout, module, entry⟩
      with _ | refusal
    · exact (told_push_of_not rfl).trans hs'
    · exact hs'
  exact hkeeps s rfl

theorem quiet_readCounters (buffer : Buffer) : Quiet (readCounters buffer) :=
  quiet_bind (quiet_record rfl) fun _ _ => rfl

theorem quiet_readScreen (texture : Texture) (width height : Int) :
    Quiet (readScreen texture width height) := by
  refine quiet_bind (quiet_record rfl) fun _ s => ?_
  have hkeeps : Keeps (fun s' => s'.told = s.told) (do
      MonadExcept.ofExcept (screenNumbers (← get).device.screen (width * height))
      : Op (List UInt16)) := keeps_bind keeps_get fun _ => keeps_ofExcept _
  exact hkeeps s rfl

theorem quiet_blitter (target : TextureFormat) : Quiet (Blitter.make target) :=
  quiet_bind (quiet_make fun _ => rfl) fun _ => quiet_bind (quiet_make fun _ => rfl) fun _ =>
    quiet_bind (quiet_createShaderModule _ _) fun _ => quiet_bind (quiet_make fun _ => rfl)
      fun _ => quiet_bind (quiet_make fun _ => rfl) fun _ => quiet_pure _

/-- Drawing the screen on a window is no part of a frame. -/
theorem quiet_draw (b : Blitter) (screen target : Texture) : Quiet (b.draw screen target) :=
  quiet_bind (quiet_make fun _ => rfl) fun _ => quiet_bind (quiet_make fun _ => rfl) fun _ =>
    quiet_bind (quiet_make fun _ => rfl) fun _ => quiet_bind (quiet_make fun _ => rfl) fun _ =>
    quiet_bind (quiet_make fun _ => rfl) fun _ => quiet_bind (quiet_record rfl) fun _ =>
    quiet_bind (quiet_record rfl) fun _ => quiet_bind (quiet_record rfl) fun _ =>
    quiet_bind (quiet_record rfl) fun _ => quiet_make fun _ => rfl

end Quiet

end ShaderPlayer.Gpu
