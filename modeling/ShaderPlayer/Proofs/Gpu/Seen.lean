/-
What a shader finds at a binding.

A device numbers objects in the order in which they are made, and no shader reads these numbers.
What it finds is a resource with all else about it, the picture that was uploaded last to the
texture of a view, and the uniforms that were written last to a buffer.

* `unnumbered` — an object without its number;
* `State.seen` — what there is of a resource;
* `uniforms?_writeUniform` — writing uniforms is seen in their buffer, and in no other;
* `Grows` — a device made more objects: textures that were there hold what they held, and so do
  those with a label and all buffers (`grows_push`, `grows_upload`);
* `Holds` — a texture holds a picture, which it keeps while the device makes more.
-/
import ShaderPlayer.Gpu.Device

namespace ShaderPlayer.Gpu

/-! ### Objects without their numbers -/

/-- A buffer without its number. -/
def Buffer.unnumbered (b : Buffer) : Buffer := { b with number := 0 }

@[simp] theorem Buffer.size_unnumbered (b : Buffer) : b.unnumbered.size = b.size := rfl

/-- A texture without its number. -/
def Texture.unnumbered (t : Texture) : Texture := { t with number := 0 }

/-- A view without its number and that of its texture. -/
def View.unnumbered (v : View) : View := { v with number := 0, texture := v.texture.unnumbered }

@[simp] theorem View.unnumbered_mk (number : Nat) (texture : Texture)
    (dimension : Option ViewDimension) (usage : Option Nat) :
    (View.mk number texture dimension usage).unnumbered
      = ⟨0, texture.unnumbered, dimension, usage⟩ := rfl

/-- A sampler without its number. -/
def Sampler.unnumbered (s : Sampler) : Sampler := { s with number := 0 }

/-- A layout of a bind group without its number. -/
def BindGroupLayout.unnumbered (l : BindGroupLayout) : BindGroupLayout := { l with number := 0 }

/-- A layout of a pipeline without its number and those of its bind groups. -/
def PipelineLayout.unnumbered (l : PipelineLayout) : PipelineLayout where
  number := 0
  groups := l.groups.map (·.unnumbered)

/-! ### Uploads -/

/-- The picture that a call uploads to a texture. -/
def Call.picture? (texture : Texture) : Call → Option Picture
  | .writeTexture target picture => if target = texture then some picture else none
  | _ => none

/-- The uniforms that a call writes to a buffer. -/
def Call.uniforms? (buffer : Buffer) : Call → Option Bytes
  | .writeUniform target data => if target = buffer then some data else none
  | _ => none

/-- Whether a call uploads a picture or uniforms. -/
def Call.isUpload : Call → Bool
  | .writeTexture _ _ | .writeUniform _ _ => true
  | _ => false

theorem Call.picture?_of_not_isUpload {call : Call} (h : call.isUpload = false) (t : Texture) :
    call.picture? t = none := by
  cases call <;> first | rfl | cases h

theorem Call.uniforms?_of_not_isUpload {call : Call} (h : call.isUpload = false) (b : Buffer) :
    call.uniforms? b = none := by
  cases call <;> first | rfl | cases h

namespace State

/-- What the last call says of those that say anything. -/
def last? {α : Type} (says? : Call → Option α) (s : State) : Option α :=
  s.calls.toList.reverse.findSome? says?

theorem last?_push {α : Type} (says? : Call → Option α) (device : Device) (made : Made)
    (calls : Array Call) (call : Call) :
    last? says? ⟨device, made, calls.push call⟩
      = (says? call).or (last? says? ⟨device, made, calls⟩) := by
  simp only [last?, Array.toList_push, List.reverse_append, List.reverse_singleton,
    List.singleton_append, List.findSome?_cons]
  cases says? call <;> rfl

/-- The picture that was uploaded last to a texture. -/
def picture? (s : State) (texture : Texture) : Option Picture :=
  s.last? (Call.picture? texture)

/-- The uniforms that were written last to a buffer. -/
def uniforms? (s : State) (buffer : Buffer) : Option Bytes :=
  s.last? (Call.uniforms? buffer)

end State

theorem uniforms?_writeUniform (s : State) (target b : Buffer) (data : Bytes) :
    State.uniforms? { s with calls := s.calls.push (.writeUniform target data) } b
      = if target = b then some data else s.uniforms? b := by
  unfold State.uniforms?
  rw [State.last?_push]
  show (if target = b then some data else none).or _ = _
  split <;> rfl

theorem picture?_writeUniform (s : State) (target : Buffer) (data : Bytes) (t : Texture) :
    State.picture? { s with calls := s.calls.push (.writeUniform target data) } t
      = s.picture? t := by
  unfold State.picture?
  rw [State.last?_push]
  rfl

/-- What there is of a resource: the resource without numbers, and what was uploaded to it. -/
structure Seen where
  resource : Resource
  picture : Option Picture := none
  uniforms : Option Bytes := none
  deriving DecidableEq, Repr

/-- What there is of a resource on a device. -/
def State.seen (s : State) : Resource → Seen
  | .buffer b size => { resource := .buffer b.unnumbered size, uniforms := s.uniforms? b }
  | .view v => { resource := .view v.unnumbered, picture := s.picture? v.texture }
  | .sampler sampler => { resource := .sampler sampler.unnumbered }

/-! ### More objects -/

/-- A device made more objects.  Pictures went to textures that were not there before, which have
no label, and no uniforms were written. -/
structure Grows (s after : State) : Prop where
  textures : s.made.textures ≤ after.made.textures
  pictures : ∀ t, t.number ≤ s.made.textures ∨ t.label ≠ none → after.picture? t = s.picture? t
  uniforms : ∀ b, after.uniforms? b = s.uniforms? b

theorem Grows.trans {s between after : State} (h : Grows s between) (h' : Grows between after) :
    Grows s after where
  textures := Nat.le_trans h.textures h'.textures
  pictures t ht := (h'.pictures t (ht.imp_left fun ht => Nat.le_trans ht h.textures)).trans
    (h.pictures t ht)
  uniforms b := (h'.uniforms b).trans (h.uniforms b)

/-- Pictures were uploaded to textures without a label alone, and no uniforms were written. -/
structure Plain (s : State) : Prop where
  pictures : ∀ t, t.label ≠ none → s.picture? t = none
  uniforms : ∀ b, s.uniforms? b = none

theorem Plain.grows {s after : State} (h : Plain s) (hgrows : Grows s after) : Plain after where
  pictures t ht := (hgrows.pictures t (.inr ht)).trans (h.pictures t ht)
  uniforms b := (hgrows.uniforms b).trans (h.uniforms b)

theorem plain_start (device : Device) : Plain { device } where
  pictures _ _ := rfl
  uniforms _ := rfl

/-- A call that uploads nothing, kept with or without an object that it makes. -/
theorem grows_push {s : State} {made : Made} {call : Call}
    (hmade : s.made.textures ≤ made.textures) (hcall : call.isUpload = false) :
    Grows s { s with made, calls := s.calls.push call } where
  textures := hmade
  pictures t _ := by
    unfold State.picture?
    rw [State.last?_push, Call.picture?_of_not_isUpload hcall, Option.none_or]
    rfl
  uniforms b := by
    unfold State.uniforms?
    rw [State.last?_push, Call.uniforms?_of_not_isUpload hcall, Option.none_or]
    rfl

/-- A texture holds a picture, and no texture that is made later is taken for it. -/
structure Holds (s : State) (t : Texture) (p : Picture) : Prop where
  there : t.number ≤ s.made.textures
  picture : s.picture? t = some p

theorem Holds.grows {s after : State} {t : Texture} {p : Picture} (h : Holds s t p)
    (hgrows : Grows s after) : Holds after t p where
  there := Nat.le_trans h.there hgrows.textures
  picture := (hgrows.pictures t (.inl h.there)).trans h.picture

/-- A new texture without a label, to which a picture is uploaded. -/
theorem grows_upload {s : State} {t : Texture} (hnew : t.number = s.made.textures + 1)
    (hlabel : t.label = none) (p : Picture) :
    Grows s
      { s with
        made.textures := s.made.textures + 1
        calls := (s.calls.push (.createTexture t)).push (.writeTexture t p) } where
  textures := Nat.le_succ _
  pictures other hother := by
    have hne : t ≠ other := by
      rintro rfl
      rcases hother with hthere | hlabelled
      · omega
      · exact hlabelled hlabel
    unfold State.picture?
    simp only [State.last?_push, Call.picture?, if_neg hne, Option.none_or]
    rfl
  uniforms b := by
    unfold State.uniforms?
    simp only [State.last?_push, Call.uniforms?, Option.none_or]
    rfl

theorem holds_upload {s : State} {t : Texture} (hnew : t.number = s.made.textures + 1)
    (p : Picture) :
    Holds
      { s with
        made.textures := s.made.textures + 1
        calls := (s.calls.push (.createTexture t)).push (.writeTexture t p) } t p where
  there := Nat.le_of_eq hnew
  picture := by
    unfold State.picture?
    simp only [State.last?_push, Call.picture?, if_true, Option.some_or]

end ShaderPlayer.Gpu
