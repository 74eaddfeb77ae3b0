/-
What a host asks a device for.

All that is bound goes back to the host: to its sizes, its blocks, its tables and its pictures.
Connecting makes it all at once, and from then on every operation makes what it changes anew.  What
is bound is the same either way but for the numbers of the objects.

* `planned` — the resources that a host asks for, without numbers;
* `Makes` — an operation makes objects and does nothing else, with one lemma for each operation
  that makes some;
* `Mirrored` — what is bound is what the host asks for, and its pictures are uploaded;
* `ends_connect` — connecting ends so;
* `ends_rebind` — and so does replacing what a host asks for in another way than before:
  `ends_reset`, `ends_resize`, `ends_setTables`, `ends_setKey`, `ends_setCustom` and `ends_place`
  for what can be asked of a host.
-/
import ShaderPlayer.Proofs.Bindings.Operated
import ShaderPlayer.Proofs.Gpu.Seen

namespace ShaderPlayer

open Gpu

/-- Textures of the screen's size without their numbers. -/
def ScreenTextures.unnumbered (t : ScreenTextures) : ScreenTextures where
  screen := t.screen.unnumbered
  passIn := t.passIn.unnumbered
  passOut := t.passOut.unnumbered

/-- Resources without their numbers. -/
def Resources.unnumbered (r : Resources) : Resources where
  storage0 := r.storage0.unnumbered
  storage1 := r.storage1.unnumbered
  time := r.time.unnumbered
  mouse := r.mouse.unnumbered
  keyboard := r.keyboard.unnumbered
  custom := r.custom.unnumbered
  toScreenTextures := r.toScreenTextures.unnumbered
  data := r.data.unnumbered
  counters := r.counters.unnumbered
  dispatch := r.dispatch.unnumbered
  channel0 := r.channel0.unnumbered
  channel1 := r.channel1.unnumbered
  nearest := r.nearest.unnumbered
  bilinear := r.bilinear.unnumbered
  nearestRepeat := r.nearestRepeat.unnumbered
  bilinearRepeat := r.bilinearRepeat.unnumbered
  layout := r.layout.unnumbered
  pipelineLayout := r.pipelineLayout.unnumbered

/-- Values under the names there are leave the size of the custom uniforms as it is. -/
theorem Host.size_custom_setCustom {h : Host} {pairs : List (Text × Double)}
    (hsame : pairs.map (·.1) = h.customNames) :
    (h.setCustom pairs).custom.size = h.custom.size := by
  unfold Host.setCustom
  dsimp only
  rw [if_pos hsame]
  exact List.foldlRecOn (motive := fun b => b.size = h.custom.size) pairs _ rfl
    fun b hb pair _ => (UniformBlock.size_putWord b pair.1 _).trans hb

namespace Rig

/-! ### Plans -/

/-- The plan of a storage buffer. -/
def plannedStorage (h : Host) (label : String) : Buffer where
  number := 0
  label := some label.toList
  size := h.storageSize
  usage := storageUsage + copyTarget

/-- The plan of the buffer of a uniform block. -/
def plannedUniform (block : UniformBlock) (label : String) : Buffer where
  number := 0
  label := some label.toList
  size := block.size
  usage := uniformUsage + copyTarget

/-- The plan of a buffer that holds data. -/
def plannedData (data : Bytes) (usage : Nat) : Buffer where
  number := 0
  label := none
  size := data.length
  usage := usage
  contents := some data

/-- The plan of the textures of the screen's size. -/
def plannedTextures (h : Host) : ScreenTextures where
  screen := ⟨0, some "screen".toList, h.width, h.height, 1, .rgba16float,
    textureStored + textureSampled + textureCopySource⟩
  passIn := ⟨0, some "pass_in".toList, h.width, h.height, passLayers, passFormat h,
    textureSampled + textureCopyTarget⟩
  passOut := ⟨0, some "pass_out".toList, h.width, h.height, passLayers, passFormat h,
    textureStored + textureCopySource⟩

/-- The plan of the texture of a channel. -/
def plannedChannel (p : Picture) : Texture where
  number := 0
  label := none
  width := p.width
  height := p.height
  layers := 1
  format := .rgba8unormSrgb
  usage := textureSampled + textureCopyTarget

/-- The plan of the layout of the bind group. -/
def plannedLayout (h : Host) : BindGroupLayout where
  number := 0
  label := some "codeskew bindings".toList
  entries := layoutEntries h

/-- The plan of all resources of a host, the bytes of its tables given. -/
def planned (h : Host) (data : Bytes) : Resources where
  storage0 := plannedStorage h "storage1"
  storage1 := plannedStorage h "storage2"
  time := plannedUniform h.time "time"
  mouse := plannedUniform h.mouse "mouse"
  keyboard := plannedUniform h.keyboard "keyboard"
  custom := plannedUniform h.custom "custom"
  toScreenTextures := plannedTextures h
  data := plannedData data storageUsage
  counters := ⟨0, some "assert counts".toList, (4 * Shader.maxAssertions : Nat),
    storageUsage + copySource + copyTarget, none⟩
  dispatch := plannedData dispatchBytes uniformUsage
  channel0 := plannedChannel (h.channel0.getD .blank)
  channel1 := plannedChannel (h.channel1.getD .blank)
  nearest := ⟨0, some .clamp, .nearest⟩
  bilinear := ⟨0, some .clamp, .linear⟩
  nearestRepeat := ⟨0, some .repeating, .nearest⟩
  bilinearRepeat := ⟨0, some .repeating, .linear⟩
  layout := plannedLayout h
  pipelineLayout := ⟨0, [plannedLayout h]⟩

theorem plannedUniform_congr {block block' : UniformBlock} (h : block.size = block'.size)
    (label : String) : plannedUniform block label = plannedUniform block' label := by
  unfold plannedUniform
  rw [h]

/-! ### Making what is planned -/

/-- An operation ends, and all it did was to make objects on the device. -/
abbrev Makes {α : Type} (op : Op α) (r : Rig) (made : α → Gpu.State → Prop) : Prop :=
  Ends op r fun a after => ∃ gpu, after = { r with gpu } ∧ Grows r.gpu gpu ∧ made a gpu

theorem makes_make {α : Type} {count : Made → Nat} {counted : Made → Nat → Made}
    {object : Nat → α} {call : α → Call} {r : Rig}
    (htextures : r.gpu.made.textures ≤ (counted r.gpu.made (count r.gpu.made + 1)).textures)
    (hcall : ∀ a, (call a).isUpload = false) :
    Makes (onDevice (make count counted object call)) r fun a _ => ∃ number, a = object number :=
  ⟨_, _, rfl, _, rfl, grows_push htextures (hcall _), _, rfl⟩

section Making

variable (r : Rig)

theorem makes_makeStorage :
    Makes makeStorage r fun storage _ =>
      storage.1.unnumbered = plannedStorage r.host "storage1"
        ∧ storage.2.unnumbered = plannedStorage r.host "storage2" := by
  refine ends_get_bind (ends_bind (makes_make (Nat.le_refl _) fun _ => rfl) ?_)
  rintro _ _ ⟨between, rfl, hbetween, _, rfl⟩
  refine ends_bind (makes_make (Nat.le_refl _) fun _ => rfl) ?_
  rintro _ _ ⟨gpu, rfl, hgpu, _, rfl⟩
  exact ends_pure ⟨gpu, rfl, hbetween.trans hgpu, rfl, rfl⟩

theorem makes_makeUniform (block : UniformBlock) (label : String) :
    Makes (makeUniform block label) r fun buffer _ =>
      buffer.unnumbered = plannedUniform block label :=
  ⟨_, _, rfl, _, rfl, grows_push (Nat.le_refl _) rfl, rfl⟩

theorem makes_makeData {data : Bytes} (hdata : Host.tableBytes r.host.tables = .ok data) :
    Makes makeData r fun buffer _ => buffer.unnumbered = plannedData data storageUsage := by
  refine ends_get_bind ?_
  rw [hdata]
  exact ⟨_, _, rfl, _, rfl, grows_push (Nat.le_refl _) rfl, rfl⟩

theorem makes_makeTextures :
    Makes makeTextures r fun textures _ => textures.unnumbered = plannedTextures r.host := by
  refine ends_get_bind (ends_bind (makes_make (Nat.le_succ _) fun _ => rfl) ?_)
  rintro _ _ ⟨first, rfl, hfirst, _, rfl⟩
  refine ends_bind (makes_make (Nat.le_succ _) fun _ => rfl) ?_
  rintro _ _ ⟨second, rfl, hsecond, _, rfl⟩
  refine ends_bind (makes_make (Nat.le_succ _) fun _ => rfl) ?_
  rintro _ _ ⟨gpu, rfl, hgpu, _, rfl⟩
  exact ends_pure ⟨gpu, rfl, (hfirst.trans hsecond).trans hgpu, rfl⟩

theorem makes_makeChannel (picture : Option Picture) :
    Makes (makeChannel picture) r fun texture gpu =>
      texture.unnumbered = plannedChannel (picture.getD .blank)
        ∧ Holds gpu texture (picture.getD .blank) :=
  ⟨_, _, rfl, _, rfl, grows_upload rfl rfl _, rfl, holds_upload (s := r.gpu) rfl _⟩

/-- A bind group has resources at their bindings, textures through views of all their layers. -/
structure Viewed (group : BindGroup) (r : Resources) : Prop where
  entries : ∃ screen passIn passOut channel0 channel1 : Nat,
    group.entries = entriesOf r ⟨screen, r.screen, none, none⟩
      ⟨passIn, r.passIn, some .layered, none⟩ ⟨passOut, r.passOut, some .layered, none⟩
      ⟨channel0, r.channel0, none, none⟩ ⟨channel1, r.channel1, none, none⟩

/-- Binding resources makes views and a bind group, and takes the place of what was bound. -/
theorem ends_bindResources (resources : Resources) :
    Ends (Rig.bind resources) r fun _ after => ∃ gpu group,
      after = { r with gpu, connection := .complete ⟨resources, group⟩ } ∧ Grows r.gpu gpu
        ∧ Viewed group resources := by
  refine ends_bind (makes_make (Nat.le_refl _) fun _ => rfl) ?_
  rintro _ _ ⟨first, rfl, hfirst, screen, rfl⟩
  refine ends_bind (makes_make (Nat.le_refl _) fun _ => rfl) ?_
  rintro _ _ ⟨second, rfl, hsecond, passIn, rfl⟩
  refine ends_bind (makes_make (Nat.le_refl _) fun _ => rfl) ?_
  rintro _ _ ⟨third, rfl, hthird, passOut, rfl⟩
  refine ends_bind (makes_make (Nat.le_refl _) fun _ => rfl) ?_
  rintro _ _ ⟨fourth, rfl, hfourth, channel0, rfl⟩
  refine ends_bind (makes_make (Nat.le_refl _) fun _ => rfl) ?_
  rintro _ _ ⟨fifth, rfl, hfifth, channel1, rfl⟩
  refine ends_bind (makes_make (Nat.le_refl _) fun _ => rfl) ?_
  rintro _ _ ⟨gpu, rfl, hgpu, number, rfl⟩
  have hgrows : Grows r.gpu gpu :=
    ((((hfirst.trans hsecond).trans hthird).trans hfourth).trans hfifth).trans hgpu
  exact ⟨_, _, rfl, _, _, rfl, hgrows, ⟨screen, passIn, passOut, channel0, channel1, rfl⟩⟩

end Making

/-! ### What is bound as planned -/

/-- What is bound is what a host asks for, and the channels have the host's pictures. -/
structure Mirrors (bound : Bound) (h : Host) (s : Gpu.State) : Prop where
  asked : ∃ data,
    Host.tableBytes h.tables = .ok data ∧ bound.resources.unnumbered = planned h data
  viewed : Viewed bound.group bound.resources
  channel0 : Holds s bound.resources.channel0 (h.channel0.getD .blank)
  channel1 : Holds s bound.resources.channel1 (h.channel1.getD .blank)
  plain : Plain s

/-- A rig is connected, and what is bound is what its host asks for. -/
def Mirrored (r : Rig) : Prop :=
  ∃ bound, r.connection = .complete bound ∧ Mirrors bound r.host r.gpu

theorem Mirrored.tableBytes {r : Rig} (hr : Mirrored r) :
    ∃ data, Host.tableBytes r.host.tables = .ok data := by
  obtain ⟨bound, _, hmirrors⟩ := hr
  obtain ⟨data, hdata, _⟩ := hmirrors.asked
  exact ⟨data, hdata⟩

/-- Connecting binds what the host asks for. -/
theorem ends_connect {r : Rig} {data : Bytes} (hdata : Host.tableBytes r.host.tables = .ok data)
    (hplain : Plain r.gpu) :
    Ends connect r fun _ after => after.host = r.host ∧ Mirrored after := by
  refine ends_bind (makes_makeStorage r) ?_
  rintro ⟨storage0, storage1⟩ _ ⟨s0, rfl, g0, hstorage⟩
  refine ends_get_bind (ends_bind (makes_makeUniform _ _ _) ?_)
  rintro time _ ⟨s1, rfl, g1, htime⟩
  refine ends_get_bind (ends_bind (makes_makeUniform _ _ _) ?_)
  rintro mouse _ ⟨s2, rfl, g2, hmouse⟩
  refine ends_get_bind (ends_bind (makes_makeUniform _ _ _) ?_)
  rintro keyboard _ ⟨s3, rfl, g3, hkeyboard⟩
  refine ends_get_bind (ends_bind (makes_makeUniform _ _ _) ?_)
  rintro custom _ ⟨s4, rfl, g4, hcustom⟩
  -- from here on there is a connection, though nothing is bound yet
  refine ends_modify_bind (ends_bind (makes_makeData _ hdata) ?_)
  rintro tables _ ⟨s5, rfl, g5, htables⟩
  refine ends_bind (makes_make (Nat.le_refl _) fun _ => rfl) ?_
  rintro _ _ ⟨s6, rfl, g6, counters, rfl⟩
  refine ends_bind (makes_make (Nat.le_refl _) fun _ => rfl) ?_
  rintro _ _ ⟨s7, rfl, g7, dispatch, rfl⟩
  refine ends_bind (makes_makeTextures _) ?_
  rintro textures _ ⟨s8, rfl, g8, htextures⟩
  refine ends_get_bind (ends_bind (makes_makeChannel _ _) ?_)
  rintro channel0 _ ⟨s9, rfl, g9, hchannel0, hholds0⟩
  refine ends_get_bind (ends_bind (makes_makeChannel _ _) ?_)
  rintro channel1 _ ⟨s10, rfl, g10, hchannel1, hholds1⟩
  refine ends_bind (makes_make (Nat.le_refl _) fun _ => rfl) ?_
  rintro _ _ ⟨s11, rfl, g11, nearest, rfl⟩
  refine ends_bind (makes_make (Nat.le_refl _) fun _ => rfl) ?_
  rintro _ _ ⟨s12, rfl, g12, bilinear, rfl⟩
  refine ends_bind (makes_make (Nat.le_refl _) fun _ => rfl) ?_
  rintro _ _ ⟨s13, rfl, g13, nearestRepeat, rfl⟩
  refine ends_bind (makes_make (Nat.le_refl _) fun _ => rfl) ?_
  rintro _ _ ⟨s14, rfl, g14, bilinearRepeat, rfl⟩
  refine ends_get_bind (ends_bind (makes_make (Nat.le_refl _) fun _ => rfl) ?_)
  rintro _ _ ⟨s15, rfl, g15, layout, rfl⟩
  refine ends_bind (makes_make (Nat.le_refl _) fun _ => rfl) ?_
  rintro _ _ ⟨s16, rfl, g16, pipelineLayout, rfl⟩
  refine (ends_bindResources _ _).imp ?_
  rintro _ _ ⟨gpu, group, rfl, hgpu, hviewed⟩
  -- what was uploaded to the channels stays while the rest is made
  have hgrows1 : Grows s10 gpu :=
    (((((g11.trans g12).trans g13).trans g14).trans g15).trans g16).trans hgpu
  have hgrows0 : Grows s9 gpu := g10.trans hgrows1
  have hgrows : Grows r.gpu gpu :=
    (((((((((g0.trans g1).trans g2).trans g3).trans g4).trans g5).trans g6).trans g7).trans
      g8).trans g9).trans hgrows0
  refine ⟨rfl, _, rfl, ⟨data, hdata, ?_⟩, hviewed, hholds0.grows hgrows0,
    hholds1.grows hgrows1, hplain.grows hgrows⟩
  unfold Resources.unnumbered
  dsimp only at hstorage ⊢
  rw [hstorage.1, hstorage.2, htime, hmouse, hkeyboard, hcustom, htables, htextures, hchannel0,
    hchannel1]
  rfl

/-- Resources made anew as the host asks for them take the place of those before. -/
theorem ends_rebind {r : Rig} {bound : Bound} (hbound : r.connection = .complete bound) {h : Host}
    (hmirrors : Mirrors bound h r.gpu)
    (hchannels : r.host.channel0 = h.channel0 ∧ r.host.channel1 = h.channel1) {data : Bytes}
    (hdata : Host.tableBytes r.host.tables = .ok data) {renew : Op Renewal}
    (hrenew : Makes renew r fun new _ =>
      (bound.resources.renew new).unnumbered = planned r.host data) :
    Ends (rebind renew) r fun _ after => after.host = r.host ∧ Mirrored after := by
  unfold Ends
  rw [rebind_complete hbound]
  refine ends_bind hrenew ?_
  rintro new _ ⟨between, rfl, hbetween, hnew⟩
  refine (ends_bindResources _ _).imp ?_
  rintro _ _ ⟨gpu, group, rfl, hgpu, hviewed⟩
  have hgrows : Grows r.gpu gpu := hbetween.trans hgpu
  refine ⟨rfl, _, rfl, ⟨data, hdata, hnew⟩, hviewed, ?_, ?_, hmirrors.plain.grows hgrows⟩
  · show Holds gpu bound.resources.channel0 (r.host.channel0.getD .blank)
    rw [hchannels.1]
    exact hmirrors.channel0.grows hgrows
  · show Holds gpu bound.resources.channel1 (r.host.channel1.getD .blank)
    rw [hchannels.2]
    exact hmirrors.channel1.grows hgrows

/-- A change of the host that does not show in what it asks for. -/
theorem Mirrors.of_same {bound : Bound} {h h' : Host} {s : Gpu.State}
    (hmirrors : Mirrors bound h s) (htables : h'.tables = h.tables)
    (hplanned : ∀ data, planned h' data = planned h data)
    (hchannels : h'.channel0 = h.channel0 ∧ h'.channel1 = h.channel1) : Mirrors bound h' s := by
  obtain ⟨data, hdata, hbound⟩ := hmirrors.asked
  refine ⟨⟨data, ?_, ?_⟩, hmirrors.viewed, ?_, ?_, hmirrors.plain⟩
  · rw [htables, hdata]
  · rw [hplanned, hbound]
  · rw [hchannels.1]
    exact hmirrors.channel0
  · rw [hchannels.2]
    exact hmirrors.channel1

section Mirrored

variable {r : Rig} (hr : Mirrored r)

include hr

theorem ends_reset : Ends reset r fun _ after => after.host = r.host ∧ Mirrored after := by
  obtain ⟨bound, hbound, hmirrors⟩ := hr
  obtain ⟨data, hdata, hplanned⟩ := hmirrors.asked
  refine ends_rebind hbound hmirrors ⟨rfl, rfl⟩ hdata (ends_bind (makes_makeStorage r) ?_)
  rintro ⟨storage0, storage1⟩ _ ⟨between, rfl, hbetween, hstorage⟩
  refine ends_bind (makes_makeTextures _) ?_
  rintro textures _ ⟨gpu, rfl, hgpu, htextures⟩
  refine ends_pure ⟨gpu, rfl, hbetween.trans hgpu, ?_⟩
  show { bound.resources.unnumbered with
    storage0 := storage0.unnumbered
    storage1 := storage1.unnumbered
    toScreenTextures := textures.unnumbered } = planned r.host data
  dsimp only at hstorage
  rw [hplanned, hstorage.1, hstorage.2, htextures]
  rfl

theorem ends_resize (width height : Int) :
    Ends (resize width height) r fun _ after =>
      after.host = { r.host with width, height } ∧ Mirrored after := by
  obtain ⟨bound, hbound, hmirrors⟩ := hr
  obtain ⟨data, hdata, hplanned⟩ := hmirrors.asked
  let resized : Rig := { r with host := { r.host with width, height } }
  refine ends_modify_bind ?_
  refine ends_rebind (r := resized) hbound hmirrors ⟨rfl, rfl⟩ hdata
    (ends_bind (makes_makeTextures resized) ?_)
  rintro textures _ ⟨gpu, rfl, hgpu, htextures⟩
  refine ends_pure ⟨gpu, rfl, hgpu, ?_⟩
  show { bound.resources.unnumbered with toScreenTextures := textures.unnumbered }
    = planned { r.host with width, height } data
  rw [hplanned, htextures]
  rfl

theorem ends_setTables {tables : Shader.Tables} {data : Bytes}
    (hdata : Host.tableBytes (r.host.setTables tables).tables = .ok data) :
    Ends (setTables tables) r fun _ after =>
      after.host = r.host.setTables tables ∧ Mirrored after := by
  obtain ⟨bound, hbound, hmirrors⟩ := hr
  obtain ⟨old, hold, hplanned⟩ := hmirrors.asked
  let given : Rig := { r with host := r.host.setTables tables }
  refine ends_modify_bind ?_
  refine ends_rebind (r := given) hbound hmirrors ⟨rfl, rfl⟩ hdata
    (ends_bind (makes_makeData given hdata) ?_)
  rintro buffer _ ⟨gpu, rfl, hgpu, hbuffer⟩
  refine ends_pure ⟨gpu, rfl, hgpu, ?_⟩
  show { bound.resources.unnumbered with data := buffer.unnumbered }
    = planned (r.host.setTables tables) data
  rw [hplanned, hbuffer]
  rfl

theorem ends_setKey {code : Value} {key : Nat} (hkey : Host.keycode code = .ok key) (down : Bool) :
    Ends (setKey code down) r fun _ after =>
      after.host = r.host.setKey key down ∧ Mirrored after := by
  obtain ⟨bound, hbound, hmirrors⟩ := hr
  have hsize : (r.host.setKey key down).keyboard.size = r.host.keyboard.size :=
    UniformBlock.size_store _ _ _
  have hplanned (data : Bytes) : planned (r.host.setKey key down) data = planned r.host data := by
    show { planned r.host data with
      keyboard := plannedUniform (r.host.setKey key down).keyboard "keyboard" } = _
    rw [plannedUniform_congr hsize]
    rfl
  refine ⟨(), _, run_ofExcept_bind_of_ok hkey _ r, rfl, bound, hbound, ?_⟩
  exact hmirrors.of_same rfl hplanned ⟨rfl, rfl⟩

theorem ends_setCustom (pairs : List (Text × Double)) :
    Ends (setCustom pairs) r fun _ after =>
      after.host = r.host.setCustom pairs ∧ Mirrored after := by
  obtain ⟨bound, hbound, hmirrors⟩ := hr
  obtain ⟨data, hdata, hbefore⟩ := hmirrors.asked
  refine ends_get_bind (ends_modify_bind ?_)
  by_cases hsame : pairs.map (·.1) = r.host.customNames
  · -- the block keeps its size, and the buffer its block
    rw [if_neg (by rwa [bne_iff_ne, not_not])]
    have hplanned (data : Bytes) : planned (r.host.setCustom pairs) data = planned r.host data := by
      show { planned r.host data with
        custom := plannedUniform (r.host.setCustom pairs).custom "custom" } = _
      rw [plannedUniform_congr (Host.size_custom_setCustom hsame)]
      rfl
    exact ends_pure ⟨rfl, bound, hbound, hmirrors.of_same rfl hplanned ⟨rfl, rfl⟩⟩
  · rw [if_pos (bne_iff_ne.mpr hsame)]
    let given : Rig := { r with host := r.host.setCustom pairs }
    refine ends_rebind (r := given) hbound hmirrors ⟨rfl, rfl⟩ hdata
      (ends_get_bind (ends_bind (makes_makeUniform given _ _) ?_))
    rintro buffer _ ⟨gpu, rfl, hgpu, hbuffer⟩
    refine ends_pure ⟨gpu, rfl, hgpu, ?_⟩
    show { bound.resources.unnumbered with custom := buffer.unnumbered }
      = planned (r.host.setCustom pairs) data
    rw [hbefore, hbuffer]
    rfl

theorem ends_place (second : Bool) (picture : Picture) :
    Ends (place second picture) r fun _ after =>
      after.host = r.host.setChannel second picture ∧ Mirrored after := by
  obtain ⟨bound, hbound, hmirrors⟩ := hr
  obtain ⟨data, hdata, hbefore⟩ := hmirrors.asked
  obtain ⟨host, gpu, connection⟩ := r
  cases hbound
  refine ends_modify_bind (ends_get_bind (ends_bind (makes_makeChannel _ _) ?_))
  rintro texture _ ⟨between, rfl, hbetween, htexture, hholds⟩
  refine (ends_bindResources _ _).imp ?_
  rintro _ _ ⟨after, group, rfl, hafter, hviewed⟩
  have hgrows : Grows gpu after := hbetween.trans hafter
  have hplain := hmirrors.plain.grows hgrows
  cases second with
  | false =>
    refine ⟨rfl, _, rfl, ⟨data, hdata, ?_⟩, hviewed, hholds.grows hafter,
      hmirrors.channel1.grows hgrows, hplain⟩
    show { bound.resources.unnumbered with channel0 := texture.unnumbered }
      = planned (host.setChannel false picture) data
    rw [hbefore, htexture]
    rfl
  | true =>
    refine ⟨rfl, _, rfl, ⟨data, hdata, ?_⟩, hviewed, hmirrors.channel0.grows hgrows,
      hholds.grows hafter, hplain⟩
    show { bound.resources.unnumbered with channel1 := texture.unnumbered }
      = planned (host.setChannel true picture) data
    rw [hbefore, htexture]
    rfl

end Mirrored

end Rig

end ShaderPlayer
