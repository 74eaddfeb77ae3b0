/-
Replacing resources that are bound.

An operation on a complete connection that replaces a resource ends with a bind group made
from the resources after it; what it leaves is given as an equation for each of them:

* `Binds` — a bind group was made from resources;
* `rebind_eq` — resources that are made anew take the place of those before, and the bind
  group is made from what there is then;
* `reset_complete`, `resize_complete`, `setCustom_complete`, `setTables_complete`,
  `loadChannel_complete` — what each operation replaces.
-/
import ShaderPlayer.Bindings.Rig
import ShaderPlayer.Proofs.Effect
import ShaderPlayer.Proofs.Shader.Tables

namespace ShaderPlayer

open Gpu

/-- What a bind group has at a binding. -/
def Gpu.BindGroup.at? (group : BindGroup) (binding : Nat) : Option Resource :=
  (group.entries.find? (·.binding = binding)).map (·.resource)

/-- The resources with another texture in a channel. -/
def Resources.withChannel (r : Resources) (second : Bool) (texture : Texture) : Resources :=
  if second then { r with channel1 := texture } else { r with channel0 := texture }

namespace Rig

/-- A device served calls, and is as it was. -/
def Served (gpu after : Gpu.State) : Prop := after.device = gpu.device

theorem Served.trans {first second third : Gpu.State} (h : Served first second)
    (h' : Served second third) : Served first third := Eq.trans h' h

/-! ### Bind groups -/

/-- A bind group was made from resources, its views from their textures. -/
structure Binds (group : BindGroup) (r : Resources) : Prop where
  entries : ∃ screen passIn passOut channel0 channel1 : View,
    group.entries = entriesOf r screen passIn passOut channel0 channel1
      ∧ screen.texture = r.screen ∧ passIn.texture = r.passIn ∧ passOut.texture = r.passOut
      ∧ channel0.texture = r.channel0 ∧ channel1.texture = r.channel1

namespace Binds

variable {group : BindGroup} {r : Resources} (h : Binds group r)

include h

theorem at_custom : group.at? 5 = some (.buffer r.custom r.custom.size) := by
  obtain ⟨screen, passIn, passOut, channel0, channel1, hentries, _⟩ := h.entries
  unfold BindGroup.at?
  rw [hentries]
  rfl

theorem at_data : group.at? 6 = some (.buffer r.data r.data.size) := by
  obtain ⟨screen, passIn, passOut, channel0, channel1, hentries, _⟩ := h.entries
  unfold BindGroup.at?
  rw [hentries]
  rfl

theorem at_counters : group.at? 7 = some (.buffer r.counters r.counters.size) := by
  obtain ⟨screen, passIn, passOut, channel0, channel1, hentries, _⟩ := h.entries
  unfold BindGroup.at?
  rw [hentries]
  rfl

/-- The textures of the screen's size are bound through views of them. -/
theorem at_textures :
    ∃ screen passIn passOut : View, group.at? 9 = some (.view screen)
      ∧ group.at? 10 = some (.view passIn) ∧ group.at? 11 = some (.view passOut)
      ∧ screen.texture = r.screen ∧ passIn.texture = r.passIn ∧ passOut.texture = r.passOut := by
  obtain ⟨screen, passIn, passOut, channel0, channel1, hentries, hscreen, hpassIn, hpassOut, _⟩ :=
    h.entries
  refine ⟨screen, passIn, passOut, ?_, ?_, ?_, hscreen, hpassIn, hpassOut⟩
  all_goals
    unfold BindGroup.at?
    rw [hentries]
    rfl

end Binds

theorem bind_eq (resources : Resources) (r : Rig) :
    ∃ gpu group, Served r.gpu gpu ∧ Binds group resources
      ∧ Rig.bind resources r
          = .ok () { r with gpu, connection := .complete ⟨resources, group⟩ } := by
  refine ⟨_, _, ?_, ⟨?_⟩, rfl⟩
  · rfl
  · exact ⟨_, _, _, _, _, rfl, rfl, rfl, rfl, rfl, rfl⟩

theorem rebind_complete {r : Rig} {bound : Bound} (hbound : r.connection = .complete bound)
    (renew : Op Renewal) :
    rebind renew r = (do bind (bound.resources.renew (← renew)) : Op Unit) r := by
  obtain ⟨host, gpu, connection⟩ := r
  cases hbound
  rfl

/-- What was made anew takes the place of what there was. -/
theorem rebind_eq {r : Rig} {bound : Bound} (hbound : r.connection = .complete bound)
    {renew : Op Renewal} {new : Renewal} {between : Gpu.State} (hserved : Served r.gpu between)
    (hrenew : renew r = .ok new { r with gpu := between }) :
    ∃ gpu group, Served r.gpu gpu ∧ Binds group (bound.resources.renew new)
      ∧ rebind renew r
          = .ok () { r with gpu, connection := .complete ⟨bound.resources.renew new, group⟩ } := by
  obtain ⟨gpu, group, hagain, hbinds, hbind⟩ :=
    bind_eq (bound.resources.renew new) { r with gpu := between }
  refine ⟨gpu, group, hserved.trans hagain, hbinds, ?_⟩
  rw [rebind_complete hbound, run_bind_of_ok hrenew]
  exact hbind

theorem rebind_of_error {r r' : Rig} {bound : Bound} (hbound : r.connection = .complete bound)
    {renew : Op Renewal} {fault : Fault} (hrenew : renew r = .error fault r') :
    rebind renew r = .error fault r' := by
  rw [rebind_complete hbound, run_bind_of_error hrenew]

/-! ### Resources made anew -/

/-- Textures of a size, with all layers of the pass textures. -/
structure Sized (t : ScreenTextures) (size : Int × Int) : Prop where
  screen : (t.screen.width, t.screen.height) = size
  passIn : (t.passIn.width, t.passIn.height) = size
  passOut : (t.passOut.width, t.passOut.height) = size
  layers : t.passIn.layers = passLayers ∧ t.passOut.layers = passLayers

theorem makeTextures_eq (r : Rig) :
    ∃ textures gpu, Served r.gpu gpu ∧ Sized textures (r.host.width, r.host.height)
      ∧ makeTextures r = .ok textures { r with gpu } := by
  refine ⟨_, _, ?_, ?_, rfl⟩
  · rfl
  · exact ⟨rfl, rfl, rfl, rfl, rfl⟩

theorem makeUniform_eq (block : UniformBlock) (label : String) (r : Rig) :
    ∃ buffer gpu, Served r.gpu gpu ∧ buffer.size = (block.size : Int)
      ∧ makeUniform block label r = .ok buffer { r with gpu } := by
  refine ⟨_, _, ?_, ?_, rfl⟩
  · rfl
  · rfl

theorem makeStorage_eq (r : Rig) :
    ∃ storage gpu, Served r.gpu gpu ∧ makeStorage r = .ok storage { r with gpu } := by
  refine ⟨_, _, ?_, rfl⟩
  rfl

theorem makeChannel_eq (picture : Option Picture) (r : Rig) :
    ∃ texture gpu, Served r.gpu gpu ∧ makeChannel picture r = .ok texture { r with gpu } := by
  refine ⟨_, _, ?_, rfl⟩
  rfl

theorem makeData_eq {r : Rig} {bytes : Bytes} (hbytes : Host.tableBytes r.host.tables = .ok bytes) :
    ∃ data gpu, Served r.gpu gpu ∧ data.contents = some bytes ∧ data.size = (bytes.length : Int)
      ∧ makeData r = .ok data { r with gpu } := by
  have hdevice : makeData r = onDevice (createBufferWithData bytes storageUsage) r := by
    show EStateM.bind (MonadExcept.ofExcept (Host.tableBytes r.host.tables)) _ r = _
    rw [hbytes]
    rfl
  rw [hdevice]
  refine ⟨_, _, ?_, ?_, ?_, rfl⟩
  · rfl
  · rfl
  · rfl

theorem makeData_of_error {r : Rig} {fault : Fault}
    (hbytes : Host.tableBytes r.host.tables = .error fault) : makeData r = .error fault r := by
  show EStateM.bind (MonadExcept.ofExcept (Host.tableBytes r.host.tables)) _ r = _
  rw [hbytes]
  rfl

theorem makeData_ok {r after : Rig} {data : Buffer} (h : makeData r = .ok data after) :
    ∃ gpu, after = { r with gpu } := by
  rcases hbytes : Host.tableBytes r.host.tables with fault | bytes
  · rw [makeData_of_error hbytes] at h
    cases h
  · obtain ⟨_, gpu, _, _, _, hrun⟩ := makeData_eq hbytes
    rw [hrun] at h
    cases h
    exact ⟨gpu, rfl⟩

/-! ### Operations -/

/-- What is done with a picture for a channel. -/
def place (second : Bool) (picture : Picture) : Op Unit := do
  changeHost (·.setChannel second picture)
  match (← get).connection with
  | .absent => return
  | .broken _ =>
    discard (makeChannel (some picture))
    missing "Bindings" "_channel_textures"
  | .complete bound =>
    let texture ← makeChannel (some picture)
    bind (bound.resources.withChannel second texture)

section Complete

variable {r : Rig} {bound : Bound} (hbound : r.connection = .complete bound)

include hbound

theorem reset_complete :
    ∃ storage textures gpu group, Served r.gpu gpu
      ∧ Sized textures (r.host.width, r.host.height)
      ∧ Binds group (bound.resources.renew { storage := some storage, textures := some textures })
      ∧ reset r = .ok ()
          { r with
            gpu
            connection := .complete
              ⟨bound.resources.renew { storage := some storage, textures := some textures },
                group⟩ } := by
  obtain ⟨storage, first, hfirst, hstorage⟩ := makeStorage_eq r
  obtain ⟨textures, second, hsecond, hsized, htextures⟩ := makeTextures_eq { r with gpu := first }
  have hrenew : (do
      let storage ← makeStorage
      return { storage := some storage, textures := some (← makeTextures) } : Op Renewal) r
        = .ok { storage := some storage, textures := some textures } { r with gpu := second } := by
    rw [run_bind_of_ok hstorage, run_bind_of_ok htextures]
    rfl
  obtain ⟨gpu, group, hserved, hbinds, hrebind⟩ := rebind_eq hbound (hfirst.trans hsecond) hrenew
  exact ⟨storage, textures, gpu, group, hserved, hsized, hbinds, hrebind⟩

/-- The textures are replaced by ones of the new size. -/
theorem resize_complete (width height : Int) :
    ∃ textures gpu group, Served r.gpu gpu ∧ Sized textures (width, height)
      ∧ Binds group (bound.resources.renew { textures := some textures })
      ∧ resize width height r = .ok ()
          { r with
            host := { r.host with width, height }
            gpu
            connection := .complete
              ⟨bound.resources.renew { textures := some textures }, group⟩ } := by
  let wider : Rig := { r with host := { r.host with width, height } }
  obtain ⟨textures, between, hbetween, hsized, htextures⟩ := makeTextures_eq wider
  have hrenew : (do return { textures := some (← makeTextures) } : Op Renewal) wider
      = .ok { textures := some textures } { wider with gpu := between } := by
    rw [run_bind_of_ok htextures]
    rfl
  obtain ⟨gpu, group, hserved, hbinds, hrebind⟩ := rebind_eq (r := wider) hbound hbetween hrenew
  exact ⟨textures, gpu, group, hserved, hsized, hbinds, hrebind⟩

/-- The buffer of the custom uniforms is replaced if their names change. -/
theorem setCustom_complete (pairs : List (Text × Double)) :
    ∃ custom gpu group, Served r.gpu gpu
      ∧ (pairs.map (·.1) = r.host.customNames →
          custom = bound.resources.custom ∧ group = bound.group)
      ∧ (pairs.map (·.1) ≠ r.host.customNames →
          custom.size = ((r.host.setCustom pairs).custom.size : Int)
            ∧ Binds group { bound.resources with custom })
      ∧ setCustom pairs r = .ok ()
          { host := r.host.setCustom pairs, gpu
            connection := .complete ⟨{ bound.resources with custom }, group⟩ } := by
  let given : Rig := { r with host := r.host.setCustom pairs }
  have hset : setCustom pairs r
      = (if pairs.map (·.1) != r.host.customNames then
          rebind do return { custom := some (← makeUniform (← get).host.custom "custom") }
        else pure () : Op Unit) given := rfl
  by_cases hsame : pairs.map (·.1) = r.host.customNames
  -- the same names leave the layout, and with it what is bound
  · refine ⟨bound.resources.custom, r.gpu, bound.group, rfl, fun _ => ⟨rfl, rfl⟩,
      fun hne => absurd hsame hne, ?_⟩
    have hne : ¬ (pairs.map (·.1) != r.host.customNames) := by
      rw [bne_iff_ne, not_not]
      exact hsame
    rw [hset, if_neg hne]
    show EStateM.Result.ok () given = _
    rw [← hbound]
  · obtain ⟨custom, between, hbetween, hsize, hcustom⟩ := makeUniform_eq given.host.custom "custom" given
    have hrenew : (do return { custom := some (← makeUniform (← get).host.custom "custom") }
        : Op Renewal) given = .ok { custom := some custom } { given with gpu := between } := by
      show (makeUniform given.host.custom "custom" >>= fun buffer =>
        (pure { custom := some buffer } : Op Renewal)) given = _
      rw [run_bind_of_ok hcustom]
      rfl
    obtain ⟨gpu, group, hserved, hbinds, hrebind⟩ :=
      rebind_eq (r := given) hbound hbetween hrenew
    refine ⟨custom, gpu, group, hserved, fun heq => absurd heq hsame, fun _ => ⟨hsize, hbinds⟩, ?_⟩
    rw [hset, if_pos (bne_iff_ne.mpr hsame)]
    exact hrebind

theorem place_complete (second : Bool) (picture : Picture) :
    ∃ texture gpu group, Binds group (bound.resources.withChannel second texture)
      ∧ place second picture r = .ok ()
          { host := r.host.setChannel second picture, gpu
            connection := .complete ⟨bound.resources.withChannel second texture, group⟩ } := by
  let changed : Rig := { r with host := r.host.setChannel second picture }
  obtain ⟨texture, between, _, htexture⟩ := makeChannel_eq (some picture) changed
  obtain ⟨gpu, group, _, hbinds, hbind⟩ :=
    bind_eq (bound.resources.withChannel second texture) { changed with gpu := between }
  refine ⟨texture, gpu, group, hbinds, ?_⟩
  obtain ⟨host, state, connection⟩ := r
  cases hbound
  have hrun := run_bind_of_ok (f := fun texture =>
    bind (bound.resources.withChannel second texture)) htexture
  exact hrun.trans hbind

/-- Nothing changes if there is no such channel or no picture. -/
theorem loadChannel_complete (index : Value) (data : Except Fault NumericArray) :
    (∃ fault, loadChannel index data r = .error fault r)
      ∨ ∃ second picture texture gpu group,
          Binds group (bound.resources.withChannel second texture)
          ∧ loadChannel index data r = .ok ()
              { host := r.host.setChannel second picture, gpu
                connection := .complete
                  ⟨bound.resources.withChannel second texture, group⟩ } := by
  -- one check after the other may break it off
  rcases hindex : Host.pairIndex (.channel index.shown) index with fault | second
  · exact .inl ⟨fault, run_ofExcept_bind_of_error hindex _ r⟩
  have hfirst := run_ofExcept_bind_of_ok hindex (fun second => do
    let picture ← MonadExcept.ofExcept (data >>= Picture.ofArray)
    MonadExcept.ofExcept (Host.checkSubscript index)
    place second picture) r
  rcases hpicture : data >>= Picture.ofArray with fault | picture
  · exact .inl ⟨fault, hfirst.trans (run_ofExcept_bind_of_error hpicture _ r)⟩
  have hsecond := hfirst.trans (run_ofExcept_bind_of_ok hpicture _ r)
  rcases hsubscript : Host.checkSubscript index with fault | _
  · exact .inl ⟨fault, hsecond.trans (run_ofExcept_bind_of_error hsubscript _ r)⟩
  have hthird := hsecond.trans (run_ofExcept_bind_of_ok hsubscript _ r)
  obtain ⟨texture, gpu, group, hbinds, hplace⟩ := place_complete hbound second picture
  exact .inr ⟨second, picture, texture, gpu, group, hbinds, hthird.trans hplace⟩

end Complete

/-! ### Tables -/

theorem tableBytes_of_fit {tables : Shader.Tables} (hfit : Shader.Fit tables) :
    ∃ bytes, Host.tableBytes tables = .ok bytes := by
  unfold Host.tableBytes
  have hwords : ∀ v ∈ tables.flatMap (·.2), ∃ word,
      (if 0 ≤ v ∧ v < 0x100000000 then Except.ok (UInt32.ofNat v.toNat)
        else Except.error (Fault.elementOverflow v "uint32".toList false)) = .ok word := by
    intro v hv
    obtain ⟨t, ht, hv⟩ := List.mem_flatMap.mp hv
    exact ⟨_, if_pos (hfit.2 t ht v hv)⟩
  obtain ⟨words, hwords⟩ := exists_mapM_of_forall hwords
  rw [hwords]
  exact ⟨_, rfl⟩

theorem setTables_eq {h : Host} {tables : Shader.Tables} (hne : tables ≠ []) :
    h.setTables tables = { h with tables } := by
  unfold Host.setTables
  rw [if_neg (by rwa [List.isEmpty_iff])]

/-- The buffer of the tables is replaced, if the bytes of the tables can be had. -/
theorem setTables_of_bytes {r : Rig} {bound : Bound} (hbound : r.connection = .complete bound)
    {tables : Shader.Tables} {bytes : Bytes}
    (hbytes : Host.tableBytes (r.host.setTables tables).tables = .ok bytes) :
    ∃ data gpu group, data.contents = some bytes ∧ data.size = (bytes.length : Int)
      ∧ Binds group { bound.resources with data }
      ∧ setTables tables r = .ok ()
          { host := r.host.setTables tables, gpu
            connection := .complete ⟨{ bound.resources with data }, group⟩ } := by
  -- the buffer is made of the host that has the tables already
  let given : Rig := { r with host := r.host.setTables tables }
  obtain ⟨data, between, hbetween, hcontents, hsize, hdata⟩ := makeData_eq (r := given) hbytes
  have hrenew : (do return { data := some (← makeData) } : Op Renewal) given
      = .ok { data := some data } { given with gpu := between } := by
    rw [run_bind_of_ok hdata]
    rfl
  obtain ⟨gpu, group, _, hbinds, hrebind⟩ := rebind_eq (r := given) hbound hbetween hrenew
  exact ⟨data, gpu, group, hcontents, hsize, hbinds, hrebind⟩

/-- Tables whose bytes cannot be had stay, and the buffer of those before with them. -/
theorem setTables_of_error {r : Rig} {bound : Bound} (hbound : r.connection = .complete bound)
    {tables : Shader.Tables} {fault : Fault}
    (hbytes : Host.tableBytes (r.host.setTables tables).tables = .error fault) :
    setTables tables r = .error fault { r with host := r.host.setTables tables } := by
  let given : Rig := { r with host := r.host.setTables tables }
  have hrenew : (do return { data := some (← makeData) } : Op Renewal) given
      = .error fault given := run_bind_of_error (makeData_of_error hbytes)
  exact rebind_of_error (r := given) hbound hrenew

/-- Tables that go into a buffer take the place of those before, and nothing else of the
bindings changes but the bind group. -/
theorem setTables_complete {r : Rig} {bound : Bound} (hbound : r.connection = .complete bound)
    {tables : Shader.Tables} (hfit : Shader.Fit tables) :
    ∃ bytes data gpu group,
      Host.tableBytes tables = .ok bytes ∧ data.contents = some bytes
        ∧ setTables tables r
          = .ok ()
              { r with
                host := { r.host with tables }, gpu
                connection := .complete ⟨{ bound.resources with data }, group⟩ } := by
  obtain ⟨bytes, hbytes⟩ := tableBytes_of_fit hfit
  have hset : r.host.setTables tables = { r.host with tables } := setTables_eq hfit.1
  have hgiven : Host.tableBytes (r.host.setTables tables).tables = .ok bytes := by
    rw [hset]
    exact hbytes
  obtain ⟨data, gpu, group, hcontents, _, _, hrun⟩ := setTables_of_bytes hbound hgiven
  rw [hset] at hrun
  exact ⟨bytes, data, gpu, group, hbytes, hcontents, hrun⟩

end Rig

end ShaderPlayer
