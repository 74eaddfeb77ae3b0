/-
Sessions with a player.

In a session a player is asked for one thing after the other, but only for what is allowed
there.  What the installed shader and the host share is put together anew where a source map is
exchanged, so a property of it lasts through a session if exchanges bring it about:

* `Session` — the states that a player gets into by what is allowed;
* `Upheld` — what has to be shown of a property of layouts;
* `Session.upheld` — then it holds all the time.
-/
import ShaderPlayer.Proofs.Player.Exchange

namespace ShaderPlayer.Player

open Gpu Shader

/-! ### Sessions -/

/-- What is asked of the player itself, and of its bindings through it alone; source maps
are given as they were preprocessed. -/
def Act.Orderly : Act → Prop
  | install m => Preprocessed m
  | setTables _ | setCustomDirectly _ _ | resizeDirectly _ _ | resetDirectly => False
  | _ => True

/-- The states that a player gets into by what is allowed, whether or not it breaks off,
while its surroundings do as they like. -/
inductive Session (allowed : Player → Act → Prop) : Player → Prop
  | made {settings : Settings} {device : Device} {outside : Outside} {p : Player}
      (made : make settings device outside = .ok () p) : Session allowed p
  | acted {p : Player} (act : Act) (before : Session allowed p) (granted : allowed p act) :
      Session allowed (left (act.perform p))
  | elsewhere {p : Player} (device : Device) (outside : Outside) (clock : Double)
      (logicalSize : Value × Value) (before : Session allowed p) :
      Session allowed { p with rig.gpu.device := device, outside, clock, logicalSize }

theorem Session.reachable {allowed : Player → Act → Prop} {p : Player} (hp : Session allowed p) :
    Reachable p := by
  induction hp with
  | made hmade => exact .made hmade
  | acted act _ _ ih => exact .acted act ih
  | elsewhere device outside clock logicalSize _ ih =>
    exact .elsewhere device outside clock logicalSize ih

section Results

variable {allowed : Player → Act → Prop} {p : Player} {result : EStateM.Result Fault Player Bool}

theorem Session.installed (hp : Session allowed p) {m : SourceMap}
    (granted : allowed p (.install m)) (h : install m p = result) :
    Session allowed (left result) := by
  have hacted := Session.acted (.install m) hp granted
  rwa [Act.perform, left_discard, h] at hacted

theorem Session.loaded (hp : Session allowed p) {text : Text}
    (granted : allowed p (.loadShader text)) (h : loadShader text p = result) :
    Session allowed (left result) := by
  have hacted := Session.acted (.loadShader text) hp granted
  rwa [Act.perform, left_discard, h] at hacted

theorem Session.renamed (hp : Session allowed p) {names values : Value}
    (granted : allowed p (.setCustom names values)) (h : setCustom names values p = result) :
    Session allowed (left result) := by
  have hacted := Session.acted (.setCustom names values) hp granted
  rwa [Act.perform, left_discard, h] at hacted

end Results

theorem regular_of_preprocessed {m : SourceMap} (hm : Preprocessed m) : Regular m.tables := by
  obtain ⟨σ, resolver, defines, world, text, _, rfl⟩ := hm
  exact regular_tables resolver defines world text

/-! ### Layouts -/

/-- A new player has nothing installed, and the placeholders. -/
theorem laid_of_make {settings : Settings} {device : Device} {outside : Outside} {p : Player}
    (hmade : make settings device outside = .ok () p) :
    ∃ data bytes, Host.tableBytes bootstrapTables = .ok bytes ∧ data.contents = some bytes
      ∧ p.laid = ⟨{}, [], [placeholder], Host.customBlock [placeholder], bootstrapTables,
          settings.wide, some data⟩ := by
  obtain ⟨width, height, rig, _, hconnect, rfl⟩ := make_eq hmade
  obtain ⟨after, bound, bytes, hafter, hhost, _, hbound, _, hbytes, hcontents⟩ :=
    Rig.connect_start width height settings.wide settings.storageSize { device }
  cases hconnect.symm.trans hafter
  refine ⟨bound.resources.data, bytes, hbytes, hcontents, ?_⟩
  show Laid.mk {} [] rig.host.customNames rig.host.custom rig.host.tables rig.host.wide
    (rig.connection.bound?.map (·.resources.data)) = _
  rw [hhost, hbound]
  rfl

/-- An exchange brings the tables of the new source map and a buffer of them. -/
theorem Exchanged.laid {m : SourceMap} {p after : Player} (h : Exchanged m p after) :
    ∃ data bytes, Host.tableBytes m.tables = .ok bytes ∧ data.contents = some bytes
      ∧ after.laid = { p.laid with
          map := m, pipelines := after.pipelines, tables := m.tables, data := some data } := by
  obtain ⟨bound, bytes, data, group, _, hbytes, hcontents, hafter⟩ := h.connection
  have hstill : after.rig.host.still = { p.rig.host.still with tables := m.tables } := h.host
  refine ⟨data, bytes, hbytes, hcontents, ?_⟩
  show Laid.mk after.map after.pipelines after.rig.host.still.customNames
    after.rig.host.still.custom after.rig.host.still.tables after.rig.host.still.wide
    (after.rig.connection.bound?.map (·.resources.data)) = _
  rw [hstill, hafter, h.map]
  rfl

/-! ### What lasts -/

/-- Sound bindings, tables of a shader, and a property of the layout. -/
def Lasts (P : Laid → Prop) (c : Core) : Prop :=
  c.rig.Sound ∧ Regular c.map.tables ∧ P c.laid

/-- An exchange brings a property about, whatever the layout was before. -/
def Brought (P : Laid → Prop) : Prop :=
  ∀ {m : SourceMap} {p after : Player}, Regular m.tables → p.rig.core.Sound →
    Exchanged m p after → P after.laid

section Lasting

variable {P : Laid → Prop} {p after : Player}

theorem lasts_of_same (h : Same p after) (hp : Has (Lasts P) p) : Has (Lasts P) after := by
  show Lasts P after.core
  rw [h.core]
  exact hp

theorem lasts_of_laid (hafter : after.rig.core.Sound) (hlaid : after.laid = p.laid)
    (hp : Has (Lasts P) p) : Has (Lasts P) after := by
  obtain ⟨_, hregular, hholds⟩ := hp
  have hmap : after.map = p.map := congrArg Laid.map hlaid
  refine ⟨hafter, ?_, ?_⟩
  · show Regular after.map.tables
    rw [hmap]
    exact hregular
  · show P after.laid
    rw [hlaid]
    exact hholds

variable (hP : Brought P)

include hP

theorem lasts_of_exchanged {m : SourceMap} (hm : Regular m.tables) (hp : p.rig.core.Sound)
    (hafter : after.rig.core.Sound) (h : Exchanged m p after) : Has (Lasts P) after := by
  refine ⟨hafter, ?_, hP hm hp h⟩
  show Regular after.map.tables
  rw [h.map]
  exact hm

theorem keepsLasts_install {m : SourceMap} (hm : Regular m.tables) :
    Keeps (Has (Lasts P)) (install m) := by
  intro p hp
  have hafter := keepsSound_install m p hp.1
  have hends := installEnds_install hp.1 hm.fit
  generalize install m p = result at hafter hends ⊢
  cases hends with
  | exchanged exchanged => exact lasts_of_exchanged hP hm hp.1 hafter exchanged
  | refused same => exact lasts_of_same same hp
  | raised same => exact lasts_of_same same hp

theorem keepsLasts_loadShader (text : Text) : Keeps (Has (Lasts P)) (loadShader text) := by
  intro p hp
  -- the text that was given last is no part of what lasts
  have hinformed : Has (Lasts P) (p.informed text) := hp
  have hafter := keepsSound_loadShader text p hp.1
  have hends := loadEnds_loadShader hp.1 text
  generalize loadShader text p = result at hafter hends ⊢
  cases hends with
  | exchanged _ exchanged =>
    have hm : Regular (p.preprocessing text).1.source.tables := regular_tables _ _ _ text
    exact lasts_of_exchanged hP hm hinformed.1 hafter exchanged
  | refused same => exact lasts_of_same same hinformed
  | raised same => exact lasts_of_same same hinformed

omit hP in
theorem keepsLasts_reset : Keeps (Has (Lasts P)) reset := by
  intro p hp
  have hafter := keepsSound_reset p hp.1
  obtain ⟨after, hreset, hlaid, _⟩ := laid_reset hp.1
  rw [hreset] at hafter ⊢
  exact lasts_of_laid hafter hlaid hp

theorem keepsLasts_resize (width height : Value) :
    Keeps (Has (Lasts P)) (resize width height) := by
  refine keeps_resize (fun width height p hp => ?_) keepsLasts_reset (keepsLasts_loadShader hP)
    width height
  have hafter := keepsSound_onRig (Rig.keeps_resize width height) p hp.1
  obtain ⟨between, hresize, hlaid, _⟩ := laid_onRig_resize hp.1 width height
  rw [hresize] at hafter ⊢
  exact lasts_of_laid hafter hlaid hp

theorem lasting_lasts : Lasting fun r => Lasts P r.core where
  encodeFrame := @keepsCore_encodeFrame (Lasts P)
  loadShader := keepsLasts_loadShader hP
  reset := keepsLasts_reset
  resize := keepsLasts_resize hP
  loadChannel := by
    intro index data p hp
    have hafter := keepsSound_onRig (Rig.keeps_loadChannel index data) p hp.1
    exact lasts_of_laid hafter (laid_loadChannel hp.1 index data) hp

end Lasting

/-- What has to be shown of a property of layouts: a session begins with it, exchanges bring it
about, and it stays where custom uniforms are set and no source map is exchanged. -/
structure Upheld (allowed : Player → Act → Prop) (P : Laid → Prop) : Prop where
  orderly : ∀ {p act}, allowed p act → act.Orderly
  start : ∀ {settings device outside p}, make settings device outside = .ok () p → P p.laid
  exchanged : Brought P
  set : ∀ {p names values pairs given}, allowed p (.setCustom names values) → P p.laid →
    Renamed pairs p given → setCustom names values p = .ok true given →
    pairs.map (·.1) = p.rig.host.customNames ∨ p.shader = none → P given.laid
  raised : ∀ {p names values pairs given fault after}, allowed p (.setCustom names values) →
    P p.laid → Renamed pairs p given → p.recompiled? names values = some (.error fault after) →
    P given.laid

section Upheld

variable {allowed : Player → Act → Prop} {P : Laid → Prop} (h : Upheld allowed P)

include h

theorem Upheld.setCustom {p : Player} {names values : Value} (hp : Has (Lasts P) p)
    (hallowed : allowed p (.setCustom names values)) :
    Has (Lasts P) (left (Player.setCustom names values p)) := by
  have hafter := keepsSound_setCustom names values p hp.1
  have hends := customEnds_setCustom hp.1 names values
  have hregular : Regular p.map.tables := hp.2.1
  -- setting alone does not touch the installed source map
  have hmap : ∀ {pairs given}, Renamed pairs p given → given.map = p.map := fun hrenamed =>
    congrArg Laid.map hrenamed.laid
  rcases hresult : Player.setCustom names values p with ⟨a, after⟩ | ⟨fault, after⟩
  all_goals
    rw [hresult] at hafter hends
    cases hends
  case ok.set pairs same renamed =>
    refine ⟨hafter, ?_, h.set hallowed hp.2.2 renamed hresult same⟩
    show Regular after.map.tables
    rw [hmap renamed]
    exact hregular
  case ok.compiled pairs given renamed again installed =>
    have hexchanged := exchanged_of_install_true renamed.sound hregular.fit installed
    exact lasts_of_exchanged h.exchanged hregular renamed.sound hafter hexchanged
  case ok.restored pairs given between renamed refused restored =>
    exact lasts_of_laid hafter (laid_restored hp.1 renamed (same_of_install_false refused) restored) hp
  case error.faulty => exact hp
  case error.raised pairs given renamed again raised =>
    have hsame := same_of_install_error renamed.sound hregular.fit raised
    rw [raised] at again
    refine lasts_of_same hsame ⟨renamed.sound, ?_, h.raised hallowed hp.2.2 renamed again⟩
    show Regular given.map.tables
    rw [hmap renamed]
    exact hregular

theorem Upheld.perform {p : Player} {act : Act} (hp : Has (Lasts P) p) (hallowed : allowed p act) :
    Has (Lasts P) (left (act.perform p)) := by
  have horderly := h.orderly hallowed
  cases act with
  | install m =>
    have hm : Regular m.tables := regular_of_preprocessed horderly
    exact keeps_discard (keepsLasts_install h.exchanged hm) p hp
  | setCustom names values =>
    have hset := h.setCustom hp hallowed
    rw [← left_discard] at hset
    exact hset
  | setTables _ | setCustomDirectly _ _ | resizeDirectly _ _ | resetDirectly => cases horderly
  -- whatever else is asked for exchanges source maps by loading shaders
  | _ => exact keeps_perform (lasting_lasts h.exchanged) rfl p hp

/-- A property that is upheld holds all the time. -/
theorem Session.upheld {p : Player} (hp : Session allowed p) : Has (Lasts P) p := by
  induction hp with
  | made hmade =>
    obtain ⟨width, height, rig, _, _, rfl⟩ := make_eq hmade
    exact ⟨sound_of_make hmade, regular_bootstrapTables, h.start hmade⟩
  | acted act _ granted ih => exact h.perform ih granted
  | elsewhere _ _ _ _ _ ih => exact ih

end Upheld

/-! ### With a shader of one entry point -/

/-- A player of a small screen that runs a shader of one entry point, on a device that may
change its mind. -/
theorem exists_running (allowed : Player → Act → Prop)
    (hload : ∀ p, allowed p (.loadShader pointText)) (device : Device) :
    ∃ p, Session allowed p ∧ p.rig.gpu.device = device ∧ p.shader = some pointText
      ∧ p.map = pointMap ∧ p.rig.host.customNames = [placeholder] ∧ p.pipelines ≠ []
      ∧ ∀ pipeline ∈ p.pipelines, pipeline.compiled.module.code = p.unitOf p.map := by
  obtain ⟨p, hmade, hhost, hwilling⟩ := exists_willing
  obtain ⟨after, hrun, hexchanged, hpipelines⟩ := loadShader_point (sound_of_make hmade) hwilling
  have hafter : Session allowed after := Session.loaded (.made hmade) (hload p) hrun
  have hnames : after.rig.host.customNames = p.rig.host.customNames := hexchanged.customNames
  obtain ⟨_, _, _, _, hlaid⟩ := hexchanged.laid
  have hwide : after.rig.host.wide = p.rig.host.wide := congrArg Laid.wide hlaid
  refine ⟨_, .elsewhere device after.outside after.clock after.logicalSize hafter, rfl,
    hexchanged.shader, hexchanged.map, ?_, hpipelines, fun pipeline hpipeline => ?_⟩
  · show after.rig.host.customNames = _
    rw [hnames, hhost]
    rfl
  · refine (hexchanged.code hpipeline).trans ?_
    show unitText pointMap p.rig.host.customNames p.rig.host.wide
      = unitText after.map after.rig.host.customNames after.rig.host.wide
    rw [hnames, hwide, hexchanged.map]

/-- One name. -/
def oneName : Value := .list [.text ['a']]

/-- Its value. -/
def oneValue : Value := .list [.float (.zero false)]

/-- This player is given another name than the one it has, so that it compiles again. -/
theorem exists_renamed {p : Player} (hp : p.rig.core.Sound) (hshader : p.shader = some pointText)
    (hmap : p.map = pointMap) (hnames : p.rig.host.customNames = [placeholder]) :
    ∃ given, Renamed [(['a'], .zero false)] p given
      ∧ p.recompiled? oneName oneValue = some (install pointMap given)
      ∧ setCustom oneName oneValue p
        = (do
            if ← install pointMap then return true
            else onRig (Rig.setCustom p.back); return false : Op Bool) given := by
  have harguments : Host.customArguments oneName oneValue = .ok ([['a']], [.zero false]) := rfl
  have hitems : oneName.items = .ok [.text ['a']] := rfl
  obtain ⟨given, hrenamed, hset, hrun⟩ := setCustom_eq hp hitems harguments
  have hother : ¬ (areNames [.text ['a']] p.rig.host.customNames || p.shader.isNone) := by
    rw [hnames, hshader]
    decide
  have hagain := recompiled_eq hitems hset hother
  rw [hmap] at hagain
  refine ⟨given, hrenamed, hagain, ?_⟩
  rw [hrun]
  unfold compileAgain
  rw [if_neg hother, hmap]

/-- A device that refuses modules refuses this one. -/
theorem build_point_of_refused {p : Player} (hp : p.rig.core.Sound) {refusal : Refusal}
    (hrefuses : ∀ module, p.rig.gpu.device.refusesModule module = some refusal) :
    ∃ w, p.build pointMap = .error
      (Workbench.seenFrom pointMap (p.offsetOf pointMap)
        (.refused refusal.kind refusal.message)) w := by
  have hmake := Workbench.makeAll_of_refused p.rig.gpu hrefuses pointMap p.layout
    (p.unitOf pointMap) [⟨['f'], ⟨1, 1, 1⟩⟩]
  exact build_of_refused (findEntryPoints_pointMap hp) hmake

/-- A refusal that is no error of the shader breaks the attempt off, after the name was set. -/
theorem setCustom_of_fault {p : Player} (hp : p.rig.core.Sound) (hshader : p.shader = some pointText)
    (hmap : p.map = pointMap) (hnames : p.rig.host.customNames = [placeholder]) {refusal : Refusal}
    (hrefuses : ∀ module, p.rig.gpu.device.refusesModule module = some refusal) {fault : Fault}
    (hseen : ∀ offset, Workbench.seenFrom pointMap offset (.refused refusal.kind refusal.message)
      = fault) (hfault : ∀ r, fault ≠ .shader r) :
    ∃ after, setCustom oneName oneValue p = .error fault after ∧ after.map = p.map
      ∧ after.pipelines = p.pipelines ∧ after.rig.host.customNames = [['a']] := by
  obtain ⟨given, hrenamed, _, hrun⟩ := exists_renamed hp hshader hmap hnames
  have hdevice : given.rig.gpu.device = p.rig.gpu.device := hrenamed.served
  obtain ⟨w, hbuild⟩ := build_point_of_refused hrenamed.sound (hdevice ▸ hrefuses)
  rw [hseen] at hbuild
  obtain ⟨after, hinstall, hinstalled, _⟩ := install_of_fault hbuild hfault
  refine ⟨after, hrun.trans (run_bind_of_error hinstall), ?_, ?_, ?_⟩
  · exact (congrArg Installed.map hinstalled).trans (congrArg Laid.map hrenamed.laid)
  · exact (congrArg Installed.pipelines hinstalled).trans (congrArg Laid.pipelines hrenamed.laid)
  · exact (congrArg Installed.customNames hinstalled).trans (congrArg Laid.customNames hrenamed.laid)

end ShaderPlayer.Player
