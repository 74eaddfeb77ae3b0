/-
What giving a player a source map, a shader, names or a size does to what is installed.

* `Same` — nothing that is installed changes, and nothing of the bindings;
* `Exchanged` — another source map took the place of the installed one, and nothing else
  changed;
* `installEnds_install`, `loadEnds_loadShader` — there is nothing between the two;
* `Laid` — how the installed shader and the host lay out what they share: resetting, changing
  the size and loading a channel leave it as it is (`laid_reset`, `laid_onRig_resize`,
  `laid_loadChannel`);
* `customEnds_setCustom` — setting custom uniforms changes the names, and compiles again then:
  if that is refused, names and values from before come back (`laid_restored`).
-/
import ShaderPlayer.Proofs.Player.Swap

namespace ShaderPlayer.Player

open Gpu Shader

/-! ### Installing -/

/-- Nothing that is installed changes, and nothing of the bindings. -/
structure Same (p after : Player) : Prop where
  core : after.core = p.core
  shader : after.shader = p.shader
  frames : after.frames = p.frames

/-- A source map took the place of the installed one, and nothing else changed. -/
structure Exchanged (m : SourceMap) (p after : Player) : Prop extends Swapped m p after where
  host : after.rig.host.still = { p.rig.host.still with tables := m.tables }
  shader : after.shader = p.shader

theorem Exchanged.code {m : SourceMap} {p after : Player} (h : Exchanged m p after)
    {pipeline : Pipeline} (hpipeline : pipeline ∈ after.pipelines) :
    pipeline.compiled.module.code = p.unitOf m := by
  obtain ⟨points, module, _, hcode, hpipelines⟩ := h.pipelines
  obtain ⟨point, _, number, hpoint⟩ := exists_of_mem_forall₂ hpipelines hpipeline
  rw [hpoint]
  exact hcode

theorem Exchanged.pipelines_eq_nil {m : SourceMap} {p after : Player} (h : Exchanged m p after)
    (hpoints : findEntryPoints (p.unitOf m) = .ok []) : after.pipelines = [] := by
  obtain ⟨points, module, hfound, _, hpipelines⟩ := h.pipelines
  cases hpoints.symm.trans hfound
  exact List.forall₂_nil_left_iff.mp hpipelines

/-- How installing a source map ends. -/
inductive InstallEnds (m : SourceMap) (p : Player) : EStateM.Result Fault Player Bool → Prop
  | exchanged {after : Player} (exchanged : Exchanged m p after) : InstallEnds m p (.ok true after)
  | refused {after : Player} (same : Same p after) : InstallEnds m p (.ok false after)
  | raised {fault : Fault} {after : Player} (same : Same p after) :
      InstallEnds m p (.error fault after)

theorem same_report (r : Report) (p : Player) :
    ∃ after, report r p = .ok () after ∧ Same p after := by
  by_cases hlogged : p.logged
  · refine ⟨p.noted #[reportNote r], ?_, ⟨rfl, rfl, rfl⟩⟩
    show (if p.logged then note #[reportNote r] else _ : Op Unit) p = _
    rw [if_pos hlogged]
    rfl
  · refine ⟨{ p with reports := p.reports.push r }, ?_, ⟨rfl, rfl, rfl⟩⟩
    show (if p.logged then note #[reportNote r] else _ : Op Unit) p = _
    rw [if_neg hlogged]
    rfl

/-- What is not built changes nothing. -/
theorem installEnds_of_error {m : SourceMap} {p : Player} {fault : Fault} {w : Workbench}
    (h : p.build m = .error fault w) : InstallEnds m p (install m p) := by
  by_cases hshader : ∃ r, fault = .shader r
  · obtain ⟨r, rfl⟩ := hshader
    obtain ⟨after, hreport, hsame⟩ := same_report r (p.worked w)
    have hreported : (do report r; return false : Op Bool) (p.worked w) = .ok false after :=
      run_bind_of_ok hreport
    have hrefused : install m p = .ok false after :=
      (run_bind_of_ok (attempt_of_error (compile_of_error h))).trans hreported
    rw [hrefused]
    exact .refused ⟨hsame.core, hsame.shader, hsame.frames⟩
  · have hraised : install m p = .error fault (p.worked w) := by
      refine (run_bind_of_ok (attempt_of_error (compile_of_error h))).trans ?_
      cases fault with
      | shader r => exact absurd ⟨r, rfl⟩ hshader
      | _ => rfl
    rw [hraised]
    exact .raised ⟨rfl, rfl, rfl⟩

/-- A source map whose tables go into a buffer is exchanged as a whole, or nothing is. -/
theorem installEnds_install {m : SourceMap} {p : Player} (hp : p.rig.core.Sound)
    (hfit : Fit m.tables) : InstallEnds m p (install m p) := by
  obtain ⟨bound, hbound, _⟩ := hp.bound
  rcases hpoints : findEntryPoints (p.unitOf m) with digits | points
  · obtain ⟨w, hbuild⟩ := build_of_unread hpoints
    exact installEnds_of_error hbuild
  · rcases hmake : Workbench.makeAll m p.layout (p.unitOf m) points p.rig.gpu with
      ⟨pipelines, gpu⟩ | ⟨fault, gpu⟩
    · obtain ⟨w, bytes, data, gpu', group, _, _, _, hinstall⟩ :=
        install_eq_of_made hbound hfit hpoints hmake
      obtain ⟨after, hafter, hswapped, _⟩ := install_of_made hbound hfit hpoints hmake
      cases hinstall.symm.trans hafter
      rw [hinstall]
      exact .exchanged ⟨hswapped, rfl, rfl⟩
    · obtain ⟨w, hbuild⟩ := build_of_refused hpoints hmake
      exact installEnds_of_error hbuild

section Install

variable {m : SourceMap} {p after : Player} (hp : p.rig.core.Sound) (hfit : Fit m.tables)

include hp hfit

theorem exchanged_of_install_true (h : install m p = .ok true after) : Exchanged m p after := by
  have hends := installEnds_install hp hfit
  rw [h] at hends
  cases hends with
  | exchanged exchanged => exact exchanged

theorem same_of_install_error {fault : Fault} (h : install m p = .error fault after) :
    Same p after := by
  have hends := installEnds_install hp hfit
  rw [h] at hends
  cases hends with
  | raised same => exact same

end Install

theorem install_of_built {m : SourceMap} {p : Player} {pipelines : List Pipeline} {w : Workbench}
    (h : p.build m = .ok pipelines w) :
    install m p = (do swap m pipelines; return true : Op Bool) (p.worked w) :=
  run_bind_of_ok (attempt_of_ok (compile_of_ok h))

/-- A shader that is refused changes nothing, whatever its tables are. -/
theorem same_of_install_false {m : SourceMap} {p after : Player}
    (h : install m p = .ok false after) : Same p after := by
  rcases hbuild : p.build m with ⟨pipelines, w⟩ | ⟨fault, w⟩
  · -- what follows a build does not answer that it was refused
    rw [install_of_built hbuild, run_bind_eq_ok_iff] at h
    obtain ⟨_, _, _, h⟩ := h
    cases h
  · have hends := installEnds_of_error hbuild
    rw [h] at hends
    cases hends with
    | refused same => exact same

/-- What breaks off leaves the shader that runs, whatever its tables are: those of another are
set before it is. -/
theorem running_of_install_error {m : SourceMap} {p after : Player} {fault : Fault}
    (h : install m p = .error fault after) :
    after.map = p.map ∧ after.pipelines = p.pipelines ∧ after.frames = p.frames := by
  rcases hbuild : p.build m with ⟨pipelines, w⟩ | ⟨fault, w⟩
  · let noted := (p.worked w).noted (limitNotes pipelines)
    -- a swap sets the tables first, and only that may break off
    have hnoted : swap m pipelines (p.worked w) = (do
        onRig (Rig.setTables m.tables)
        modify fun p => { p with
          map := m, pipelines := pipelines.map Pipeline.limited, frames := 0 } : Op Unit) noted := rfl
    rw [install_of_built hbuild] at h
    rcases htables : Rig.setTables m.tables noted.rig with ⟨_, rig⟩ | ⟨fault, rig⟩
    · have hset : onRig (Rig.setTables m.tables) noted = .ok () { noted with rig } :=
        onRig_of_ok htables
      rw [run_bind_of_ok (hnoted.trans (run_bind_of_ok hset))] at h
      cases h
    · have hset : onRig (Rig.setTables m.tables) noted = .error fault { noted with rig } := by
        unfold onRig
        rw [htables]
      rw [run_bind_of_error (hnoted.trans (run_bind_of_error hset))] at h
      cases h
      exact ⟨rfl, rfl, rfl⟩
  · have hends := installEnds_of_error hbuild
    rw [h] at hends
    cases hends with
    | raised same => exact ⟨congrArg Core.map same.core, congrArg Core.pipelines same.core, same.frames⟩

/-- A device that refuses nothing. -/
structure Willing (device : Device) : Prop where
  module : ∀ module, device.refusesModule module = none
  pipeline : ∀ pipeline, device.refusesPipeline pipeline = none

theorem willing_default : Willing {} := ⟨fun _ => rfl, fun _ => rfl⟩

/-- A player of a small screen, on such a device. -/
theorem exists_willing :
    ∃ p : Player, make small {} {} = .ok () p ∧ p.rig.host = plainHost
      ∧ Willing p.rig.gpu.device := by
  obtain ⟨p, hmade, hhost, hdevice⟩ := make_small {}
  exact ⟨p, hmade, hhost, hdevice ▸ willing_default⟩

/-- A device that refuses nothing takes every source map whose entry points can be read. -/
theorem install_of_willing {m : SourceMap} {p : Player} (hp : p.rig.core.Sound)
    (hwilling : Willing p.rig.gpu.device) (hfit : Fit m.tables) {points : List EntryPoint}
    (hpoints : findEntryPoints (p.unitOf m) = .ok points) (hne : points ≠ []) :
    ∃ after, install m p = .ok true after ∧ Exchanged m p after ∧ after.pipelines ≠ [] := by
  obtain ⟨bound, hbound, _⟩ := hp.bound
  obtain ⟨pipelines, gpu, hmake⟩ := Workbench.makeAll_of_willing m p.layout (p.unitOf m) points
    p.rig.gpu hwilling.module hwilling.pipeline
  obtain ⟨after, hinstall⟩ := (builtThenSwapped_install hbound hfit).accepted hpoints hmake
  have hexchanged := exchanged_of_install_true hp hfit hinstall
  refine ⟨after, hinstall, hexchanged, fun hnil => ?_⟩
  obtain ⟨found, _, hfound, _, hpipelines⟩ := hexchanged.pipelines
  cases hpoints.symm.trans hfound
  rw [hnil] at hpipelines
  exact hne (List.forall₂_nil_right_iff.mp hpipelines)

theorem findEntryPoints_unitOf {p : Player} (hp : p.rig.core.Sound) {m : SourceMap}
    (hextensions : m.hoisted = #[]) (htables : ∀ name ∈ m.tables.keys, name.isIdentifier) :
    findEntryPoints (p.unitOf m) = findEntryPoints m.source :=
  findEntryPoints_unitText hextensions htables hp.tidy.proper.identifiers p.rig.host.wide

/-! ### Loading -/

/-- How loading a shader ends. -/
inductive LoadEnds (text : Text) (p : Player) : EStateM.Result Fault Player Bool → Prop
  | exchanged {after : Player} (complete : (p.preprocessing text).2 = .complete)
      (exchanged : Exchanged (p.preprocessing text).1.source (p.informed text) after) :
      LoadEnds text p (.ok true after)
  | refused {after : Player} (same : Same (p.informed text) after) :
      LoadEnds text p (.ok false after)
  | raised {fault : Fault} {after : Player} (same : Same (p.informed text) after) :
      LoadEnds text p (.error fault after)

theorem loadEnds_loadShader {p : Player} (hp : p.rig.core.Sound) (text : Text) :
    LoadEnds text p (loadShader text p) := by
  rw [loadShader_eq, proceed]
  rcases hend : (p.preprocessing text).2 with _ | r | digits | _
  · have hfit : Fit (p.preprocessing text).1.source.tables := fit_tables _ _ _ text
    have hends := installEnds_install (p := p.informed text) hp hfit
    dsimp only
    generalize install (p.preprocessing text).1.source (p.informed text) = result at hends ⊢
    cases hends with
    | exchanged exchanged => exact .exchanged hend exchanged
    | refused same => exact .refused same
    | raised same => exact .raised same
  · obtain ⟨after, hreport, hsame⟩ := same_report r (p.informed text)
    have hreported : (do report r; return false : Op Bool) (p.informed text) = .ok false after :=
      run_bind_of_ok hreport
    show LoadEnds text p ((do report r; return false : Op Bool) (p.informed text))
    rw [hreported]
    exact .refused hsame
  · exact .raised ⟨rfl, rfl, rfl⟩
  · exact absurd hend (ending_ne_used text _)

/-- A device that refuses nothing takes a text whose entry points can be read. -/
theorem loadShader_of_willing {text : Text} {m : SourceMap} {p : Player} (hp : p.rig.core.Sound)
    (hwilling : Willing p.rig.gpu.device)
    (hmakes : (p.preprocessing text).2 = .complete ∧ (p.preprocessing text).1.source = m)
    (hfit : Fit m.tables) {points : List EntryPoint}
    (hpoints : findEntryPoints (p.unitOf m) = .ok points) (hne : points ≠ []) :
    ∃ after, loadShader text p = .ok true after ∧ Exchanged m (p.informed text) after
      ∧ after.pipelines ≠ [] := by
  have hinformed : (p.informed text).rig.core.Sound := hp
  obtain ⟨after, hinstall, hafter⟩ := install_of_willing hinformed hwilling hfit hpoints hne
  refine ⟨after, ?_, hafter⟩
  rw [loadShader_eq, proceed, hmakes.1, hmakes.2]
  exact hinstall

/-! ### What the shader and the host share -/

/-- How the installed shader and the host lay out the custom uniforms and the tables. -/
structure Laid where
  map : SourceMap
  pipelines : List Pipeline
  customNames : List Text
  custom : UniformBlock
  tables : Tables
  wide : Bool
  /-- The buffer of the tables. -/
  data : Option Buffer

/-- The layout in a core. -/
def Core.laid (c : Core) : Laid where
  map := c.map
  pipelines := c.pipelines
  customNames := c.rig.host.customNames
  custom := c.rig.host.custom
  tables := c.rig.host.tables
  wide := c.rig.host.wide
  data := c.rig.connection.bound?.map (·.resources.data)

/-- The layout in a player. -/
def laid (p : Player) : Laid := p.core.laid

theorem laid_data {p : Player} {bound : Bound} (hbound : p.rig.connection = .complete bound) :
    p.laid.data = some bound.resources.data := by
  show p.rig.connection.bound?.map _ = _
  rw [hbound]
  rfl

section Sound

variable {p : Player} (hp : p.rig.core.Sound)

include hp

theorem laid_loadChannel (index : Value) (data : Except Fault NumericArray) :
    (left (loadChannel index data p)).laid = p.laid := by
  obtain ⟨bound, hbound, _⟩ := hp.bound
  unfold loadChannel onRig
  rcases Rig.loadChannel_complete hbound index data with
    ⟨fault, hrun⟩ | ⟨second, picture, texture, gpu, group, _, hrun⟩
  · rw [hrun]
    rfl
  · rw [hrun]
    cases second
    all_goals
      show { p.laid with data := some bound.resources.data } = p.laid
      rw [← laid_data hbound]

theorem laid_onRig_resize (width height : Int) :
    ∃ between, onRig (Rig.resize width height) p = .ok () between ∧ between.laid = p.laid
      ∧ between.size = (width, height) ∧ between.shader = p.shader
      ∧ Rig.Served p.rig.gpu between.rig.gpu := by
  obtain ⟨bound, hbound, _⟩ := hp.bound
  obtain ⟨textures, gpu, group, hserved, _, _, hrun⟩ := Rig.resize_complete hbound width height
  refine ⟨_, onRig_of_ok hrun, ?_, rfl, rfl, hserved⟩
  show { p.laid with data := some bound.resources.data } = p.laid
  rw [← laid_data hbound]

theorem laid_onRig_reset :
    ∃ between, onRig Rig.reset p = .ok () between ∧ between.laid = p.laid
      ∧ between.size = p.size ∧ between.shader = p.shader
      ∧ Rig.Served p.rig.gpu between.rig.gpu := by
  obtain ⟨bound, hbound, _⟩ := hp.bound
  obtain ⟨storage, textures, gpu, group, hserved, _, _, hrun⟩ := Rig.reset_complete hbound
  refine ⟨_, onRig_of_ok hrun, ?_, rfl, rfl, hserved⟩
  show { p.laid with data := some bound.resources.data } = p.laid
  rw [← laid_data hbound]

theorem laid_reset :
    ∃ after, reset p = .ok () after ∧ after.laid = p.laid ∧ after.size = p.size
      ∧ after.shader = p.shader ∧ Rig.Served p.rig.gpu after.rig.gpu := by
  obtain ⟨between, hrun, hlaid, hsize, hshader, hserved⟩ := laid_onRig_reset hp
  exact ⟨_, run_bind_of_ok hrun, hlaid, hsize, hshader, hserved⟩

end Sound

/-! ### Custom uniforms -/

/-- Custom uniforms were set, and nothing else changed but the buffer they are in. -/
structure Renamed (pairs : List (Text × Double)) (p given : Player) : Prop where
  sound : given.rig.core.Sound
  host : given.rig.host = p.rig.host.setCustom pairs
  laid : given.laid = { p.laid with
    customNames := pairs.map (·.1), custom := (p.rig.host.setCustom pairs).custom }
  shader : given.shader = p.shader
  frames : given.frames = p.frames
  served : Rig.Served p.rig.gpu given.rig.gpu

theorem renamed_setCustom {p : Player} (hp : p.rig.core.Sound) {pairs : List (Text × Double)}
    (hpairs : Host.Proper (pairs.map (·.1))) :
    ∃ given, onRig (Rig.setCustom pairs) p = .ok () given ∧ Renamed pairs p given := by
  obtain ⟨bound, hbound, _⟩ := hp.bound
  obtain ⟨custom, gpu, group, hserved, _, _, hrun⟩ := Rig.setCustom_complete hbound pairs
  have hsound := Rig.keeps_setCustom hpairs p.rig hp
  rw [hrun] at hsound
  refine ⟨_, onRig_of_ok hrun, hsound, rfl, ?_, rfl, rfl, hserved⟩
  show { p.laid with
    customNames := (p.rig.host.setCustom pairs).customNames
    custom := (p.rig.host.setCustom pairs).custom
    data := some bound.resources.data } = _
  rw [← laid_data hbound, Host.customNames_setCustom]

/-- What comes back if the names that were given do not compile. -/
def back (p : Player) : List (Text × Double) := p.rig.host.customNames.zip p.rig.host.customValues

theorem proper_back {p : Player} (hp : p.rig.core.Sound) : Host.Proper (p.back.map (·.1)) := by
  unfold back
  rw [Host.map_fst_zip_customValues]
  exact hp.tidy.proper

/-- What was set before comes back, names and values and all. -/
theorem laid_restored {p given between after : Player} (hp : p.rig.core.Sound)
    {pairs : List (Text × Double)} (hgiven : Renamed pairs p given) (hsame : Same given between)
    (hafter : Renamed p.back between after) : after.laid = p.laid := by
  have hrig : between.rig.core = given.rig.core := congrArg Core.rig hsame.core
  have hbetween : between.rig.core.Sound := hrig ▸ hgiven.sound
  have hcustom : (between.rig.host.setCustom p.back).custom = p.rig.host.custom := by
    have hback := Host.setCustom_back hp.tidy hbetween.tidy
    have hblock := congrArg Host.custom hback
    exact hblock
  have hlaid : between.laid = given.laid := congrArg Core.laid hsame.core
  rw [hafter.laid, hcustom, hlaid, hgiven.laid, back, Host.map_fst_zip_customValues]
  rfl

/-- How compiling the installed source map again ends, where custom uniforms are given
names that do that. -/
def recompiled? (p : Player) (names values : Value) : Option (EStateM.Result Fault Player Bool) :=
  match names.items with
  | .error _ => none
  | .ok items =>
    match onRig (Rig.setCustomValues (.list items) values) p with
    | .error .. => none
    | .ok () given =>
      if areNames items p.rig.host.customNames || p.shader.isNone then none
      else some (install p.map given)

/-- How setting custom uniforms ends. -/
inductive CustomEnds (p : Player) (names values : Value) : EStateM.Result Fault Player Bool → Prop
  /-- What is given is faulty. -/
  | faulty {fault : Fault} : CustomEnds p names values (.error fault p)
  /-- The names are those from before, or there is no shader. -/
  | set {pairs : List (Text × Double)} {given : Player} (renamed : Renamed pairs p given)
      (same : pairs.map (·.1) = p.rig.host.customNames ∨ p.shader = none) :
      CustomEnds p names values (.ok true given)
  | compiled {pairs : List (Text × Double)} {given after : Player} (renamed : Renamed pairs p given)
      (again : p.recompiled? names values = some (install p.map given))
      (installed : install p.map given = .ok true after) :
      CustomEnds p names values (.ok true after)
  | restored {pairs : List (Text × Double)} {given between after : Player}
      (renamed : Renamed pairs p given)
      (refused : install p.map given = .ok false between) (restored : Renamed p.back between after) :
      CustomEnds p names values (.ok false after)
  | raised {pairs : List (Text × Double)} {given after : Player} {fault : Fault}
      (renamed : Renamed pairs p given)
      (again : p.recompiled? names values = some (install p.map given))
      (raised : install p.map given = .error fault after) :
      CustomEnds p names values (.error fault after)

/-- What is done once the custom uniforms are set. -/
def compileAgain (p : Player) (items : List Value) : Op Bool := do
  if areNames items p.rig.host.customNames || p.shader.isNone then return true
  else if ← install p.map then return true
  else
    onRig (Rig.setCustom p.back)
    return false

theorem names_of_areNames {p : Player} (hp : p.rig.core.Sound) {items : List Value} {values : Value}
    {arguments : List Text × List Double}
    (hgiven : Host.customArguments (.list items) values = .ok arguments)
    (hsame : areNames items p.rig.host.customNames) :
    (Host.customOrPlaceholder arguments.1 arguments.2).map (·.1) = p.rig.host.customNames := by
  have hnames : arguments.1 = p.rig.host.customNames :=
    Host.eq_of_customArguments hgiven (beq_iff_eq.mp hsame)
  obtain ⟨_, _, _, hlength⟩ := Host.customArguments_eq_ok hgiven
  have hne : arguments.1 ≠ [] := by
    rw [hnames]
    exact hp.tidy.proper.ne_nil
  rw [Host.map_fst_customOrPlaceholder hlength hne, hnames]

/-- Custom uniforms are set first, and then the names are looked at. -/
theorem setCustom_of_items {names : Value} {items : List Value} (hitems : names.items = .ok items)
    (values : Value) (p : Player) :
    setCustom names values p = (do
      onRig (Rig.setCustomValues (.list items) values)
      compileAgain p items : Op Bool) p :=
  run_ofExcept_bind_of_ok hitems _ p

/-- Names or values that do not pass are refused before anything is set. -/
theorem setCustom_of_faulty {p : Player} {names values : Value} {items : List Value}
    (hitems : names.items = .ok items) {fault : Fault}
    (hfaulty : Host.customArguments (.list items) values = .error fault) :
    setCustom names values p = .error fault p := by
  have hrig : Rig.setCustomValues (.list items) values p.rig = .error fault p.rig :=
    run_ofExcept_bind_of_error hfaulty _ p.rig
  have hset : onRig (Rig.setCustomValues (.list items) values) p = .error fault p := by
    unfold onRig
    rw [hrig]
  rw [setCustom_of_items hitems, run_bind_of_error hset]

/-- Names and values that pass are set. -/
theorem setCustom_eq {p : Player} (hp : p.rig.core.Sound) {names values : Value}
    {items : List Value} {arguments : List Text × List Double} (hitems : names.items = .ok items)
    (hgiven : Host.customArguments (.list items) values = .ok arguments) :
    ∃ given, Renamed (Host.customOrPlaceholder arguments.1 arguments.2) p given
      ∧ onRig (Rig.setCustomValues (.list items) values) p = .ok () given
      ∧ setCustom names values p = compileAgain p items given := by
  obtain ⟨given, hset, hrenamed⟩ := renamed_setCustom hp (Host.proper_of_customArguments hgiven)
  have hrig : Rig.setCustomValues (.list items) values p.rig
      = Rig.setCustom (Host.customOrPlaceholder arguments.1 arguments.2) p.rig :=
    run_ofExcept_bind_of_ok hgiven _ p.rig
  have hvalues : onRig (Rig.setCustomValues (.list items) values) p = .ok () given := by
    rw [← hset]
    unfold onRig
    rw [hrig]
  exact ⟨given, hrenamed, hvalues, (setCustom_of_items hitems values p).trans (run_bind_of_ok hvalues)⟩

theorem recompiled_eq {p given : Player} {names values : Value} {items : List Value}
    (hitems : names.items = .ok items)
    (hset : onRig (Rig.setCustomValues (.list items) values) p = .ok () given)
    (hother : ¬ (areNames items p.rig.host.customNames || p.shader.isNone)) :
    p.recompiled? names values = some (install p.map given) := by
  unfold recompiled?
  rw [hitems]
  dsimp only
  rw [hset]
  dsimp only
  rw [if_neg hother]

theorem customEnds_setCustom {p : Player} (hp : p.rig.core.Sound) (names values : Value) :
    CustomEnds p names values (setCustom names values p) := by
  rcases hitems : names.items with fault | items
  · rw [show setCustom names values p = .error fault p from run_ofExcept_bind_of_error hitems _ p]
    exact .faulty
  rcases hgiven : Host.customArguments (.list items) values with fault | arguments
  · rw [setCustom_of_faulty hitems hgiven]
    exact .faulty
  obtain ⟨given, hrenamed, hset, hrun⟩ := setCustom_eq hp hitems hgiven
  rw [hrun]
  unfold compileAgain
  by_cases hquiet : areNames items p.rig.host.customNames || p.shader.isNone
  · rw [if_pos hquiet]
    refine .set hrenamed ?_
    rcases (Bool.or_eq_true _ _).mp hquiet with hsame | hnone
    · exact .inl (names_of_areNames hp hgiven hsame)
    · exact .inr (Option.isNone_iff_eq_none.mp hnone)
  -- other names compile again, and this ends in one of three ways
  have hagain := recompiled_eq hitems hset hquiet
  rw [if_neg hquiet]
  rcases hinstall : install p.map given with ⟨_ | _, after⟩ | ⟨fault, after⟩
  · have hsame := same_of_install_false hinstall
    have hcore : after.rig.core = given.rig.core := congrArg Core.rig hsame.core
    have hafter : after.rig.core.Sound := hcore ▸ hrenamed.sound
    obtain ⟨last, hback, hrestored⟩ := renamed_setCustom hafter (proper_back hp)
    have hlast : (do onRig (Rig.setCustom p.back); return false : Op Bool) after = .ok false last :=
      run_bind_of_ok hback
    rw [run_bind_of_ok hinstall]
    show CustomEnds p names values ((do onRig (Rig.setCustom p.back); return false : Op Bool) after)
    rw [hlast]
    exact .restored hrenamed hinstall hrestored
  · rw [run_bind_of_ok hinstall]
    exact .compiled hrenamed hagain hinstall
  · rw [run_bind_of_error hinstall]
    exact .raised hrenamed hagain hinstall

/-! ### A shader of one entry point -/

/-- The line of a shader with one entry point. -/
def pointLine : Text := "@compute @workgroup_size(1) fn f() \x7b\x7d".toList

/-- The shader. -/
def pointText : Text := pointLine ++ ['\n']

/-- Its source map. -/
def pointMap : SourceMap := { emitted := #[⟨pointLine, 1⟩] }

/-- Every shader has these macros and no other. -/
theorem get_screenMacros {word : Text}
    (h : word ∉ ["SCREEN_WIDTH".toList, "SCREEN_HEIGHT".toList, "STRING_MAX_LEN".toList])
    (width height : Int) : (initialMacros (screenMacros width height)).get? word = none := by
  simp only [List.mem_cons, List.not_mem_nil, or_false, not_or] at h
  show List.lookup word [("SCREEN_WIDTH".toList, Text.ofInt width),
    ("SCREEN_HEIGHT".toList, Text.ofInt height),
    ("STRING_MAX_LEN".toList, Text.ofNat maxStringLength)] = none
  rw [List.lookup_cons, beq_eq_false_iff_ne.mpr h.1, List.lookup_cons,
    beq_eq_false_iff_ne.mpr h.2.1, List.lookup_cons, beq_eq_false_iff_ne.mpr h.2.2]
  rfl

/-- A line without the names of the macros that every shader has stays as it is. -/
theorem expandLine_screen {line : Text} (hdefinition : splitDefinition? line = none)
    (hwords : ∀ word ∈ Text.words line,
      word ∉ ["SCREEN_WIDTH".toList, "SCREEN_HEIGHT".toList, "STRING_MAX_LEN".toList])
    (width height : Int) :
    (initialMacros (screenMacros width height)).expandLine line = line :=
  MacroTable.expandLine_eq_self hdefinition fun word hword =>
    get_screenMacros (hwords word hword) width height

theorem line_point (width height : Int) :
    Line.ofText ((initialMacros (screenMacros width height)).expandLine pointLine)
      = .plain pointLine := by
  -- the macros that every shader has do not stand in this line
  have hdefinition : splitDefinition? pointLine = none := by decide +kernel
  rw [expandLine_screen hdefinition (by decide +kernel)]
  decide +kernel

theorem preprocessing_point (p : Player) :
    (p.preprocessing pointText).2 = .complete
      ∧ (p.preprocessing pointText).1.source = pointMap := by
  have hlines : numberedLines pointText = [(1, pointLine)] := by decide +kernel
  let start : Run Outside := Run.start (screenMacros p.size.1 p.size.2) p.outside
  have hstart : Line.ofText (start.macros.expandLine pointLine) = .plain pointLine :=
    line_point p.size.1 p.size.2
  have hline : processLine p.includeSource.resolver maxIncludeDepth 1 pointLine start = _ :=
    processLine_plain hstart
  unfold preprocessing Run.shader
  rw [hlines, processLines, hline]
  exact ⟨rfl, rfl⟩

theorem preprocessed_point (p : Player) : Preprocessed pointMap :=
  ⟨_, _, _, _, pointText, preprocessing_point p⟩

theorem findEntryPoints_point {p : Player} (hp : p.rig.core.Sound) {m : SourceMap}
    (hextensions : m.hoisted = #[]) (htables : ∀ name ∈ m.tables.keys, name.isIdentifier)
    (hsource : m.source = pointText) :
    findEntryPoints (p.unitOf m) = .ok [⟨['f'], ⟨1, 1, 1⟩⟩] := by
  rw [findEntryPoints_unitOf hp hextensions htables, hsource]
  decide +kernel

theorem findEntryPoints_pointMap {p : Player} (hp : p.rig.core.Sound) :
    findEntryPoints (p.unitOf pointMap) = .ok [⟨['f'], ⟨1, 1, 1⟩⟩] :=
  findEntryPoints_point hp rfl (by decide) rfl

theorem install_point {p : Player} (hp : p.rig.core.Sound) (hwilling : Willing p.rig.gpu.device) :
    ∃ after, install pointMap p = .ok true after ∧ Exchanged pointMap p after
      ∧ after.pipelines ≠ [] :=
  install_of_willing hp hwilling regular_bootstrapTables.fit (findEntryPoints_pointMap hp)
    (List.cons_ne_nil _ _)

theorem loadShader_point {p : Player} (hp : p.rig.core.Sound)
    (hwilling : Willing p.rig.gpu.device) :
    ∃ after, loadShader pointText p = .ok true after
      ∧ Exchanged pointMap (p.informed pointText) after ∧ after.pipelines ≠ [] :=
  loadShader_of_willing hp hwilling (preprocessing_point p) regular_bootstrapTables.fit
    (findEntryPoints_pointMap hp) (List.cons_ne_nil _ _)

end ShaderPlayer.Player
