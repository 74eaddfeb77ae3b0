/-
The frames that a player's device was told.

Whatever is asked for, the device is told of frames only by encoding them, and a frame is encoded
with what is installed and bound at that moment.

* `RunEnds` — what installing comes to for the shader that runs, whatever its tables are;
* `keepsLedger_install`, `keepsLedger_resize` and the like — operations that replace what is
  installed or bound tell the device nothing of frames;
* `Recorded` — what runs was made of the installed source map, and every frame that was told of
  pipelines that ran then, with what suited the host;
* `recorded_of_reachable` — this holds in every state that a player gets into;
* `encodeFrame_told` — and one frame more is told wherever one is encoded.
-/
import ShaderPlayer.Proofs.Bindings.Encoding
import ShaderPlayer.Proofs.Player.Exchange

namespace ShaderPlayer.Player

open Gpu Shader

/-! ### What runs -/

/-- Pipelines were made of a source map: one for each entry point of its unit, in their order and
from one module. -/
structure Compiled (m : SourceMap) (pipelines : List Pipeline) : Prop where
  made : ∃ (header : Text) (points : List EntryPoint) (module : ShaderModule)
      (layout : Option PipelineLayout),
    module.code = header ++ m.source ∧ findEntryPoints module.code = .ok points
      ∧ List.Forall₂
          (fun point p => ∃ number, p
            = (Pipeline.ofEntryPoint m point ⟨number, layout, module, point.name⟩).limited)
          points pipelines

theorem Swapped.compiled {m : SourceMap} {p after : Player} (h : Swapped m p after) :
    Compiled m after.pipelines := by
  obtain ⟨points, module, hpoints, hcode, hpipelines⟩ := h.pipelines
  refine ⟨_, points, module, p.layout, hcode, ?_, hpipelines⟩
  rw [hcode]
  exact hpoints

theorem compiled_of_build {m : SourceMap} {p : Player} {pipelines : List Pipeline} {w : Workbench}
    (h : p.build m = .ok pipelines w) : Compiled m (pipelines.map Pipeline.limited) := by
  have heq := Workbench.compile_eq p.rig.host p.layout m ⟨p.rig.gpu, #[]⟩
  unfold build at h
  rw [h] at heq
  rcases hpoints : findEntryPoints (p.unitOf m) with digits | points
  all_goals
    unfold unitOf at hpoints
    rw [hpoints] at heq
    dsimp only at heq
  · cases heq
  · rcases hmake : Workbench.makeAll m p.layout (p.unitOf m) points p.rig.gpu with
      ⟨made, gpu⟩ | ⟨fault, gpu⟩
    all_goals
      have hmake' := hmake
      unfold unitOf at hmake'
      rw [hmake'] at heq
    · cases heq
      obtain ⟨module, hcode, hmade⟩ := Workbench.makeAll_ok hmake
      refine ⟨_, points, module, p.layout, hcode, ?_, List.forall₂_map_right_iff.mpr ?_⟩
      · rw [hcode]
        exact hpoints
      · refine hmade.imp ?_
        rintro point pipeline ⟨number, rfl⟩
        exact ⟨number, rfl⟩
    · cases heq

/-- A pipeline has the settings of its entry point. -/
theorem Compiled.settings {m : SourceMap} {installed : List Pipeline} (h : Compiled m installed)
    {p : Pipeline} (hp : p ∈ installed) :
    p.once = (m.dispatchOnce.lookup p.compiled.entry).isSome
      ∧ p.repeats = min ((m.dispatchCounts.lookup p.compiled.entry).getD 1) maxDispatches := by
  obtain ⟨_, _, _, _, _, _, hpipelines⟩ := h.made
  obtain ⟨point, _, number, rfl⟩ := exists_of_mem_forall₂ hpipelines hp
  exact ⟨rfl, rfl⟩

/-- The shader that runs is the one from before, and its frames go on being counted. -/
structure RunsOn (p after : Player) : Prop where
  map : after.map = p.map
  pipelines : after.pipelines = p.pipelines
  frames : after.frames = p.frames

theorem RunsOn.refl (p : Player) : RunsOn p p := ⟨rfl, rfl, rfl⟩

theorem RunsOn.trans {p q r : Player} (h : RunsOn p q) (h' : RunsOn q r) : RunsOn p r :=
  ⟨h'.map.trans h.map, h'.pipelines.trans h.pipelines, h'.frames.trans h.frames⟩

theorem RunsOn.compiled {p after : Player} (h : RunsOn p after)
    (hp : Compiled p.map p.pipelines) : Compiled after.map after.pipelines := by
  rw [h.map, h.pipelines]
  exact hp

theorem Same.runsOn {p after : Player} (h : Same p after) : RunsOn p after :=
  ⟨congrArg Core.map h.core, congrArg Core.pipelines h.core, h.frames⟩

theorem Renamed.runsOn {pairs : List (Text × Double)} {p after : Player}
    (h : Renamed pairs p after) : RunsOn p after :=
  ⟨congrArg Laid.map h.laid, congrArg Laid.pipelines h.laid, h.frames⟩

theorem runsOn_onRig {α : Type} (op : Rig.Op α) (p : Player) : RunsOn p (left (onRig op p)) := by
  unfold onRig
  rcases op p.rig with ⟨a, rig⟩ | ⟨fault, rig⟩ <;> exact ⟨rfl, rfl, rfl⟩

/-- What giving a player a source map comes to for what runs. -/
inductive RunEnds (m : SourceMap) (p : Player) : EStateM.Result Fault Player Bool → Prop
  /-- The source map runs from here on. -/
  | started {after : Player} (map : after.map = m) (compiled : Compiled m after.pipelines)
      (frames : after.frames = 0) : RunEnds m p (.ok true after)
  | refused {after : Player} (runsOn : RunsOn p after) : RunEnds m p (.ok false after)
  | raised {fault : Fault} {after : Player} (runsOn : RunsOn p after) :
      RunEnds m p (.error fault after)

theorem runEnds_install (m : SourceMap) (p : Player) : RunEnds m p (install m p) := by
  rcases hinstall : install m p with ⟨_ | _, after⟩ | ⟨fault, after⟩
  · exact .refused (same_of_install_false hinstall).runsOn
  · rcases hbuild : p.build m with ⟨pipelines, w⟩ | ⟨fault, w⟩
    · -- what was built is swapped in, and that ends only if the tables could be set
      rw [install_of_built hbuild, run_bind_eq_ok_iff] at hinstall
      obtain ⟨_, _, hswap, hend⟩ := hinstall
      obtain ⟨_, noted, _, hswap⟩ := run_bind_eq_ok_iff.mp hswap
      obtain ⟨_, between, _, hswap⟩ := run_bind_eq_ok_iff.mp hswap
      cases hswap
      cases hend
      exact .started rfl (compiled_of_build hbuild) rfl
    · have hends := installEnds_of_error hbuild
      rw [hinstall] at hends
      cases hends with
      | exchanged exchanged => exact .started exchanged.map exchanged.compiled exchanged.frames
  · obtain ⟨hmap, hpipelines, hframes⟩ := running_of_install_error hinstall
    exact .raised ⟨hmap, hpipelines, hframes⟩

theorem runEnds_loadShader {p : Player} (hp : p.rig.core.Sound) (text : Text) :
    RunEnds (p.preprocessing text).1.source p (loadShader text p) := by
  -- what preprocessing leaves runs what the player ran
  have hinformed : RunsOn p (p.informed text) := ⟨rfl, rfl, rfl⟩
  have hends := loadEnds_loadShader hp text
  generalize loadShader text p = result at hends ⊢
  cases hends with
  | exchanged _ exchanged => exact .started exchanged.map exchanged.compiled exchanged.frames
  | refused same => exact .refused (hinformed.trans same.runsOn)
  | raised same => exact .raised (hinformed.trans same.runsOn)

theorem RunEnds.compiled {m : SourceMap} {p : Player} {result : EStateM.Result Fault Player Bool}
    (h : RunEnds m p result) (hp : Compiled p.map p.pipelines) :
    Compiled (left result).map (left result).pipelines := by
  cases h with
  | started hmap compiled _ => exact hmap ▸ compiled
  | refused runsOn => exact runsOn.compiled hp
  | raised runsOn => exact runsOn.compiled hp

/-! ### Ledgers -/

/-- An operation leaves the ledger as it is. -/
abbrev KeepsLedger {α : Type} (ledger : Rig.Ledger) (op : Op α) : Prop :=
  Keeps (Tells fun r => r.rig.ledger = ledger) op

section Ledger

variable {ledger : Rig.Ledger}

theorem keepsLedger_onRig {α : Type} {op : Rig.Op α}
    (hop : Keeps (fun r => r.ledger = ledger) op) : KeepsLedger ledger (onRig op) :=
  keeps_onRig_of hop

theorem keepsLedger_swap (m : SourceMap) (pipelines : List Pipeline) :
    KeepsLedger ledger (swap m pipelines) :=
  keeps_bind (keeps_note _) fun _ =>
    keeps_bind (keepsLedger_onRig (Rig.keepsLedger_setTables _)) fun _ =>
    keeps_modify fun _ hp => hp

theorem keepsLedger_install (m : SourceMap) : KeepsLedger ledger (install m) :=
  keeps_install (keepsLedger_swap m)

theorem keepsLedger_loadShader (text : Text) : KeepsLedger ledger (loadShader text) :=
  keeps_loadShader keepsLedger_install text

theorem keepsLedger_setCustom (names values : Value) :
    KeepsLedger ledger (setCustom names values) := by
  refine keeps_bind (keeps_ofExcept _) fun names => keeps_bind keeps_get fun p =>
    keeps_bind (keepsLedger_onRig (Rig.keepsLedger_setCustomValues _ _)) fun _ => ?_
  refine keeps_ite (keeps_pure _) (keeps_bind (keepsLedger_install _) fun installed => ?_)
  refine keeps_ite (keeps_pure _) ?_
  exact keeps_bind (keepsLedger_onRig (Rig.keepsLedger_setCustom _)) fun _ => keeps_pure _

/-- The time starts anew in a block of the size that it has at the start. -/
theorem keepsLedger_reset (hsize : ledger.sizes.1 = Host.timeBlock.size) :
    KeepsLedger ledger reset := by
  refine keeps_bind (keepsLedger_onRig Rig.keepsLedger_reset) fun _ =>
    keeps_bind (keepsLedger_onRig (keeps_modify fun r hr => ?_)) fun _ =>
    keeps_modify fun _ hp => hp
  subst hr
  show Rig.Ledger.mk (Host.timeBlock.size, r.host.blockSizes.2) r.gpu.told = r.ledger
  rw [← hsize]
  rfl

theorem keepsLedger_resize (hsize : ledger.sizes.1 = Host.timeBlock.size) (width height : Value) :
    KeepsLedger ledger (resize width height) :=
  keeps_resize (fun width height => keepsLedger_onRig (Rig.keepsLedger_resize width height))
    (keepsLedger_reset hsize) keepsLedger_loadShader width height

end Ledger

/-! ### What is recorded -/

/-- Pipelines are some of those that were made of a source map. -/
def Due (due : List Pipeline) : Prop :=
  ∃ (m : SourceMap) (installed : List Pipeline), Compiled m installed ∧ due.Sublist installed

/-- What runs was made of the installed source map, and every frame of pipelines that ran. -/
structure Recorded (r : Profile) : Prop where
  rig : Rig.Recorded Due r.rig
  compiled : Compiled r.map r.pipelines

section Recorded

variable {p after : Player}

/-- What is encoded is told as one frame more. -/
theorem encodeFrame_told (hp : Tells Recorded p) :
    ∃ bound frame gpu commands, Rig.Suits bound p.rig.host
      ∧ Rig.Encoded p.rig.host bound p.due frame
      ∧ gpu.frames = p.rig.gpu.frames ++ [frame]
      ∧ encodeFrame p = .ok commands { p with rig := { p.rig with gpu } }
      ∧ Tells Recorded { p with rig := { p.rig with gpu } } := by
  have hdue : Due p.due := ⟨p.map, p.pipelines, hp.compiled, List.filter_sublist⟩
  obtain ⟨bound, frame, gpu, commands, hsuits, hencoded, hframes, hrun, hafter⟩ :=
    Rig.encodeFrame_told hp.rig hdue
  exact ⟨bound, frame, gpu, commands, hsuits, hencoded, hframes, onRig_of_ok hrun, hafter,
    hp.compiled⟩

/-- A frame is dispatched and counted. -/
theorem render_told (hp : Tells Recorded p) :
    ∃ bound frame after, Rig.Suits bound p.rig.host ∧ Rig.Encoded p.rig.host bound p.due frame
      ∧ render p = .ok () after ∧ after.rig.gpu.frames = p.rig.gpu.frames ++ [frame]
      ∧ after.map = p.map ∧ after.pipelines = p.pipelines ∧ after.frames = p.frames + 1 := by
  obtain ⟨bound, frame, gpu, commands, hsuits, hencoded, hframes, hrun, _⟩ := encodeFrame_told hp
  refine ⟨bound, frame, _, hsuits, hencoded, run_bind_of_ok hrun, ?_, rfl, rfl, rfl⟩
  -- submitting is told behind the frame
  have hsubmitted : ({ gpu with calls := gpu.calls.push (.submit [commands]) } : State).told
      = gpu.told := told_push_of_not rfl
  exact (congrArg framesOf hsubmitted).trans hframes

theorem core_render (p : Player) : (left (render p)).core = p.core :=
  keeps_render (@keepsCore_encodeFrame fun c => c = p.core) p rfl

theorem keepsRecorded_onRig {op : Rig.Op Unit} (hsound : Rig.KeepsSound op)
    (hledger : ∀ ledger, Keeps (fun r => r.ledger = ledger) op) :
    Keeps (Tells Recorded) (onRig op) := by
  intro p hp
  exact ⟨keeps_onRig_of (Rig.keeps_recorded hsound hledger) p hp.rig,
    (runsOn_onRig op p).compiled hp.compiled⟩

theorem keepsRecorded_install (m : SourceMap) : Keeps (Tells Recorded) (install m) :=
  fun p hp => ⟨hp.rig.of_ledger (keepsSound_install m p hp.rig.sound) (keepsLedger_install m p rfl),
    (runEnds_install m p).compiled hp.compiled⟩

theorem keepsRecorded_loadShader (text : Text) : Keeps (Tells Recorded) (loadShader text) :=
  fun p hp => ⟨hp.rig.of_ledger (keepsSound_loadShader text p hp.rig.sound)
    (keepsLedger_loadShader text p rfl),
    (runEnds_loadShader hp.rig.sound text).compiled hp.compiled⟩

theorem keepsRecorded_reset : Keeps (Tells Recorded) reset := by
  intro p hp
  obtain ⟨after, hreset, hlaid, _⟩ := laid_reset hp.rig.sound
  have hmap : after.map = p.map := congrArg Laid.map hlaid
  have hpipelines : after.pipelines = p.pipelines := congrArg Laid.pipelines hlaid
  refine ⟨hp.rig.of_ledger (keepsSound_reset p hp.rig.sound)
    (keepsLedger_reset (congrArg Prod.fst hp.rig.sizes) p rfl), ?_⟩
  rw [hreset]
  show Compiled after.map after.pipelines
  rw [hmap, hpipelines]
  exact hp.compiled

theorem keepsRecorded_resize (width height : Value) :
    Keeps (Tells Recorded) (resize width height) :=
  keeps_resize (fun width height => keepsRecorded_onRig (Rig.keeps_resize width height) fun _ =>
    Rig.keepsLedger_resize width height) keepsRecorded_reset keepsRecorded_loadShader width height

theorem lasting_recorded : Lasting Recorded where
  encodeFrame := by
    intro p hp
    obtain ⟨_, _, _, _, _, _, _, hrun, hafter⟩ := encodeFrame_told hp
    rw [hrun]
    exact hafter
  loadShader := keepsRecorded_loadShader
  reset := keepsRecorded_reset
  resize := keepsRecorded_resize
  loadChannel := fun index data => keepsRecorded_onRig (Rig.keeps_loadChannel index data) fun _ =>
    Rig.keepsLedger_loadChannel index data

/-- What setting custom uniforms comes to for what runs: the installed source map is started again,
or goes on. -/
theorem runs_setCustom (hp : p.rig.core.Sound) (names values : Value) :
    RunsOn p (left (setCustom names values p))
      ∨ ∃ after, p.recompiled? names values = some (.ok true after)
        ∧ setCustom names values p = .ok true after ∧ RunEnds p.map p (.ok true after) := by
  have hends := customEnds_setCustom hp names values
  generalize setCustom names values p = result at hends ⊢
  cases hends with
  | faulty => exact .inl (.refl p)
  | set renamed _ => exact .inl renamed.runsOn
  | @compiled pairs given after renamed again installed =>
    have hends := runEnds_install p.map given
    rw [installed] at hends again
    cases hends with
    | started map compiled frames => exact .inr ⟨after, again, rfl, .started map compiled frames⟩
  | restored renamed refused restored =>
    have hrefused := (same_of_install_false refused).runsOn
    exact .inl ((renamed.runsOn.trans hrefused).trans restored.runsOn)
  | @raised pairs given after fault renamed _ raised =>
    have hends := runEnds_install p.map given
    rw [raised] at hends
    cases hends with
    | raised runsOn => exact .inl (renamed.runsOn.trans runsOn)

theorem keepsRecorded_setCustom (names values : Value) :
    Keeps (Tells Recorded) (setCustom names values) := by
  intro p hp
  refine ⟨hp.rig.of_ledger (keepsSound_setCustom names values p hp.rig.sound)
    (keepsLedger_setCustom names values p rfl), ?_⟩
  rcases runs_setCustom hp.rig.sound names values with hruns | ⟨after, _, hrun, hends⟩
  · exact hruns.compiled hp.compiled
  · rw [hrun]
    exact hends.compiled hp.compiled

end Recorded

theorem keepsRecorded_perform (act : Act) : Keeps (Tells Recorded) act.perform := by
  cases act with
  | install m => exact keeps_discard (keepsRecorded_install m)
  | setCustom names values => exact keeps_discard (keepsRecorded_setCustom names values)
  | setTables tables =>
    exact keepsRecorded_onRig (Rig.keeps_setTables tables) fun _ => Rig.keepsLedger_setTables tables
  | setCustomDirectly names values =>
    exact keepsRecorded_onRig (Rig.keeps_setCustomValues names values) fun _ =>
      Rig.keepsLedger_setCustomValues names values
  | resizeDirectly width height =>
    exact keepsRecorded_onRig (Rig.keeps_resize width height) fun _ =>
      Rig.keepsLedger_resize width height
  | resetDirectly =>
    exact keepsRecorded_onRig Rig.keeps_reset fun _ => Rig.keepsLedger_reset
  | _ => exact keeps_perform lasting_recorded rfl

/-- Nothing is told of frames while bindings are connected. -/
theorem ledger_of_make {settings : Settings} {device : Device} {outside : Outside} {p : Player}
    (hmade : make settings device outside = .ok () p) :
    p.rig.ledger = ⟨Rig.standardSizes, []⟩ := by
  obtain ⟨width, height, rig, _, hconnect, rfl⟩ := make_eq hmade
  have hkeeps := @Rig.keepsLedger_connect ⟨Rig.standardSizes, []⟩
    { host := .start width height settings.wide settings.storageSize, gpu := { device } } rfl
  rw [hconnect] at hkeeps
  exact hkeeps

theorem recorded_of_make {settings : Settings} {device : Device} {outside : Outside} {p : Player}
    (hmade : make settings device outside = .ok () p) : Tells Recorded p := by
  have hsound := sound_of_make hmade
  have hledger := ledger_of_make hmade
  obtain ⟨width, height, rig, _, _, rfl⟩ := make_eq hmade
  refine ⟨⟨hsound, congrArg Rig.Ledger.sizes hledger, ?_⟩,
    ⟨[], [], ⟨0, [], []⟩, none, rfl, ?_, .nil⟩⟩
  · show ∀ frame ∈ framesOf rig.ledger.told, _
    rw [show rig.ledger = _ from hledger]
    exact fun _ h => absurd h List.not_mem_nil
  · decide +kernel

/-- Every frame that a player's device was told was encoded with what suited the host then. -/
theorem recorded_of_reachable {p : Player} (hp : Reachable p) : Tells Recorded p := by
  induction hp with
  | made hmade => exact recorded_of_make hmade
  | acted act _ ih => exact keepsRecorded_perform act _ ih
  | elsewhere _ _ _ _ _ ih => exact ih

end ShaderPlayer.Player
