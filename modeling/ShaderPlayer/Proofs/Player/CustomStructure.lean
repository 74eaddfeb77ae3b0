/-
The structure of custom uniforms in the running shader.

Pipelines read custom uniforms through the structure that was compiled into them, and the host
writes them by its own names.  The two are in step as long as other names always compile the
installed source map again:

* `Laid.InStep` — the pipelines were compiled with the names that the host has;
* `custom_structure` — this holds in every session in which names change with a shader only,
  and in which compiling again does not break off;
* `custom_structure_unread` — a verdict of the device that cannot be read breaks it off, and then
  it does not hold;
* `custom_structure_unloaded` — nor does it where pipelines run that no shader was loaded for.
-/
import ShaderPlayer.Proofs.Player.CustomUniforms
import ShaderPlayer.Proofs.Shader.Structures

namespace ShaderPlayer.Player

open Gpu Shader

/-- The pipelines were compiled with the names of the custom uniforms that the host has. -/
def Laid.InStep (l : Laid) : Prop :=
  ∀ pipeline ∈ l.pipelines, pipeline.compiled.module.code = unitText l.map l.customNames l.wide

/-- What is asked for leaves the names in step: if the source map is compiled again, this comes to
an end, and without a shader to compile the names stay or nothing runs. -/
def Act.Steady (p : Player) : Act → Prop
  | setCustom names values =>
    (∀ fault after, p.recompiled? names values ≠ some (.error fault after))
      ∧ (p.shader = none → p.pipelines = []
          ∨ (left (Player.setCustom names values p)).rig.host.customNames = p.rig.host.customNames)
  | _ => True

theorem inStep_of_exchanged : Brought Laid.InStep := by
  intro m p after _ _ hafter pipeline hpipeline
  obtain ⟨_, _, _, _, hlaid⟩ := hafter.laid
  have hcode : pipeline.compiled.module.code = p.unitOf m := hafter.code hpipeline
  rw [hlaid]
  exact hcode

theorem inStep_of_renamed {pairs : List (Text × Double)} {p given : Player}
    (hgiven : Renamed pairs p given) (hp : p.laid.InStep)
    (hsame : pairs.map (·.1) = p.rig.host.customNames ∨ p.pipelines = []) : given.laid.InStep := by
  intro pipeline hpipeline
  rw [hgiven.laid] at hpipeline ⊢
  rcases hsame with hsame | hnone
  · have hcode := hp pipeline hpipeline
    show pipeline.compiled.module.code = unitText p.map (pairs.map (·.1)) p.rig.host.wide
    rw [hsame]
    exact hcode
  · have hnil : p.laid.pipelines = [] := hnone
    dsimp only at hpipeline
    rw [hnil] at hpipeline
    exact absurd hpipeline List.not_mem_nil

theorem upheld_inStep : Upheld (fun p act => act.Orderly ∧ act.Steady p) Laid.InStep where
  orderly := And.left
  start := by
    intro settings device outside p hmade pipeline hpipeline
    obtain ⟨_, _, _, _, hlaid⟩ := laid_of_make hmade
    rw [hlaid] at hpipeline
    exact absurd hpipeline List.not_mem_nil
  exchanged := inStep_of_exchanged
  set := by
    intro p names values pairs given hallowed hp hgiven hset hsame
    refine inStep_of_renamed hgiven hp ?_
    rcases hsame with hsame | hnone
    · exact .inl hsame
    · rcases hallowed.2.2 hnone with hnil | hkept
      · exact .inr hnil
      · rw [hset] at hkept
        have hnames : given.rig.host.customNames = pairs.map (·.1) := congrArg Laid.customNames hgiven.laid
        exact .inl (hnames.symm.trans hkept)
  raised := by
    intro p names values pairs given fault after hallowed _ _ hagain
    exact absurd hagain (hallowed.2.1 fault after)

/-- Where names change with a shader only, and compiling again does not break off, the structure of
custom uniforms that pipelines were compiled with has the fields of the host's block, in its
order. -/
theorem custom_structure {p : Player}
    (hp : Session (fun p act => act.Orderly ∧ act.Steady p) p) :
    p.rig.host.custom.fields = Host.floatFields 0 p.rig.host.customNames
      ∧ ∀ pipeline ∈ p.pipelines, ∃ text,
        pipeline.compiled.module.code = p.map.extensions ++ text ++ p.map.source
          ∧ fieldsOf "Custom".toList text
            = p.rig.host.customNames.map fun name => (name, "float".toList) := by
  obtain ⟨hsound, _, hstep⟩ := Session.upheld upheld_inStep hp
  obtain ⟨word, _, hcustom⟩ := hsound.tidy.filled
  have hfilled : p.rig.host.custom = Host.filled p.rig.host.customNames word := hcustom
  refine ⟨congrArg UniformBlock.fields hfilled, fun pipeline hpipeline => ?_⟩
  have hnames := hsound.tidy.proper.identifiers
  exact ⟨_, hstep pipeline hpipeline, fieldsOf_prelude_custom hnames p.map.tables p.rig.host.wide⟩

theorem custom_structure_renamed :
    ∃ p, Session (fun p act => act.Orderly ∧ act.Steady p) p ∧ p.pipelines ≠ []
      ∧ ∀ pipeline ∈ p.pipelines, ∃ text,
        pipeline.compiled.module.code = p.map.extensions ++ text ++ p.map.source
          ∧ fieldsOf "Custom".toList text = [(['a'], "float".toList)] := by
  obtain ⟨p, hp, hdevice, hshader, hmap, hnames, _⟩ :=
    exists_running (fun p act => act.Orderly ∧ act.Steady p) (fun _ => ⟨trivial, trivial⟩) {}
  obtain ⟨given, hrenamed, hagain, hrun⟩ :=
    exists_renamed (sound_of_reachable hp.reachable) hshader hmap hnames
  have hwilling : Willing given.rig.gpu.device := by
    rw [hrenamed.served, hdevice]
    exact willing_default
  obtain ⟨after, hinstall, hexchanged, hpipelines⟩ := install_point hrenamed.sound hwilling
  have hset : setCustom oneName oneValue p = .ok true after := by
    rw [hrun, run_bind_of_ok hinstall]
    rfl
  have hsteady : (Act.setCustom oneName oneValue).Steady p := by
    refine ⟨fun fault again h => ?_, fun hnone => ?_⟩
    · rw [hagain, hinstall] at h
      cases h
    · cases hshader.symm.trans hnone
  have hafter : Session (fun p act => act.Orderly ∧ act.Steady p) after :=
    hp.renamed ⟨trivial, hsteady⟩ hset
  have hone : after.rig.host.customNames = [['a']] :=
    hexchanged.customNames.trans (congrArg Laid.customNames hrenamed.laid)
  refine ⟨after, hafter, hpipelines, fun pipeline hpipeline => ?_⟩
  have hstructure := (custom_structure hafter).2 pipeline hpipeline
  rw [hone] at hstructure
  exact hstructure

/-- Pipelines whose structure has a name that the host does not have. -/
def OutOfStep (p : Player) (name : Text) : Prop :=
  p.rig.host.customNames = [name] ∧ ∃ pipeline ∈ p.pipelines, ∃ text,
    pipeline.compiled.module.code = p.map.extensions ++ text ++ p.map.source
      ∧ fieldsOf "Custom".toList text = [(placeholder, "float".toList)]

theorem outOfStep_of_kept {p after : Player} (hp : p.rig.core.Sound) (hmap : after.map = p.map)
    (hnames : p.rig.host.customNames = [placeholder]) (hpipelines : p.pipelines ≠ [])
    (hcode : p.laid.InStep) (hkept : after.pipelines = p.pipelines) {name : Text}
    (hafter : after.rig.host.customNames = [name]) : OutOfStep after name := by
  obtain ⟨pipeline, hpipeline⟩ := List.exists_mem_of_ne_nil _ hpipelines
  have hprelude := fieldsOf_prelude_custom hp.tidy.proper.identifiers p.map.tables p.rig.host.wide
  refine ⟨hafter, pipeline, hkept ▸ hpipeline, _, ?_, hprelude.trans ?_⟩
  · rw [hmap]
    exact hcode pipeline hpipeline
  · show p.rig.host.customNames.map _ = _
    rw [hnames]
    rfl

/-- A device that refuses the shader with the new name, and names the line of the error with many
zeros before it: the name stays, and the structure has the one from before. -/
theorem custom_structure_unread :
    let message : Text := ':' :: (List.replicate 4299 '0' ++ "77".toList ++ ":1".toList)
    ∃ p, Session (fun _ act => act.Orderly) p
      ∧ (∀ module, p.rig.gpu.device.refusesModule module = some ⟨.validation, message⟩)
      ∧ ∃ fault after, setCustom oneName oneValue p = .error fault after
        ∧ Session (fun _ act => act.Orderly) after ∧ OutOfStep after ['a'] := by
  intro message
  obtain ⟨p, hp, hdevice, hshader, hmap, hnames, hpipelines, hcode⟩ :=
    exists_running (fun _ act => act.Orderly) (fun _ => trivial) (refusing message)
  have hsound := sound_of_reachable hp.reachable
  have hrefuses : ∀ module, p.rig.gpu.device.refusesModule module = some ⟨.validation, message⟩ := by
    intro module
    rw [hdevice]
    rfl
  have hlong : maxDigits < (List.replicate 4299 '0' ++ "77".toList).length := by
    rw [List.length_append, List.length_replicate]
    decide
  have hseen : ∀ offset, Workbench.seenFrom pointMap offset (.refused .validation message)
      = .numeral (List.replicate 4299 '0' ++ "77".toList).length := fun offset =>
    Workbench.seenFrom_unread pointMap offset rfl (firstPlace_zeros 4299) hlong
  obtain ⟨after, hset, hkeptMap, hkept, hafter⟩ :=
    setCustom_of_fault hsound hshader hmap hnames hrefuses hseen (fun r h => by cases h)
  exact ⟨p, hp, hrefuses, _, after, hset, hp.renamed trivial hset,
    outOfStep_of_kept hsound hkeptMap hnames hpipelines hcode hkept hafter⟩

/-- Pipelines of a source map that was given as it was, with no shader: another name does not
compile it again, though the device refuses nothing. -/
theorem custom_structure_unloaded :
    ∃ p, Session (fun _ act => act.Orderly) p ∧ Willing p.rig.gpu.device
      ∧ ∃ after, setCustom oneName oneValue p = .ok true after
        ∧ Session (fun _ act => act.Orderly) after ∧ OutOfStep after ['a'] := by
  obtain ⟨start, hmade, hhost, hwilling⟩ := exists_willing
  obtain ⟨between, hinstall, hexchanged, hpipelines⟩ := install_point (sound_of_make hmade) hwilling
  have hbetween : Session (fun _ act => act.Orderly) between :=
    Session.installed (.made hmade) (preprocessed_point start) hinstall
  -- the device may have changed its mind while it compiled
  let p : Player := { between with rig.gpu.device := start.rig.gpu.device }
  have hp : Session (fun _ act => act.Orderly) p :=
    .elsewhere start.rig.gpu.device between.outside between.clock between.logicalSize hbetween
  have hsound := sound_of_reachable hp.reachable
  have hshader : p.shader = none := by
    obtain ⟨width, height, rig, _, _, rfl⟩ := make_eq hmade
    exact hexchanged.shader
  have hnames : p.rig.host.customNames = [placeholder] := by
    refine hexchanged.customNames.trans ?_
    rw [hhost]
    rfl
  have hinstalled : between.laid.InStep :=
    inStep_of_exchanged regular_bootstrapTables (sound_of_make hmade) hexchanged
  have hstep : p.laid.InStep := hinstalled
  have hitems : oneName.items = .ok [.text ['a']] := rfl
  have harguments : Host.customArguments oneName oneValue = .ok ([['a']], [.zero false]) := rfl
  obtain ⟨after, hrenamed, _, hrun⟩ := setCustom_eq hsound hitems harguments
  have hset : setCustom oneName oneValue p = .ok true after := by
    rw [hrun, compileAgain, if_pos]
    · rfl
    · rw [hshader]
      exact Bool.or_true _
  refine ⟨p, hp, hwilling, after, hset, hp.renamed trivial hset, ?_⟩
  exact outOfStep_of_kept hsound (congrArg Laid.map hrenamed.laid) hnames hpipelines hstep
    (congrArg Laid.pipelines hrenamed.laid) (congrArg Laid.customNames hrenamed.laid)

end ShaderPlayer.Player
