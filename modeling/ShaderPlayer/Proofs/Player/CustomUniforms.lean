/-
Custom uniforms are set as a whole, or not at all.

* `Running` — the shader that runs, with the custom uniforms as the host keeps them and the
  size of the buffer that the shader reads them from;
* `setCustom_all_or_nothing` — an attempt that fails changes nothing of what runs, unless
  compiling again breaks off with a fault that is no error of the shader: then the new names
  stay (`setCustom_breakdown`).
-/
import ShaderPlayer.Proofs.Player.Session

namespace ShaderPlayer.Player

open Gpu Shader

/-! ### What runs -/

/-- What the pipelines of a player find at a binding. -/
def boundAt? (p : Player) (binding : Nat) : Option Resource :=
  p.rig.bound.bind (·.group.at? binding)

theorem boundAt?_complete {p : Player} {bound : Bound}
    (hbound : p.rig.connection = .complete bound) (binding : Nat) :
    p.boundAt? binding = bound.group.at? binding := by
  unfold boundAt? Rig.bound
  rw [hbound]
  rfl

/-- The size of the buffer that pipelines read custom uniforms from. -/
def customSize? (p : Player) : Option Int :=
  match p.boundAt? 5 with
  | some (.buffer buffer _) => some buffer.size
  | _ => none

/-- The shader that runs, and the custom uniforms of the host and the device. -/
structure Running where
  names : List Text
  values : List Double
  block : UniformBlock
  size : Option Int
  source : SourceMap
  pipelines : List Pipeline
  frames : Nat

/-- What runs in a player. -/
def running (p : Player) : Running where
  names := p.rig.host.customNames
  values := p.rig.host.customValues
  block := p.rig.host.custom
  size := p.customSize?
  source := p.map
  pipelines := p.pipelines
  frames := p.frames

theorem customSize_of_sound {p : Player} (hp : p.rig.core.Sound) :
    p.customSize? = some (p.rig.host.custom.size : Int) := by
  obtain ⟨bound, hbound, hsuits⟩ := hp.bound
  unfold customSize?
  rw [boundAt?_complete hbound, hsuits.binds.at_custom]
  exact congrArg some hsuits.custom

/-- What runs is told from the layout, for sound players. -/
theorem running_of_laid {p after : Player} (hp : p.rig.core.Sound) (hafter : after.rig.core.Sound)
    (hlaid : after.laid = p.laid) (hframes : after.frames = p.frames) :
    after.running = p.running := by
  have hnames : after.rig.host.customNames = p.rig.host.customNames :=
    congrArg Laid.customNames hlaid
  have hcustom : after.rig.host.custom = p.rig.host.custom := congrArg Laid.custom hlaid
  have hvalues : after.rig.host.customValues = p.rig.host.customValues := by
    unfold Host.customValues
    rw [hnames, hcustom]
  have hmap : after.map = p.map := congrArg Laid.map hlaid
  have hpipelines : after.pipelines = p.pipelines := congrArg Laid.pipelines hlaid
  unfold running
  rw [customSize_of_sound hp, customSize_of_sound hafter, hnames, hvalues, hcustom, hmap,
    hpipelines, hframes]

/-! ### All or nothing -/

/-- Where setting custom uniforms fails, in any state that a player gets into, the shader that
runs goes on as before.  All that it shares with the host stays as it was, too, unless compiling
again breaks off with a fault that is no error of the shader. -/
theorem setCustom_all_or_nothing {p : Player} (hp : Reachable p) {names values : Value}
    (hfails : ∀ after, setCustom names values p ≠ .ok true after) :
    let after := left (setCustom names values p)
    (after.map = p.map ∧ after.pipelines = p.pipelines ∧ after.frames = p.frames)
      ∧ ((∀ fault again, p.recompiled? names values ≠ some (.error fault again)) →
          after.running = p.running) := by
  have hsound := sound_of_reachable hp
  have hafter := keepsSound_setCustom names values p hsound
  have hends := customEnds_setCustom hsound names values
  generalize setCustom names values p = result at hfails hafter hends ⊢
  dsimp only
  cases hends with
  | faulty => exact ⟨⟨rfl, rfl, rfl⟩, fun _ => rfl⟩
  | set => exact absurd rfl (hfails _)
  | compiled => exact absurd rfl (hfails _)
  -- what was set is taken back, and the layout tells what runs
  | @restored pairs given between after renamed refused restored =>
    have hsame := same_of_install_false refused
    have hlaid := laid_restored hsound renamed hsame restored
    have hframes : after.frames = p.frames :=
      calc after.frames = between.frames := restored.frames
        _ = given.frames := hsame.frames
        _ = p.frames := renamed.frames
    exact ⟨⟨congrArg Laid.map hlaid, congrArg Laid.pipelines hlaid, hframes⟩,
      fun _ => running_of_laid hsound hafter hlaid hframes⟩
  | @raised pairs given after fault renamed again raised =>
    obtain ⟨hmap, hpipelines, hframes⟩ := running_of_install_error raised
    refine ⟨⟨?_, ?_, hframes.trans renamed.frames⟩, fun hagain => ?_⟩
    · exact hmap.trans (congrArg Laid.map renamed.laid)
    · exact hpipelines.trans (congrArg Laid.pipelines renamed.laid)
    · rw [raised] at again
      exact absurd again (hagain _ _)

theorem setCustom_refused :
    ∃ p, Reachable p ∧ p.pipelines ≠ [] ∧ ∃ after, setCustom oneName oneValue p = .ok false after
      ∧ after.running = p.running := by
  obtain ⟨p, hsession, hdevice, hshader, hmap, hnames, hpipelines, _⟩ :=
    exists_running (fun _ _ => True) (fun _ => trivial) (refusing "no".toList)
  have hp := hsession.reachable
  have hsound := sound_of_reachable hp
  obtain ⟨given, hrenamed, hagain, hrun⟩ := exists_renamed hsound hshader hmap hnames
  have hrefuses : ∀ module, given.rig.gpu.device.refusesModule module
      = some ⟨.validation, "no".toList⟩ := by
    intro module
    rw [hrenamed.served, hdevice]
    rfl
  obtain ⟨w, hbuild⟩ := build_point_of_refused hrenamed.sound hrefuses
  -- the message names no line
  have hseen : Workbench.seenFrom pointMap (given.offsetOf pointMap) (.refused .validation "no".toList)
      = .shader ((Cause.refused "no".toList).report 0) := rfl
  obtain ⟨between, hinstall, _⟩ := install_of_shader (hseen ▸ hbuild)
  have hbetween : between.rig.core.Sound := by
    have hkeeps := keepsSound_install pointMap given hrenamed.sound
    rwa [hinstall] at hkeeps
  obtain ⟨after, hback, _⟩ := renamed_setCustom hbetween (proper_back hsound)
  have hset : setCustom oneName oneValue p = .ok false after := by
    rw [hrun, run_bind_of_ok hinstall]
    exact run_bind_of_ok hback
  have hfails : ∀ after, setCustom oneName oneValue p ≠ .ok true after := by
    intro other h
    cases hset.symm.trans h
  refine ⟨p, hp, hpipelines, after, hset, ?_⟩
  have hnothing := setCustom_all_or_nothing hp hfails
  rw [hset] at hnothing
  refine hnothing.2 fun fault again h => ?_
  rw [hagain, hinstall] at h
  cases h

/-- A device that breaks down while it compiles again: the new name stays, and the shader that
runs does not know it. -/
theorem setCustom_breakdown :
    ∃ p, Reachable p ∧ p.pipelines ≠ [] ∧ p.rig.host.customNames = [placeholder]
      ∧ ∃ fault after, setCustom oneName oneValue p = .error fault after
        ∧ after.pipelines = p.pipelines ∧ after.rig.host.customNames = [['a']]
        ∧ after.running ≠ p.running := by
  let refusal : Refusal := ⟨.breakdown, "lost".toList⟩
  obtain ⟨p, hsession, hdevice, hshader, hmap, hnames, hpipelines, _⟩ :=
    exists_running (fun _ _ => True) (fun _ => trivial)
      { refusesModule := fun _ => some refusal }
  have hp := hsession.reachable
  have hrefuses : ∀ module, p.rig.gpu.device.refusesModule module = some refusal := by
    intro module
    rw [hdevice]
  obtain ⟨after, hset, _, hkept, hafter⟩ := setCustom_of_fault (sound_of_reachable hp) hshader hmap
    hnames hrefuses (fun _ => rfl) (fun r h => by cases h)
  refine ⟨p, hp, hpipelines, hnames, _, after, hset, hkept, hafter, fun hsame => ?_⟩
  have heq := congrArg Running.names hsame
  cases hafter.symm.trans (heq.trans hnames)

end ShaderPlayer.Player
