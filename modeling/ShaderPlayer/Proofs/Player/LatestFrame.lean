/-
The shader of the latest frame.

Assertions fail while a frame runs, on the device, and their counters stay there until the next
frame.  The lines that are reported for them are those of the source map that is installed when the
counters are read, and another one may have been installed in between.

* `Tracked` — the states that a player gets into, with the source map that was installed when the
  latest frame was told, and the one that was installed since, if there is any;
* `map_perform`, `installed_of_draws` — what one operation comes to for these;
* `map_of_tracked` — so the installed source map is the one of the latest frame, unless another was
  installed since;
* `reports_latest_frame` — the lines that are reported are those of the shader that ran, if none
  was installed since the latest frame or if it has its assertions in the same lines;
* `reports_unseen` — otherwise failures are reported at lines of a shader that never ran.
-/
import ShaderPlayer.Proofs.Player.Assertions
import ShaderPlayer.Proofs.Player.Once

namespace ShaderPlayer.Player

open Gpu Shader

/-! ### Histories -/

/-- The source map that is installed by loading a text, if it can be. -/
def loaded? (p : Player) (text : Text) : Option SourceMap :=
  if succeeded (loadShader text p) then some (p.preprocessing text).1.source else none

/-- The source map that an operation installs, if it installs one. -/
def Act.installed? (p : Player) : Act → Option SourceMap
  | loadShader text => p.loaded? text
  | install m => if succeeded (Player.install m p) then some m else none
  | setCustom names values => if (p.recompiled? names values).any succeeded then some p.map else none
  | resize width height => do
    let (width, height) ← p.otherSize? width height
    (p.resized width height).loaded? (← p.shader)
  | _ => none

/-- Whether an operation tells the device of a frame. -/
def Act.draws (p : Player) (act : Act) : Prop :=
  p.rig.gpu.frames.length < (left (act.perform p)).rig.gpu.frames.length

instance (p : Player) (act : Act) : Decidable (act.draws p) :=
  inferInstanceAs (Decidable (_ < _))

/-- Whether an operation installs shaders, resets, dispatches frames or checks assertions. -/
def Act.tracked : Act → Bool
  | checkAssertions => true
  | act => act.plays

/-- The states that a player gets into by such operations, whether or not they break off.  The
first source map was installed when the latest frame was told, the second since then. -/
inductive Tracked : Player → Option SourceMap → Option SourceMap → Prop
  | made {settings : Settings} {device : Device} {outside : Outside} {p : Player}
      (made : make settings device outside = .ok () p) : Tracked p none none
  | acted {p : Player} {ran since : Option SourceMap} (act : Act) (tracked : act.tracked)
      (before : Tracked p ran since) :
      Tracked (left (act.perform p)) (if act.draws p then some p.map else ran)
        (if act.draws p then none else (act.installed? p).or since)
  | elsewhere {p : Player} {ran since : Option SourceMap} (device : Device) (outside : Outside)
      (clock : Double) (logicalSize : Value × Value) (before : Tracked p ran since) :
      Tracked { p with rig.gpu.device := device, outside, clock, logicalSize } ran since

section Tracked

variable {p : Player} {ran since : Option SourceMap}

theorem Tracked.reachable (hp : Tracked p ran since) : Reachable p := by
  induction hp with
  | made hmade => exact .made hmade
  | acted act _ _ ih => exact .acted act ih
  | elsewhere device outside clock logicalSize _ ih =>
    exact .elsewhere device outside clock logicalSize ih

end Tracked

/-! ### One operation -/

section Operation

variable {p : Player}

theorem RunEnds.map_left {m : SourceMap} {result : EStateM.Result Fault Player Bool}
    (h : RunEnds m p result) :
    (left result).map = (if succeeded result then some m else none).getD p.map := by
  cases h with
  | started map _ _ => exact map
  | refused runsOn => exact runsOn.map
  | raised runsOn => exact runsOn.map

theorem map_loadShader (hp : p.rig.core.Sound) (text : Text) :
    (left (loadShader text p)).map = (p.loaded? text).getD p.map :=
  (runEnds_loadShader hp text).map_left

theorem map_resize (hp : p.rig.core.Sound) (width height : Value) :
    (left (resize width height p)).map = ((Act.resize width height).installed? p).getD p.map := by
  rw [Act.installed?]
  rcases hother : p.otherSize? width height with _ | ⟨w, h⟩
  · rw [resize_of_none hother]
    rfl
  · obtain ⟨_, hwidened⟩ := widened_resized hp w h
    have hmap : (p.resized w h).map = p.map := congrArg Laid.map hwidened.laid
    rw [resize_of_some hp hother]
    rcases hshader : p.shader with _ | text
    · rw [reload_of_none (hwidened.shader.trans hshader)]
      exact hmap
    · rw [reload_of_some (hwidened.shader.trans hshader), map_loadShader hwidened.sound, hmap]
      rfl

/-- Other names compile the installed source map again, so it stays. -/
theorem map_setCustom (hp : p.rig.core.Sound) (names values : Value) :
    (left (setCustom names values p)).map
      = ((Act.setCustom names values).installed? p).getD p.map := by
  have hinstalled : ((Act.setCustom names values).installed? p).getD p.map = p.map := by
    rw [Act.installed?]
    split <;> rfl
  rw [hinstalled]
  rcases runs_setCustom hp names values with hruns | ⟨after, _, hrun, hends⟩
  · exact hruns.map
  · rw [hrun]
    exact hends.map_left

/-- An operation leaves the source map that it installs, or else the one from before. -/
theorem map_perform (hp : Tells Recorded p) {act : Act} (hact : act.tracked) :
    (left (act.perform p)).map = (act.installed? p).getD p.map := by
  have hsound : p.rig.core.Sound := hp.rig.sound
  cases act with
  | loadShader text =>
    rw [Act.perform, left_discard]
    exact map_loadShader hsound text
  | install m =>
    rw [Act.perform, left_discard]
    exact (runEnds_install m p).map_left
  | setCustom names values =>
    rw [Act.perform, left_discard]
    exact map_setCustom hsound names values
  | resize width height => exact map_resize hsound width height
  | reset =>
    obtain ⟨after, hreset, hlaid, _⟩ := laid_reset hsound
    rw [Act.perform, hreset]
    exact congrArg Laid.map hlaid
  | render =>
    obtain ⟨_, _, after, _, _, hrender, _, hmap, _⟩ := render_told hp
    rw [Act.perform, hrender]
    exact hmap
  | snapshot moment =>
    have hframe := @keepsCore_encodeFrame fun c => c.map = p.map
    rw [Act.perform, left_discard]
    exact keeps_snapshot hframe moment p rfl
  | checkAssertions =>
    rw [Act.perform, left_discard]
    exact @keeps_checkAssertions (fun r => r.map = p.map) p rfl
  | _ => cases hact

theorem not_draws_of_ledger {act : Act} (h : (left (act.perform p)).rig.ledger = p.rig.ledger) :
    ¬ act.draws p := by
  rw [Act.draws, frames_of_ledger h]
  exact Nat.lt_irrefl _

/-- What tells of a frame installs nothing. -/
theorem installed_of_draws (hp : Tells Recorded p) {act : Act} (h : act.draws p) :
    act.installed? p = none := by
  have hsizes : p.rig.ledger.sizes.1 = Host.timeBlock.size := congrArg Prod.fst hp.rig.sizes
  cases act with
  | loadShader text =>
    refine absurd h (not_draws_of_ledger ?_)
    rw [Act.perform, left_discard]
    exact keepsLedger_loadShader text p rfl
  | install m =>
    refine absurd h (not_draws_of_ledger ?_)
    rw [Act.perform, left_discard]
    exact keepsLedger_install m p rfl
  | setCustom names values =>
    refine absurd h (not_draws_of_ledger ?_)
    rw [Act.perform, left_discard]
    exact keepsLedger_setCustom names values p rfl
  | resize width height =>
    exact absurd h (not_draws_of_ledger (keepsLedger_resize hsizes width height p rfl))
  | _ => rfl

end Operation

/-! ### Histories of operations -/

/-- The installed source map is the one that was installed since the latest frame, or else the one
that was installed then. -/
theorem map_of_tracked {p : Player} {ran since : Option SourceMap} (hp : Tracked p ran since) :
    p.map = since.getD (ran.getD {}) := by
  induction hp with
  | made hmade =>
    obtain ⟨_, _, _, _, _, rfl⟩ := make_eq hmade
    rfl
  | @acted p ran since act hact before ih =>
    have hrecorded := recorded_of_reachable before.reachable
    rw [map_perform hrecorded hact]
    by_cases hdraws : act.draws p
    · rw [installed_of_draws hrecorded hdraws, if_pos hdraws, if_pos hdraws]
      rfl
    · rw [if_neg hdraws, if_neg hdraws, ih]
      cases act.installed? p <;> rfl
  | elsewhere _ _ _ _ _ ih => exact ih

/-! ### Reports -/

/-- Assertions are checked against lines, one counter for each. -/
def ChecksLines (p : Player) (lines : List Int) : Prop :=
  (∃ after, checkAssertions p
      = checkFrom p.rig.gpu.device.counters (p.size.1 * p.size.2) 0 lines after)
    ∧ (lines.length ≤ p.rig.gpu.device.counters.length →
        CheckEnds (p.size.1 * p.size.2) (failedLines p.rig.gpu.device.counters lines)
          (checkAssertions p))

theorem checksLines_of_sound {p : Player} (hp : p.rig.core.Sound) :
    p.ChecksLines p.map.assertLines.toList := by
  obtain ⟨bound, hbound, _⟩ := hp.bound
  obtain ⟨rig, hcheck⟩ := checkAssertions_eq hbound
  refine ⟨⟨_, hcheck⟩, fun hcounted => ?_⟩
  rw [← Nat.zero_add p.map.assertLines.toList.length] at hcounted
  rw [hcheck]
  exact checkFrom_ends hcounted _ _

theorem ChecksLines.returns {p : Player} {lines : List Int} (h : p.ChecksLines lines)
    (hcounted : lines.length ≤ p.rig.gpu.device.counters.length) (hsized : p.Sized) :
    ∃ after, checkAssertions p = .ok (failedLines p.rig.gpu.device.counters lines) after := by
  have hends := h.2 hcounted
  obtain ⟨x, hx⟩ := hsized.exists_double
  generalize checkAssertions p = result at hends ⊢
  cases hends with
  | checked => exact ⟨_, rfl⟩
  | tooMany none => rw [hx] at none; cases none

/-- After a frame, assertions are checked against the lines of what was installed since, if there
is anything.  These are the lines of the shader that ran exactly where nothing was installed since,
or what has its assertions in the same lines. -/
theorem reports_latest_frame {p : Player} {ran : SourceMap} {since : Option SourceMap}
    (hp : Tracked p (some ran) since) :
    p.ChecksLines (since.getD ran).assertLines.toList
      ∧ (p.map.assertLines = ran.assertLines
          ↔ ∀ m, since = some m → m.assertLines = ran.assertLines)
      ∧ ((∀ m, since = some m → m.assertLines = ran.assertLines) →
          p.ChecksLines ran.assertLines.toList) := by
  have hmap : p.map = since.getD ran := map_of_tracked hp
  have hchecks := checksLines_of_sound (sound_of_reachable hp.reachable)
  have hsame : p.map.assertLines = ran.assertLines
      ↔ ∀ m, since = some m → m.assertLines = ran.assertLines := by
    rw [hmap]
    cases since with
    | none => simp
    | some m => simp
  refine ⟨hmap ▸ hchecks, hsame, fun h => ?_⟩
  rw [← hsame.mpr h]
  exact hchecks

/-! ### Two shaders -/

section Tracked

variable {p after : Player} {ran since : Option SourceMap}

theorem Tracked.installed (hp : Tracked p ran since) {m : SourceMap}
    (h : install m p = .ok true after) : Tracked after ran (some m) := by
  have hinstalled : (Act.install m).installed? p = some m := by
    rw [Act.installed?, h]
    rfl
  have hdraws : ¬ (Act.install m).draws p := by
    intro hdraws
    rw [installed_of_draws (recorded_of_reachable hp.reachable) hdraws] at hinstalled
    cases hinstalled
  have hacted := hp.acted (.install m) rfl
  rw [if_neg hdraws, if_neg hdraws, hinstalled] at hacted
  rwa [Act.perform, left_discard, h] at hacted

theorem Tracked.rendered (hp : Tracked p ran since) :
    ∃ after, Tracked after (some p.map) none ∧ after.core = p.core := by
  have hrecorded := recorded_of_reachable hp.reachable
  obtain ⟨_, frame, after, _, _, hrender, htold, _⟩ := render_told hrecorded
  have hdraws : Act.render.draws p := by
    rw [Act.draws, Act.perform, hrender, left, htold, List.length_append]
    exact Nat.lt_succ_self _
  have hcore := core_render p
  have hacted := hp.acted .render rfl
  rw [if_pos hdraws, if_pos hdraws, Act.perform, hrender] at hacted
  rw [hrender] at hcore
  exact ⟨after, hacted, hcore⟩

end Tracked

/-- A shader with an assertion in its first line. -/
def earlyText : Text := "#assert a\n".toList ++ pointText

/-- Its source map. -/
def earlyMap : SourceMap where
  emitted := #[⟨"assert(0, a);".toList, 1⟩, ⟨pointLine, 2⟩]
  assertLines := #[1]

/-- A shader with an assertion in its third line. -/
def lateText : Text := '\n' :: '\n' :: earlyText

/-- Its source map. -/
def lateMap : SourceMap where
  emitted := #[⟨[], 1⟩, ⟨[], 2⟩, ⟨"assert(0, a);".toList, 3⟩, ⟨pointLine, 4⟩]
  assertLines := #[3]

theorem preprocessed_earlyMap : Preprocessed earlyMap :=
  ⟨Unit, Resolver.dictionary [], [], (), earlyText, by decide +kernel, by decide +kernel⟩

theorem preprocessed_lateMap : Preprocessed lateMap :=
  ⟨Unit, Resolver.dictionary [], [], (), lateText, by decide +kernel, by decide +kernel⟩

/-- A device that counts a failure of the first assertion. -/
def failing : Device := { counters := 1 :: List.replicate 9 0 }

theorem willing_failing : Willing failing := ⟨fun _ => rfl, fun _ => rfl⟩

/-- The device installs a source map without extensions and tables whose only entry point is
that of the shader. -/
theorem install_of_failing {m : SourceMap} {p : Player} (hp : p.rig.core.Sound)
    (hdevice : p.rig.gpu.device = failing) (hm : Preprocessed m) (hextensions : m.hoisted = #[])
    (htables : ∀ name ∈ m.tables.keys, name.isIdentifier)
    (hpoints : findEntryPoints m.source = .ok [⟨['f'], ⟨1, 1, 1⟩⟩]) :
    ∃ after, install m p = .ok true after ∧ after.size = p.size := by
  have hunit : findEntryPoints (p.unitOf m) = .ok [⟨['f'], ⟨1, 1, 1⟩⟩] := by
    rw [findEntryPoints_unitOf hp hextensions htables, hpoints]
  obtain ⟨after, hinstall, hexchanged, _⟩ := install_of_willing hp (hdevice ▸ willing_failing)
    (regular_of_preprocessed hm).fit hunit (List.cons_ne_nil _ _)
  exact ⟨after, hinstall, hexchanged.size⟩

/-- A player on the device, after a frame of the first shader. -/
theorem exists_drawn :
    ∃ p, Tracked p (some earlyMap) none ∧ p.rig.gpu.device = failing ∧ p.size = (8, 8) := by
  obtain ⟨p, hmade, hhost, _⟩ := exists_willing
  have hsize : p.size = (8, 8) := by
    rw [size, hhost]
    rfl
  have hp := Tracked.elsewhere failing p.outside p.clock p.logicalSize (.made hmade)
  obtain ⟨loaded, hinstall, hloaded⟩ := install_of_failing (sound_of_reachable hp.reachable) rfl
    preprocessed_earlyMap rfl (by decide) (by decide +kernel)
  have htracked := hp.installed hinstall
  obtain ⟨drawn, hdrawn, hcore⟩ := htracked.rendered
  rw [map_of_tracked htracked] at hdrawn
  exact ⟨_, .elsewhere failing drawn.outside drawn.clock drawn.logicalSize hdrawn, rfl,
    (size_of_core hcore).trans (hloaded.trans hsize)⟩

theorem sized_of_size {p : Player} (h : p.size = (8, 8)) : p.Sized := by
  rw [Sized, h]
  decide

/-- Right after a frame the failure is reported in the first line, where the assertion is. -/
theorem reports_latest_frame_drawn :
    ∃ p after, Tracked p (some earlyMap) none ∧ checkAssertions p = .ok [1] after := by
  obtain ⟨p, hp, hdevice, hsize⟩ := exists_drawn
  have hchecks := (reports_latest_frame hp).2.2 fun m hm => by cases hm
  obtain ⟨after, hcheck⟩ := hchecks.returns (by rw [hdevice]; decide) (sized_of_size hsize)
  rw [hdevice] at hcheck
  exact ⟨p, after, hp, hcheck⟩

/-- Once the second shader is installed, the failure is reported in its third line, though it
never ran. -/
theorem reports_unseen :
    ∃ p after, Tracked p (some earlyMap) (some lateMap) ∧ earlyMap.assertLines = #[1]
      ∧ lateMap.assertLines = #[3] ∧ checkAssertions p = .ok [3] after := by
  obtain ⟨drawn, hdrawn, hdevice, hsize⟩ := exists_drawn
  obtain ⟨loaded, hinstall, hloaded⟩ := install_of_failing (sound_of_reachable hdrawn.reachable)
    hdevice preprocessed_lateMap rfl (by decide) (by decide +kernel)
  have htracked := hdrawn.installed hinstall
  let p : Player := { loaded with rig.gpu.device := failing }
  have hp : Tracked p (some earlyMap) (some lateMap) :=
    .elsewhere failing loaded.outside loaded.clock loaded.logicalSize htracked
  have hchecks := checksLines_of_sound (sound_of_reachable hp.reachable)
  rw [map_of_tracked hp] at hchecks
  have hsized : p.Sized := sized_of_size (hloaded.trans hsize)
  have hcounted : lateMap.assertLines.toList.length ≤ failing.counters.length := by decide
  obtain ⟨after, hcheck⟩ := hchecks.returns hcounted hsized
  exact ⟨p, after, hp, rfl, rfl, hcheck⟩

end ShaderPlayer.Player
