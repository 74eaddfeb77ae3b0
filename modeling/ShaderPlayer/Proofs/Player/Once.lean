/-
Pipelines that are dispatched once.

A pipeline can be marked to run in the first frame only, and frames are counted from when what
is installed starts.  Several operations start it anew, others may fail to, and frames come between
them in any order.

* `Performed` — what a player is asked for, with the number of frames that the device had been told
  when the player started anew last;
* `PlayEnds` — what each operation comes to for the frames and their count;
* `counted_of_performed` — so the count and that number add up to the number of frames;
* `dispatches_due` — a frame dispatches every installed pipeline as often as it asks for, and one
  that is marked only if no frame was encoded since the player started anew;
* `once_undispatched` — this may be no time at all, also in the first frame.
-/
import ShaderPlayer.Gpu.Trace
import ShaderPlayer.Proofs.Player.DispatchNumbers
import ShaderPlayer.Proofs.Player.ScreenSize

namespace ShaderPlayer.Player

open Gpu Shader

/-! ### Histories -/

/-- Whether an operation installs shaders, resets or dispatches frames on its own. -/
def Act.plays : Act → Bool
  | loadShader _ | install _ | setCustom _ _ | resize _ _ | reset | render | snapshot _ => true
  | _ => false

/-- Whether a source map was installed. -/
def succeeded : EStateM.Result Fault Player Bool → Bool
  | .ok true _ => true
  | _ => false

/-- Whether the player starts anew: a source map is installed, or the player is reset, as a change
of size does. -/
def Act.restarts (p : Player) : Act → Bool
  | loadShader text => succeeded (Player.loadShader text p)
  | install m => succeeded (Player.install m p)
  | setCustom names values => (p.recompiled? names values).any succeeded
  | resize width height => (p.otherSize? width height).isSome
  | reset => true
  | _ => false

/-- The states that a player gets into by such operations, whether or not they break off, with the
number of frames that had been told when it started anew last. -/
inductive Performed : Player → Nat → Prop
  | made {settings : Settings} {device : Device} {outside : Outside} {p : Player}
      (made : make settings device outside = .ok () p) : Performed p 0
  | acted {p : Player} {mark : Nat} (act : Act) (plays : act.plays) (before : Performed p mark) :
      Performed (left (act.perform p)) (if act.restarts p then p.rig.gpu.frames.length else mark)
  | elsewhere {p : Player} {mark : Nat} (device : Device) (outside : Outside) (clock : Double)
      (logicalSize : Value × Value) (before : Performed p mark) :
      Performed { p with rig.gpu.device := device, outside, clock, logicalSize } mark

theorem Performed.reachable {p : Player} {mark : Nat} (hp : Performed p mark) : Reachable p := by
  induction hp with
  | made hmade => exact .made hmade
  | acted act _ _ ih => exact .acted act ih
  | elsewhere device outside clock logicalSize _ ih =>
    exact .elsewhere device outside clock logicalSize ih

/-! ### What operations come to -/

/-- What an operation comes to, whether the player starts anew by it or not. -/
inductive PlayEnds (p after : Player) : Bool → Prop
  | went (runsOn : RunsOn p after) (told : after.rig.gpu.frames = p.rig.gpu.frames) :
      PlayEnds p after false
  | restarted (frames : after.frames = 0) (told : after.rig.gpu.frames = p.rig.gpu.frames) :
      PlayEnds p after true
  | encoded {h : Host} {bound : Bound} {frame : List Call}
      (encoded : Rig.Encoded h bound p.due frame)
      (told : after.rig.gpu.frames = p.rig.gpu.frames ++ [frame])
      (frames : after.frames = p.frames + 1) : PlayEnds p after false

/-- What leaves the ledger tells of no frame. -/
theorem frames_of_ledger {p after : Player} (h : after.rig.ledger = p.rig.ledger) :
    after.rig.gpu.frames = p.rig.gpu.frames :=
  congrArg (fun ledger : Rig.Ledger => framesOf ledger.told) h

theorem RunEnds.playEnds {m : SourceMap} {p : Player} {result : EStateM.Result Fault Player Bool}
    (h : RunEnds m p result) (htold : (left result).rig.gpu.frames = p.rig.gpu.frames) :
    PlayEnds p (left result) (succeeded result) := by
  cases h with
  | started _ _ frames => exact .restarted frames htold
  | refused runsOn => exact .went runsOn htold
  | raised runsOn => exact .went runsOn htold

/-- What is compiled again for other names starts anew. -/
theorem setCustom_of_recompiled {p after : Player} {names values : Value}
    (h : p.recompiled? names values = some (.ok true after)) :
    setCustom names values p = .ok true after ∧ after.frames = 0 := by
  unfold recompiled? at h
  split at h
  · cases h
  next items hitems =>
    split at h
    · cases h
    next given hset =>
      split at h
      · cases h
      next hother =>
        have hinstall : install p.map given = .ok true after := Option.some.inj h
        have hrun : setCustom names values p = compileAgain p items given :=
          (run_ofExcept_bind_of_ok hitems _ p).trans (run_bind_of_ok hset)
        have hends := runEnds_install p.map given
        rw [hinstall] at hends
        refine ⟨?_, ?_⟩
        · rw [hrun, compileAgain, if_neg hother, run_bind_of_ok hinstall]
          rfl
        · cases hends with
          | started _ _ frames => exact frames

theorem playEnds_setCustom {p : Player} (hp : p.rig.core.Sound) (names values : Value) :
    PlayEnds p (left (setCustom names values p))
      ((p.recompiled? names values).any succeeded) := by
  have htold : (left (setCustom names values p)).rig.gpu.frames = p.rig.gpu.frames :=
    frames_of_ledger (keepsLedger_setCustom names values p rfl)
  by_cases hagain : ∃ after, p.recompiled? names values = some (.ok true after)
  · obtain ⟨after, hagain⟩ := hagain
    obtain ⟨hrun, hframes⟩ := setCustom_of_recompiled hagain
    rw [hrun] at htold
    rw [hrun, hagain]
    exact .restarted hframes htold
  · have hnone : (p.recompiled? names values).any succeeded = false := by
      rcases h : p.recompiled? names values with _ | ⟨_ | _, after⟩ | ⟨fault, after⟩
      · rfl
      · rfl
      · exact absurd ⟨after, h⟩ hagain
      · rfl
    rw [hnone]
    rcases runs_setCustom hp names values with hruns | ⟨after, hsome, _⟩
    · exact .went hruns htold
    · exact absurd ⟨after, hsome⟩ hagain

theorem frames_reset {p : Player} (hp : p.rig.core.Sound) : (left (reset p)).frames = 0 := by
  obtain ⟨between, hrun, _⟩ := laid_onRig_reset hp
  have hreset : reset p = _ := run_bind_of_ok hrun
  rw [hreset]
  rfl

theorem frames_resized {p : Player} (hp : p.rig.core.Sound) (width height : Int) :
    (p.resized width height).frames = 0 := by
  have hsound := keepsSound_onRig (Rig.keeps_resize width height) p hp
  obtain ⟨between, hrun, _⟩ := laid_onRig_resize hp width height
  rw [hrun] at hsound
  unfold resized
  rw [run_bind_of_ok hrun]
  exact frames_reset hsound

theorem playEnds_resize {p : Player} (hp : Tells Recorded p) (width height : Value) :
    PlayEnds p (left (resize width height p)) (p.otherSize? width height).isSome := by
  have hsound : p.rig.core.Sound := hp.rig.sound
  have htold : (left (resize width height p)).rig.gpu.frames = p.rig.gpu.frames :=
    frames_of_ledger (keepsLedger_resize (congrArg Prod.fst hp.rig.sizes) width height p rfl)
  rcases hother : p.otherSize? width height with _ | ⟨w, h⟩
  · rw [resize_of_none hother]
    exact .went (.refl p) rfl
  · -- what is loaded once the player was reset starts anew, and so does what goes on
    have hresized := frames_resized hsound w h
    refine .restarted ?_ htold
    rw [resize_of_some hsound hother]
    rcases hshader : (p.resized w h).shader with _ | text
    · rw [reload_of_none hshader]
      exact hresized
    · rw [reload_of_some hshader]
      have hends := runEnds_loadShader (widened_resized hsound w h).2.sound text
      generalize loadShader text (p.resized w h) = result at hends ⊢
      cases hends with
      | started _ _ frames => exact frames
      | refused runsOn => exact runsOn.frames.trans hresized
      | raised runsOn => exact runsOn.frames.trans hresized

/-! ### Snapshots -/

section Snapshot

variable {α : Type} {p : Player}

theorem goesOn_onRig (op : Rig.Op α) : Keeps (RunsOn p) (onRig op) :=
  fun q hq => hq.trans (runsOn_onRig op q)

theorem goesOn_setMoment (moment : Moment) : Keeps (RunsOn p) (setMoment moment) := by
  refine keeps_bind (keeps_given (fun _ => goesOn_onRig _) _) fun _ =>
    keeps_bind (keeps_given (fun _ => goesOn_onRig _) _) fun _ =>
    keeps_bind (keeps_given (fun position => ?_) _) fun _ => goesOn_onRig _
  exact keeps_bind (keeps_ofExcept _) fun _ => keeps_bind (keeps_ofExcept _) fun _ =>
    goesOn_onRig _

theorem goesOn_readPicture : Keeps (RunsOn p) readPicture :=
  keeps_bind (goesOn_onRig _) fun _ => keeps_bind keeps_get fun _ => keeps_pure _

theorem playEnds_snapshot (hp : Tells Recorded p) (moment : Moment) :
    PlayEnds p (left (snapshot moment p)) false := by
  have hrecorded := keeps_setMoment moment p hp
  have hset := goesOn_setMoment moment p (.refl p)
  have hledger := @keeps_setMoment (fun r => r.rig.ledger = p.rig.ledger) moment p rfl
  rw [snapshot_eq]
  rcases hmoment : setMoment moment p with ⟨_, between⟩ | ⟨fault, between⟩
  all_goals
    rw [hmoment] at hrecorded hset hledger
    change Tells Recorded between at hrecorded
    change RunsOn p between at hset
    have hsettold : between.rig.gpu.frames = p.rig.gpu.frames := frames_of_ledger hledger
  · obtain ⟨bound, frame, after, _, hencoded, hrender, htold, _, _, hframes⟩ :=
      render_told hrecorded
    have hdue : between.due = p.due := by
      unfold due
      rw [hset.pipelines, hset.frames]
    have hread : RunsOn after (left (readPicture after)) := goesOn_readPicture after (.refl after)
    have hreadtold : (left (readPicture after)).rig.gpu.frames = after.rig.gpu.frames :=
      frames_of_ledger (@keeps_readPicture (fun r => r.rig.ledger = after.rig.ledger) after rfl)
    rw [run_bind_of_ok hmoment, run_bind_of_ok hrender]
    refine .encoded (hdue ▸ hencoded) ?_ ?_
    · rw [hreadtold, htold]
      exact congrArg (· ++ [frame]) hsettold
    · rw [hread.frames, hframes]
      exact congrArg (· + 1) hset.frames
  · rw [run_bind_of_error hmoment]
    exact .went hset hsettold

end Snapshot

/-! ### Counting -/

theorem playEnds_perform {p : Player} (hp : Tells Recorded p) {act : Act} (hplays : act.plays) :
    PlayEnds p (left (act.perform p)) (act.restarts p) := by
  have hsound : p.rig.core.Sound := hp.rig.sound
  cases act with
  | install m =>
    have htold := frames_of_ledger (keepsLedger_install m p rfl)
    rw [Act.perform, left_discard]
    exact (runEnds_install m p).playEnds htold
  | loadShader text =>
    have htold := frames_of_ledger (keepsLedger_loadShader text p rfl)
    rw [Act.perform, left_discard]
    exact (runEnds_loadShader hsound text).playEnds htold
  | setCustom names values =>
    rw [Act.perform, left_discard]
    exact playEnds_setCustom hsound names values
  | resize width height => exact playEnds_resize hp width height
  | reset =>
    have hledger := keepsLedger_reset (congrArg Prod.fst hp.rig.sizes) p rfl
    exact .restarted (frames_reset hsound) (frames_of_ledger hledger)
  | render =>
    obtain ⟨bound, frame, after, _, hencoded, hrender, htold, _, _, hframes⟩ := render_told hp
    rw [Act.perform, hrender]
    exact .encoded hencoded htold hframes
  | snapshot moment =>
    rw [Act.perform, left_discard]
    exact playEnds_snapshot hp moment
  | _ => cases hplays

theorem frames_of_make {settings : Settings} {device : Device} {outside : Outside} {p : Player}
    (hmade : make settings device outside = .ok () p) : p.rig.gpu.frames = [] := by
  have hledger := ledger_of_make hmade
  exact congrArg (fun ledger : Rig.Ledger => framesOf ledger.told) hledger

/-- Frames are counted from when the player started anew. -/
theorem counted_of_performed {p : Player} {mark : Nat} (hp : Performed p mark) :
    p.frames + mark = p.rig.gpu.frames.length := by
  induction hp with
  | made hmade =>
    rw [frames_of_make hmade]
    obtain ⟨_, _, _, _, _, rfl⟩ := make_eq hmade
    rfl
  | @acted p mark act plays before ih =>
    have hends := playEnds_perform (recorded_of_reachable before.reachable) plays
    generalize left (act.perform p) = after at hends ⊢
    generalize act.restarts p = restarts at hends ⊢
    cases hends with
    | went runsOn told =>
      rw [runsOn.frames, told]
      exact ih
    | restarted frames told =>
      rw [frames, told]
      exact Nat.zero_add _
    | encoded _ told frames =>
      rw [frames, told, List.length_append, ← ih]
      simp only [Bool.false_eq_true, ↓reduceIte, List.length_singleton]
      omega
  | elsewhere _ _ _ _ _ ih => exact ih

/-! ### What a frame dispatches -/

/-- A dispatch with the copy behind it is one compute pass among calls. -/
theorem dispatches_calls (d : EncodedPass) (rest : List Call) :
    (dispatches (d.calls ++ rest)).map (·.pipeline)
      = d.pipeline :: (dispatches rest).map (·.pipeline) := rfl

theorem dispatches_flatMap {turns : List (Pipeline × Nat)} {passes : List EncodedPass}
    (h : List.Forall₂ (fun turn d => d.pipeline = turn.1.compiled) turns passes) :
    (dispatches (passes.flatMap EncodedPass.calls)).map (·.pipeline)
      = turns.map (·.1.compiled) := by
  induction h with
  | nil => rfl
  | cons hhead _ ih => rw [List.flatMap_cons, dispatches_calls, ih, hhead, List.map_cons]

/-- A frame dispatches pipelines one after the other, each as often as it asks for. -/
theorem dispatches_of_encoded {h : Host} {bound : Bound} {pipelines : List Pipeline}
    {frame : List Call} (hframe : Rig.Encoded h bound pipelines frame) :
    (dispatches frame).map (·.pipeline)
      = pipelines.flatMap fun pipeline => List.replicate pipeline.repeats pipeline.compiled := by
  obtain ⟨encoder, passes, rfl, hpasses⟩ := hframe.told
  have hpipelines : List.Forall₂ (fun turn d => d.pipeline = turn.1.compiled)
      (Rig.turns pipelines) passes := by
    refine hpasses.imp ?_
    rintro turn d ⟨number, rfl⟩
    rfl
  calc (dispatches (Rig.stageCalls bound.resources.toHostBuffers h
        ++ .clearBuffer encoder bound.resources.counters
          :: passes.flatMap EncodedPass.calls)).map (·.pipeline)
      = (dispatches (passes.flatMap EncodedPass.calls)).map (·.pipeline) := rfl
    _ = (Rig.turns pipelines).map (·.1.compiled) := dispatches_flatMap hpipelines
    _ = pipelines.flatMap fun pipeline => List.replicate pipeline.repeats pipeline.compiled := by
        unfold Rig.turns
        rw [List.map_flatMap]
        refine List.flatMap_congr fun pipeline _ => ?_
        rw [List.map_map]
        show (List.range pipeline.repeats).map (fun _ => pipeline.compiled) = _
        rw [List.map_const', List.length_range]

theorem flatMap_filter {α β : Type} (l : List α) (kept : α → Bool) (f : α → List β) :
    (l.filter kept).flatMap f = l.flatMap fun a => if kept a then f a else [] := by
  induction l with
  | nil => rfl
  | cons a l ih =>
    rw [List.flatMap_cons, ← ih, List.filter_cons]
    split <;> rfl

/-- How often the next frame dispatches the pipeline of an entry point, where a player started anew
when so many frames had been told. -/
def times (p : Player) (mark : Nat) (entry : Text) : Nat :=
  if (p.map.dispatchOnce.lookup entry).isSome ∧ mark < p.rig.gpu.frames.length then 0
  else min ((p.map.dispatchCounts.lookup entry).getD 1) 64

/-- A frame dispatches every installed pipeline so often, and all in their order. -/
def Paces (p : Player) (mark : Nat) (frame : List Call) : Prop :=
  (dispatches frame).map (·.pipeline) = p.pipelines.flatMap fun pipeline =>
    List.replicate (p.times mark pipeline.compiled.entry) pipeline.compiled

theorem paces_of_encoded {p : Player} {mark : Nat} (hcompiled : Compiled p.map p.pipelines)
    (hcounted : p.frames + mark = p.rig.gpu.frames.length) {h : Host} {bound : Bound}
    {frame : List Call} (hframe : Rig.Encoded h bound p.due frame) : p.Paces mark frame := by
  unfold Paces
  rw [dispatches_of_encoded hframe, due, flatMap_filter]
  refine List.flatMap_congr fun pipeline hpipeline => ?_
  obtain ⟨honce, hrepeats⟩ := hcompiled.settings hpipeline
  -- a marked pipeline is left out when the count is past zero, and then frames came since the mark
  have hkept : (!pipeline.once || decide (p.frames = 0))
      = !decide ((p.map.dispatchOnce.lookup pipeline.compiled.entry).isSome
        ∧ mark < p.rig.gpu.frames.length) := by
    have hfirst : p.frames = 0 ↔ ¬ mark < p.rig.gpu.frames.length := by omega
    rw [honce, Bool.decide_and, Bool.not_and, Bool.decide_eq_true, decide_eq_decide.mpr hfirst,
      decide_not]
  rw [hkept, hrepeats, times]
  by_cases hpassed : (p.map.dispatchOnce.lookup pipeline.compiled.entry).isSome
      ∧ mark < p.rig.gpu.frames.length
  · rw [if_pos hpassed, decide_eq_true hpassed]
    rfl
  · rw [if_neg hpassed, decide_eq_false hpassed]
    rfl

/-- Operations tell a device of at most one frame, and a frame that is rendered is told; each
dispatches what is due. -/
structure Paced (p : Player) (mark : Nat) : Prop where
  told : ∀ act : Act, act.plays → ∃ told,
    (left (act.perform p)).rig.gpu.frames = p.rig.gpu.frames ++ told ∧ told.length ≤ 1
      ∧ ∀ frame ∈ told, p.Paces mark frame
  rendered : ∃ frame after, render p = .ok () after
    ∧ after.rig.gpu.frames = p.rig.gpu.frames ++ [frame] ∧ p.Paces mark frame

/-- A player that just loaded a shader whose entry point is marked. -/
theorem exists_performed {numeral : Text} {count : Nat} (h : Repeats numeral count) :
    ∃ made p compiled, make small {} {} = .ok () made
      ∧ loadShader (repeatText numeral) made = .ok true p ∧ Performed p 0
      ∧ p.rig.gpu.frames = [] ∧ p.map = repeatMap count ∧ compiled.entry = ['f'] ∧ p.pipelines
        = [(Pipeline.ofEntryPoint (repeatMap count) ⟨['f'], ⟨1, 1, 1⟩⟩ compiled).limited] := by
  obtain ⟨made, p, compiled, hmade, hload, hmap, hframes, hentry, hpipelines⟩ := exists_repeated h
  have hp : Performed p 0 := by
    have hacted := Performed.acted (.loadShader (repeatText numeral)) rfl (.made hmade)
    rwa [Act.perform, left_discard, hload, frames_of_make hmade, List.length_nil, ite_self]
      at hacted
  have hcounted := counted_of_performed hp
  rw [hframes] at hcounted
  exact ⟨made, p, compiled, hmade, hload, hp, List.eq_nil_of_length_eq_zero hcounted.symm, hmap,
    hentry, hpipelines⟩

theorem repeats_twice : Repeats ['2'] 2 := ⟨List.all_eq_true.mp (by decide), by decide⟩

theorem repeats_never : Repeats ['0'] 0 := ⟨List.all_eq_true.mp (by decide), by decide⟩

end ShaderPlayer.Player
