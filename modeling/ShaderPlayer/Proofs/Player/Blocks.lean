/-
The blocks of the host in a player.

Whatever a player is asked for, it changes the blocks of its bindings through these, or by writing
over words of the time: so they stay arranged as they were made.

* `Hosts` — the host of a player has a property: what does not change the host keeps it;
* `KeepsArranged` — an operation of a player leaves the blocks arranged;
* `keepsArranged_perform` — all of them do;
* `arranged_of_reachable` — so the blocks are arranged in every state that a player gets into.
-/
import ShaderPlayer.Proofs.Bindings.Blocks
import ShaderPlayer.Proofs.Player.Reachable

namespace ShaderPlayer.Player

open Gpu Shader

/-- The host of a player has a property. -/
def Hosts (holds : Host → Prop) (p : Player) : Prop := holds p.rig.host

section Host

variable {α : Type} {holds : Host → Prop}

theorem keepsHost_onRig {op : Rig.Op α} (hop : Keeps (fun r => holds r.host) op) :
    Keeps (Hosts holds) (onRig op) := keeps_onRig_of hop

theorem keepsHost_onDevice (op : Gpu.Op α) : Keeps (Hosts holds) (onDevice op) :=
  keepsHost_onRig (Rig.keepsHost_onDevice op)

theorem keepsHost_onOutside (op : Reach α) : Keeps (Hosts holds) (onOutside op) := by
  intro p hp
  unfold onOutside
  rcases op p.outside with ⟨a, outside⟩ | ⟨fault, outside⟩ <;> exact hp

theorem keepsHost_note (notes : Array Note) : Keeps (Hosts holds) (note notes) :=
  keeps_modify fun _ hp => hp

theorem keepsHost_report (r : Report) : Keeps (Hosts holds) (report r) :=
  keeps_bind keeps_get fun _ => keeps_ite (keepsHost_note _) (keeps_modify fun _ hp => hp)

/-! ### Compiling -/

theorem keepsHost_preprocess (text : Text) : Keeps (Hosts holds) (preprocess text) := by
  refine keeps_get_bind fun p hp => ?_
  dsimp only
  refine keeps_bind (keeps_set ?_) (fun _ => keeps_bind (keepsHost_note _) fun _ => ?_) p hp
  · exact hp
  · split
    · exact keeps_pure _
    · exact keeps_bind (keepsHost_report _) fun _ => keeps_pure _
    · exact keeps_throw _
    · exact keeps_pure _

theorem keepsHost_compile (m : SourceMap) : Keeps (Hosts holds) (compile m) := by
  intro p hp
  unfold compile
  dsimp only
  split <;> exact hp

theorem keepsHost_attempt {op : Op α} (hop : Keeps (Hosts holds) op) :
    Keeps (Hosts holds) (attempt op) := by
  intro p hp
  have hleft := hop p hp
  unfold attempt
  rcases hend : op p with ⟨a, after⟩ | ⟨fault, after⟩
  all_goals
    rw [hend] at hleft
    exact hleft

/-- Installing sets the tables, and nothing else of the host. -/
theorem keepsHost_install (htables : ∀ h tables, holds h → holds (h.setTables tables))
    (m : SourceMap) : Keeps (Hosts holds) (install m) := by
  refine keeps_bind (keepsHost_attempt (keepsHost_compile m)) fun compiled => ?_
  split
  · refine keeps_bind (keeps_bind (keepsHost_note _) fun _ => ?_) fun _ => keeps_pure _
    refine keeps_bind (keepsHost_onRig ?_) fun _ => keeps_modify fun _ hp => hp
    exact Rig.keepsHost_setTables fun h => htables h _
  · exact keeps_bind (keepsHost_report _) fun _ => keeps_pure _
  · exact keeps_throw _

theorem keepsHost_checkFrom (counts : List UInt32) (texels : Int) (index : Nat)
    (lines : List Int) : Keeps (Hosts holds) (checkFrom counts texels index lines) := by
  induction lines generalizing index with
  | nil => exact keeps_pure _
  | cons line lines ih =>
    refine keeps_bind (keeps_ofExcept _) fun count => keeps_ite (ih (index + 1)) ?_
    exact keeps_bind (keeps_discard (keeps_ofExcept _)) fun _ =>
      keeps_bind (keepsHost_report _) fun _ => keeps_bind (ih (index + 1)) fun _ => keeps_pure _

theorem keepsHost_checkAssertions : Keeps (Hosts holds) checkAssertions :=
  keeps_bind (keepsHost_onRig (Rig.keeps_readCounters_of_quiet fun _ _ _ hr => hr)) fun counts =>
    keeps_bind keeps_get fun _ => keepsHost_checkFrom counts _ 0 _

theorem keepsHost_encodeFrame : Keeps (Hosts holds) encodeFrame :=
  keeps_get_bind fun p hp =>
    keepsHost_onRig (Rig.keeps_encodeFrame_of_gpu (fun _ _ hr => hr) p.due) p hp

theorem keepsHost_blit (target : Texture) : Keeps (Hosts holds) (blit target) := by
  refine keeps_bind keeps_get fun p => ?_
  split
  · exact keepsHost_onDevice _
  · exact keeps_throw _

theorem keepsHost_openWindow (watching : Bool) : Keeps (Hosts holds) (openWindow watching) := by
  refine keeps_bind (keeps_modify fun _ hp => hp) fun _ => keeps_bind keeps_get fun p => ?_
  refine keeps_ite (keeps_bind ?_ fun _ => keepsHost_onDevice _) (keepsHost_onDevice _)
  exact keeps_bind keeps_get fun _ => keeps_bind (keepsHost_onDevice _) fun _ =>
    keeps_bind (keeps_modify fun _ hp => hp) fun _ => keeps_bind (keepsHost_onDevice _) fun _ =>
    keeps_bind (keepsHost_onDevice _) fun _ => keeps_bind (keepsHost_onDevice _) fun _ =>
    keeps_modify fun _ hp => hp

end Host

/-! ### Shaders -/

/-- An operation of a player leaves the blocks of the host arranged. -/
abbrev KeepsArranged {α : Type} (op : Op α) : Prop := Keeps (Hosts Host.Arranged) op

theorem keepsArranged_install (m : SourceMap) : KeepsArranged (install m) :=
  keepsHost_install (fun _ tables hh => hh.setTables tables) m

theorem keepsArranged_loadShader (text : Text) : KeepsArranged (loadShader text) := by
  refine keeps_bind (keeps_modify fun _ hp => hp) fun _ =>
    keeps_bind (keepsHost_preprocess text) fun m => ?_
  split
  · exact keepsArranged_install _
  · exact keeps_pure _

theorem keepsArranged_loadFile (path : Text) : KeepsArranged (loadFile path) :=
  keeps_bind (keeps_modify fun _ hp => hp) fun _ => keeps_bind (keepsHost_onOutside _) fun _ =>
    keeps_bind keeps_get fun _ => keeps_bind (keeps_ofExcept _) fun _ =>
    keeps_bind (keeps_modify fun _ hp => hp) fun _ => keepsArranged_loadShader _

theorem keepsArranged_setCustom (names values : Value) : KeepsArranged (setCustom names values) := by
  refine keeps_bind (keeps_ofExcept _) fun names => keeps_get_bind fun p hp => ?_
  -- the names to come back to are those of an arranged host
  have hback : Host.Proper ((p.rig.host.customNames.zip p.rig.host.customValues).map (·.1)) := by
    rw [Host.map_fst_zip_customValues]
    exact hp.tidy.proper
  refine keeps_bind (keepsHost_onRig (Rig.keepsArranged_setCustomValues _ _)) (fun _ => ?_) p hp
  refine keeps_ite (keeps_pure _) (keeps_bind (keepsArranged_install _) fun installed => ?_)
  refine keeps_ite (keeps_pure _) ?_
  exact keeps_bind (keepsHost_onRig (Rig.keepsArranged_setCustom hback)) fun _ => keeps_pure _

/-! ### Host state -/

theorem keepsArranged_setTime (name : Text) (value : Value) :
    KeepsArranged (onRig (Rig.onTime (UniformBlock.set name value))) :=
  keepsHost_onRig (Rig.keepsArranged_onTime _ name value)

theorem keepsArranged_setPosition (position : List Int) : KeepsArranged (setPosition position) :=
  keepsHost_onRig (Rig.keepsArranged_onMouse _ _ _)

theorem keepsArranged_setMousePosition (x y : Value) : KeepsArranged (setMousePosition x y) := by
  refine keeps_bind keeps_get fun p => ?_
  dsimp only
  exact keeps_ite (keeps_bind (keeps_ofExcept _) fun _ => keeps_bind (keeps_ofExcept _) fun _ =>
    keepsArranged_setPosition _) (keeps_pure _)

theorem keepsArranged_setMouseClick (click : Bool) : KeepsArranged (setMouseClick click) :=
  keepsHost_onRig (Rig.keepsArranged_onMouse _ _ _)

theorem keepsArranged_setKey (code : Value) (down : Bool) : KeepsArranged (setKey code down) :=
  keepsHost_onRig (Rig.keepsArranged_setKey code down)

theorem keepsArranged_reset : KeepsArranged reset := by
  refine keeps_bind (keepsHost_onRig Rig.keepsHost_reset) fun _ => keeps_bind ?_ fun _ =>
    keeps_modify fun _ hp => hp
  exact keepsHost_onRig (Rig.keepsHost_changeHost fun _ hh => hh.withTime (.refl _))

theorem keepsArranged_resize (width height : Value) : KeepsArranged (resize width height) :=
  keeps_resize (fun width height => keepsHost_onRig (Rig.keepsArranged_resize width height))
    keepsArranged_reset keepsArranged_loadShader width height

/-! ### Frames -/

theorem keepsArranged_countFrame : KeepsArranged countFrame := by
  refine keeps_bind (keeps_modify fun _ hp => hp) fun _ => ?_
  exact keepsHost_onRig (Rig.keepsHost_changeHost fun _ hh => hh.withTime (hh.time.putWord _ _))

theorem keepsArranged_render : KeepsArranged render :=
  keeps_bind keepsHost_encodeFrame fun _ =>
    keeps_bind (keepsHost_onDevice (record (.submit _))) fun _ => keepsArranged_countFrame

theorem keepsArranged_snapshot (moment : Moment) : KeepsArranged (snapshot moment) := by
  refine keeps_bind (keeps_given (keepsArranged_setTime _) _) fun _ =>
    keeps_bind (keeps_given (keepsArranged_setTime _) _) fun _ =>
    keeps_bind (keeps_given (fun position => ?_) _) fun _ =>
    keeps_bind (keepsArranged_setTime _ _) fun _ => keeps_bind keepsArranged_render fun _ => ?_
  · exact keeps_bind (keeps_ofExcept _) fun _ => keeps_bind (keeps_ofExcept _) fun _ =>
      keepsArranged_setPosition _
  · exact keeps_bind (keepsHost_onRig (Rig.keeps_readScreen_of_quiet fun _ _ _ hr => hr))
      fun _ => keeps_bind keeps_get fun _ => keeps_pure _

/-! ### The window -/

theorem keepsArranged_reloadIfChanged (file : WatchedFile) : KeepsArranged (reloadIfChanged file) := by
  refine keeps_bind keeps_get fun p => ?_
  split
  · exact keeps_pure _
  · refine keeps_ite (keeps_pure _) (keeps_bind (keeps_modify fun _ hp => hp) fun _ => ?_)
    exact keeps_bind (keepsHost_note _) fun _ => keeps_bind (keepsHost_onOutside _) fun _ =>
      keeps_discard (keepsArranged_loadShader _)

theorem keepsArranged_advanceTime : KeepsArranged advanceTime := by
  refine keeps_bind keeps_get fun _ => keeps_bind (keeps_modify fun _ hp => hp) fun _ =>
    keepsHost_onRig (Rig.keepsHost_changeHost fun _ hh => ?_)
  exact hh.withTime ((hh.time.putWord _ _).putWord _ _)

theorem keepsArranged_draw (now : Double) : KeepsArranged (draw now) := by
  refine keeps_bind (keeps_modify fun _ hp => hp) fun _ => keeps_bind keeps_get fun p => ?_
  -- what follows once the file was looked at
  have hframe : KeepsArranged (do
      advanceTime
      let target ← onDevice (unrecordedTexture p.size.1 p.size.2 windowFormat)
      let frame ← encodeFrame
      let shown ← blit target
      onRig (Rig.submit [frame, shown])
      countFrame
      if !(← get).map.assertLines.isEmpty then discard checkAssertions
      onDevice (record (.requestDraw false))) := by
    refine keeps_bind keepsArranged_advanceTime fun _ => keeps_bind (keepsHost_onDevice _)
      fun target => keeps_bind keepsHost_encodeFrame fun frame =>
      keeps_bind (keepsHost_blit _) fun shown =>
      keeps_bind (keepsHost_onDevice (record (.submit _))) fun _ =>
      keeps_bind keepsArranged_countFrame fun _ => keeps_bind keeps_get fun q => ?_
    exact keeps_ite (keeps_bind (keeps_discard keepsHost_checkAssertions) fun _ =>
      keepsHost_onDevice _) (keepsHost_onDevice _)
  dsimp only
  split
  · split
    · exact keeps_bind (keepsArranged_reloadIfChanged _) fun _ => hframe
    · exact hframe
  · exact hframe

theorem keepsArranged_onPointerMove (event : Event) : KeepsArranged (onPointerMove event) :=
  keeps_bind keeps_get fun _ => keeps_bind (keeps_ofExcept _) fun _ =>
    keeps_bind (keeps_ofExcept _) fun _ => keepsArranged_setMousePosition _ _

theorem keepsArranged_handle (kind : EventKind) (event : Event) :
    KeepsArranged (handle kind event) := by
  have hkey : ∀ down, KeepsArranged (onKey event down) := by
    refine fun down => keeps_bind (keeps_ofExcept _) fun key => keeps_bind (keeps_ofExcept _)
      fun code => ?_
    split
    · exact keepsArranged_setKey _ _
    · exact keeps_pure _
  cases kind with
  | resize =>
    exact keeps_bind (keeps_ofExcept _) fun width => keeps_bind (keeps_ofExcept _) fun height =>
      keeps_ite (keepsArranged_resize _ _) (keeps_pure _)
  | pointerMove => exact keepsArranged_onPointerMove event
  | pointerDown =>
    refine keeps_bind ?_ fun concerned => keeps_ite (keeps_bind (keepsArranged_setMouseClick _)
      fun _ => keepsArranged_onPointerMove _) (keeps_pure _)
    exact keeps_bind (keeps_ofExcept _) fun button => keeps_ite (keeps_pure _)
      (keeps_bind (keeps_ofExcept _) fun _ => keeps_ofExcept _)
  | pointerUp =>
    exact keeps_bind (keeps_ofExcept _) fun button =>
      keeps_ite (keepsArranged_setMouseClick _) (keeps_pure _)
  | keyDown => exact hkey true
  | keyUp => exact hkey false

theorem keepsArranged_receive (name : Text) (event : Event) : KeepsArranged (receive name event) := by
  refine keeps_bind keeps_get fun p => ?_
  split
  · exact keepsArranged_handle _ event
  · exact keeps_pure _

/-! ### Reachable states -/

theorem keepsArranged_perform (act : Act) : KeepsArranged act.perform := by
  cases act with
  | preprocess text => exact keeps_discard (keepsHost_preprocess text)
  | install m => exact keeps_discard (keepsArranged_install m)
  | loadShader text => exact keeps_discard (keepsArranged_loadShader text)
  | loadFile path => exact keeps_discard (keepsArranged_loadFile path)
  | setCustom names values => exact keeps_discard (keepsArranged_setCustom names values)
  | setElapsed seconds => exact keepsArranged_setTime _ seconds
  | setMousePosition x y => exact keepsArranged_setMousePosition x y
  | setMouseClick click => exact keepsArranged_setMouseClick click
  | setKey code down => exact keepsArranged_setKey code down
  | loadChannel index data => exact keepsHost_onRig (Rig.keepsArranged_loadChannel index data)
  | writeStorage index data =>
    exact keepsHost_onRig (Rig.keeps_writeStorage_of_quiet (fun _ _ _ hr => hr) index data)
  | reset => exact keepsArranged_reset
  | resize width height => exact keepsArranged_resize width height
  | render => exact keepsArranged_render
  | checkAssertions => exact keeps_discard keepsHost_checkAssertions
  | snapshot moment => exact keeps_discard (keepsArranged_snapshot moment)
  | openWindow watching => exact keepsHost_openWindow watching
  | draw now => exact keepsArranged_draw now
  | receive name event => exact keepsArranged_receive name event
  | setTables tables => exact keepsHost_onRig (Rig.keepsArranged_setTables tables)
  | setCustomDirectly names values =>
    exact keepsHost_onRig (Rig.keepsArranged_setCustomValues names values)
  | resizeDirectly width height => exact keepsHost_onRig (Rig.keepsArranged_resize width height)
  | resetDirectly => exact keepsHost_onRig Rig.keepsHost_reset

/-- The blocks are arranged as they were made, whatever was asked of a player. -/
theorem arranged_of_reachable {p : Player} (hp : Reachable p) : p.rig.host.Arranged := by
  induction hp with
  | @made settings device outside p hmade =>
    obtain ⟨width, height, rig, _, hconnect, rfl⟩ := make_eq hmade
    have hkeeps : Rig.KeepsArranged Rig.connect := Rig.keepsHost_connect
    have hafter := hkeeps
      { host := .start width height settings.wide settings.storageSize, gpu := { device } }
      (Host.arranged_start width height settings.wide settings.storageSize)
    rw [hconnect] at hafter
    exact hafter
  | acted act _ ih => exact keepsArranged_perform act _ ih
  | elsewhere _ _ _ _ _ ih => exact ih

end ShaderPlayer.Player
