/-
The states that a player gets into.

* `Act` — what can be asked of a player;
* `Reachable` — the states that a player gets into by such operations, from the one it
  is made in, while its surroundings do as they like;
* `complete_of_reachable` — its connection is complete in all of them: no operation
  that breaks off leaves it without a bind group.
-/
import ShaderPlayer.Player.Window
import ShaderPlayer.Proofs.Bindings.Connection
import ShaderPlayer.Proofs.Pipeline

namespace ShaderPlayer.Player

open Gpu Shader

/-- What frames leave as it is: what is installed, and the core of the bindings. -/
structure Core where
  map : SourceMap
  pipelines : List Pipeline
  rig : Rig.Core

/-- The core of a player. -/
def core (p : Player) : Core := ⟨p.map, p.pipelines, p.rig.core⟩

/-- What events and reports leave as it is: what is installed, and the profile of the bindings. -/
structure Profile where
  map : SourceMap
  pipelines : List Pipeline
  rig : Rig.Profile

/-- The core in a profile. -/
def Profile.core (r : Profile) : Core := ⟨r.map, r.pipelines, r.rig.core⟩

/-- The profile of a player. -/
def profile (p : Player) : Profile := ⟨p.map, p.pipelines, p.rig.profile⟩

/-- A player's profile has a property. -/
def Tells (holds : Profile → Prop) (p : Player) : Prop := holds p.profile

/-- A player's core has a property. -/
def Has (holds : Core → Prop) (p : Player) : Prop := Tells (fun r => holds r.core) p

/-- What an operation on the bindings keeps of them, it keeps of the player. -/
theorem keeps_onRig_of {α : Type} {op : Rig.Op α} {holds : Rig → Prop} (hop : Keeps holds op) :
    Keeps (fun p => holds p.rig) (onRig op) := by
  intro p hp
  have hleft := hop p.rig hp
  unfold onRig
  rcases hend : op p.rig with ⟨a, rig⟩ | ⟨fault, rig⟩
  all_goals
    rw [hend] at hleft
    exact hleft

/-! ### Compiling -/

theorem quiet_makePipelines (m : SourceMap) (layout : Option PipelineLayout)
    (module : ShaderModule) (points : List EntryPoint) :
    Quiet (Workbench.makePipelines m layout module points) := by
  induction points with
  | nil => exact quiet_pure _
  | cons point points ih =>
    exact quiet_bind (quiet_createComputePipeline _ _ _) fun _ => quiet_bind ih fun _ => quiet_pure _

theorem quiet_makeAll (m : SourceMap) (layout : Option PipelineLayout) (unit : Text)
    (points : List EntryPoint) : Quiet (Workbench.makeAll m layout unit points) :=
  quiet_bind (quiet_createShaderModule _ _) fun _ => quiet_makePipelines _ _ _ _

/-- Compiling tells a device nothing of frames. -/
theorem told_compile (h : Host) (layout : Option PipelineLayout) (m : SourceMap) (w : Workbench) :
    (left (Workbench.compile h layout m w)).gpu.told = w.gpu.told := by
  rw [Workbench.compile_eq]
  rcases findEntryPoints (unitText m h.customNames h.wide) with digits | points
  · rfl
  · have hmake := quiet_makeAll m layout (unitText m h.customNames h.wide) points w.gpu
    dsimp only
    rcases hend : Workbench.makeAll m layout (unitText m h.customNames h.wide) points w.gpu with
      ⟨pipelines, gpu⟩ | ⟨fault, gpu⟩
    all_goals
      rw [hend] at hmake
      exact hmake

section Any

variable {α : Type} {holds : Profile → Prop}

theorem keeps_onRig {op : Rig.Op α}
    (hop : ∀ {holds : Rig.Profile → Prop}, Keeps (fun r => holds r.profile) op) :
    Keeps (Tells holds) (onRig op) := by
  intro p hp
  have hleft := @hop (fun r => holds ⟨p.map, p.pipelines, r⟩) p.rig hp
  unfold onRig
  rcases hend : op p.rig with ⟨a, rig⟩ | ⟨fault, rig⟩
  all_goals
    rw [hend] at hleft
    exact hleft

theorem keeps_onOutside (op : Reach α) : Keeps (Tells holds) (onOutside op) := by
  intro p hp
  unfold onOutside
  rcases op p.outside with ⟨a, outside⟩ | ⟨fault, outside⟩ <;> exact hp

theorem keeps_attempt {op : Op α} (hop : Keeps (Tells holds) op) :
    Keeps (Tells holds) (attempt op) := by
  intro p hp
  have hleft := hop p hp
  unfold attempt
  rcases hend : op p with ⟨a, after⟩ | ⟨fault, after⟩
  all_goals
    rw [hend] at hleft
    exact hleft

theorem keeps_note (notes : Array Note) : Keeps (Tells holds) (note notes) :=
  keeps_modify fun _ hp => hp

theorem keeps_report (r : Report) : Keeps (Tells holds) (report r) :=
  keeps_bind keeps_get fun _ => keeps_ite (keeps_note _) (keeps_modify fun _ hp => hp)

theorem keeps_preprocess (text : Text) : Keeps (Tells holds) (preprocess text) := by
  refine keeps_get_bind fun p hp => ?_
  dsimp only
  refine keeps_bind (keeps_set ?_) (fun _ => keeps_bind (keeps_note _) fun _ => ?_) p hp
  · exact hp
  · split
    · exact keeps_pure _
    · exact keeps_bind (keeps_report _) fun _ => keeps_pure _
    · exact keeps_throw _
    · exact keeps_pure _

theorem keeps_compile (m : SourceMap) : Keeps (Tells holds) (compile m) := by
  intro p hp
  have htold := told_compile p.rig.host (p.rig.bound.map (·.resources.pipelineLayout)) m
    ⟨p.rig.gpu, #[]⟩
  have hprofile : ∀ (gpu : Gpu.State) (outside : Outside), gpu.told = p.rig.gpu.told →
      ({ p with rig := { p.rig with gpu }, outside } : Player).profile = p.profile := by
    intro gpu outside hgpu
    unfold profile Rig.profile Rig.ledger
    dsimp only
    rw [hgpu]
    rfl
  unfold compile
  dsimp only
  split
  all_goals
    next w hend =>
      rw [hend] at htold
      exact (congrArg holds (hprofile w.gpu { p.outside with notes := p.outside.notes ++ w.notes }
        htold)).mpr hp

theorem keeps_setElapsed (seconds : Value) : Keeps (Tells holds) (setElapsed seconds) :=
  keeps_onRig (Rig.keeps_onTime (UniformBlock.keepsSize_assign _ _ _))

theorem keeps_setPosition (position : List Int) :
    Keeps (Tells holds) (setPosition position) :=
  keeps_onRig (Rig.keeps_onMouse (UniformBlock.keepsSize_assign _ _ _))

theorem keeps_setMousePosition (x y : Value) :
    Keeps (Tells holds) (setMousePosition x y) := by
  refine keeps_bind keeps_get fun p => ?_
  dsimp only
  exact keeps_ite (keeps_bind (keeps_ofExcept _) fun _ => keeps_bind (keeps_ofExcept _) fun _ =>
    keeps_setPosition _) (keeps_pure _)

theorem keeps_setMouseClick (click : Bool) : Keeps (Tells holds) (setMouseClick click) :=
  keeps_onRig (Rig.keeps_onMouse (UniformBlock.keepsSize_assign _ _ _))

theorem keeps_setKey (code : Value) (down : Bool) : Keeps (Tells holds) (setKey code down) :=
  keeps_onRig (Rig.keeps_setKey code down)

theorem keeps_writeStorage (index : Value) (data : Except Fault NumericArray) :
    Keeps (Tells holds) (writeStorage index data) :=
  keeps_onRig (Rig.keeps_writeStorage index data)

/-! ### Frames -/

theorem keeps_countFrame : Keeps (Tells holds) countFrame := by
  refine keeps_bind (keeps_modify fun _ hp => hp) fun _ =>
    keeps_onRig (Rig.keeps_changeHost (fun _ => rfl) fun h => ?_)
  unfold Host.blockSizes
  dsimp only
  rw [UniformBlock.size_putWord]

theorem keeps_submit (commands : List CommandBuffer) :
    Keeps (Tells holds) (onRig (Rig.submit commands)) := keeps_onRig (Rig.keeps_submit commands)

theorem keeps_checkFrom (counts : List UInt32) (texels : Int) (index : Nat) (lines : List Int) :
    Keeps (Tells holds) (checkFrom counts texels index lines) := by
  induction lines generalizing index with
  | nil => exact keeps_pure _
  | cons line lines ih =>
    refine keeps_bind (keeps_ofExcept _) fun count => keeps_ite (ih (index + 1)) ?_
    exact keeps_bind (keeps_discard (keeps_ofExcept _)) fun _ =>
      keeps_bind (keeps_report _) fun _ => keeps_bind (ih (index + 1)) fun _ => keeps_pure _

theorem keeps_checkAssertions : Keeps (Tells holds) checkAssertions :=
  keeps_bind (keeps_onRig Rig.keeps_readCounters) fun counts =>
    keeps_bind keeps_get fun _ => keeps_checkFrom counts _ 0 _

theorem keeps_given {holds : Player → Prop} {op : Value → Op Unit} (hop : ∀ v, Keeps holds (op v))
    (value : Value) : Keeps holds (given value op) := by
  unfold given
  split
  · exact keeps_pure _
  · exact hop value

/-- What goes before the frame of a snapshot. -/
def setMoment (moment : Moment) : Op Unit := do
  given moment.elapsed setElapsed
  given moment.frame fun frame => onRig (Rig.onTime (UniformBlock.set "frame".toList frame))
  given moment.position fun position => do
    let items ← MonadExcept.ofExcept position.items
    setPosition (← MonadExcept.ofExcept (items.mapM Value.toInteger))
  onRig (Rig.onTime (UniformBlock.set "delta".toList moment.delta))

theorem keeps_setMoment (moment : Moment) : Keeps (Tells holds) (setMoment moment) := by
  have htime : ∀ name value, Keeps (Tells holds) (onRig (Rig.onTime (UniformBlock.set name value))) :=
    fun _ _ => keeps_onRig (Rig.keeps_onTime (UniformBlock.keepsSize_assign _ _ _))
  refine keeps_bind (keeps_given keeps_setElapsed _) fun _ =>
    keeps_bind (keeps_given (htime _) _) fun _ =>
    keeps_bind (keeps_given (fun position => ?_) _) fun _ => htime _ _
  exact keeps_bind (keeps_ofExcept _) fun _ => keeps_bind (keeps_ofExcept _) fun _ =>
    keeps_setPosition _

/-- What follows the frame of a snapshot. -/
def readPicture : Op Picture := do
  let components ← onRig Rig.readScreen
  let (width, height) := (← get).size
  return ⟨width.toNat, height.toNat, Screen.texelBytes components⟩

theorem keeps_readPicture : Keeps (Tells holds) readPicture :=
  keeps_bind (keeps_onRig Rig.keeps_readScreen) fun _ => keeps_bind keeps_get fun _ => keeps_pure _

theorem snapshot_eq (moment : Moment) :
    snapshot moment = (do setMoment moment; render; readPicture) := by
  unfold snapshot setMoment readPicture
  simp only [bind_assoc]

section Encoding

variable (hframe : Keeps (Tells holds) encodeFrame)

include hframe

theorem keeps_render : Keeps (Tells holds) render :=
  keeps_bind hframe fun _ => keeps_bind (keeps_submit _) fun _ => keeps_countFrame

theorem keeps_snapshot (moment : Moment) : Keeps (Tells holds) (snapshot moment) := by
  rw [snapshot_eq]
  exact keeps_bind (keeps_setMoment moment) fun _ => keeps_bind (keeps_render hframe) fun _ =>
    keeps_readPicture

end Encoding

/-! ### The window -/

theorem keeps_onDevice {op : Gpu.Op α} (hop : Quiet op) : Keeps (Tells holds) (onDevice op) :=
  keeps_onRig (Rig.keeps_onDevice hop)

theorem keeps_prepareWindow : Keeps (Tells holds) prepareWindow :=
  keeps_bind keeps_get fun _ => keeps_bind (keeps_onDevice (quiet_record rfl)) fun _ =>
    keeps_bind (keeps_modify fun _ hp => hp) fun _ =>
    keeps_bind (keeps_onDevice (quiet_record rfl)) fun _ =>
    keeps_bind (keeps_onDevice (quiet_record rfl)) fun _ =>
    keeps_bind (keeps_onDevice (quiet_blitter _)) fun _ => keeps_modify fun _ hp => hp

theorem keeps_requestDraw (given : Bool) :
    Keeps (Tells holds) (onDevice (record (.requestDraw given))) :=
  keeps_onDevice (quiet_record rfl)

theorem keeps_openWindow (watching : Bool) : Keeps (Tells holds) (openWindow watching) := by
  refine keeps_bind (keeps_modify fun _ hp => hp) fun _ => keeps_bind keeps_get fun p => ?_
  exact keeps_ite (keeps_bind keeps_prepareWindow fun _ => keeps_requestDraw _)
    (keeps_requestDraw _)

theorem keeps_advanceTime : Keeps (Tells holds) advanceTime := by
  refine keeps_bind keeps_get fun _ => keeps_bind (keeps_modify fun _ hp => hp) fun _ =>
    keeps_onRig (Rig.keeps_changeHost (fun _ => rfl) fun h => ?_)
  unfold Host.blockSizes
  dsimp only
  rw [UniformBlock.size_putWord, UniformBlock.size_putWord]

theorem keeps_blit (target : Texture) : Keeps (Tells holds) (blit target) := by
  refine keeps_bind keeps_get fun p => ?_
  split
  · exact keeps_onDevice (quiet_draw _ _ _)
  · exact keeps_throw _

theorem keeps_onPointerMove (event : Event) : Keeps (Tells holds) (onPointerMove event) :=
  keeps_bind keeps_get fun _ => keeps_bind (keeps_ofExcept _) fun _ =>
    keeps_bind (keeps_ofExcept _) fun _ => keeps_setMousePosition _ _

theorem keeps_concernsFirstButton (event : Event) :
    Keeps (Tells holds) (concernsFirstButton event) := by
  refine keeps_bind (keeps_ofExcept _) fun button => ?_
  exact keeps_ite (keeps_pure _) (keeps_bind (keeps_ofExcept _) fun _ => keeps_ofExcept _)

theorem keeps_onPointerDown (event : Event) : Keeps (Tells holds) (onPointerDown event) := by
  refine keeps_bind (keeps_concernsFirstButton event) fun concerned => ?_
  exact keeps_ite (keeps_bind (keeps_setMouseClick _) fun _ => keeps_onPointerMove _)
    (keeps_pure _)

theorem keeps_onPointerUp (event : Event) : Keeps (Tells holds) (onPointerUp event) := by
  refine keeps_bind (keeps_ofExcept _) fun button => ?_
  exact keeps_ite (keeps_setMouseClick _) (keeps_pure _)

theorem keeps_onKey (event : Event) (down : Bool) :
    Keeps (Tells holds) (onKey event down) := by
  refine keeps_bind (keeps_ofExcept _) fun key => keeps_bind (keeps_ofExcept _) fun code => ?_
  split
  · exact keeps_setKey _ _
  · exact keeps_pure _

end Any

theorem keepsCore_encodeFrame {holds : Core → Prop} : Keeps (Has holds) encodeFrame := by
  refine keeps_get_bind fun p hp => ?_
  have hframe : Keeps (fun r => holds ⟨p.map, p.pipelines, r.core⟩) (Rig.encodeFrame p.due) :=
    @Rig.keepsCore_encodeFrame (fun c => holds ⟨p.map, p.pipelines, c⟩) p.due
  have hleft := hframe p.rig hp
  unfold onRig
  rcases hend : Rig.encodeFrame p.due p.rig with ⟨a, rig⟩ | ⟨fault, rig⟩
  all_goals
    rw [hend] at hleft
    exact hleft

/-! ### Loading and resizing -/

/-- A property of profiles that frames, loading a shader, resetting, changing the size and loading
a channel keep. -/
structure Lasting (holds : Profile → Prop) : Prop where
  encodeFrame : Keeps (Tells holds) encodeFrame
  loadShader : ∀ text, Keeps (Tells holds) (loadShader text)
  reset : Keeps (Tells holds) reset
  resize : ∀ width height, Keeps (Tells holds) (resize width height)
  loadChannel : ∀ index data, Keeps (Tells holds) (loadChannel index data)

section Lasting

variable {holds : Profile → Prop} (lasting : Lasting holds)

include lasting

theorem keeps_loadFile (path : Text) : Keeps (Tells holds) (loadFile path) :=
  keeps_bind (keeps_modify fun _ hp => hp) fun _ => keeps_bind (keeps_onOutside _) fun _ =>
    keeps_bind keeps_get fun _ => keeps_bind (keeps_ofExcept _) fun _ =>
    keeps_bind (keeps_modify fun _ hp => hp) fun _ => lasting.loadShader _

theorem keeps_reloadIfChanged (file : WatchedFile) :
    Keeps (Tells holds) (reloadIfChanged file) := by
  refine keeps_bind keeps_get fun p => ?_
  split
  · exact keeps_pure _
  · refine keeps_ite (keeps_pure _) (keeps_bind (keeps_modify fun _ hp => hp) fun _ => ?_)
    exact keeps_bind (keeps_note _) fun _ => keeps_bind (keeps_onOutside _) fun _ =>
      keeps_discard (lasting.loadShader _)

theorem keeps_draw (now : Double) : Keeps (Tells holds) (draw now) := by
  refine keeps_bind (keeps_modify fun _ hp => hp) fun _ => keeps_bind keeps_get fun p => ?_
  -- what follows once the file was looked at
  have hframe : Keeps (Tells holds) (do
      advanceTime
      let target ← onDevice (unrecordedTexture p.size.1 p.size.2 windowFormat)
      let frame ← encodeFrame
      let shown ← blit target
      onRig (Rig.submit [frame, shown])
      countFrame
      if !(← get).map.assertLines.isEmpty then discard checkAssertions
      onDevice (record (.requestDraw false))) := by
    refine keeps_bind keeps_advanceTime fun _ => keeps_bind (keeps_onDevice fun _ => rfl)
      fun target => keeps_bind lasting.encodeFrame fun frame => keeps_bind (keeps_blit _)
      fun shown => keeps_bind (keeps_submit _) fun _ => keeps_bind keeps_countFrame fun _ =>
      keeps_bind keeps_get fun q => ?_
    exact keeps_ite (keeps_bind (keeps_discard keeps_checkAssertions) fun _ => keeps_requestDraw _)
      (keeps_requestDraw _)
  dsimp only
  split
  · split
    · exact keeps_bind (keeps_reloadIfChanged lasting _) fun _ => hframe
    · exact hframe
  · exact hframe

theorem keeps_onResize (event : Event) : Keeps (Tells holds) (onResize event) := by
  refine keeps_bind (keeps_ofExcept _) fun width => keeps_bind (keeps_ofExcept _) fun height => ?_
  exact keeps_ite (lasting.resize _ _) (keeps_pure _)

theorem keeps_handle (kind : EventKind) (event : Event) :
    Keeps (Tells holds) (handle kind event) := by
  cases kind with
  | resize => exact keeps_onResize lasting event
  | pointerMove => exact keeps_onPointerMove event
  | pointerDown => exact keeps_onPointerDown event
  | pointerUp => exact keeps_onPointerUp event
  | keyDown => exact keeps_onKey event true
  | keyUp => exact keeps_onKey event false

theorem keeps_receive (name : Text) (event : Event) :
    Keeps (Tells holds) (receive name event) := by
  refine keeps_bind keeps_get fun p => ?_
  split
  · exact keeps_handle lasting _ event
  · exact keeps_pure _

end Lasting

/-! ### Reachable states -/

/-- What can be asked of a player. -/
inductive Act where
  | preprocess (text : Text)
  | install (m : SourceMap)
  | loadShader (text : Text)
  | loadFile (path : Text)
  | setCustom (names values : Value)
  | setElapsed (seconds : Value)
  | setMousePosition (x y : Value)
  | setMouseClick (click : Bool)
  | setKey (code : Value) (down : Bool)
  | loadChannel (index : Value) (data : Except Fault NumericArray)
  | writeStorage (index : Value) (data : Except Fault NumericArray)
  | reset
  | resize (width height : Value)
  | render
  | checkAssertions
  | snapshot (moment : Moment)
  | openWindow (watching : Bool)
  | draw (now : Double)
  | receive (name : Text) (event : Event)
  /-- The bindings can be given tables, names and sizes behind the player's back. -/
  | setTables (tables : Tables)
  | setCustomDirectly (names values : Value)
  | resizeDirectly (width height : Int)
  | resetDirectly

/-- What the player does when asked; what it answers is left out. -/
def Act.perform : Act → Op Unit
  | preprocess text => discard (Player.preprocess text)
  | install m => discard (Player.install m)
  | loadShader text => discard (Player.loadShader text)
  | loadFile path => discard (Player.loadFile path)
  | setCustom names values => discard (Player.setCustom names values)
  | setElapsed seconds => Player.setElapsed seconds
  | setMousePosition x y => Player.setMousePosition x y
  | setMouseClick click => Player.setMouseClick click
  | setKey code down => Player.setKey code down
  | loadChannel index data => Player.loadChannel index data
  | writeStorage index data => Player.writeStorage index data
  | reset => Player.reset
  | resize width height => Player.resize width height
  | render => Player.render
  | checkAssertions => discard Player.checkAssertions
  | snapshot moment => discard (Player.snapshot moment)
  | openWindow watching => Player.openWindow watching
  | draw now => Player.draw now
  | receive name event => Player.receive name event
  | setTables tables => onRig (Rig.setTables tables)
  | setCustomDirectly names values => onRig (Rig.setCustomValues names values)
  | resizeDirectly width height => onRig (Rig.resize width height)
  | resetDirectly => onRig Rig.reset

/-- The states that a player gets into: made on some device, asked for one thing after
the other, whether or not it breaks off, and with surroundings that change meanwhile. -/
inductive Reachable : Player → Prop
  | made {settings : Settings} {device : Device} {outside : Outside} {p : Player}
      (made : make settings device outside = .ok () p) : Reachable p
  | acted {p : Player} (act : Act) (before : Reachable p) : Reachable (left (act.perform p))
  | elsewhere {p : Player} (device : Device) (outside : Outside) (clock : Double)
      (logicalSize : Value × Value) (before : Reachable p) :
      Reachable { p with rig.gpu.device := device, outside, clock, logicalSize }

/-- Whether something is asked for that is more than loads, resets, changes of size,
channels and what leaves the core as it is. -/
def Act.special : Act → Bool
  | install _ | setCustom _ _ | setTables _ | setCustomDirectly _ _ | resizeDirectly _ _
  | resetDirectly => true
  | _ => false

theorem keeps_perform {holds : Profile → Prop} (lasting : Lasting holds) {act : Act}
    (hact : act.special = false) : Keeps (Tells holds) act.perform := by
  cases act with
  | preprocess text => exact keeps_discard (keeps_preprocess text)
  | loadShader text => exact keeps_discard (lasting.loadShader text)
  | loadFile path => exact keeps_discard (keeps_loadFile lasting path)
  | setElapsed seconds => exact keeps_setElapsed seconds
  | setMousePosition x y => exact keeps_setMousePosition x y
  | setMouseClick click => exact keeps_setMouseClick click
  | setKey code down => exact keeps_setKey code down
  | loadChannel index data => exact lasting.loadChannel index data
  | writeStorage index data => exact keeps_writeStorage index data
  | reset => exact lasting.reset
  | resize width height => exact lasting.resize width height
  | render => exact keeps_render lasting.encodeFrame
  | checkAssertions => exact keeps_discard keeps_checkAssertions
  | snapshot moment => exact keeps_discard (keeps_snapshot lasting.encodeFrame moment)
  | openWindow watching => exact keeps_openWindow watching
  | draw now => exact keeps_draw lasting now
  | receive name event => exact keeps_receive lasting name event
  | install _ | setCustom _ _ | setTables _ | setCustomDirectly _ _ | resizeDirectly _ _
  | resetDirectly => cases hact

/-! ### What source maps go through -/

theorem keeps_install {holds : Profile → Prop} {m : SourceMap}
    (hswap : ∀ pipelines, Keeps (Tells holds) (swap m pipelines)) :
    Keeps (Tells holds) (install m) := by
  refine keeps_bind (keeps_attempt (keeps_compile m)) fun compiled => ?_
  split
  · exact keeps_bind (hswap _) fun _ => keeps_pure _
  · exact keeps_bind (keeps_report _) fun _ => keeps_pure _
  · exact keeps_throw _

theorem keeps_loadShader {holds : Profile → Prop} (hinstall : ∀ m, Keeps (Tells holds) (install m))
    (text : Text) : Keeps (Tells holds) (loadShader text) := by
  refine keeps_bind (keeps_modify fun _ hp => hp) fun _ =>
    keeps_bind (keeps_preprocess text) fun m => ?_
  split
  · exact hinstall _
  · exact keeps_pure _

theorem keeps_resize {holds : Player → Prop}
    (hsides : ∀ width height, Keeps holds (onRig (Rig.resize width height)))
    (hreset : Keeps holds reset) (hload : ∀ text, Keeps holds (loadShader text))
    (width height : Value) : Keeps holds (resize width height) := by
  refine keeps_bind (keeps_ofExcept _) fun width => keeps_bind (keeps_ofExcept _) fun height =>
    keeps_bind keeps_get fun p => keeps_ite (keeps_pure _) ?_
  refine keeps_bind (hsides width height) fun _ => keeps_bind hreset fun _ =>
    keeps_bind keeps_get fun p => ?_
  split
  · exact keeps_discard (hload _)
  · exact keeps_pure _

/-! ### Sound players -/

/-- An operation leaves the bindings of a player sound. -/
abbrev KeepsSound {α : Type} (op : Op α) : Prop := Keeps (Has fun c => c.rig.Sound) op

theorem keepsSound_onRig {α : Type} {op : Rig.Op α} (hop : Rig.KeepsSound op) :
    KeepsSound (onRig op) := keeps_onRig_of hop

theorem keepsSound_swap (m : SourceMap) (pipelines : List Pipeline) :
    KeepsSound (swap m pipelines) :=
  keeps_bind (keeps_note _) fun _ => keeps_bind (keepsSound_onRig (Rig.keeps_setTables _))
    fun _ => keeps_modify fun _ hp => hp

theorem keepsSound_install (m : SourceMap) : KeepsSound (install m) :=
  keeps_install (keepsSound_swap m)

theorem keepsSound_loadShader (text : Text) : KeepsSound (loadShader text) :=
  keeps_loadShader keepsSound_install text

theorem keepsSound_reset : KeepsSound reset :=
  -- the time that starts anew is no part of the core
  keeps_bind (keepsSound_onRig Rig.keeps_reset) fun _ =>
    keeps_bind (keepsSound_onRig (keeps_modify fun _ hr => hr)) fun _ =>
    keeps_modify fun _ hp => hp

theorem keepsSound_resize (width height : Value) : KeepsSound (resize width height) :=
  keeps_resize (fun width height => keepsSound_onRig (Rig.keeps_resize width height))
    keepsSound_reset keepsSound_loadShader width height

theorem lasting_sound : Lasting fun r => r.core.rig.Sound where
  encodeFrame := @keepsCore_encodeFrame fun c => c.rig.Sound
  loadShader := keepsSound_loadShader
  reset := keepsSound_reset
  resize := keepsSound_resize
  loadChannel := fun index data => keepsSound_onRig (Rig.keeps_loadChannel index data)

theorem keepsSound_setCustom (names values : Value) : KeepsSound (setCustom names values) := by
  refine keeps_bind (keeps_ofExcept _) fun names => keeps_get_bind fun p hp => ?_
  -- the names to come back to are those of a sound player
  have hback : Host.Proper ((p.rig.host.customNames.zip p.rig.host.customValues).map (·.1)) := by
    rw [Host.map_fst_zip_customValues]
    exact hp.tidy.proper
  refine keeps_bind (keepsSound_onRig (Rig.keeps_setCustomValues _ _)) (fun _ => ?_) p hp
  refine keeps_ite (keeps_pure _) (keeps_bind (keepsSound_install _) fun installed => ?_)
  refine keeps_ite (keeps_pure _) ?_
  exact keeps_bind (keepsSound_onRig (Rig.keeps_setCustom hback)) fun _ => keeps_pure _

theorem keepsSound_perform (act : Act) : KeepsSound act.perform := by
  cases act with
  | install m => exact keeps_discard (keepsSound_install m)
  | setCustom names values => exact keeps_discard (keepsSound_setCustom names values)
  | setTables tables => exact keepsSound_onRig (Rig.keeps_setTables tables)
  | setCustomDirectly names values =>
    exact keepsSound_onRig (Rig.keeps_setCustomValues names values)
  | resizeDirectly width height => exact keepsSound_onRig (Rig.keeps_resize width height)
  | resetDirectly => exact keepsSound_onRig Rig.keeps_reset
  | _ => exact keeps_perform lasting_sound rfl

/-! ### New players -/

/-- What a player is made with: nothing is installed, and its bindings are connected. -/
theorem make_eq {settings : Settings} {device : Device} {outside : Outside} {p : Player}
    (hmade : make settings device outside = .ok () p) :
    ∃ width height rig, Host.sizeOf settings.sides = .ok (width, height)
      ∧ Rig.connect
          { host := .start width height settings.wide settings.storageSize, gpu := { device } }
        = .ok () rig
      ∧ p = { title := settings.title, includes := settings.includes, logged := settings.logged,
              outside, rig } := by
  unfold make at hmade
  dsimp only at hmade
  split at hmade
  · cases hmade
  · next width height hsize =>
    unfold onRig at hmade
    split at hmade
    · next rig hconnect =>
      cases hmade
      exact ⟨width, height, rig, hsize, hconnect, rfl⟩
    · cases hmade

theorem sound_of_make {settings : Settings} {device : Device} {outside : Outside} {p : Player}
    (hmade : make settings device outside = .ok () p) : p.rig.core.Sound := by
  obtain ⟨width, height, rig, _, hconnect, rfl⟩ := make_eq hmade
  obtain ⟨after, bound, _, hafter, hhost, _, hbound, hsuits, _⟩ :=
    Rig.connect_start width height settings.wide settings.storageSize { device }
  cases hconnect.symm.trans hafter
  refine ⟨?_, bound, hbound, hsuits.binds, hsuits.custom, hsuits.sized, hsuits.standing⟩
  have htidy : rig.host.Tidy := hhost ▸ Host.tidy_start width height _ _
  exact ⟨htidy.proper, htidy.filled⟩

/-- The bindings of a player are sound, whatever was asked of it. -/
theorem sound_of_reachable {p : Player} (hp : Reachable p) : p.rig.core.Sound := by
  induction hp with
  | made hmade => exact sound_of_make hmade
  | acted act _ ih => exact keepsSound_perform act _ ih
  | elsewhere _ _ _ _ _ ih => exact ih

/-- A player is connected with its device, whatever was asked of it. -/
theorem complete_of_reachable {p : Player} (hp : Reachable p) :
    ∃ bound, p.rig.connection = .complete bound := by
  obtain ⟨bound, hbound, _⟩ := (sound_of_reachable hp).bound
  exact ⟨bound, hbound⟩

end ShaderPlayer.Player
