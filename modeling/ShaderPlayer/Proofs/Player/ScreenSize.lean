/-
The size that the running shader was preprocessed for.

A shader is told the size of the screen by macros, so it has to be loaded again when the screen
changes size.  What is loaded then is the text that was given last, and this may be another one
than that of the shader that runs: one with a defect stays as the text without being installed.

* `Origin` — the text of the installed shader, and the size of the screen when it was loaded;
* `Playing` — what a player is asked for, with the origin of what is installed;
* `resize_of_some` — what a change of size comes to;
* `Fresh` — the installed source map was made for the size that there is;
* `screen_size` — it stays so where the text that is loaded again can be installed at the other
  size, and the textures that the shader draws to have this size, too;
* `screen_size_outdated` — that the shader that runs can be installed there is not enough.
-/
import ShaderPlayer.Proofs.Player.DataStructure

namespace ShaderPlayer.Player

open Gpu Shader

/-! ### Origins -/

/-- A text that was loaded, and the size of the screen then. -/
structure Origin where
  text : Text
  size : Int × Int

/-- Preprocessing a text for its size makes a source map, with some includes. -/
def Origin.Makes (o : Origin) (m : SourceMap) : Prop :=
  ∃ (outside : Outside) (source : Include.Source),
    let done := (Run.start (screenMacros o.size.1 o.size.2) outside).shader source.resolver o.text
    done.2 = .complete ∧ done.1.source = m

/-- The origin of what is installed after a text was loaded. -/
def loadedOrigin (p : Player) (text : Text) (o : Option Origin) : Option Origin :=
  match loadShader text p with
  | .ok true _ => some ⟨text, p.size⟩
  | _ => o

theorem loadedOrigin_of_ok {p after : Player} {text : Text} {o : Option Origin}
    (h : loadShader text p = .ok true after) : p.loadedOrigin text o = some ⟨text, p.size⟩ := by
  unfold loadedOrigin
  rw [h]

/-- The player with a screen of another size, before it loads a shader again. -/
def resized (p : Player) (width height : Int) : Player :=
  left ((do onRig (Rig.resize width height); reset : Op Unit) p)

/-- The size that a screen changes to, if it is given one that it does not have. -/
def otherSize? (p : Player) (width height : Value) : Option (Int × Int) :=
  match width.toInteger, height.toInteger with
  | .ok width, .ok height => if (width, height) = p.size then none else some (width, height)
  | _, _ => none

/-- The origin of what is installed after the screen was given a size. -/
def resizedOrigin (p : Player) (width height : Value) (o : Option Origin) : Option Origin :=
  match p.otherSize? width height, p.shader with
  | some (width, height), some text => loadedOrigin (p.resized width height) text o
  | _, _ => o

/-- A text can be installed at another size of the screen. -/
def FitsAt (p : Player) (text : Text) (width height : Int) : Prop :=
  ∃ after, loadShader text (p.resized width height) = .ok true after

/-- So can the text that was given last. -/
def Reloads (p : Player) (width height : Int) : Prop :=
  ∃ text, p.shader = some text ∧ p.FitsAt text width height

/-- The states that a player gets into by loading shaders, changes of size, custom uniforms, resets
and frames, with the origin of what is installed.  Where the size changes under an installed
shader, a condition is met. -/
inductive Playing (condition : Player → Origin → Int → Int → Prop) : Player → Option Origin → Prop
  | made {settings : Settings} {device : Device} {outside : Outside} {p : Player}
      (made : make settings device outside = .ok () p) : Playing condition p none
  | loaded {p : Player} {o : Option Origin} (text : Text) (before : Playing condition p o) :
      Playing condition (left (loadShader text p)) (p.loadedOrigin text o)
  | resized {p : Player} {o : Option Origin} (width height : Value) (before : Playing condition p o)
      (granted : ∀ {w h origin}, p.otherSize? width height = some (w, h) → o = some origin →
        condition p origin w h) :
      Playing condition (left (resize width height p)) (p.resizedOrigin width height o)
  | renamed {p : Player} {o : Option Origin} (names values : Value) (before : Playing condition p o) :
      Playing condition (left (setCustom names values p)) o
  | reset {p : Player} {o : Option Origin} (before : Playing condition p o) :
      Playing condition (left (reset p)) o
  | rendered {p : Player} {o : Option Origin} (before : Playing condition p o) :
      Playing condition (left (render p)) o
  | elsewhere {p : Player} {o : Option Origin} (device : Device) (outside : Outside)
      (clock : Double) (logicalSize : Value × Value) (before : Playing condition p o) :
      Playing condition { p with rig.gpu.device := device, outside, clock, logicalSize } o

theorem Playing.session {condition : Player → Origin → Int → Int → Prop} {p : Player}
    {o : Option Origin} (hp : Playing condition p o) : Session (fun _ act => act.Orderly) p := by
  induction hp with
  | made hmade => exact .made hmade
  | loaded _ _ ih => exact ih.loaded trivial rfl
  | resized width height _ _ ih => exact .acted (.resize width height) ih trivial
  | renamed _ _ _ ih => exact ih.renamed trivial rfl
  | reset _ ih => exact .acted .reset ih trivial
  | rendered _ ih => exact .acted .render ih trivial
  | elsewhere device outside clock logicalSize _ ih =>
    exact .elsewhere device outside clock logicalSize ih

theorem Playing.sound {condition : Player → Origin → Int → Int → Prop} {p : Player}
    {o : Option Origin} (hp : Playing condition p o) : p.rig.core.Sound :=
  sound_of_reachable hp.session.reachable

/-! ### Changes of size -/

theorem size_of_core {p after : Player} (h : after.core = p.core) : after.size = p.size := by
  have hwidth : after.rig.host.width = p.rig.host.width := congrArg (·.rig.host.width) h
  have hheight : after.rig.host.height = p.rig.host.height := congrArg (·.rig.host.height) h
  unfold size
  rw [hwidth, hheight]

/-- The screen has the new size, and what is installed stays. -/
structure Widened (p : Player) (width height : Int) (between : Player) : Prop where
  sound : between.rig.core.Sound
  laid : between.laid = p.laid
  size : between.size = (width, height)
  shader : between.shader = p.shader
  served : Rig.Served p.rig.gpu between.rig.gpu

theorem widened_resized {p : Player} (hp : p.rig.core.Sound) (width height : Int) :
    (do onRig (Rig.resize width height); reset : Op Unit) p = .ok () (p.resized width height)
      ∧ Widened p width height (p.resized width height) := by
  have hfirst := keepsSound_onRig (Rig.keeps_resize width height) p hp
  obtain ⟨between, hresize, hlaid, hsize, hshader, hserved⟩ := laid_onRig_resize hp width height
  rw [hresize] at hfirst
  have hbetween : between.rig.core.Sound := hfirst
  have hsecond := keepsSound_reset between hbetween
  obtain ⟨after, hreset, hlaid', hsize', hshader', hserved'⟩ := laid_reset hbetween
  rw [hreset] at hsecond
  have hrun : (do onRig (Rig.resize width height); reset : Op Unit) p = .ok () after :=
    (run_bind_of_ok hresize).trans hreset
  have hresized : p.resized width height = after := by
    unfold resized
    rw [hrun]
    rfl
  rw [hresized]
  exact ⟨hrun, hsecond, hlaid'.trans hlaid, hsize'.trans hsize, hshader'.trans hshader,
    hserved.trans hserved'⟩

/-- What is loaded again once the screen changed its size. -/
def reload : Op Unit := do
  if let some text := (← get).shader then discard (loadShader text)

theorem reload_of_some {p : Player} {text : Text} (h : p.shader = some text) :
    left (reload p) = left (loadShader text p) := by
  rw [← left_discard (loadShader text)]
  show left ((match p.shader with
    | some text => discard (loadShader text)
    | _ => pure () : Op Unit) p) = _
  rw [h]

theorem reload_of_none {p : Player} (h : p.shader = none) : left (reload p) = p := by
  show left ((match p.shader with
    | some text => discard (loadShader text)
    | _ => pure () : Op Unit) p) = _
  rw [h]
  rfl

/-- A size that the screen has, or that is none, changes nothing. -/
theorem resize_of_none {p : Player} {width height : Value} (h : p.otherSize? width height = none) :
    left (resize width height p) = p := by
  unfold otherSize? at h
  rcases hwidth : width.toInteger with fault | w
  · rw [show resize width height p = .error fault p from run_ofExcept_bind_of_error hwidth _ p]
    rfl
  rcases hheight : height.toInteger with fault | h'
  · rw [show resize width height p = .error fault p from
      (run_ofExcept_bind_of_ok hwidth _ p).trans (run_ofExcept_bind_of_error hheight _ p)]
    rfl
  rw [hwidth, hheight] at h
  dsimp only at h
  have hsame : (w, h') = p.size := by
    by_contra hne
    rw [if_neg hne] at h
    cases h
  have hrun : resize width height p = (if (w, h') = p.size then pure () else do
      onRig (Rig.resize w h')
      reset
      reload : Op Unit) p :=
    (run_ofExcept_bind_of_ok hwidth _ p).trans (run_ofExcept_bind_of_ok hheight _ p)
  rw [hrun, if_pos hsame]
  rfl

/-- Another size resets the player, and the text that was given last is loaded there. -/
theorem resize_of_some {p : Player} (hp : p.rig.core.Sound) {width height : Value} {w h : Int}
    (hother : p.otherSize? width height = some (w, h)) :
    resize width height p = reload (p.resized w h) := by
  unfold otherSize? at hother
  split at hother
  · next w' h' hwidth hheight =>
    split at hother
    · cases hother
    · next hne =>
      cases hother
      have hrun : resize width height p = (if (w, h) = p.size then pure () else do
          onRig (Rig.resize w h)
          reset
          reload : Op Unit) p :=
        (run_ofExcept_bind_of_ok hwidth _ p).trans (run_ofExcept_bind_of_ok hheight _ p)
      have hassoc : (do onRig (Rig.resize w h); reset; reload : Op Unit)
          = (do (do onRig (Rig.resize w h); reset : Op Unit); reload) := by
        rw [bind_assoc]
      rw [hrun, if_neg hne, hassoc]
      exact run_bind_of_ok (widened_resized hp w h).1
  · cases hother

theorem resize_of_shader {p : Player} (hp : p.rig.core.Sound) {width height : Value} {w h : Int}
    (hother : p.otherSize? width height = some (w, h)) {text : Text} (hshader : p.shader = some text)
    (o : Option Origin) :
    left (resize width height p) = left (loadShader text (p.resized w h))
      ∧ p.resizedOrigin width height o = (p.resized w h).loadedOrigin text o := by
  obtain ⟨_, hwidened⟩ := widened_resized hp w h
  refine ⟨?_, ?_⟩
  · rw [resize_of_some hp hother]
    exact reload_of_some (hwidened.shader.trans hshader)
  · unfold resizedOrigin
    rw [hother, hshader]

/-! ### The origin of what is installed -/

/-- The installed source map was made of its origin, for a screen of the size that there is; or
there is no origin, and nothing is installed. -/
def Fresh (p : Player) : Option Origin → Prop
  | some origin => origin.size = p.size ∧ origin.Makes p.map
  | none => p.map = {} ∧ p.pipelines = []

section Fresh

variable {p after : Player} {o : Option Origin}

theorem Fresh.of_eq (h : p.Fresh o) (hmap : after.map = p.map)
    (hpipelines : p.pipelines = [] → after.pipelines = []) (hsize : after.size = p.size) :
    after.Fresh o := by
  cases o with
  | some origin =>
    refine ⟨h.1.trans hsize.symm, ?_⟩
    rw [hmap]
    exact h.2
  | none => exact ⟨hmap.trans h.1, hpipelines h.2⟩

theorem Fresh.of_laid (h : p.Fresh o) (hlaid : after.laid = p.laid) (hsize : after.size = p.size) :
    after.Fresh o := by
  have hpipelines : after.pipelines = p.pipelines := congrArg Laid.pipelines hlaid
  exact h.of_eq (congrArg Laid.map hlaid) (fun hnil => hpipelines.trans hnil) hsize

theorem Fresh.of_core (h : p.Fresh o) (hcore : after.core = p.core) : after.Fresh o :=
  h.of_laid (congrArg Core.laid hcore) (size_of_core hcore)

theorem size_of_renamed {pairs : List (Text × Double)} (h : Renamed pairs p after) :
    after.size = p.size := by
  unfold size
  rw [h.host]
  rfl

theorem Fresh.of_renamed {pairs : List (Text × Double)} (h : p.Fresh o)
    (hafter : Renamed pairs p after) : after.Fresh o := by
  have hpipelines : after.pipelines = p.pipelines := congrArg Laid.pipelines hafter.laid
  exact h.of_eq (congrArg Laid.map hafter.laid) (fun hnil => hpipelines.trans hnil)
    (size_of_renamed hafter)

theorem Exchanged.size {m : SourceMap} (h : Exchanged m p after) :
    after.size = p.size := by
  have hstill : after.rig.host.still = { p.rig.host.still with tables := m.tables } := h.host
  show (after.rig.host.still.width, after.rig.host.still.height) = p.size
  rw [hstill]
  rfl

theorem fresh_of_exchanged {text : Text}
    (hcomplete : (p.preprocessing text).2 = .complete)
    (h : Exchanged (p.preprocessing text).1.source (p.informed text) after) :
    after.Fresh (some ⟨text, p.size⟩) :=
  ⟨h.size.symm, p.outside, p.includeSource, hcomplete, h.map.symm⟩

variable (hp : p.rig.core.Sound) (h : p.Fresh o)

include hp h

theorem fresh_loadShader (text : Text) : (left (loadShader text p)).Fresh (p.loadedOrigin text o) := by
  have hinformed : (p.informed text).Fresh o := h.of_core rfl
  have hends := loadEnds_loadShader hp text
  unfold loadedOrigin
  generalize loadShader text p = result at hends ⊢
  cases hends with
  | exchanged complete exchanged => exact fresh_of_exchanged complete exchanged
  | refused same => exact hinformed.of_core same.core
  | raised same => exact hinformed.of_core same.core

omit hp h in
theorem Widened.fresh_none {width height : Int} {between : Player}
    (hwidened : Widened p width height between) (hp : p.Fresh none) : between.Fresh none :=
  ⟨(congrArg Laid.map hwidened.laid).trans hp.1, (congrArg Laid.pipelines hwidened.laid).trans hp.2⟩

theorem fresh_resize {width height : Value}
    (hgranted : ∀ {w h origin}, p.otherSize? width height = some (w, h) → o = some origin →
      p.Reloads w h) :
    (left (resize width height p)).Fresh (p.resizedOrigin width height o) := by
  rcases hother : p.otherSize? width height with _ | ⟨w, h'⟩
  · rw [resize_of_none hother, resizedOrigin, hother]
    exact h
  obtain ⟨_, hwidened⟩ := widened_resized hp w h'
  -- without a shader nothing is loaded again, so nothing must be installed
  rcases hshader : p.shader with _ | text
  · rw [resize_of_some hp hother, reload_of_none (hwidened.shader.trans hshader), resizedOrigin,
      hother, hshader]
    cases o with
    | some origin =>
      obtain ⟨text, htext, _⟩ := hgranted hother rfl
      cases hshader.symm.trans htext
    | none => exact hwidened.fresh_none h
  obtain ⟨hresize, horigin⟩ := resize_of_shader hp hother hshader o
  rw [hresize, horigin]
  -- if nothing is installed, it does not matter how loading ends
  cases o with
  | some origin =>
    obtain ⟨text', htext, after, hload⟩ := hgranted hother rfl
    cases hshader.symm.trans htext
    have hends := loadEnds_loadShader hwidened.sound text
    rw [loadedOrigin_of_ok hload]
    rw [hload] at hends ⊢
    cases hends with
    | exchanged complete exchanged => exact fresh_of_exchanged complete exchanged
  | none => exact fresh_loadShader hwidened.sound (hwidened.fresh_none h) text

theorem fresh_setCustom (hregular : Regular p.map.tables) (names values : Value) :
    (left (setCustom names values p)).Fresh o := by
  have hends := customEnds_setCustom hp names values
  generalize setCustom names values p = result at hends ⊢
  cases hends with
  | faulty => exact h
  | set renamed => exact h.of_renamed renamed
  -- the source map that is compiled again is the installed one
  | @compiled pairs given after renamed _ installed =>
    have hexchanged := exchanged_of_install_true renamed.sound hregular.fit installed
    cases o with
    | some origin =>
      refine ⟨h.1.trans (hexchanged.size.trans (size_of_renamed renamed)).symm, ?_⟩
      rw [left, hexchanged.map]
      exact h.2
    | none =>
      -- a source map without lines has no entry points, with any names
      have hpoints : findEntryPoints (given.unitOf p.map) = .ok [] := by
        rw [h.1, findEntryPoints_unitOf renamed.sound rfl (by decide)]
        decide +kernel
      exact ⟨hexchanged.map.trans h.1, hexchanged.pipelines_eq_nil hpoints⟩
  | @restored pairs given between after renamed refused restored =>
    have hsame := same_of_install_false refused
    have hlaid := laid_restored hp renamed hsame restored
    refine h.of_laid hlaid ?_
    calc after.size = between.size := size_of_renamed restored
      _ = given.size := size_of_core hsame.core
      _ = p.size := size_of_renamed renamed
  | @raised pairs given after fault renamed again raised =>
    have hsame := same_of_install_error renamed.sound hregular.fit raised
    exact (h.of_renamed renamed).of_core hsame.core

theorem fresh_reset : (left (reset p)).Fresh o := by
  obtain ⟨after, hreset, hlaid, hsize, _⟩ := laid_reset hp
  rw [hreset]
  exact h.of_laid hlaid hsize

omit hp in
theorem fresh_render : (left (render p)).Fresh o := by
  have hframe := @keepsCore_encodeFrame fun c => c = p.core
  exact h.of_core (keeps_render hframe p rfl)

end Fresh

/-! ### With a shader that reads the size -/

/-- A line that asks for as many workgroups as the screen is large. -/
def countLine : Text := "#workgroup_count f SCREEN_WIDTH SCREEN_HEIGHT 1".toList

/-- A shader with this line. -/
def countText : Text := countLine ++ '\n' :: pointText

/-- Its source map, for a screen of some size. -/
def countMap (width height : Int) : SourceMap :=
  { emitted := #[⟨pointLine, 2⟩], workgroupCounts := [(['f'], ⟨width, height, 1⟩)] }

/-- Sizes that the line is read with. -/
def Counted (width height : Int) : Prop :=
  ∃ tokens, Line.ofText ((initialMacros (screenMacros width height)).expandLine countLine)
      = .directive tokens
    ∧ Directive.ofTokens tokens = .ok (.workgroupCount ['f'] ⟨width, height, 1⟩)

theorem counted_small : Counted 8 8 := by
  refine ⟨["#workgroup_count".toList, ['f'], ['8'], ['8'], ['1']], ?_, ?_⟩
  · decide +kernel
  · decide +kernel

theorem counted_wide : Counted 16 8 := by
  refine ⟨["#workgroup_count".toList, ['f'], "16".toList, ['8'], ['1']], ?_, ?_⟩
  · decide +kernel
  · decide +kernel

theorem preprocessing_count {p : Player} {width height : Int} (hsize : p.size = (width, height))
    (hcounted : Counted width height) :
    (p.preprocessing countText).2 = .complete
      ∧ (p.preprocessing countText).1.source = countMap width height := by
  obtain ⟨tokens, hkind, hread⟩ := hcounted
  have hlines : numberedLines countText = [(1, countLine), (2, pointLine)] := by decide +kernel
  let start : Run Outside := Run.start (screenMacros width height) p.outside
  let counted : Run Outside :=
    { start with source.workgroupCounts := [(['f'], ⟨width, height, 1⟩)] }
  have hfirst : processLine p.includeSource.resolver maxIncludeDepth 1 countLine start
      = (counted, none) :=
    processLine_directive hkind hread fun _ _ h => by cases h
  have hplain : Line.ofText (counted.macros.expandLine pointLine) = .plain pointLine :=
    line_point width height
  have hsecond : processLine p.includeSource.resolver maxIncludeDepth 2 pointLine counted = _ :=
    processLine_plain hplain
  unfold preprocessing Run.shader
  rw [hsize, hlines, processLines, hfirst]
  dsimp only
  rw [processLines, hsecond]
  exact ⟨rfl, rfl⟩

theorem loadShader_count {p : Player} (hp : p.rig.core.Sound)
    (hwilling : Willing p.rig.gpu.device) {width height : Int} (hsize : p.size = (width, height))
    (hcounted : Counted width height) :
    ∃ after, loadShader countText p = .ok true after
      ∧ Exchanged (countMap width height) (p.informed countText) after ∧ after.pipelines ≠ [] := by
  have hnames : ∀ name ∈ bootstrapTables.keys, name.isIdentifier := by decide
  exact loadShader_of_willing hp hwilling (preprocessing_count hsize hcounted)
    regular_bootstrapTables.fit (findEntryPoints_point hp rfl hnames rfl) (List.cons_ne_nil _ _)

theorem fitsAt_count {p : Player} (hp : p.rig.core.Sound) (hwilling : Willing p.rig.gpu.device) :
    p.FitsAt countText 16 8 := by
  obtain ⟨_, hwidened⟩ := widened_resized hp 16 8
  have hdevice : Willing (p.resized 16 8).rig.gpu.device := by
    rw [hwidened.served]
    exact hwilling
  obtain ⟨after, hload, _⟩ := loadShader_count hwidened.sound hdevice hwidened.size counted_wide
  exact ⟨after, hload⟩

theorem otherSize_small {p : Player} (hsize : p.size = (8, 8)) :
    p.otherSize? (.int 16) (.int 8) = some (16, 8) := by
  show (if ((16, 8) : Int × Int) = p.size then none else some (16, 8)) = _
  rw [hsize]
  rfl

/-- A small screen that the shader was loaded for, with a device that refuses nothing. -/
theorem exists_counted (condition : Player → Origin → Int → Int → Prop) :
    ∃ p, Playing condition p (some ⟨countText, (8, 8)⟩) ∧ Willing p.rig.gpu.device
      ∧ p.size = (8, 8) ∧ p.shader = some countText ∧ p.map = countMap 8 8 ∧ p.pipelines ≠ [] := by
  obtain ⟨p, hmade, hhost, hwilling⟩ := exists_willing
  have hsize : p.size = (8, 8) := by
    unfold size
    rw [hhost]
    rfl
  obtain ⟨after, hload, hexchanged, hpipelines⟩ :=
    loadShader_count (sound_of_make hmade) hwilling hsize counted_small
  have hloaded : Playing condition after (some ⟨countText, (8, 8)⟩) := by
    have hnext : Playing condition _ _ := .loaded countText (.made hmade)
    rwa [loadedOrigin_of_ok hload, hload, hsize] at hnext
  exact ⟨_, .elsewhere p.rig.gpu.device after.outside after.clock after.logicalSize hloaded,
    hwilling, hexchanged.size.trans hsize, hexchanged.shader, hexchanged.map, hpipelines⟩

/-- A text that is no shader. -/
def defectiveText : Text := "#nope\n".toList

theorem preprocessing_defective (p : Player) : (p.preprocessing defectiveText).2 ≠ .complete := by
  have hlines : numberedLines defectiveText = [(1, "#nope".toList)] := by decide +kernel
  have hdefinition : splitDefinition? "#nope".toList = none := by decide +kernel
  let start : Run Outside := Run.start (screenMacros p.size.1 p.size.2) p.outside
  have hkind : Line.ofText (start.macros.expandLine "#nope".toList)
      = .directive ["#nope".toList] := by
    show Line.ofText ((initialMacros (screenMacros p.size.1 p.size.2)).expandLine _) = _
    rw [expandLine_screen hdefinition (by decide +kernel)]
    decide +kernel
  have hline : processLine p.includeSource.resolver maxIncludeDepth 1 "#nope".toList start = _ :=
    processLine_malformed hkind rfl
  unfold preprocessing Run.shader
  rw [hlines, processLines, hline]
  exact fun h => by cases h

/-- A text that cannot be installed stays as the text, and changes nothing else. -/
theorem same_of_defective {p : Player} (hp : p.rig.core.Sound) (o : Option Origin) :
    Same (p.informed defectiveText) (left (loadShader defectiveText p))
      ∧ p.loadedOrigin defectiveText o = o := by
  have hends := loadEnds_loadShader hp defectiveText
  unfold loadedOrigin
  generalize loadShader defectiveText p = result at hends ⊢
  cases hends with
  | exchanged complete _ => exact absurd complete (preprocessing_defective p)
  | refused same => exact ⟨same, rfl⟩
  | raised same => exact ⟨same, rfl⟩

/-! ### The size of the screen -/

theorem fresh_of_make {settings : Settings} {device : Device} {outside : Outside} {p : Player}
    (hmade : make settings device outside = .ok () p) : p.Fresh none := by
  obtain ⟨_, _, _, _, hlaid⟩ := laid_of_make hmade
  exact ⟨congrArg Laid.map hlaid, congrArg Laid.pipelines hlaid⟩

theorem fresh_of_playing {p : Player} {o : Option Origin}
    (hp : Playing (fun p _ width height => p.Reloads width height) p o) : p.Fresh o := by
  induction hp with
  | made hmade => exact fresh_of_make hmade
  | loaded text hbefore ih => exact fresh_loadShader hbefore.sound ih text
  | resized width height hbefore granted ih => exact fresh_resize hbefore.sound ih granted
  | renamed names values hbefore ih =>
    obtain ⟨hsound, hregular, _⟩ := Session.upheld upheld_tabled hbefore.session
    exact fresh_setCustom hsound ih hregular names values
  | reset hbefore ih => exact fresh_reset hbefore.sound ih
  | rendered _ ih => exact fresh_render ih
  | elsewhere _ _ _ _ _ ih => exact ih.of_core rfl

/-- Where the text that was given last can be installed at each size that the screen changes to,
pipelines were compiled from a text that was preprocessed for the size of the screen, which is that
of the textures they are bound to. -/
theorem screen_size {p : Player} {o : Option Origin}
    (hp : Playing (fun p _ width height => p.Reloads width height) p o) (hruns : p.pipelines ≠ []) :
    (∃ origin, o = some origin ∧ origin.size = p.size ∧ origin.Makes p.map
        ∧ ∀ pipeline ∈ p.pipelines, ∃ names,
          pipeline.compiled.module.code = unitText p.map names p.rig.host.wide)
      ∧ ∃ screen passIn passOut : View, p.boundAt? 9 = some (.view screen)
          ∧ p.boundAt? 10 = some (.view passIn) ∧ p.boundAt? 11 = some (.view passOut)
          ∧ ∀ view ∈ [screen, passIn, passOut], (view.texture.width, view.texture.height) = p.size := by
  obtain ⟨hsound, _, htabled⟩ := Session.upheld upheld_tabled hp.session
  refine ⟨?_, ?_⟩
  · have hfresh := fresh_of_playing hp
    cases o with
    | some origin =>
      refine ⟨origin, rfl, hfresh.1, hfresh.2, fun pipeline hpipeline => ?_⟩
      obtain ⟨names, _, hcode⟩ := htabled.compiled pipeline hpipeline
      exact ⟨names, hcode⟩
    | none => exact absurd hfresh.2 hruns
  · obtain ⟨bound, hbound, hsuits⟩ := hsound.bound
    obtain ⟨screen, passIn, passOut, hscreen, hpassIn, hpassOut, hs, hi, ho⟩ :=
      hsuits.binds.at_textures
    have hat := boundAt?_complete hbound
    refine ⟨screen, passIn, passOut, (hat 9).trans hscreen, (hat 10).trans hpassIn,
      (hat 11).trans hpassOut, ?_⟩
    simp only [List.forall_mem_cons, hs, hi, ho]
    exact ⟨hsuits.sized.screen, hsuits.sized.passIn, hsuits.sized.passOut, fun _ h =>
      absurd h List.not_mem_nil⟩

/-- On a wider screen the shader runs with more workgroups. -/
theorem screen_size_wider :
    ∃ p o, Playing (fun p _ width height => p.Reloads width height) p o ∧ p.pipelines ≠ []
      ∧ p.size = (16, 8) ∧ p.map.workgroupCounts = [(['f'], ⟨16, 8, 1⟩)]
      ∧ ∃ origin, o = some origin ∧ origin.size = (16, 8) ∧ origin.Makes p.map := by
  obtain ⟨p, hp, hwilling, hsize, hshader, _⟩ :=
    exists_counted fun p _ width height => p.Reloads width height
  have hother := otherSize_small hsize
  obtain ⟨_, hwidened⟩ := widened_resized hp.sound 16 8
  have hdevice : Willing (p.resized 16 8).rig.gpu.device := by
    rw [hwidened.served]
    exact hwilling
  obtain ⟨after, hload, hexchanged, hpipelines⟩ :=
    loadShader_count hwidened.sound hdevice hwidened.size counted_wide
  have hreloads : p.Reloads 16 8 := ⟨countText, hshader, after, hload⟩
  have hnext : Playing (fun p _ width height => p.Reloads width height) _ _ :=
    .resized (.int 16) (.int 8) hp fun h _ => by
      cases hother.symm.trans h
      exact hreloads
  obtain ⟨hleft, _⟩ := resize_of_shader hp.sound hother hshader (some ⟨countText, (8, 8)⟩)
  rw [hleft, hload] at hnext
  have hsize' : after.size = (16, 8) := hexchanged.size.trans hwidened.size
  obtain ⟨⟨origin, horigin, hmatches, hmakes, _⟩, _⟩ := screen_size hnext hpipelines
  refine ⟨after, _, hnext, hpipelines, hsize', ?_, origin, horigin, hmatches.trans hsize', hmakes⟩
  have hmap : after.map = countMap 16 8 := hexchanged.map
  rw [hmap]
  rfl

/-- A text with a defect is given after this shader, which goes on running, and then the screen gets
wider: what is loaded again is the text with the defect, though the shader that runs could be
installed. -/
theorem screen_size_outdated :
    ∃ p origin, Playing (fun p origin width height => p.FitsAt origin.text width height) p
        (some origin)
      ∧ p.pipelines ≠ [] ∧ p.size = (16, 8) ∧ origin.size = (8, 8)
      ∧ p.map.workgroupCounts = [(['f'], ⟨8, 8, 1⟩)] := by
  obtain ⟨first, hfirst, hwilling, hsize, _, hmap, hpipelines⟩ :=
    exists_counted fun p origin width height => p.FitsAt origin.text width height
  obtain ⟨hsame, hstays⟩ := same_of_defective hfirst.sound (some ⟨countText, (8, 8)⟩)
  have hloaded := Playing.loaded defectiveText hfirst
  rw [hstays] at hloaded
  generalize left (loadShader defectiveText first) = second at hsame hloaded
  -- the device is the one that took the shader
  let p : Player := { second with rig.gpu.device := first.rig.gpu.device }
  have hp : Playing (fun p origin width height => p.FitsAt origin.text width height) p _ :=
    .elsewhere first.rig.gpu.device second.outside second.clock second.logicalSize hloaded
  have hcore : p.core = first.core := hsame.core
  have hother := otherSize_small ((size_of_core hcore).trans hsize)
  have hnext := Playing.resized (.int 16) (.int 8) hp fun h hsome => by
    cases hother.symm.trans h
    cases hsome
    exact fitsAt_count hp.sound hwilling
  obtain ⟨hleft, horigin⟩ :=
    resize_of_shader hp.sound hother hsame.shader (some ⟨countText, (8, 8)⟩)
  obtain ⟨_, hwidened⟩ := widened_resized hp.sound 16 8
  obtain ⟨hlast, hstays'⟩ := same_of_defective hwidened.sound (some ⟨countText, (8, 8)⟩)
  rw [hleft, horigin, hstays'] at hnext
  have hlaid : (left (loadShader defectiveText (p.resized 16 8))).laid = first.laid :=
    calc (left (loadShader defectiveText (p.resized 16 8))).laid
        = (p.resized 16 8).laid := congrArg Core.laid hlast.core
      _ = p.laid := hwidened.laid
      _ = first.laid := congrArg Core.laid hcore
  refine ⟨_, _, hnext, ?_, (size_of_core hlast.core).trans hwidened.size, rfl, ?_⟩
  · have hkept : (left (loadShader defectiveText (p.resized 16 8))).pipelines = first.pipelines :=
      congrArg Laid.pipelines hlaid
    exact fun hnil => hpipelines (hkept.symm.trans hnil)
  · have hkept : (left (loadShader defectiveText (p.resized 16 8))).map = first.map :=
      congrArg Laid.map hlaid
    exact congrArg SourceMap.workgroupCounts (hkept.trans hmap)

end ShaderPlayer.Player
