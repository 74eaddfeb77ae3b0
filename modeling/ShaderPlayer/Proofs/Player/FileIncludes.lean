/-
Where a player looks for what its files include.

A player that is made without a place for includes takes the directory of the first file that it is
asked to load, whether or not that file can be read, and keeps to it.

* `includes_of_loaded` — the place after files were loaded;
* `FindsIn`, `findsIn_includesOf` — the lines of a file in a directory take the place of an include;
* `loadFile_includes` — what a file includes is found next to the first file, and so next to the
  file itself where both lie in one directory.
-/
import ShaderPlayer.Proofs.Outside.Paths
import ShaderPlayer.Proofs.Player.Exchange
import ShaderPlayer.Proofs.Shader.Included

namespace ShaderPlayer.Player

open Gpu Shader Location

/-- The directory that a file lies in, by its path. -/
def homeOf (path : Text) : Location := (ofPath workingDirectory path).dropLast

/-! ### What is kept -/

/-- An operation leaves the place for includes alone. -/
def KeepsIncludes {α : Type} (op : Op α) : Prop :=
  ∀ {source : Option Include.Source}, Keeps (fun p => p.includes = source) op

theorem keepsIncludes_onRig {α : Type} (op : Rig.Op α) : KeepsIncludes (onRig op) := by
  intro source p hp
  unfold onRig
  rcases op p.rig with ⟨a, rig⟩ | ⟨fault, rig⟩ <;> exact hp

theorem keepsIncludes_note (notes : Array Note) : KeepsIncludes (note notes) :=
  keeps_modify fun _ hp => hp

theorem keepsIncludes_report (r : Report) : KeepsIncludes (report r) :=
  keeps_bind keeps_get fun _ => keeps_ite (keepsIncludes_note _) (keeps_modify fun _ hp => hp)

theorem keepsIncludes_compile (m : SourceMap) : KeepsIncludes (compile m) := by
  intro source p hp
  unfold compile
  dsimp only
  split <;> exact hp

theorem keepsIncludes_attempt {α : Type} {op : Op α} (hop : KeepsIncludes op) :
    KeepsIncludes (attempt op) := by
  intro source p hp
  have hleft := hop p hp
  unfold attempt
  rcases hend : op p with ⟨a, after⟩ | ⟨fault, after⟩
  all_goals
    rw [hend] at hleft
    exact hleft

theorem keepsIncludes_swap (m : SourceMap) (pipelines : List Pipeline) :
    KeepsIncludes (swap m pipelines) :=
  keeps_bind (keepsIncludes_note _) fun _ =>
    keeps_bind (keepsIncludes_onRig _) fun _ => keeps_modify fun _ hp => hp

theorem keepsIncludes_install (m : SourceMap) : KeepsIncludes (install m) := by
  refine keeps_bind (keepsIncludes_attempt (keepsIncludes_compile m)) fun result => ?_
  rcases result with fault | pipelines
  · cases fault with
    | shader r => exact keeps_bind (keepsIncludes_report r) fun _ => keeps_pure _
    | _ => exact keeps_throw _
  · exact keeps_bind (keepsIncludes_swap m pipelines) fun _ => keeps_pure _

theorem keepsIncludes_loadShader (text : Text) : KeepsIncludes (loadShader text) := by
  intro source p hp
  have hinformed : (p.informed text).includes = source := hp
  rw [loadShader_eq, proceed]
  rcases (p.preprocessing text).2 with _ | r | digits | _
  · exact keepsIncludes_install _ _ hinformed
  · exact keeps_bind (keepsIncludes_report r) (fun _ => keeps_pure false) _ hinformed
  · exact hinformed
  · exact hinformed

/-! ### Loading files -/

/-- The player once it has a place for what a file includes. -/
def placed (p : Player) (path : Text) : Player :=
  { p with includes := p.includes <|> some (includesOf path p.outside) }

theorem onOutside_readText (path : Text) (p : Player) :
    onOutside (Outside.readText path) p
      = (MonadExcept.ofExcept (p.outside.files.readText path) : Op Text) p := by
  show onOutside (fun o => (MonadExcept.ofExcept (o.files.readText path) : Reach Text) o) p = _
  unfold onOutside
  dsimp only
  rcases p.outside.files.readText path with fault | text <;> rfl

theorem loadFile_of_unread {path : Text} {p : Player} {fault : Fault}
    (h : p.outside.files.readText path = .error fault) :
    loadFile path p = .error fault (p.placed path) := by
  have hread : onOutside (Outside.readText path) (p.placed path)
      = .error fault (p.placed path) := by
    rw [onOutside_readText, show (p.placed path).outside = p.outside from rfl, h]
    rfl
  show (onOutside (Outside.readText path) >>= _) (p.placed path) = _
  exact run_bind_of_error hread

/-- A file that can be read is loaded as a shader. -/
theorem loadFile_of_read {path : Text} {p : Player} {text : Text}
    (h : p.outside.files.readText path = .ok text) :
    ∃ file, loadFile path p = loadShader text { p.placed path with file := some file } := by
  have hread : onOutside (Outside.readText path) (p.placed path) = .ok text (p.placed path) := by
    rw [onOutside_readText, show (p.placed path).outside = p.outside from rfl, h]
    rfl
  obtain ⟨file, hfile, _⟩ := bind_eq_ok_iff.mp h
  refine ⟨⟨path, file.modified⟩, ?_⟩
  show (onOutside (Outside.readText path) >>= _) (p.placed path) = _
  rw [run_bind_of_ok hread]
  show ((MonadExcept.ofExcept (p.outside.files.fileAt path) : Op File) >>= _) (p.placed path) = _
  rw [run_ofExcept_bind_of_ok hfile]
  rfl

/-- Loading a file leaves the player with the place it had, or else with that of the file. -/
theorem includes_loadFile (path : Text) (p : Player) :
    (left (loadFile path p)).includes = (p.placed path).includes := by
  rcases h : p.outside.files.readText path with fault | text
  · rw [loadFile_of_unread h]
    rfl
  · obtain ⟨file, hload⟩ := loadFile_of_read h
    rw [hload]
    exact keepsIncludes_loadShader text _ rfl

/-- What a player that is made without a place for includes gets into by loading files, one after
the other, while its surroundings do as they like. -/
inductive Loaded : List Text → Player → Prop
  | made {settings : Settings} {device : Device} {outside : Outside} {p : Player}
      (includes : settings.includes = none) (made : make settings device outside = .ok () p) :
      Loaded [] p
  | load {paths : List Text} {p : Player} (path : Text) (before : Loaded paths p) :
      Loaded (paths ++ [path]) (left (loadFile path p))
  | elsewhere {paths : List Text} {p : Player} (device : Device) (outside : Outside)
      (clock : Double) (logicalSize : Value × Value) (before : Loaded paths p) :
      Loaded paths { p with rig.gpu.device := device, outside, clock, logicalSize }

theorem includes_of_make {settings : Settings} {device : Device} {outside : Outside} {p : Player}
    (hmade : make settings device outside = .ok () p) : p.includes = settings.includes := by
  unfold make at hmade
  dsimp only at hmade
  split at hmade
  · cases hmade
  · next width height _ =>
    have hkeeps := @keepsIncludes_onRig Unit Rig.connect settings.includes
      { title := settings.title, includes := settings.includes, logged := settings.logged, outside
        rig := { host := .start width height settings.wide settings.storageSize
                 gpu := { device } } } rfl
    rwa [hmade] at hkeeps

/-- The first file that a player is asked to load decides where includes are looked up. -/
theorem includes_of_loaded {paths : List Text} {p : Player} (hp : Loaded paths p) :
    match paths.head? with
    | none => p.includes = none
    | some first => ∃ o, p.includes = some (includesOf first o) := by
  induction hp with
  | made hincludes hmade => exact (includes_of_make hmade).trans hincludes
  | @load paths p path _ ih =>
    rcases paths with _ | ⟨first, paths⟩
    · refine ⟨p.outside, ?_⟩
      rw [includes_loadFile, placed, show p.includes = none from ih]
      rfl
    · obtain ⟨o, ho⟩ := ih
      refine ⟨o, ?_⟩
      rw [includes_loadFile, placed, ho]
      rfl
  | elsewhere _ _ _ _ _ ih => exact ih

/-! ### Files in a directory -/

/-- A resolver finds quoted includes in a directory: if the path of one means a text file there,
the lines of that file take the place of the include. -/
def FindsIn (resolver : Resolver Outside) (directory : Location) : Prop :=
  ∀ {run : Run Outside} {line path argument : Text} {file : File} {text : Text},
    run.macros.included? line = some (.quoted path, argument) →
    Include.fileBelow? run.world.files directory path = some file →
    FileTree.File.text file = .ok text →
    ∀ (budget : Nat) (origin : Int),
      processLine resolver (budget + 1) origin line run
        = processLines (processLine resolver budget) (text.lines.map fun l => (origin, l))
            { run with asked := run.asked.push path }

section Next

variable {first path : Text} {file : File} {text : Text} {world : Outside} (o : Outside)
  (hfirst : isDoubled first = false)
  (hfile : Include.fileBelow? world.files (homeOf first) path = some file)
  (htext : FileTree.File.text file = .ok text)

include hfirst hfile htext

/-- A file next to the first one is found before any other. -/
theorem fetch_includesOf :
    (includesOf first o).resolver.fetch path world = (.text text, [], world) := by
  have hfind : Include.findFile? world.files [.named (directoryOf first)] path = some file := by
    have hhere : Include.Directory.find? world.files path (.named (directoryOf first))
        = some file := by
      show (if isDoubled (directoryOf first) then none
        else Include.fileBelow? world.files (ofPath workingDirectory (directoryOf first)) path) = _
      rw [isDoubled_directoryOf, hfirst, ofPath_directoryOf]
      exact hfile
    rw [Include.findFile?, List.findSome?_cons, hhere]
  have hdirectories : (Include.Source.directories [.named (directoryOf first)]).fetch path
      { world with notes := #[] } = .ok (some text) { world with notes := #[] } := by
    rw [Include.Source.fetch, run_bind_of_ok (show (get : Reach Outside) _ = .ok _ _ from rfl)]
    dsimp only
    rw [hfind]
    exact run_ofExcept_bind_of_ok htext _ _
  have hfetch : (includesOf first o).fetch path { world with notes := #[] }
      = .ok (some text) { world with notes := #[] } := by
    rw [includesOf, Include.Source.fetch, Include.fetchFirst, run_bind_of_ok hdirectories]
    rfl
  unfold Include.Source.resolver
  dsimp only
  rw [EStateM.run, hfetch]

end Next

theorem findsIn_includesOf {first : Text} (o : Outside) (hfirst : isDoubled first = false) :
    FindsIn (includesOf first o).resolver (homeOf first) := by
  intro run line path argument file text hline hfile htext budget origin
  have hfetch := fetch_includesOf o hfirst hfile htext
  have hlibrary : run.noteLibrary (.quoted path) = run := if_neg (by rintro ⟨⟩)
  have hask : run.ask (includesOf first o).resolver path
      = ({ run with asked := run.asked.push path }, some text) := by
    rw [Run.ask, hfetch]
    simp
  have hrequest : (IncludePath.quoted path).request = path := rfl
  rw [processLine_of_included hline, hlibrary, hrequest, hask]

/-- What a file includes is found next to the first file that the player was asked to load, which
may be this one, unless the path of that starts with exactly two slashes.  So it is found next to
the file itself where both lie in one directory. -/
theorem loadFile_includes {paths : List Text} {p : Player} (hp : Loaded paths p) (path : Text) :
    match p.outside.files.readText path with
    | .error fault => ∃ after, loadFile path p = .error fault after
    | .ok text => ∃ q : Player, q.outside = p.outside ∧ q.rig = p.rig
        ∧ loadFile path p = proceed (q.preprocessing text) (q.informed text)
        ∧ (isDoubled (paths.headD path) = false →
            FindsIn q.includeSource.resolver (homeOf (paths.headD path))
            ∧ (homeOf (paths.headD path) = homeOf path →
              FindsIn q.includeSource.resolver (homeOf path))) := by
  rcases h : p.outside.files.readText path with fault | text
  · exact ⟨p.placed path, loadFile_of_unread h⟩
  obtain ⟨file, hload⟩ := loadFile_of_read h
  refine ⟨{ p.placed path with file := some file }, rfl, rfl, ?_, fun hfirst => ?_⟩
  · rw [hload, loadShader_eq]
  have hsource : ∃ o, (p.placed path).includeSource = includesOf (paths.headD path) o := by
    have hincludes := includes_of_loaded hp
    rcases paths with _ | ⟨first, paths⟩
    · exact ⟨p.outside, by rw [includeSource, placed, show p.includes = none from hincludes]; rfl⟩
    · obtain ⟨o, ho⟩ := hincludes
      exact ⟨o, by rw [includeSource, placed, ho]; rfl⟩
  obtain ⟨o, ho⟩ := hsource
  have hfinds : FindsIn (p.placed path).includeSource.resolver (homeOf (paths.headD path)) := by
    rw [ho]
    exact findsIn_includesOf o hfirst
  exact ⟨hfinds, fun hsame => hsame ▸ hfinds⟩

/-! ### Files in two directories -/

/-- The file of a shader that includes a path. -/
def including : Text := "#include \"x\"\n".toList

/-- A shader in a directory, and in another one a shader with a file that it includes. -/
def apart : FileTree :=
  let shaders := (FileTree.put {} (workingDirectory ++ ["a".toList, "m.wgsl".toList]) [] none).put
    (workingDirectory ++ ["b".toList, "m.wgsl".toList]) including.encode none
  shaders.put (workingDirectory ++ ["b".toList, "x.wgsl".toList]) [] none

/-- These files around a player, and where to keep what is downloaded. -/
def apartWorld : Outside :=
  { files := apart, environment := [("HOME".toList, "/home/u".toList)] }

theorem readText_apart : apart.readText "b/m.wgsl".toList = .ok including := by decide +kernel

theorem fileBelow_apart :
    Include.fileBelow? apart (homeOf "b/m.wgsl".toList) ['x'] = some ⟨[], .counted 3⟩ := by
  decide +kernel

/-- A player that was asked to load a file in these surroundings. -/
theorem exists_loaded (first : Text) :
    ∃ p, Loaded [first] p ∧ p.outside = apartWorld
      ∧ p.includes = some (includesOf first apartWorld) := by
  obtain ⟨p, hmade, _⟩ := make_small {}
  have hstart := (Loaded.made rfl hmade).elsewhere {} apartWorld (.zero false) (.int 8, .int 8)
  refine ⟨_, (hstart.load first).elsewhere {} apartWorld (.zero false) (.int 8, .int 8), rfl, ?_⟩
  refine (includes_loadFile first _).trans ?_
  rw [placed, show p.includes = none from includes_of_make hmade]
  rfl

theorem loadFile_includes_together :
    ∃ p q, Loaded ["b/x.wgsl".toList] p
      ∧ loadFile "b/m.wgsl".toList p = proceed (preprocessing q including) (informed q including)
      ∧ FindsIn q.includeSource.resolver (homeOf "b/m.wgsl".toList)
      ∧ Include.fileBelow? q.outside.files (homeOf "b/m.wgsl".toList) ['x']
        = some ⟨[], .counted 3⟩ := by
  obtain ⟨p, hp, houtside, _⟩ := exists_loaded "b/x.wgsl".toList
  have hload := loadFile_includes hp "b/m.wgsl".toList
  rw [houtside, show apartWorld.files = apart from rfl, readText_apart] at hload
  obtain ⟨q, hq, _, hproceed, hfinds⟩ := hload
  refine ⟨p, q, hp, hproceed, (hfinds (by decide)).2 (by decide), ?_⟩
  rw [hq]
  exact fileBelow_apart

theorem included_including (width height : Int) :
    (initialMacros (screenMacros width height)).included? "#include \"x\"".toList
      = some (.quoted ['x'], "\"x\"".toList) := by
  unfold MacroTable.included?
  rw [expandLine_screen (by decide +kernel) (by decide +kernel)]
  decide +kernel

/-- An include that nothing is found for is reported. -/
theorem preprocessing_including {q : Player}
    (h : (q.includeSource.resolver.fetch ['x'] q.outside).1 = .missing) :
    (q.preprocessing including).2
      = .reported ((Cause.includeMissing "\"x\"".toList).report 1) := by
  have hlines : numberedLines including = [(1, "#include \"x\"".toList)] := by decide +kernel
  let start : Run Outside := Run.start (screenMacros q.size.1 q.size.2) q.outside
  have hasked : (start.ask q.includeSource.resolver ['x']).2 = none := by
    rw [Run.ask, show start.world = q.outside from rfl]
    rcases hfetch : q.includeSource.resolver.fetch ['x'] q.outside with ⟨answer, notes, world⟩
    rw [hfetch] at h
    obtain rfl : answer = .missing := h
    rfl
  have hline := @processLine_of_included _ q.includeSource.resolver start _ _ _
    (included_including q.size.1 q.size.2) 15 1
  rw [show start.noteLibrary (.quoted ['x']) = start from if_neg (by rintro ⟨⟩),
    show (IncludePath.quoted ['x']).request = ['x'] from rfl] at hline
  rcases hask : start.ask q.includeSource.resolver ['x'] with ⟨asked, answer⟩
  rw [hask] at hline hasked
  cases hasked
  unfold preprocessing Run.shader
  rw [hlines, processLines, show maxIncludeDepth = 15 + 1 from rfl, hline]

/-- The file next to a shader is not found where a file in another directory came first. -/
theorem loadFile_includes_apart :
    ∃ p q, Loaded ["a/m.wgsl".toList] p
      ∧ loadFile "b/m.wgsl".toList p = proceed (preprocessing q including) (informed q including)
      ∧ Include.fileBelow? q.outside.files (homeOf "b/m.wgsl".toList) ['x']
        = some ⟨[], .counted 3⟩
      ∧ (preprocessing q including).2
        = .reported ((Cause.includeMissing "\"x\"".toList).report 1) := by
  obtain ⟨p, hp, houtside, hincludes⟩ := exists_loaded "a/m.wgsl".toList
  have hread : p.outside.files.readText "b/m.wgsl".toList = .ok including := by
    rw [houtside]
    exact readText_apart
  obtain ⟨file, hload⟩ := loadFile_of_read hread
  let q : Player := { p.placed "b/m.wgsl".toList with file := some file }
  have hsource : q.includeSource = includesOf "a/m.wgsl".toList apartWorld := by
    show (p.includes <|> some _).getD _ = _
    rw [hincludes]
    rfl
  refine ⟨p, q, hp, hload.trans (loadShader_eq q including), ?_, preprocessing_including ?_⟩
  · rw [show q.outside = apartWorld from houtside]
    exact fileBelow_apart
  · rw [hsource, show q.outside = apartWorld from houtside]
    decide +kernel

end ShaderPlayer.Player
