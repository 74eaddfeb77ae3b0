/-
A shader is built first, and takes the place of the installed one after.

* `installed`, `heard` — what is installed in a player, and what its sink was told;
* `Installs` — what giving it a source map comes to: the new one is installed as a whole
  and nothing is reported, or what is installed stays as it was;
* `install_of_made`, `install_of_shader`, `install_of_fault` — the three ways in which
  installing ends;
* `build_then_swap` — all of this for the states a player gets into.  A verdict of the
  device is reported exactly if the first numeral it names a line with is read.
-/
import ShaderPlayer.Proofs.Include.Notes
import ShaderPlayer.Proofs.Pipeline
import ShaderPlayer.Proofs.Player.Reachable

namespace ShaderPlayer.Player

open Gpu Shader

/-! ### What is installed and what was heard -/

/-- What is installed, and what it runs with. -/
structure Installed where
  map : SourceMap
  pipelines : List Pipeline
  frames : Nat
  tables : Tables
  customNames : List Text
  custom : UniformBlock
  connection : Connection

/-- What is installed in a player. -/
def installed (p : Player) : Installed where
  map := p.map
  pipelines := p.pipelines
  frames := p.frames
  tables := p.rig.host.tables
  customNames := p.rig.host.customNames
  custom := p.rig.host.custom
  connection := p.rig.connection

/-- What the sink of a player was told, as notes. -/
def heard (p : Player) : List Note :=
  if p.logged then p.outside.notes.toList.filter (·.level = .error)
  else p.reports.toList.map reportNote

/-- The unit that a source map is compiled as. -/
def unitOf (p : Player) (m : SourceMap) : Text :=
  unitText m p.rig.host.customNames p.rig.host.wide

/-- The number of lines that precede the source of a map in its unit. -/
def offsetOf (p : Player) (m : SourceMap) : Nat :=
  (header m p.rig.host.customNames p.rig.host.wide).count '\n'

/-- The layout of the pipelines that a player makes. -/
def layout (p : Player) : Option PipelineLayout := p.rig.bound.map (·.resources.pipelineLayout)

/-- A source map that preprocessing a shader makes, whichever includes there are. -/
def Preprocessed (m : SourceMap) : Prop :=
  ∃ (σ : Type) (resolver : Resolver σ) (defines : Entries Text) (world : σ) (text : Text),
    ((Run.start defines world).shader resolver text).2 = .complete
      ∧ ((Run.start defines world).shader resolver text).1.source = m

theorem fit_of_preprocessed {m : SourceMap} (hm : Preprocessed m) : Fit m.tables := by
  obtain ⟨σ, resolver, defines, world, text, _, rfl⟩ := hm
  exact fit_tables resolver defines world text

theorem filter_mild {notes : List Note} (h : ∀ n ∈ notes, n.Mild) :
    notes.filter (·.level = .error) = [] := by
  rw [List.filter_eq_nil_iff]
  intro n hn
  rw [decide_eq_true_eq]
  exact h n hn

/-- The player after notes were made. -/
def noted (p : Player) (notes : Array Note) : Player :=
  { p with outside := { p.outside with notes := p.outside.notes ++ notes } }

theorem heard_noted {p : Player} {notes : Array Note} (h : ∀ n ∈ notes, n.Mild) :
    (p.noted notes).heard = p.heard := by
  unfold heard
  by_cases hlogged : p.logged
  · have hnew : notes.toList.filter (·.level = .error) = [] :=
      filter_mild fun n hn => h n (Array.mem_toList_iff.mp hn)
    rw [if_pos hlogged, if_pos (show (p.noted notes).logged from hlogged), noted,
      Array.toList_append, List.filter_append, hnew, List.append_nil]
  · rw [if_neg hlogged, if_neg (show ¬ (p.noted notes).logged from hlogged)]
    rfl

/-- A report reaches the sink and changes nothing that is installed. -/
theorem report_spec (r : Report) (p : Player) :
    ∃ after, report r p = .ok () after ∧ after.installed = p.installed
      ∧ after.heard = p.heard ++ [reportNote r] := by
  by_cases hlogged : p.logged
  · refine ⟨p.noted #[reportNote r], ?_, rfl, ?_⟩
    · show (if p.logged then note #[reportNote r] else _ : Op Unit) p = _
      rw [if_pos hlogged]
      rfl
    · unfold heard
      rw [if_pos hlogged, if_pos (show (p.noted _).logged from hlogged), noted,
        Array.toList_append, List.filter_append]
      rfl
  · refine ⟨{ p with reports := p.reports.push r }, ?_, rfl, ?_⟩
    · show (if p.logged then note #[reportNote r] else _ : Op Unit) p = _
      rw [if_neg hlogged]
      rfl
    · unfold heard
      rw [if_neg hlogged, if_neg hlogged, Array.toList_push, List.map_append]
      rfl

/-! ### Compiling -/

/-- The player after work on its device. -/
def worked (p : Player) (w : Workbench) : Player :=
  { p.noted w.notes with rig := { p.rig with gpu := w.gpu } }

/-- Compiling for the bindings of a player, on its device. -/
def build (p : Player) (m : SourceMap) : EStateM.Result Fault Workbench (List Pipeline) :=
  Workbench.compile p.rig.host p.layout m ⟨p.rig.gpu, #[]⟩

theorem build_of_unread {p : Player} {m : SourceMap} {digits : Nat}
    (hpoints : findEntryPoints (p.unitOf m) = .error digits) :
    ∃ w, p.build m = .error (.numeral digits) w := by
  have heq := Workbench.compile_eq p.rig.host p.layout m ⟨p.rig.gpu, #[]⟩
  unfold unitOf at hpoints
  rw [hpoints] at heq
  exact ⟨_, heq⟩

theorem build_of_made {p : Player} {m : SourceMap} {points : List EntryPoint}
    {pipelines : List Pipeline} {gpu : Gpu.State}
    (hpoints : findEntryPoints (p.unitOf m) = .ok points)
    (hmake : Workbench.makeAll m p.layout (p.unitOf m) points p.rig.gpu = .ok pipelines gpu) :
    ∃ w, p.build m = .ok pipelines w := by
  have heq := Workbench.compile_eq p.rig.host p.layout m ⟨p.rig.gpu, #[]⟩
  unfold unitOf at hpoints hmake
  rw [hpoints] at heq
  dsimp only at heq
  rw [hmake] at heq
  exact ⟨_, heq⟩

theorem build_of_refused {p : Player} {m : SourceMap} {points : List EntryPoint} {fault : Fault}
    {gpu : Gpu.State} (hpoints : findEntryPoints (p.unitOf m) = .ok points)
    (hmake : Workbench.makeAll m p.layout (p.unitOf m) points p.rig.gpu = .error fault gpu) :
    ∃ w, p.build m = .error (Workbench.seenFrom m (p.offsetOf m) fault) w := by
  have heq := Workbench.compile_eq p.rig.host p.layout m ⟨p.rig.gpu, #[]⟩
  unfold unitOf at hpoints hmake
  rw [hpoints] at heq
  dsimp only at heq
  rw [hmake] at heq
  exact ⟨_, heq⟩

theorem compile_of_ok {p : Player} {m : SourceMap} {pipelines : List Pipeline} {w : Workbench}
    (h : p.build m = .ok pipelines w) : compile m p = .ok pipelines (p.worked w) := by
  unfold build layout at h
  unfold compile
  dsimp only
  rw [h]
  rfl

theorem compile_of_error {p : Player} {m : SourceMap} {fault : Fault} {w : Workbench}
    (h : p.build m = .error fault w) : compile m p = .error fault (p.worked w) := by
  unfold build layout at h
  unfold compile
  dsimp only
  rw [h]
  rfl

theorem keeps_benchNote {n : Note} (hn : n.Mild) :
    Keeps (fun w : Workbench => ∀ n ∈ w.notes, n.Mild) (Workbench.note n) := by
  refine keeps_modify fun w hw n' hn' => ?_
  rcases Array.mem_push.mp hn' with hn' | rfl
  · exact hw n' hn'
  · exact hn

/-- Compiling makes no notes about errors. -/
theorem mild_build (p : Player) (m : SourceMap) : ∀ n ∈ (left (p.build m)).notes, n.Mild := by
  have hkeeps : Keeps (fun w : Workbench => ∀ n ∈ w.notes, n.Mild)
      (Workbench.compile p.rig.host p.layout m) := by
    unfold Workbench.compile
    dsimp only
    split
    · exact keeps_throw _
    · next points _ =>
      have hempty : Note.Mild Workbench.noEntryPoints := fun h => by cases h
      have hcompiled : ∀ count, Note.Mild (Workbench.compiledNote count) := fun _ h => by cases h
      have hdevice : Keeps (fun w : Workbench => ∀ n ∈ w.notes, n.Mild) (do
          let pipelines ← Workbench.onDevice
            (Workbench.seenFrom m
              ((header m p.rig.host.customNames p.rig.host.wide).count '\n'))
            (Workbench.makeAll m p.layout
              (header m p.rig.host.customNames p.rig.host.wide ++ m.source) points)
          Workbench.note (Workbench.compiledNote pipelines.length)
          return pipelines) := by
        refine keeps_bind (fun w hw => ?_) fun pipelines =>
          keeps_bind (keeps_benchNote (hcompiled _)) fun _ => keeps_pure _
        unfold Workbench.onDevice
        split <;> exact hw
      exact keeps_ite (keeps_bind (keeps_benchNote hempty) fun _ => hdevice) hdevice
  exact hkeeps _ fun n hn => absurd hn (Array.not_mem_empty n)

/-- Compiling itself reports nothing, however it ends. -/
theorem heard_of_build {p : Player} {m : SourceMap}
    {result : EStateM.Result Fault Workbench (List Pipeline)} (h : p.build m = result) :
    (p.worked (left result)).heard = p.heard := by
  have hmild : ∀ n ∈ (left result).notes, n.Mild := by
    rw [← h]
    exact mild_build p m
  show (p.noted (left result).notes).heard = p.heard
  exact heard_noted hmild

/-! ### Installing -/

/-- A source map as a whole took the place of the installed one: what was set for the
bindings stays, and they refer to another buffer of tables. -/
structure Swapped (m : SourceMap) (p after : Player) : Prop where
  map : after.map = m
  frames : after.frames = 0
  tables : after.rig.host.tables = m.tables
  customNames : after.rig.host.customNames = p.rig.host.customNames
  custom : after.rig.host.custom = p.rig.host.custom
  pipelines : ∃ points module, findEntryPoints (p.unitOf m) = .ok points
    ∧ module.code = p.unitOf m
    ∧ List.Forall₂
        (fun point pipeline => ∃ number, pipeline
          = (Pipeline.ofEntryPoint m point ⟨number, p.layout, module, point.name⟩).limited)
        points after.pipelines
  connection : ∃ bound bytes data group, p.rig.connection = .complete bound
    ∧ Host.tableBytes m.tables = .ok bytes ∧ data.contents = some bytes
    ∧ after.rig.connection = .complete ⟨{ bound.resources with data }, group⟩

/-- What it comes to to give a player a source map. -/
inductive Installs (m : SourceMap) (p : Player) : EStateM.Result Fault Player Bool → Prop
  | swapped {after : Player} (swapped : Swapped m p after) (heard : after.heard = p.heard) :
      Installs m p (.ok true after)
  | reported {after : Player} (report : Report) (installed : after.installed = p.installed)
      (heard : after.heard = p.heard ++ [reportNote report]) : Installs m p (.ok false after)
  | raised {fault : Fault} {after : Player} (installed : after.installed = p.installed)
      (heard : after.heard = p.heard) : Installs m p (.error fault after)

theorem attempt_of_ok {α : Type} {op : Op α} {p after : Player} {a : α}
    (h : op p = .ok a after) : attempt op p = .ok (.ok a) after := by
  unfold attempt
  rw [h]

theorem attempt_of_error {α : Type} {op : Op α} {p after : Player} {fault : Fault}
    (h : op p = .error fault after) : attempt op p = .ok (.error fault) after := by
  unfold attempt
  rw [h]

/-- An error of the shader is reported, and what is installed stays. -/
theorem install_of_shader {m : SourceMap} {p : Player} {r : Report} {w : Workbench}
    (h : p.build m = .error (.shader r) w) :
    ∃ after, install m p = .ok false after ∧ after.installed = p.installed
      ∧ after.heard = p.heard ++ [reportNote r] := by
  obtain ⟨after, hreport, hinstalled, hheard⟩ := report_spec r (p.worked w)
  have hsame : (p.worked w).heard = p.heard := heard_of_build h
  refine ⟨after, ?_, hinstalled, ?_⟩
  · have hreported : (do report r; return false : Op Bool) (p.worked w) = .ok false after :=
      run_bind_of_ok hreport
    exact (run_bind_of_ok (attempt_of_error (compile_of_error h))).trans hreported
  · rw [hheard, hsame]

/-- Any other fault while building is raised, and what is installed stays. -/
theorem install_of_fault {m : SourceMap} {p : Player} {fault : Fault} {w : Workbench}
    (h : p.build m = .error fault w) (hfault : ∀ r, fault ≠ .shader r) :
    ∃ after, install m p = .error fault after ∧ after.installed = p.installed
      ∧ after.heard = p.heard := by
  refine ⟨p.worked w, ?_, rfl, heard_of_build h⟩
  refine (run_bind_of_ok (attempt_of_error (compile_of_error h))).trans ?_
  cases fault with
  | shader r => exact absurd rfl (hfault r)
  | _ => rfl

/-- The notes about pipelines that are dispatched too often. -/
def limitNotes (pipelines : List Pipeline) : Array Note :=
  (pipelines.filterMap Pipeline.limitNote?).toArray

theorem mild_limitNotes (pipelines : List Pipeline) : ∀ n ∈ limitNotes pipelines, n.Mild := by
  intro n hn
  obtain ⟨pipeline, _, hnote⟩ := List.mem_filterMap.mp (List.mem_toArray.mp hn)
  unfold Pipeline.limitNote? at hnote
  split at hnote
  · cases hnote
    intro h
    cases h
  · cases hnote

theorem onRig_of_ok {α : Type} {op : Rig.Op α} {p : Player} {a : α} {rig : Rig}
    (h : op p.rig = .ok a rig) : onRig op p = .ok a { p with rig } := by
  unfold onRig
  rw [h]

/-- The player after a swap that made a bind group. -/
def exchanged (p : Player) (m : SourceMap) (pipelines : List Pipeline) (gpu : Gpu.State)
    (bound : Bound) : Player :=
  { p.noted (limitNotes pipelines) with
    rig := {
      host := { p.rig.host with tables := m.tables }
      gpu, connection := .complete bound }
    map := m, pipelines := pipelines.map Pipeline.limited, frames := 0 }

/-- Tables that go into a buffer do not stop the swap. -/
theorem swap_eq {m : SourceMap} {p : Player} {bound : Bound}
    (hbound : p.rig.connection = .complete bound) (hfit : Fit m.tables)
    (pipelines : List Pipeline) :
    ∃ bytes data gpu group, Host.tableBytes m.tables = .ok bytes ∧ data.contents = some bytes
      ∧ swap m pipelines p
        = .ok () (p.exchanged m pipelines gpu ⟨{ bound.resources with data }, group⟩) := by
  obtain ⟨bytes, data, gpu, group, hbytes, hcontents, htables⟩ :=
    Rig.setTables_complete hbound hfit
  refine ⟨bytes, data, gpu, group, hbytes, hcontents, ?_⟩
  have hrig := onRig_of_ok (p := p.noted (limitNotes pipelines)) htables
  exact run_bind_of_ok hrig

/-- Pipelines that were built take the place of the installed ones. -/
theorem install_eq_of_made {m : SourceMap} {p : Player} {bound : Bound}
    (hbound : p.rig.connection = .complete bound) (hfit : Fit m.tables)
    {points : List EntryPoint} {pipelines : List Pipeline} {gpu : Gpu.State}
    (hpoints : findEntryPoints (p.unitOf m) = .ok points)
    (hmake : Workbench.makeAll m p.layout (p.unitOf m) points p.rig.gpu = .ok pipelines gpu) :
    ∃ w bytes data gpu' group, (p.worked w).heard = p.heard
      ∧ Host.tableBytes m.tables = .ok bytes ∧ data.contents = some bytes
      ∧ install m p = .ok true
          ((p.worked w).exchanged m pipelines gpu' ⟨{ bound.resources with data }, group⟩) := by
  obtain ⟨w, hbuild⟩ := build_of_made hpoints hmake
  obtain ⟨bytes, data, gpu', group, hbytes, hcontents, hswap⟩ :=
    swap_eq (p := p.worked w) hbound hfit pipelines
  refine ⟨w, bytes, data, gpu', group, heard_of_build hbuild, hbytes, hcontents, ?_⟩
  have hswapped : (do swap m pipelines; return true : Op Bool) (p.worked w)
      = .ok true ((p.worked w).exchanged m pipelines gpu' ⟨{ bound.resources with data }, group⟩) :=
    run_bind_of_ok hswap
  exact (run_bind_of_ok (attempt_of_ok (compile_of_ok hbuild))).trans hswapped

/-- All that belongs to a source map takes the place of what is installed. -/
theorem install_of_made {m : SourceMap} {p : Player} {bound : Bound}
    (hbound : p.rig.connection = .complete bound) (hfit : Fit m.tables)
    {points : List EntryPoint} {pipelines : List Pipeline} {gpu : Gpu.State}
    (hpoints : findEntryPoints (p.unitOf m) = .ok points)
    (hmake : Workbench.makeAll m p.layout (p.unitOf m) points p.rig.gpu = .ok pipelines gpu) :
    ∃ after, install m p = .ok true after ∧ Swapped m p after ∧ after.heard = p.heard := by
  obtain ⟨w, bytes, data, gpu', group, hsame, hbytes, hcontents, hinstall⟩ :=
    install_eq_of_made hbound hfit hpoints hmake
  obtain ⟨module, hcode, hpipelines⟩ := Workbench.makeAll_ok hmake
  refine ⟨_, hinstall, ?_, ?_⟩
  · exact {
      map := rfl
      frames := rfl
      tables := rfl
      customNames := rfl
      custom := rfl
      pipelines := by
        refine ⟨points, module, hpoints, hcode, List.forall₂_map_right_iff.mpr ?_⟩
        refine hpipelines.imp ?_
        rintro point pipeline ⟨number, rfl⟩
        exact ⟨number, rfl⟩
      connection := ⟨bound, bytes, data, group, hbound, hbytes, hcontents, rfl⟩ }
  · show ((p.worked w).noted (limitNotes pipelines)).heard = p.heard
    rw [heard_noted (mild_limitNotes pipelines), hsame]

/-- Installing builds first and swaps then, for a player that is connected. -/
theorem installs_install {m : SourceMap} {p : Player} {bound : Bound}
    (hbound : p.rig.connection = .complete bound) (hfit : Fit m.tables) :
    Installs m p (install m p) := by
  have herror : ∀ {fault : Fault} {w : Workbench}, p.build m = .error fault w →
      Installs m p (install m p) := by
    intro fault w hbuild
    by_cases hshader : ∃ r, fault = .shader r
    · obtain ⟨r, rfl⟩ := hshader
      obtain ⟨after, hinstall, hinstalled, hheard⟩ := install_of_shader hbuild
      rw [hinstall]
      exact .reported r hinstalled hheard
    · obtain ⟨after, hinstall, hinstalled, hheard⟩ :=
        install_of_fault hbuild fun r hr => hshader ⟨r, hr⟩
      rw [hinstall]
      exact .raised hinstalled hheard
  rcases hpoints : findEntryPoints (p.unitOf m) with digits | points
  · obtain ⟨w, hbuild⟩ := build_of_unread hpoints
    exact herror hbuild
  · rcases hmake : Workbench.makeAll m p.layout (p.unitOf m) points p.rig.gpu with
      ⟨pipelines, gpu⟩ | ⟨fault, gpu⟩
    · obtain ⟨after, hinstall, hswapped, hheard⟩ := install_of_made hbound hfit hpoints hmake
      rw [hinstall]
      exact .swapped hswapped hheard
    · obtain ⟨w, hbuild⟩ := build_of_refused hpoints hmake
      exact herror hbuild

/-! ### Loading -/

/-- Preprocessing a shader for a player. -/
def preprocessing (p : Player) (text : Text) : Run Outside × Ending :=
  (Run.start (screenMacros p.size.1 p.size.2) p.outside).shader p.includeSource.resolver text

/-- The player after a shader was preprocessed for it. -/
def informed (p : Player) (text : Text) : Player :=
  let run := (p.preprocessing text).1
  { p with shader := some text, outside := run.world }.noted run.notes

theorem mildRun_preprocessing (p : Player) (text : Text) :
    MildRun p.outside.notes (p.preprocessing text).1 := mild_shader _ _ _ text

/-- Preprocessing itself reports nothing. -/
theorem heard_informed (p : Player) (text : Text) : (p.informed text).heard = p.heard := by
  obtain ⟨hmild, hworld⟩ := mildRun_preprocessing p text
  unfold informed
  dsimp only
  rw [heard_noted hmild]
  unfold heard
  dsimp only
  rw [hworld]

/-- What preprocessing answers, by how it ended. -/
def answer (done : Run Outside × Ending) : Op (Option SourceMap) :=
  match done.2 with
  | .complete => return some done.1.source
  | .reported r => do report r; return none
  | .numeral digits => throw (.numeral digits)
  | .used => return none

theorem preprocess_eq (p : Player) (text : Text) :
    preprocess text { p with shader := some text }
      = answer (p.preprocessing text) (p.informed text) := rfl

/-- What loading does then. -/
def proceed (done : Run Outside × Ending) : Op Bool :=
  match done.2 with
  | .complete => install done.1.source
  | .reported r => do report r; return false
  | .numeral digits => throw (.numeral digits)
  | .used => return false

theorem loadShader_eq (p : Player) (text : Text) :
    loadShader text p = proceed (p.preprocessing text) (p.informed text) := by
  have hanswer := preprocess_eq p text
  unfold answer at hanswer
  unfold proceed
  show (preprocess text >>= _) { p with shader := some text } = _
  rcases hend : (p.preprocessing text).2 with _ | r | digits | _
  all_goals
    rw [hend] at hanswer
    dsimp only at hanswer ⊢
  · exact run_bind_of_ok hanswer
  · obtain ⟨after, hreport, _, _⟩ := report_spec r (p.informed text)
    rw [run_bind_of_ok hreport] at hanswer ⊢
    exact run_bind_of_ok hanswer
  · exact run_bind_of_error hanswer
  · exact run_bind_of_ok hanswer

/-- A defect that preprocessing finds is reported, and what is installed stays. -/
theorem loadShader_of_reported {p : Player} {text : Text} {r : Report}
    (h : (p.preprocessing text).2 = .reported r) :
    ∃ after, loadShader text p = .ok false after ∧ after.installed = p.installed
      ∧ after.heard = p.heard ++ [reportNote r] := by
  obtain ⟨after, hreport, hinstalled, hheard⟩ := report_spec r (p.informed text)
  refine ⟨after, ?_, hinstalled, ?_⟩
  · rw [loadShader_eq, proceed, h]
    exact run_bind_of_ok hreport
  · rw [hheard, heard_informed]

theorem loadShader_of_numeral {p : Player} {text : Text} {digits : Nat}
    (h : (p.preprocessing text).2 = .numeral digits) :
    ∃ after, loadShader text p = .error (.numeral digits) after
      ∧ after.installed = p.installed ∧ after.heard = p.heard := by
  refine ⟨p.informed text, ?_, rfl, heard_informed p text⟩
  rw [loadShader_eq, proceed, h]
  rfl

theorem Installs.of_rig_eq {m : SourceMap} {p q : Player}
    {result : EStateM.Result Fault Player Bool} (h : Installs m q result) (hrig : q.rig = p.rig)
    (hinstalled : q.installed = p.installed) (hheard : q.heard = p.heard) :
    Installs m p result := by
  have hunit : q.unitOf m = p.unitOf m := by rw [unitOf, unitOf, hrig]
  have hlayout : q.layout = p.layout := by rw [layout, layout, hrig]
  cases h with
  | swapped swapped heard =>
    obtain ⟨hmap, hframes, htables, hnames, hcustom, hpipelines, hconnection⟩ := swapped
    rw [hrig] at hnames hcustom hconnection
    rw [hunit, hlayout] at hpipelines
    exact .swapped ⟨hmap, hframes, htables, hnames, hcustom, hpipelines, hconnection⟩
      (heard.trans hheard)
  | reported report installed heard =>
    rw [hheard] at heard
    exact .reported report (installed.trans hinstalled) heard
  | raised installed heard => exact .raised (installed.trans hinstalled) (heard.trans hheard)

/-- A source map is built, and then swapped in: how this ends is up to the device. -/
structure BuiltThenSwapped (m : SourceMap) (p : Player)
    (result : EStateM.Result Fault Player Bool) : Prop where
  installs : Installs m p result
  /-- The device accepts the module and all pipelines. -/
  accepted : ∀ {points pipelines gpu}, findEntryPoints (p.unitOf m) = .ok points →
    Workbench.makeAll m p.layout (p.unitOf m) points p.rig.gpu = .ok pipelines gpu →
    ∃ after, result = .ok true after
  /-- It refuses one of them, and the line that its message names, if any, is read. -/
  refused : ∀ {points kind message gpu}, findEntryPoints (p.unitOf m) = .ok points →
    Workbench.makeAll m p.layout (p.unitOf m) points p.rig.gpu = .error (.refused kind message) gpu →
    kind.isVerdict → (∀ numeral, FirstPlace numeral message → numeral.length ≤ maxDigits) →
    ∃ line after, result = .ok false after
      ∧ after.heard = p.heard ++ [reportNote ((Cause.refused message.trim).report line)]
  /-- It refuses one of them, and the line that its message names is not read. -/
  unread : ∀ {points kind message gpu numeral}, findEntryPoints (p.unitOf m) = .ok points →
    Workbench.makeAll m p.layout (p.unitOf m) points p.rig.gpu = .error (.refused kind message) gpu →
    kind.isVerdict → FirstPlace numeral message → maxDigits < numeral.length →
    ∃ after, result = .error (.numeral numeral.length) after
  /-- It breaks down in another way. -/
  brokenDown : ∀ {points kind message gpu}, findEntryPoints (p.unitOf m) = .ok points →
    Workbench.makeAll m p.layout (p.unitOf m) points p.rig.gpu = .error (.refused kind message) gpu →
    ¬ kind.isVerdict → ∃ after, result = .error (.refused kind message) after

theorem BuiltThenSwapped.of_rig_eq {m : SourceMap} {p q : Player}
    {result : EStateM.Result Fault Player Bool} (h : BuiltThenSwapped m q result)
    (hrig : q.rig = p.rig) (hinstalled : q.installed = p.installed)
    (hheard : q.heard = p.heard) : BuiltThenSwapped m p result := by
  have hunit : q.unitOf m = p.unitOf m := by rw [unitOf, unitOf, hrig]
  have hlayout : q.layout = p.layout := by rw [layout, layout, hrig]
  obtain ⟨installs, accepted, refused, unread, brokenDown⟩ := h
  rw [hunit, hlayout, hrig] at accepted refused unread brokenDown
  rw [hheard] at refused
  exact ⟨installs.of_rig_eq hrig hinstalled hheard, accepted, refused, unread, brokenDown⟩

theorem builtThenSwapped_install {m : SourceMap} {p : Player} {bound : Bound}
    (hbound : p.rig.connection = .complete bound) (hfit : Fit m.tables) :
    BuiltThenSwapped m p (install m p) where
  installs := installs_install hbound hfit
  accepted := by
    intro points pipelines gpu hpoints hmake
    obtain ⟨after, hinstall, _, _⟩ := install_of_made hbound hfit hpoints hmake
    exact ⟨after, hinstall⟩
  refused := by
    intro points kind message gpu hpoints hmake hkind hread
    obtain ⟨w, hbuild⟩ := build_of_refused hpoints hmake
    obtain ⟨line, hseen⟩ := Workbench.exists_seenFrom m (p.offsetOf m) hkind hread
    rw [hseen] at hbuild
    obtain ⟨after, hinstall, _, hheard⟩ := install_of_shader hbuild
    exact ⟨line, after, hinstall, hheard⟩
  unread := by
    intro points kind message gpu numeral hpoints hmake hkind hfirst hlong
    obtain ⟨w, hbuild⟩ := build_of_refused hpoints hmake
    rw [Workbench.seenFrom_unread m _ hkind hfirst hlong] at hbuild
    obtain ⟨after, hinstall, _, _⟩ := install_of_fault hbuild fun r h => by cases h
    exact ⟨after, hinstall⟩
  brokenDown := by
    intro points kind message gpu hpoints hmake hkind
    obtain ⟨w, hbuild⟩ := build_of_refused hpoints hmake
    have hseen : Workbench.seenFrom m (p.offsetOf m) (.refused kind message)
        = .refused kind message := by
      unfold Workbench.seenFrom
      exact if_neg hkind
    rw [hseen] at hbuild
    obtain ⟨after, hinstall, _, _⟩ := install_of_fault hbuild fun r h => by cases h
    exact ⟨after, hinstall⟩

/-- What loading a shader comes to, by how preprocessing it for the player ends. -/
def Loads (p : Player) (text : Text) (result : EStateM.Result Fault Player Bool) : Prop :=
  match (p.preprocessing text).2 with
  | .complete => BuiltThenSwapped (p.preprocessing text).1.source p result
  | .reported r => ∃ after, result = .ok false after ∧ after.installed = p.installed
      ∧ after.heard = p.heard ++ [reportNote r]
  | .numeral digits => ∃ after, result = .error (.numeral digits) after
      ∧ after.installed = p.installed ∧ after.heard = p.heard
  | .used => False

theorem loads_loadShader {p : Player} {bound : Bound}
    (hbound : p.rig.connection = .complete bound) (text : Text) :
    Loads p text (loadShader text p) := by
  unfold Loads
  rcases hend : (p.preprocessing text).2 with _ | r | digits | _
  · have hfit : Fit (p.preprocessing text).1.source.tables := fit_tables _ _ _ text
    have hbuilt := builtThenSwapped_install (p := p.informed text) hbound hfit
    rw [loadShader_eq, proceed, hend]
    exact hbuilt.of_rig_eq rfl rfl (heard_informed p text)
  · exact loadShader_of_reported hend
  · exact loadShader_of_numeral hend
  · exact ending_ne_used text _ hend

/-- What a player of a small screen is made with. -/
def small : Settings := { sides := [.int 8, .int 8], storageSize := 64 }

theorem make_small (device : Device) :
    ∃ p : Player, make small device {} = .ok () p ∧ p.rig.host = plainHost
      ∧ p.rig.gpu.device = device := by
  refine ⟨_, rfl, ?_, ?_⟩
  · rfl
  · rfl

theorem preprocessed_oneLine : Preprocessed oneLine := by
  refine ⟨Unit, Resolver.dictionary [], [], (), "fn f() \x7b\x7d\n".toList, ?_, source_oneLine⟩
  decide +kernel

theorem unitOf_oneLine {p : Player} (hhost : p.rig.host = plainHost) :
    findEntryPoints (p.unitOf oneLine) = .ok [] := by
  have hunit : p.unitOf oneLine = oneLineUnit := by rw [unitOf, hhost, oneLineUnit]
  rw [hunit]
  exact findEntryPoints_oneLine

end ShaderPlayer.Player
