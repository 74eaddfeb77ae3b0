/-
Failed assertions.

The number of an assertion goes into the text of the shader when this is preprocessed.  Much
later it is where the device counts that the assertion failed, and from the counter the line is
told again.

* `Session.preprocessed` — what is installed was made by preprocessing a shader, whatever a
  player was asked for;
* `checkFrom_ends` — checking gives the lines whose counters are not zero, and looks at no
  counter that is not there;
* `assertions_agree` — so the counters, the calls in the text and the recorded lines agree, at
  every moment of preprocessing and when the device is read.
-/
import ShaderPlayer.Proofs.Number.Integer
import ShaderPlayer.Proofs.Player.CustomUniforms
import ShaderPlayer.Proofs.Shader.Counters

namespace ShaderPlayer.Player

open Gpu Shader

/-! ### What is installed -/

/-- Source maps are given to a player as they were preprocessed. -/
def Act.Genuine : Act → Prop
  | install m => Preprocessed m
  | _ => True

section Map

variable {α : Type} {holds : SourceMap → Prop}

/-- The bindings do not know the source map. -/
theorem keepsMap_onRig (op : Rig.Op α) : Keeps (Has fun c => holds c.map) (onRig op) := by
  intro p hp
  unfold onRig
  rcases op p.rig with ⟨a, rig⟩ | ⟨fault, rig⟩ <;> exact hp

theorem keepsMap_install {m : SourceMap} (hm : holds m) :
    Keeps (Has fun c => holds c.map) (install m) :=
  keeps_install fun _ => keeps_bind (keeps_note _) fun _ => keeps_bind (keepsMap_onRig _) fun _ =>
    keeps_modify fun _ _ => hm

theorem keepsMap_reset : Keeps (Has fun c => holds c.map) reset :=
  keeps_bind (keepsMap_onRig _) fun _ => keeps_bind (keepsMap_onRig _) fun _ =>
    keeps_modify fun _ hp => hp

theorem keepsMap_setCustom (names values : Value) :
    Keeps (Has fun c => holds c.map) (setCustom names values) := by
  refine keeps_bind (keeps_ofExcept _) fun names => keeps_get_bind fun p hp => ?_
  -- it is the installed source map that is compiled again
  refine keeps_bind (keepsMap_onRig _) (fun _ => ?_) p hp
  refine keeps_ite (keeps_pure _) (keeps_bind (keepsMap_install hp) fun _ => ?_)
  exact keeps_ite (keeps_pure _) (keeps_bind (keepsMap_onRig _) fun _ => keeps_pure _)

end Map

/-- The source map is one that preprocessing makes. -/
abbrev KeepsPreprocessed {α : Type} (op : Op α) : Prop := Keeps (Has fun c => Preprocessed c.map) op

theorem keepsPreprocessed_loadShader (text : Text) : KeepsPreprocessed (loadShader text) := by
  intro p hp
  have hinformed : Has (fun c => Preprocessed c.map) (p.informed text) := hp
  rw [loadShader_eq, proceed]
  rcases hend : (p.preprocessing text).2 with _ | r | digits | _
  · have hm : Preprocessed (p.preprocessing text).1.source := ⟨_, _, _, _, text, hend, rfl⟩
    exact keepsMap_install hm _ hinformed
  · exact keeps_bind (keeps_report r) (fun _ => keeps_pure _) _ hinformed
  · exact hinformed
  · exact hinformed

theorem lasting_preprocessed : Lasting fun r => Preprocessed r.core.map where
  encodeFrame := @keepsCore_encodeFrame fun c => Preprocessed c.map
  loadShader := keepsPreprocessed_loadShader
  reset := keepsMap_reset
  resize := keeps_resize (fun width height => keepsMap_onRig (Rig.resize width height))
    keepsMap_reset keepsPreprocessed_loadShader
  loadChannel := fun index data => keepsMap_onRig (Rig.loadChannel index data)

theorem keepsPreprocessed_perform {act : Act} (hact : act.Genuine) :
    KeepsPreprocessed act.perform := by
  cases act with
  | install m => exact keeps_discard (keepsMap_install hact)
  | setCustom names values => exact keeps_discard (keepsMap_setCustom names values)
  | setTables _ | setCustomDirectly _ _ | resizeDirectly _ _ | resetDirectly =>
    exact keepsMap_onRig _
  | _ => exact keeps_perform lasting_preprocessed rfl

/-- A new player has what an empty shader makes. -/
theorem preprocessed_empty : Preprocessed {} :=
  ⟨Unit, Resolver.dictionary [], [], (), [], rfl, rfl⟩

theorem Session.preprocessed {p : Player} (hp : Session (fun _ act => act.Genuine) p) :
    Preprocessed p.map := by
  induction hp with
  | made hmade =>
    obtain ⟨_, _, _, _, _, rfl⟩ := make_eq hmade
    exact preprocessed_empty
  | acted act _ granted ih => exact keepsPreprocessed_perform granted _ ih
  | elsewhere _ _ _ _ _ ih => exact ih

/-! ### Checking -/

/-- The lines whose counters are not zero. -/
def failedLines (counts : List UInt32) (lines : List Int) : List Int :=
  (lines.zip counts).filterMap fun l => if l.2 = 0 then none else some l.1

theorem counterAt_of_lt {counts : List UInt32} {index : Nat} (h : index < counts.length) :
    counterAt counts index = .ok counts[index] := by
  rw [counterAt, List.getElem?_eq_getElem h]

theorem failedLines_cons (count : UInt32) (counts : List UInt32) (line : Int) (lines : List Int) :
    failedLines (count :: counts) (line :: lines)
      = if count = 0 then failedLines counts lines else line :: failedLines counts lines := by
  by_cases hcount : count = 0
  · simp [failedLines, hcount]
  · simp [failedLines, hcount]

/-- How checking ends if no counter is missing: with the lines that failed, or, if one failed,
because there are more texels than a double can count. -/
inductive CheckEnds (texels : Int) (failed : List Int) :
    EStateM.Result Fault Player (List Int) → Prop
  | checked {after : Player} : CheckEnds texels failed (.ok failed after)
  | tooMany {after : Player} (none : Value.doubleOfInteger texels = .error .integerTooLarge) :
      CheckEnds texels failed (.error .integerTooLarge after)

theorem doubleOfInteger_cases (n : Int) :
    (∃ x, Value.doubleOfInteger n = .ok x) ∨ Value.doubleOfInteger n = .error .integerTooLarge := by
  unfold Value.doubleOfInteger
  rcases Double.ofInt? n with _ | x
  · exact .inr rfl
  · exact .inl ⟨x, rfl⟩

/-- Checking looks at one counter for each line, and at no other. -/
theorem checkFrom_ends {counts : List UInt32} {lines : List Int} {index : Nat}
    (h : index + lines.length ≤ counts.length) (texels : Int) (p : Player) :
    CheckEnds texels (failedLines (counts.drop index) lines)
      (checkFrom counts texels index lines p) := by
  induction lines generalizing index p with
  | nil =>
    have hnone : failedLines (counts.drop index) [] = [] := by
      rw [failedLines, List.zip_nil_left]
      rfl
    rw [hnone]
    exact .checked
  | cons line lines ih =>
    rw [List.length_cons] at h
    have hindex : index < counts.length := by omega
    have hrest : index + 1 + lines.length ≤ counts.length := by omega
    rw [List.drop_eq_getElem_cons hindex, failedLines_cons, checkFrom,
      run_ofExcept_bind_of_ok (counterAt_of_lt hindex)]
    split
    · exact ih hrest p
    · rcases doubleOfInteger_cases texels with ⟨x, hx⟩ | hnone
      · have hcountable : (discard (MonadExcept.ofExcept (Value.doubleOfInteger texels)) : Op Unit) p
            = .ok () p := by
          rw [hx]
          rfl
        obtain ⟨after, hreport, _⟩ :=
          same_report ⟨.general, Screen.failureMessage counts[index] texels, line⟩ p
        have hends := ih hrest after
        rw [run_bind_of_ok hcountable, run_bind_of_ok hreport]
        generalize hresult : checkFrom counts texels (index + 1) lines after = result at hends
        cases hends with
        | checked =>
          rw [run_bind_of_ok hresult]
          exact .checked
        | tooMany none => rw [hx] at none; cases none
      · have hbroken : (discard (MonadExcept.ofExcept (Value.doubleOfInteger texels)) : Op Unit) p
            = .error .integerTooLarge p := by
          rw [hnone]
          rfl
        rw [run_bind_of_error hbroken]
        exact .tooMany hnone

/-- Assertions are checked against the counters that the device has. -/
theorem checkAssertions_eq {p : Player} {bound : Bound}
    (hbound : p.rig.connection = .complete bound) :
    ∃ rig, checkAssertions p = checkFrom p.rig.gpu.device.counters (p.size.1 * p.size.2) 0
      p.map.assertLines.toList { p with rig } := by
  let rig := { p.rig with gpu := left (Gpu.readCounters bound.resources.counters p.rig.gpu) }
  have hread : Rig.readCounters p.rig = .ok p.rig.gpu.device.counters rig := by
    unfold Rig.readCounters
    refine (run_bind_of_ok (rfl : (get : Rig.Op Rig) p.rig = .ok p.rig p.rig)).trans ?_
    rw [hbound]
    rfl
  exact ⟨rig, run_bind_of_ok (onRig_of_ok hread)⟩

/-! ### Counters on a device -/

/-- What is read from the buffer of the counters are all the words of it. -/
def ReadsBack (p : Player) : Prop :=
  ∀ buffer size, p.boundAt? 7 = some (.buffer buffer size) →
    ((4 * p.rig.gpu.device.counters.length : Nat) : Int) = buffer.size

/-- The buffer holds as many counters as there can be assertions. -/
theorem readsBack_iff {p : Player} (hp : p.rig.core.Sound) :
    p.ReadsBack ↔ p.rig.gpu.device.counters.length = maxAssertions := by
  obtain ⟨bound, hbound, hsuits⟩ := hp.bound
  have hat := (boundAt?_complete hbound 7).trans hsuits.binds.at_counters
  have hsize := hsuits.standing.counters
  unfold ReadsBack
  rw [hat]
  constructor
  · intro h
    have hwords := h _ _ rfl
    rw [hsize] at hwords
    omega
  · rintro h buffer size hbuffer
    cases hbuffer
    rw [hsize, h]

/-- The sides of the screen are such as a texture can have: numbers of 32 bits without a sign. -/
def Sized (p : Player) : Prop :=
  (0 ≤ p.size.1 ∧ p.size.1 < 2 ^ 32) ∧ 0 ≤ p.size.2 ∧ p.size.2 < 2 ^ 32

theorem Sized.exists_double {p : Player} (h : p.Sized) :
    ∃ x, Value.doubleOfInteger (p.size.1 * p.size.2) = .ok x := by
  obtain ⟨⟨hwidth, hwidth'⟩, hheight, hheight'⟩ := h
  refine Value.exists_doubleOfInteger ?_
  rw [Int.natAbs_mul]
  calc p.size.1.natAbs * p.size.2.natAbs < 2 ^ 32 * 2 ^ 32 :=
        Nat.mul_lt_mul'' (by omega) (by omega)
    _ = 2 ^ 64 := by norm_num

/-! ### Counters, calls and lines -/

/-- A source map is made by the deeds of preprocessing a shader to its end. -/
def MadeBy (deeds : List (Int × Deed)) (m : SourceMap) : Prop :=
  ∃ (σ : Type) (resolver : Resolver σ) (defines : Entries Text) (world : σ) (text : Text),
    ((Run.start defines world).shader resolver text).2 = .complete
      ∧ ((Run.start defines world).shader resolver text).1.source = m
      ∧ (Run.start defines world).trace resolver text = deeds

theorem exists_madeBy {m : SourceMap} (hm : Preprocessed m) :
    ∃ deeds, MadeBy deeds m ∧ Generated deeds m := by
  obtain ⟨σ, resolver, defines, world, text, hend, rfl⟩ := hm
  exact ⟨_, ⟨σ, resolver, defines, world, text, hend, rfl, rfl⟩,
    generated_of_shader resolver defines world text⟩

/-- Checking the assertions of a player gives the lines of the calls whose counters are not zero:
those that the deeds of its source map generated. -/
structure Checks (deeds : List (Int × Deed)) (p : Player) : Prop where
  made : MadeBy deeds p.map
  generated : Generated deeds p.map
  /-- No call is without a counter. -/
  counted : (callsOf deeds).length ≤ p.rig.gpu.device.counters.length
  ends : CheckEnds (p.size.1 * p.size.2)
    (failedLines p.rig.gpu.device.counters ((callsOf deeds).map (·.origin))) (checkAssertions p)
  returns : p.Sized → ∃ after, checkAssertions p
    = .ok (failedLines p.rig.gpu.device.counters ((callsOf deeds).map (·.origin))) after

theorem map_origin_callsOf {deeds : List (Int × Deed)} {m : SourceMap} (h : Generated deeds m) :
    (callsOf deeds).map (·.origin) = m.assertLines.toList := by
  rw [h.calls, h.recorded]
  exact List.ext_getElem (by simp) fun k _ _ => by simp

theorem checks_of_sound {p : Player} (hp : p.rig.core.Sound) (hmap : Preprocessed p.map)
    (hreads : p.ReadsBack) : ∃ deeds, Checks deeds p := by
  obtain ⟨deeds, hmade, hgenerated⟩ := exists_madeBy hmap
  obtain ⟨bound, hbound, _⟩ := hp.bound
  obtain ⟨rig, hcheck⟩ := checkAssertions_eq hbound
  have hlines := map_origin_callsOf hgenerated
  have hcounted : 0 + p.map.assertLines.toList.length ≤ p.rig.gpu.device.counters.length := by
    rw [(readsBack_iff hp).mp hreads, Nat.zero_add, Array.length_toList]
    exact hgenerated.assertions
  have hends := checkFrom_ends hcounted (p.size.1 * p.size.2) { p with rig }
  rw [List.drop_zero, ← hcheck] at hends
  refine ⟨deeds, hmade, hgenerated, ?_, hlines ▸ hends, fun hsized => ?_⟩
  · rw [← hlines, List.length_map, Nat.zero_add] at hcounted
    exact hcounted
  · obtain ⟨x, hx⟩ := hsized.exists_double
    rw [hlines]
    generalize checkAssertions p = result at hends
    cases hends with
    | checked => exact ⟨_, rfl⟩
    | tooMany none => rw [hx] at none; cases none

/-- The counters of a run, the lines that it generates and the places that it records agree at
every moment.  So in every player whose device reads its buffers, checking looks at no counter
that is not there and gives the lines of those assertions whose counters are not zero. -/
theorem assertions_agree :
    (∀ {σ : Type} (resolver : Resolver σ) (defines : Entries Text) (world : σ) (shader : Text)
        (w : Work σ), Work.Reaches resolver (.start defines world shader) w →
          Tallied w.deeds w.run)
      ∧ ∀ {p : Player}, Session (fun _ act => act.Genuine) p → p.ReadsBack →
          ∃ deeds, Checks deeds p :=
  ⟨fun _ _ _ _ _ hw => hw.tallied, fun hp hreads =>
    checks_of_sound (sound_of_reachable hp.reachable) hp.preprocessed hreads⟩

/-! ### Two assertions -/

/-- A shader with two assertions, and a storage buffer between them. -/
def twiceText : Text := "#assert a\n#storage s u32\n#assert b\n".toList ++ pointText

/-- Its source map. -/
def twiceMap : SourceMap where
  emitted := #[⟨"assert(0, a);".toList, 1⟩,
    ⟨"@group(0) @binding(0) var<storage,read_write> s: u32;".toList, 2⟩,
    ⟨"assert(1, b);".toList, 3⟩, ⟨pointLine, 4⟩]
  assertLines := #[1, 3]

theorem shader_twiceText :
    ((Run.start [] ()).shader (Resolver.dictionary []) twiceText).2 = .complete
      ∧ ((Run.start [] ()).shader (Resolver.dictionary []) twiceText).1.source = twiceMap := by
  decide +kernel

/-- Of two assertions the second fails. -/
theorem assertions_agree_second :
    (∃ w : Work Unit, Work.Reaches (Resolver.dictionary []) (.start [] () twiceText) w
        ∧ w.run.assertCount = 2 ∧ (declarationsOf w.deeds).map bindingOf? = [some 0])
      ∧ ∃ p after, Session (fun _ act => act.Genuine) p ∧ p.ReadsBack ∧ p.map = twiceMap
        ∧ checkAssertions p = .ok [3] after := by
  constructor
  · obtain ⟨w, hreaches, _, _, hresult, hdeeds⟩ :=
      Work.ends_start (Resolver.dictionary []) [] () twiceText
    have htallied := assertions_agree.1 _ _ _ _ w hreaches
    have hsource : w.run.source = twiceMap := by
      rw [← shader_twiceText.2, hresult]
    have hstorages : (storagesOf w.deeds).length = 1 := by
      rw [hdeeds]
      decide +kernel
    refine ⟨w, hreaches, ?_, ?_⟩
    · rw [htallied.assertCount, hsource]
      rfl
    · rw [htallied.bindings, hstorages]
      rfl
  · obtain ⟨start, hmade, hhost, hwilling⟩ := exists_willing
    have hsound := sound_of_make hmade
    have hmap : Preprocessed twiceMap :=
      ⟨Unit, Resolver.dictionary [], [], (), twiceText, shader_twiceText⟩
    have hpoints : findEntryPoints (start.unitOf twiceMap) = .ok [⟨['f'], ⟨1, 1, 1⟩⟩] := by
      rw [findEntryPoints_unitOf hsound rfl (by decide)]
      decide +kernel
    obtain ⟨between, hinstall, hexchanged, _⟩ := install_of_willing hsound hwilling
      (regular_of_preprocessed hmap).fit hpoints (List.cons_ne_nil _ _)
    have hbetween : Session (fun _ act => act.Genuine) between :=
      Session.installed (.made hmade) hmap hinstall
    -- one of the counters is not zero when they are read
    let device : Device := { counters := 0 :: 7 :: List.replicate 8 0 }
    let p : Player := { between with rig.gpu.device := device }
    have hp : Session (fun _ act => act.Genuine) p :=
      .elsewhere device between.outside between.clock between.logicalSize hbetween
    have hreads : p.ReadsBack := (readsBack_iff (sound_of_reachable hp.reachable)).mpr rfl
    obtain ⟨deeds, hchecks⟩ := assertions_agree.2 hp hreads
    have hsized : p.Sized := by
      have hsides := congrArg (fun h : Host => (h.width, h.height)) hexchanged.host
      have hsize : p.size = start.size := hsides
      rw [Sized, hsize, size, hhost]
      decide
    obtain ⟨after, hcheck⟩ := hchecks.returns hsized
    have hlines : (callsOf deeds).map (·.origin) = [1, 3] := by
      rw [map_origin_callsOf hchecks.generated]
      exact congrArg (·.assertLines.toList) hexchanged.map
    rw [hlines] at hcheck
    exact ⟨p, after, hp, hreads, hexchanged.map, hcheck⟩

end ShaderPlayer.Player
