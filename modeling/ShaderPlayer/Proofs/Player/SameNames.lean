/-
Setting the current names of custom uniforms again.

Other names than the current ones compile the shader again.  A call compares the names it is given
with those that the host has, and the host has a placeholder in the place of none.

* `Rig.setCustom_same` — under the current names, values are put into the block and nothing else is
  done;
* `exists_current` — after names could be set, the host has them, or the placeholder for none;
* `setCustom_again` — so they can be set again, with any values: no shader is compiled, and
  nothing but the values changes;
* `compiles_noNames`, `setCustom_again_restarted` — but a list of no names is never that of the host,
  and under a shader it compiles again every time.
-/
import ShaderPlayer.Proofs.Player.Blocks
import ShaderPlayer.Proofs.Player.Frames
import ShaderPlayer.Proofs.Player.Session

namespace ShaderPlayer

/-! ### The current names -/

theorem Rig.setCustom_same {pairs : List (Text × Double)} {r : Rig}
    (h : pairs.map (·.1) = r.host.customNames) :
    Rig.setCustom pairs r
      = .ok () { r with host.custom := (r.host.setCustom pairs).custom } := by
  have hhost : r.host.setCustom pairs
      = { r.host with custom := (r.host.setCustom pairs).custom } :=
    calc r.host.setCustom pairs
        = { r.host with
            customNames := pairs.map (·.1)
            custom := (r.host.setCustom pairs).custom } := rfl
      _ = { r.host with custom := (r.host.setCustom pairs).custom } := by rw [h]
  -- no name is another one, so no buffer is made
  have hrun : Rig.setCustom pairs r
      = (if pairs.map (·.1) != r.host.customNames then Rig.rebind do
          return { custom := some (← Rig.makeUniform (← get).host.custom "custom") }
        else pure () : Rig.Op Unit) { r with host := r.host.setCustom pairs } := rfl
  rw [hrun, h, bne_self_eq_false, hhost]
  rfl

namespace Host

theorem customArguments_of_items {names : Value} {items : List Value} (h : names.items = .ok items)
    (values : Value) : customArguments names values = customArguments (.list items) values := by
  unfold customArguments
  rw [h]
  rfl

/-- Whether names pass does not depend on the values. -/
theorem customArguments_of_passed {items : List Value} {first again : Value}
    {given : List Text × List Double} (h : customArguments (.list items) first = .ok given)
    {numbers : List Value} {doubles : List Double} (hnumbers : again.items = .ok numbers)
    (hdoubles : numbers.mapM Value.toDouble = .ok doubles) (hlength : doubles.length = items.length) :
    customArguments (.list items) again = .ok (given.1, doubles) := by
  obtain ⟨_, _, hitems, htexts, _⟩ := customArguments_spec h
  cases hitems
  unfold customArguments
  rw [hnumbers]
  show ((numbers.mapM Value.toDouble) >>= _) = _
  rw [hdoubles]
  show (if items.length = doubles.length then _ else _) = _
  rw [if_pos hlength.symm, htexts]
  rfl

/-- The names that are used for those that a caller gives. -/
theorem map_fst_customOrPlaceholder_congr {names : List Text} {values other : List Double}
    (h : names.length = values.length) (h' : names.length = other.length) :
    (customOrPlaceholder names values).map (·.1) = (customOrPlaceholder names other).map (·.1) := by
  by_cases hne : names = []
  · subst hne
    rfl
  · rw [map_fst_customOrPlaceholder h hne, map_fst_customOrPlaceholder h' hne]

end Host

namespace Player

open Gpu Shader

variable {p q r : Player} {names values : Value}

/-- After names could be set they are those of the host, or the placeholder is for none. -/
theorem exists_current (hp : p.rig.core.Sound) (hset : setCustom names values p = .ok true q) :
    ∃ items given, names.items = .ok items ∧ Host.customArguments (.list items) values = .ok given
      ∧ q.rig.host.customNames = (Host.customOrPlaceholder given.1 given.2).map (·.1) := by
  rcases hitems : names.items with fault | items
  · cases hset.symm.trans (run_ofExcept_bind_of_error hitems _ p)
  rcases hgiven : Host.customArguments (.list items) values with fault | given
  · cases hset.symm.trans (setCustom_of_faulty hitems hgiven)
  obtain ⟨named, hrenamed, _, hrun⟩ := setCustom_eq hp hitems hgiven
  refine ⟨items, given, rfl, hgiven, ?_⟩
  have hnamed : named.rig.host.customNames
      = (Host.customOrPlaceholder given.1 given.2).map (·.1) := by
    rw [hrenamed.host, Host.customNames_setCustom]
  -- what is compiled again does not touch the names
  have hagain := @keepsHost_install
    (fun h => h.customNames = (Host.customOrPlaceholder given.1 given.2).map (·.1))
    (fun _ _ hh => hh) p.map named hnamed
  rw [hrun, compileAgain] at hset
  split at hset
  · cases hset
    exact hnamed
  · rcases hinstall : install p.map named with ⟨_ | _, after⟩ | ⟨fault, after⟩
    · rw [run_bind_of_ok hinstall] at hset
      -- names that are put back are not said to be set
      obtain ⟨_, _, _, hend⟩ := run_bind_eq_ok_iff.mp hset
      cases hend
    · rw [run_bind_of_ok hinstall] at hset
      cases hset
      rw [hinstall] at hagain
      exact hagain
    · rw [run_bind_of_error hinstall] at hset
      cases hset

/-- Some names that pass are those that they are set as. -/
theorem areNames_of_passed {items : List Value} {given : List Text × List Double}
    (h : Host.customArguments (.list items) values = .ok given) (hne : items ≠ []) :
    areNames items ((Host.customOrPlaceholder given.1 given.2).map (·.1)) := by
  obtain ⟨_, hitems, hread, hlength⟩ := Host.customArguments_eq_ok h
  cases hitems
  have htexts : items.map Value.text? = given.1.map some := Host.map_text_of_customName hread
  have hsome : given.1 ≠ [] := by
    intro hnil
    rw [hnil, List.map_nil, List.map_eq_nil_iff] at htexts
    exact hne htexts
  rw [Host.map_fst_customOrPlaceholder hlength hsome, areNames, htexts]
  exact beq_self_eq_true _

/-- The player with other values of its custom uniforms, and nothing else changed. -/
def withValues (p : Player) (pairs : List (Text × Double)) : Player :=
  { p with rig.host.custom := (p.rig.host.setCustom pairs).custom }

/-- Values alone are set under names that the player has. -/
theorem setCustom_of_current {items : List Value} {given : List Text × List Double}
    (hitems : names.items = .ok items)
    (hgiven : Host.customArguments (.list items) values = .ok given)
    (hcurrent : (Host.customOrPlaceholder given.1 given.2).map (·.1) = p.rig.host.customNames)
    (hquiet : areNames items p.rig.host.customNames || p.shader.isNone) :
    setCustom names values p
      = .ok true (p.withValues (Host.customOrPlaceholder given.1 given.2)) := by
  have hrig : Rig.setCustomValues (.list items) values p.rig
      = .ok () (p.withValues (Host.customOrPlaceholder given.1 given.2)).rig :=
    (run_ofExcept_bind_of_ok hgiven _ p.rig).trans (Rig.setCustom_same hcurrent)
  rw [setCustom_of_items hitems, run_bind_of_ok (onRig_of_ok hrig), compileAgain, if_pos hquiet]
  rfl

/-- Values are set under the names that the player has.  Faulty ones change nothing, and others
nothing but the values: what runs stays, and the device gets no call. -/
structure OnlyValues (names values : Value) (p : Player) : Prop where
  faulty : ∀ {fault}, Host.customArguments names values = .error fault →
    setCustom names values p = .error fault p
  /-- As many numbers as names are not faulty. -/
  accepted : ∀ {items numbers doubles}, names.items = .ok items → values.items = .ok numbers →
    numbers.mapM Value.toDouble = .ok doubles → numbers.length = items.length →
      ∃ texts, Host.customArguments names values = .ok (texts, doubles)
  valued : ∀ {given}, Host.customArguments names values = .ok given →
    (Host.customOrPlaceholder given.1 given.2).map (·.1) = p.rig.host.customNames
      ∧ setCustom names values p
        = .ok true (p.withValues (Host.customOrPlaceholder given.1 given.2))

/-- Once names could be set, they can be set again, as long as the host has them and with any
values: nothing but the values changes.  It has to be some names, or there is no shader. -/
theorem setCustom_again (hp : Reachable p) (hset : setCustom names values p = .ok true q)
    (hcurrent : r.rig.host.customNames = q.rig.host.customNames)
    (hkept : names.items ≠ .ok [] ∨ r.shader = none) (again : Value) :
    OnlyValues names again r := by
  obtain ⟨items, first, hitems, hfirst, hnames⟩ := exists_current (sound_of_reachable hp) hset
  have hlist := Host.customArguments_of_items hitems again
  -- the host has the names as they were given, or there is nothing to compile
  have hquiet : areNames items r.rig.host.customNames || r.shader.isNone := by
    refine (Bool.or_eq_true _ _).mpr (hkept.imp (fun hne => ?_) Option.isNone_iff_eq_none.mpr)
    rw [hcurrent, hnames]
    exact areNames_of_passed hfirst fun hnil => hne (hitems.trans (congrArg _ hnil))
  refine ⟨fun hfault => setCustom_of_faulty hitems (hlist ▸ hfault), ?_, fun {given} hgiven => ?_⟩
  · intro items' numbers doubles hitems' hnumbers hdoubles hcount
    cases hitems.symm.trans hitems'
    have hcount' : doubles.length = items.length :=
      (mapM_eq_ok_iff.mp hdoubles).length_eq ▸ hcount
    exact ⟨first.1, hlist.trans (Host.customArguments_of_passed hfirst hnumbers hdoubles hcount')⟩
  · -- the same names pass, whatever the values are
    rw [hlist] at hgiven
    obtain ⟨_, hself, hread, hlength⟩ := Host.customArguments_eq_ok hfirst
    cases hself
    obtain ⟨_, _, _, hlength'⟩ := Host.customArguments_eq_ok hgiven
    have hsame : given.1 = first.1 :=
      Host.eq_of_customArguments hgiven (Host.map_text_of_customName hread)
    have hcurrent' : (Host.customOrPlaceholder given.1 given.2).map (·.1)
        = r.rig.host.customNames := by
      rw [hcurrent, hnames, hsame]
      exact Host.map_fst_customOrPlaceholder_congr (hsame ▸ hlength') hlength
    exact ⟨hcurrent', setCustom_of_current hitems hgiven hcurrent' hquiet⟩

/-- A name that a shader was compiled again with is given again, with another value. -/
theorem setCustom_again_valued :
    ∃ p q x, Reachable p ∧ q.pipelines ≠ [] ∧ setCustom oneName oneValue p = .ok true q
      ∧ x ≠ .zero false
      ∧ setCustom oneName (.list [.float x]) q = .ok true (q.withValues [(['a'], x)]) := by
  obtain ⟨p, hsession, hdevice, hshader, hmap, hnames, _⟩ :=
    exists_running (fun _ _ => True) (fun _ => trivial) {}
  have hp := hsession.reachable
  obtain ⟨given, hrenamed, _, hrun⟩ := exists_renamed (sound_of_reachable hp) hshader hmap hnames
  have hwilling : Willing given.rig.gpu.device := by
    rw [hrenamed.served, hdevice]
    exact willing_default
  obtain ⟨q, hinstall, _, hpipelines⟩ := install_point hrenamed.sound hwilling
  have hset : setCustom oneName oneValue p = .ok true q := by
    rw [hrun, run_bind_of_ok hinstall]
    rfl
  have hsome : oneName.items ≠ .ok [] := fun h => by cases h
  have hagain := setCustom_again hp hset rfl (.inl hsome) (.list [.float (.zero true)])
  have hother : Double.zero true ≠ .zero false := by decide
  exact ⟨p, q, .zero true, hp, hpipelines, hset, hother, (hagain.valued rfl).2⟩

/-! ### No names -/

/-- No names under a shader always compile it again: the host has the placeholder instead. -/
theorem compiles_noNames (hp : p.rig.core.Sound) (hshader : p.shader ≠ none)
    (hitems : names.items = .ok []) (hvalues : values.items = .ok []) :
    ∃ named, Renamed [(placeholder, .zero false)] p named
      ∧ p.recompiled? names values = some (install p.map named)
      ∧ setCustom names values p
        = (do
            if ← install p.map then return true
            else onRig (Rig.setCustom p.back); return false : Op Bool) named := by
  have hpassed : Host.customArguments (.list []) values = .ok ([], []) := by
    unfold Host.customArguments
    rw [hvalues]
    rfl
  obtain ⟨named, hrenamed, hset, hrun⟩ := setCustom_eq hp hitems hpassed
  -- the names of the host are never empty
  have hother : ¬ (areNames [] p.rig.host.customNames || p.shader.isNone) := by
    have hne := hp.tidy.proper.ne_nil
    rw [Option.isNone_eq_false_iff.mpr (Option.isSome_iff_ne_none.mpr hshader), Bool.or_false,
      areNames, beq_iff_eq]
    exact fun h => hne (List.map_eq_nil_iff.mp h.symm)
  refine ⟨named, hrenamed, recompiled_eq hitems hset hother, ?_⟩
  rw [hrun, compileAgain, if_neg hother]

/-- A list of no names. -/
def noNames : Value := .list []

/-- Under a shader that the device takes, they can be set. -/
theorem setCustom_noNames (hp : p.rig.core.Sound) (hshader : p.shader = some pointText)
    (hmap : p.map = pointMap) (hwilling : Willing p.rig.gpu.device) :
    ∃ after, setCustom noNames noNames p = .ok true after
      ∧ p.recompiled? noNames noNames = some (.ok true after) ∧ after.frames = 0
      ∧ after.map = pointMap ∧ after.shader = some pointText := by
  have hsome : p.shader ≠ none := fun h => by cases hshader.symm.trans h
  obtain ⟨named, hrenamed, hagain, hrun⟩ :=
    compiles_noNames hp hsome (rfl : noNames.items = _) (rfl : noNames.items = _)
  obtain ⟨after, hinstall, hexchanged, _⟩ :=
    install_point hrenamed.sound (hrenamed.served ▸ hwilling)
  rw [hmap, hinstall] at hagain
  refine ⟨after, ?_, hagain, hexchanged.frames, hexchanged.map,
    hexchanged.shader.trans (hrenamed.shader.trans hshader)⟩
  rw [hrun, hmap, run_bind_of_ok hinstall]
  rfl

/-- A frame that is rendered is counted, and the text that was given last stays. -/
theorem exists_rendered (hp : Reachable p) :
    ∃ after, render p = .ok () after ∧ Reachable after ∧ after.core = p.core
      ∧ after.shader = p.shader ∧ after.frames = p.frames + 1 := by
  obtain ⟨_, _, gpu, commands, _, _, _, hencode, _⟩ := encodeFrame_told (recorded_of_reachable hp)
  obtain ⟨after, hrender, hkept⟩ : ∃ after, render p = .ok () after
      ∧ after.shader = p.shader ∧ after.frames = p.frames + 1 :=
    ⟨_, run_bind_of_ok hencode, rfl, rfl⟩
  have hcore := core_render p
  have hafter := Reachable.acted .render hp
  rw [Act.perform, hrender] at hafter
  rw [hrender] at hcore
  exact ⟨after, hrender, hafter, hcore, hkept⟩

/-- Between two calls with no names a frame is rendered: the second compiles the shader again and
starts it anew. -/
theorem setCustom_again_restarted :
    ∃ p q r after, Reachable p ∧ setCustom noNames noNames p = .ok true q
      ∧ Reachable r ∧ r.core = q.core ∧ r.frames = 1
      ∧ setCustom noNames noNames r = .ok true after
      ∧ r.recompiled? noNames noNames = some (.ok true after) ∧ after.frames = 0 := by
  obtain ⟨p, hsession, hdevice, hshader, hmap, _⟩ :=
    exists_running (fun _ _ => True) (fun _ => trivial) {}
  have hp := hsession.reachable
  obtain ⟨q, hset, _, hframes, hqmap, hqshader⟩ :=
    setCustom_noNames (sound_of_reachable hp) hshader hmap (hdevice ▸ willing_default)
  have hq : Reachable q := by
    have hacted := Reachable.acted (.setCustom noNames noNames) hp
    rwa [Act.perform, left_discard, hset] at hacted
  obtain ⟨drawn, _, hdrawn, hcore, hkept, hcounted⟩ := exists_rendered hq
  have hr := Reachable.elsewhere {} drawn.outside drawn.clock drawn.logicalSize hdrawn
  obtain ⟨after, hagain, hcompiled, hstarted, _⟩ := setCustom_noNames (sound_of_reachable hr)
    (hkept.trans hqshader) ((congrArg Core.map hcore).trans hqmap) willing_default
  exact ⟨p, q, _, after, hp, hset, hr, hcore, hcounted.trans (congrArg (· + 1) hframes), hagain,
    hcompiled, hstarted⟩

end Player

end ShaderPlayer
