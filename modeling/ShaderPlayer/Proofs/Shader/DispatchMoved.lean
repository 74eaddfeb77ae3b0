/-
Shaders with a dispatch line in another place.

* `Moved` — a line of a shader stands behind other lines, or before them, in another shader;
* `Passes.moved` — where the lines that it passes do not bar it, all else is done as before, and the
  same is set;
* `dispatch_moved` — so the two shaders are preprocessed to the same and compiled to the same
  pipelines.
-/
import ShaderPlayer.Proofs.Shader.DispatchLines

namespace ShaderPlayer.Shader

/-! ### Places -/

/-- The number of a line, where the line at index `i` is moved to index `j`. -/
def movedLine (i j : Nat) (k : Int) : Int :=
  if k = i + 1 then j + 1
  else if i + 1 < k ∧ k ≤ j + 1 then k - 1
  else if j + 1 ≤ k ∧ k < i + 1 then k + 1
  else k

/-- The numbers of the lines that the line at index `i` passes on its way to index `j`. -/
def Crossed (i j : Nat) (k : Int) : Prop :=
  (i + 1 < k ∧ k ≤ j + 1) ∨ (j + 1 ≤ k ∧ k < i + 1)

instance (i j : Nat) (k : Int) : Decidable (Crossed i j k) :=
  inferInstanceAs (Decidable ((i + 1 < k ∧ k ≤ j + 1) ∨ (j + 1 ≤ k ∧ k < i + 1)))

/-- A line is moved from one index of a list to another, behind lines that it passes or before
them. -/
inductive Moved (line : Text) : Nat → Nat → List Text → List Text → Prop
  | later (before between after : List Text) :
      Moved line before.length (before.length + between.length)
        (before ++ line :: (between ++ after)) (before ++ (between ++ line :: after))
  | earlier (before between after : List Text) :
      Moved line (before.length + between.length) before.length
        (before ++ (between ++ line :: after)) (before ++ line :: (between ++ after))

/-- Lines that move by the same distance. -/
theorem relocated_numbered {f : Int → Int} (distance : Int) {number : Int} {lines : List Text}
    (h : ∀ k, number ≤ k → k < number + lines.length → f k = k + distance) :
    relocated f (numbered number lines) = numbered (number + distance) lines :=
  map_numbered_of_shift h

section Lines

variable {σ : Type} {resolver : Resolver σ} {lines lines' : List Text} {a a' b b' : Run σ}
  {deeds deeds' : List (Int × Deed)}

/-- Lines are passed in one way. -/
theorem Passes.unique {lines : List (Int × Text)} (h : Passes resolver lines a deeds b)
    (h' : Passes resolver lines a deeds' b') : deeds' = deeds ∧ b' = b := by
  have hends := h'.processed.symm.trans h.processed
  exact ⟨h'.traced.symm.trans h.traced, congrArg Prod.fst hends⟩

theorem Passes.bounds {number : Int} (h : Passes resolver (numbered number lines) a deeds b) :
    ∀ d ∈ deeds, number ≤ d.1 ∧ d.1 < number + lines.length := by
  intro d hd
  rw [← h.traced] at hd
  obtain ⟨l, hl, hdl⟩ := origin_of_mem_traceLines (origin_of_mem_traceLine maxIncludeDepth) hd
  rw [hdl]
  exact bounds_of_mem_numbered hl

variable (resolver) in
/-- The macros that the line at an index is read with: those behind the lines before it. -/
def macrosAt (lines : List Text) (i : Nat) (run : Run σ) : MacroTable :=
  (processLines (processLine resolver maxIncludeDepth) (numbered 1 (lines.take i)) run).1.macros

/-- Lines beside the two places keep their numbers. -/
theorem relocated_beside {i j : Nat} {number : Int} {lines : List Text}
    (h : ∀ k : Int, number ≤ k → k < number + lines.length → k ≠ i + 1 ∧ ¬ Crossed i j k) :
    relocated (movedLine i j) (numbered number lines) = numbered number lines := by
  have hkept : ∀ k, number ≤ k → k < number + lines.length → movedLine i j k = k + 0 := by
    intro k hk hk'
    obtain ⟨hne, hcrossed⟩ := h k hk hk'
    unfold Crossed at hcrossed
    unfold movedLine
    split_ifs <;> omega
  have hsame := relocated_numbered 0 hkept
  rwa [Int.add_zero] at hsame

/-- The numbers of the lines before both places, of those between them and of those behind them. -/
theorem relocated_later (before between after : List Text) :
    let f := movedLine before.length (before.length + between.length)
    relocated f (numbered 1 before) = numbered 1 before
      ∧ relocated f (numbered (1 + before.length + 1) between) = numbered (1 + before.length) between
      ∧ relocated f (numbered (1 + before.length + 1 + between.length) after)
        = numbered (1 + before.length + between.length + 1) after := by
  intro f
  refine ⟨relocated_beside fun k hk hk' => ?_, (relocated_numbered (-1) fun k hk hk' => ?_).trans ?_,
    (relocated_beside fun k hk hk' => ?_).trans ?_⟩
  · unfold Crossed
    omega
  · unfold f movedLine
    split_ifs <;> omega
  · rw [Int.add_neg_cancel_right]
  · unfold Crossed
    omega
  · congr 1
    omega

theorem relocated_earlier (before between after : List Text) :
    let f := movedLine (before.length + between.length) before.length
    relocated f (numbered 1 before) = numbered 1 before
      ∧ relocated f (numbered (1 + before.length) between) = numbered (1 + before.length + 1) between
      ∧ relocated f (numbered (1 + before.length + between.length + 1) after)
        = numbered (1 + before.length + 1 + between.length) after := by
  intro f
  refine ⟨relocated_beside fun k hk hk' => ?_, relocated_numbered 1 fun k hk hk' => ?_,
    (relocated_beside fun k hk hk' => ?_).trans ?_⟩
  · unfold Crossed
    omega
  · unfold f movedLine
    split_ifs <;> omega
  · unfold Crossed
    omega
  · congr 1
    omega

/-- What comes before some lines and behind them is passed as ever, where these are passed in another
order and set the same. -/
theorem Passes.around {f : Int → Int} {before middle after middle' : List (Int × Text)}
    (h : Passes resolver (before ++ (middle ++ after)) a deeds b) (ha : Apart f a a')
    (hmiddle : ∀ {reached crossed reached' : Run σ} {done passed : List (Int × Deed)},
      Passes resolver before a done reached → Passes resolver middle reached passed crossed →
      (∀ d ∈ passed, d ∈ deeds) → Apart f reached reached' →
      ∃ passed' crossed', Passes resolver middle' reached' passed' crossed'
        ∧ Apart f crossed crossed'
        ∧ ∀ kind name, settingsOf kind name passed' = settingsOf kind name passed) :
    ∃ deeds' b', Passes resolver (relocated f before ++ (middle' ++ relocated f after)) a' deeds' b'
      ∧ Apart f b b' ∧ ∀ kind name, settingsOf kind name deeds' = settingsOf kind name deeds := by
  obtain ⟨reached, done, _, rfl, hbefore, h⟩ := passes_append_iff.mp h
  obtain ⟨crossed, passed, rest, rfl, hpassed, hafter⟩ := passes_append_iff.mp h
  have hmem : ∀ d ∈ passed, d ∈ done ++ (passed ++ rest) := fun d hd => by simp [hd]
  obtain ⟨reached', hbefore', hapart⟩ := hbefore.corresponds ha
  obtain ⟨passed', crossed', hpassed', hapart, hsame⟩ := hmiddle hbefore hpassed hmem hapart
  obtain ⟨final, hafter', hapart⟩ := hafter.corresponds hapart
  refine ⟨_, final, hbefore'.append (hpassed'.append hafter'), hapart, fun kind name => ?_⟩
  simp only [settingsOf_append, settingsOf_relocatedDeeds, hsame]

/-- What is passed where a line is moved: the same deeds but for the line's own, which comes later
or earlier, and no setting differs. -/
theorem Passes.moved {line : Text} {directive : Directive} {kind : DispatchKind} {name : Text}
    {i j : Nat} (hmoved : Moved line i j lines lines')
    (hread : (macrosAt resolver lines i a).directive? line = some directive)
    (hkind : directive.setting? = some (kind, name))
    (hcrossed : ∀ d ∈ deeds, Crossed i j d.1 → d.2.bars line kind name = false)
    (hlines : ∀ l ∈ lines, '\n' ∉ l) (h : Passes resolver (numbered 1 lines) a deeds b)
    (ha : Apart (movedLine i j) a a') :
    ∃ deeds' b', Passes resolver (numbered 1 lines') a' deeds' b' ∧ Apart (movedLine i j) b b'
      ∧ ∀ kind name, settingsOf kind name deeds' = settingsOf kind name deeds := by
  cases hmoved with
  | later before between after =>
    obtain ⟨hbefore, hbetween, hafter⟩ := relocated_later before between after
    have hfeed : ∀ l ∈ numbered (1 + before.length + 1) between, '\n' ∉ l.2 := by
      intro l hl
      exact hlines l.2 (by simp [mem_of_mem_numbered hl])
    rw [macrosAt, List.take_left] at hread
    rw [numbered_append, numbered, numbered_append, ← List.singleton_append, ← List.append_assoc
      [(1 + (before.length : Int), line)]] at h
    rw [numbered_append, numbered_append, numbered, ← hbefore, ← hbetween, ← hafter,
      ← List.singleton_append, ← List.append_assoc (relocated _ (numbered _ between))]
    refine h.around ha fun {reached crossed reached' done passed} hdone hpassed hmem hapart => ?_
    replace hread : reached.macros.directive? line = some directive := by
      rwa [hdone.processed] at hread
    obtain ⟨set, _, deeds₂, rfl, hline, hcrossing⟩ := passes_append_iff.mp hpassed
    obtain ⟨settings, hdispatch⟩ := Passes.dispatch resolver hread hkind (1 + before.length)
    obtain ⟨rfl, rfl⟩ := hdispatch.unique hline
    -- no deed between the two places bars the line
    have hbars : ∀ d ∈ deeds₂, d.2.bars line kind name = false := by
      intro d hd
      have hbounds := hcrossing.bounds d hd
      refine hcrossed d (hmem d (by simp [hd])) (.inl ?_)
      omega
    have hset : Apart _ (reached.withSettings settings) reached' := hapart.left rfl
    have hsame : (reached.withSettings settings).macros.directive? line = some directive := hread
    obtain ⟨crossed', hpassed', hapart⟩ := hcrossing.later hbars hkind hfeed hsame hset
      (1 + before.length + between.length)
    refine ⟨_, crossed', hpassed', hapart, fun kind' name' => ?_⟩
    rw [← settingsOf_swap hbars hkind _ (1 + before.length + between.length), settingsOf_append,
      settingsOf_relocatedDeeds, settingsOf_append]
  | earlier before between after =>
    obtain ⟨hbefore, hbetween, hafter⟩ := relocated_earlier before between after
    have hfeed : ∀ l ∈ numbered (1 + before.length) between, '\n' ∉ l.2 := by
      intro l hl
      exact hlines l.2 (by simp [mem_of_mem_numbered hl])
    have htake : (before ++ (between ++ line :: after)).take (before.length + between.length)
        = before ++ between := by
      rw [← List.append_assoc, ← List.length_append, List.take_left]
    rw [macrosAt, htake, numbered_append] at hread
    rw [numbered_append, numbered_append, numbered, ← List.singleton_append, ← List.append_assoc
      (numbered _ between)] at h
    rw [numbered_append, numbered, numbered_append, ← hbefore, ← hbetween, ← hafter,
      ← List.singleton_append, ← List.append_assoc [(1 + (before.length : Int), line)]]
    refine h.around ha fun {reached set reached' done passed} hdone hpassed hmem hapart => ?_
    obtain ⟨crossed, deeds₂, _, rfl, hcrossing, hline⟩ := passes_append_iff.mp hpassed
    replace hread : crossed.macros.directive? line = some directive := by
      rwa [(hdone.append hcrossing).processed] at hread
    obtain ⟨settings, hdispatch⟩ := Passes.dispatch resolver hread hkind
      (1 + before.length + between.length)
    obtain ⟨rfl, rfl⟩ := hdispatch.unique hline
    have hbars : ∀ d ∈ deeds₂, d.2.bars line kind name = false := by
      intro d hd
      have hbounds := hcrossing.bounds d hd
      refine hcrossed d (hmem d (by simp [hd])) (.inr ?_)
      omega
    obtain ⟨crossed', hpassed', hapart⟩ := hcrossing.earlier hbars hkind hfeed hread hapart
      (1 + before.length)
    refine ⟨_, crossed', hpassed', hapart.left rfl, fun kind' name' => ?_⟩
    rw [settingsOf_swap hbars hkind (1 + before.length), settingsOf_append,
      settingsOf_relocatedDeeds, settingsOf_append]

end Lines

section Shaders

variable {σ : Type} {resolver : Resolver σ} {text : Text} {run : Run σ}

theorem passes_of_complete (h : (run.shader resolver text).2 = .complete) :
    Passes resolver (numbered 1 text.lines) run (run.trace resolver text)
      (run.shader resolver text).1 := by
  rw [shader_eq] at h ⊢
  have hstop := ofStop_eq_complete_iff.mp h
  refine ⟨Prod.ext rfl hstop, ?_⟩
  rw [Run.trace, numberedLines_eq]

theorem Passes.shader {deeds : List (Int × Deed)} {final : Run σ}
    (h : Passes resolver (numbered 1 text.lines) run deeds final) :
    run.shader resolver text = (final, .complete) ∧ run.trace resolver text = deeds := by
  constructor
  · rw [shader_eq, h.processed]
    rfl
  · rw [Run.trace, numberedLines_eq, h.traced]

/-- Runs that differ in their settings and origins, and look the same settings up, say the same of
a shader. -/
theorem Apart.same {f : Int → Int} {a b : Run σ} (h : Apart f a b)
    (hsettings : ∀ kind name, b.source.setting? name kind = a.source.setting? name kind) :
    a.source.Same b.source := by
  obtain ⟨settings, rfl⟩ := h
  refine same_of_settings ?_ rfl rfl hsettings
  simp [SourceMap.lines, Run.withSettings, Run.relocate, SourceMap.relocate]

end Shaders

/-- A line that sets how an entry point is dispatched may stand anywhere, as long as it is not
moved past a definition of one of its words, nor past another line that sets the same, in the
shader or in an include.  The shader with the line in the other place is preprocessed as the
shader is: to the same lines, extensions, tables, macros and settings, with nothing but the
lines' numbers moved; so it is compiled to the same pipelines.  Of the lines that set the same, the
last one counts. -/
theorem dispatch_moved {σ : Type} (resolver : Resolver σ) (defines : Entries Text) (world : σ)
    {text moved line : Text} {i j : Nat} {directive : Directive} {kind : DispatchKind} {name : Text}
    (hmoved : Moved line i j text.lines moved.lines)
    (hread : (macrosAt resolver text.lines i (.start defines world)).directive? line
      = some directive)
    (hkind : directive.setting? = some (kind, name))
    (hcrossed : ∀ d ∈ (Run.start defines world).trace resolver text,
      Crossed i j d.1 → d.2.bars line kind name = false)
    (hcomplete : ((Run.start defines world).shader resolver text).2 = .complete) :
    let run := Run.start defines world
    let final := (run.shader resolver text).1
    let final' := (run.shader resolver moved).1
    (run.shader resolver moved).2 = .complete
      ∧ final.source.Same final'.source
      ∧ final'.macros = final.macros
      ∧ Apart (movedLine i j) final final'
      ∧ (∀ host layout bench pipelines after,
          Workbench.compile host layout final'.source bench = .ok pipelines after
            ↔ Workbench.compile host layout final.source bench = .ok pipelines after)
      ∧ ∀ shader kind name, (run.shader resolver shader).1.source.setting? name kind
          = (settingsOf kind name (run.trace resolver shader)).getLast? := by
  intro run final final'
  obtain ⟨deeds', reached, hpassed, hapart, hsettings⟩ := Passes.moved hmoved hread hkind hcrossed
    (Text.newline_not_mem_lines text) (passes_of_complete hcomplete)
    (apart_start (movedLine i j) defines world)
  obtain ⟨hshader, htrace⟩ := hpassed.shader
  have hreached : final' = reached := congrArg Prod.fst hshader
  have hlast : ∀ shader kind name, (run.shader resolver shader).1.source.setting? name kind
      = (settingsOf kind name (run.trace resolver shader)).getLast? :=
    fun shader kind name => setting_shader resolver defines world shader kind name
  rw [← hreached] at hapart
  have hsame : final.source.Same final'.source := by
    refine hapart.same fun kind name => ?_
    rw [hlast moved, hlast text, htrace, hsettings]
  exact ⟨congrArg Prod.snd hshader, hsame, (corresponds_apart resolver _).macros hapart, hapart,
    fun host layout bench pipelines after =>
      Workbench.compile_same hsame host layout bench after pipelines, hlast⟩

/-- A count that is moved behind the entry point, a definition and an include. -/
theorem dispatch_moved_count :
    let resolver := Resolver.dictionary [("p".toList, "#workgroup_count f 1 2 3\n".toList)]
    let line : Text := "#dispatch_count f N".toList
    let text : Text := "#define N 2\n#dispatch_count f N\nfn f() \x7b\x7d\n#define M 3\n#include \"p\"\nM\n".toList
    let moved : Text := "#define N 2\nfn f() \x7b\x7d\n#define M 3\n#include \"p\"\n#dispatch_count f N\nM\n".toList
    let run := Run.start [] ()
    Moved line 1 4 text.lines moved.lines
      ∧ (macrosAt resolver text.lines 1 run).directive? line = some (.dispatchCount "f".toList 2)
      ∧ (∀ d ∈ run.trace resolver text, Crossed 1 4 d.1 → d.2.bars line .count "f".toList = false)
      ∧ (run.shader resolver text).2 = .complete
      ∧ (run.shader resolver moved).2 = .complete
      ∧ (run.shader resolver text).1.source.Same (run.shader resolver moved).1.source := by
  intro resolver line text moved run
  let between : List Text :=
    ["fn f() \x7b\x7d".toList, "#define M 3".toList, "#include \"p\"".toList]
  have htext : text.lines = ["#define N 2".toList] ++ line :: (between ++ [['M']]) := by
    decide +kernel
  have hmovedLines : moved.lines = ["#define N 2".toList] ++ (between ++ line :: [['M']]) := by
    decide +kernel
  have hmoved : Moved line 1 4 text.lines moved.lines := by
    rw [htext, hmovedLines]
    exact .later ["#define N 2".toList] between [['M']]
  have hread : (macrosAt resolver text.lines 1 run).directive? line
      = some (.dispatchCount "f".toList 2) := by
    decide +kernel
  have hcrossed : ∀ d ∈ run.trace resolver text, Crossed 1 4 d.1 →
      d.2.bars line .count "f".toList = false := by
    decide +kernel
  have hcomplete : (run.shader resolver text).2 = .complete := by
    decide +kernel
  have h := dispatch_moved resolver [] () hmoved hread rfl hcrossed hcomplete
  exact ⟨hmoved, hread, hcrossed, hcomplete, h.1, h.2.1⟩

end ShaderPlayer.Shader
