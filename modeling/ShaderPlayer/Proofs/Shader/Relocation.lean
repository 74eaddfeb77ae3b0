/-
What processing does not look at.

The lines of origin are only kept, never read, and so are the lines that were emitted, the
paths asked before and the notes about them.  How deep includes may still nest matters only
where they nest too deep:

* `Unseen` — a view of runs that nothing done at a line tells from the runs themselves;
* `processLine_through` — so a whole line, with all that it includes, does the same in the view;
* `processLine_relocate` — a line with another origin, behind another past, does the
  same to the run at that origin behind that past;
* `unseen_behind` — and so does a line behind other emitted lines;
* `processLine_deeper`, `processLines_deeper` — one more level changes nothing, unless
  there were too few.
-/
import ShaderPlayer.Proofs.Shader.Correspondence

namespace ShaderPlayer.Shader

/-! ### Views of runs -/

variable {σ : Type}

/-- The end of a run in a view, the line it stopped at seen through a function. -/
def Halted.through (f : Int → Int) (view : Run σ → Run σ) (halted : Halted σ) : Halted σ :=
  (view halted.1, halted.2.map (·.relocate f))

/-- What is done at a line is done in the same way in a view, at the origin seen through a
function. -/
structure Unseen (resolver : Resolver σ) (f : Int → Int) (view : Run σ → Run σ) : Prop where
  macros : ∀ run, (view run).macros = run.macros
  hoist : ∀ run text, { view run with source := (view run).source.pushExtension text }
    = view { run with source := run.source.pushExtension text }
  emit : ∀ run origin line,
    (view run).emit (f origin) line = (run.emit origin line).through f view
  library : ∀ run path, (view run).noteLibrary path = view (run.noteLibrary path)
  ask : ∀ run path,
    (view run).ask resolver path = (view (run.ask resolver path).1, (run.ask resolver path).2)
  obey : ∀ run origin directive,
    (view run).obey (f origin) directive = (run.obey origin directive).map view

section Through

variable {resolver : Resolver σ} {f : Int → Int} {view : Run σ → Run σ}

theorem endAlike_through (halted : Halted σ) :
    EndAlike f (fun a b => b = view a) halted (halted.through f view) := by
  rcases halted with ⟨run, _ | stop⟩
  · refine .complete ?_
    rfl
  · refine .stopped ?_ stop
    rfl

theorem eq_through {here there : Halted σ}
    (h : EndAlike f (fun a b => b = view a) here there) : there = here.through f view := by
  cases h with
  | complete runs => exact congrArg (·, none) runs
  | stopped runs stop => exact congrArg (·, some (stop.relocate f)) runs

/-- A run corresponds to its view. -/
theorem Unseen.corresponds (h : Unseen resolver f view) :
    Corresponds resolver resolver f fun a b => b = view a where
  macros := by
    rintro a _ rfl
    exact h.macros a
  hoist := by
    rintro a _ text rfl
    exact h.hoist a text
  emit := by
    rintro a _ origin line rfl
    rw [h.emit]
    exact endAlike_through _
  library := by
    rintro a _ path rfl
    exact h.library a path
  ask := by
    rintro a _ path rfl
    rw [h.ask]
    rcases a.ask resolver path with ⟨asked, _ | text⟩
    · exact .missing rfl
    · exact .found rfl rfl
  obey := by
    rintro a _ origin directive rfl
    rw [h.obey]
    rcases a.obey origin directive with stop | after
    · exact .refused stop
    · exact .obeyed rfl

theorem processLines_through {step : Int → Text → Run σ → Halted σ}
    (hstep : ∀ origin line (run : Run σ), step (f origin) line (view run)
      = (step origin line run).through f view) (lines : List (Int × Text)) (run : Run σ) :
    processLines step (lines.map fun l => (f l.1, l.2)) (view run)
      = (processLines step lines run).through f view := by
  refine eq_through (processLines_corresponds ?_ lines rfl)
  rintro origin line a _ rfl
  rw [hstep]
  exact endAlike_through _

theorem processLine_through (h : Unseen resolver f view) (budget : Nat) (origin : Int) (line : Text)
    (run : Run σ) :
    processLine resolver budget (f origin) line (view run)
      = (processLine resolver budget origin line run).through f view :=
  eq_through (processLine_corresponds h.corresponds budget origin line rfl)

end Through

/-! ### Relocation -/

/-- What was asked of a resolver, and the notes about it. -/
structure Past where
  asked : Array Text := #[]
  notes : Array Note := #[]

/-- The source map with its origins seen through a function. -/
def SourceMap.relocate (f : Int → Int) (m : SourceMap) : SourceMap :=
  { m with
    emitted := m.emitted.map fun line => { line with origin := f line.origin }
    assertLines := m.assertLines.map f }

/-- The run with its origins seen through a function, behind a past. -/
def Run.relocate (f : Int → Int) (past : Past) (run : Run σ) : Run σ :=
  { run with
    source := run.source.relocate f
    asked := past.asked ++ run.asked
    notes := past.notes ++ run.notes }

/-- The end of a run, seen in the same way. -/
def Halted.relocate (f : Int → Int) (past : Past) (halted : Halted σ) : Halted σ :=
  (halted.1.relocate f past, halted.2.map (·.relocate f))

section Relocate

variable (f : Int → Int) (past : Past) (run : Run σ)

theorem relocate_pushLine (m : SourceMap) (text : Text) (origin : Int) :
    (m.pushLine text origin).relocate f = (m.relocate f).pushLine text (f origin) := by
  simp only [SourceMap.relocate, SourceMap.pushLine, Array.map_push]

theorem noteLibrary_relocate (path : IncludePath) :
    (run.relocate f past).noteLibrary path = (run.noteLibrary path).relocate f past := by
  unfold Run.noteLibrary
  split <;> rfl

theorem ask_relocate (resolver : Resolver σ) (path : Text) :
    (run.relocate f past).ask resolver path
      = ((run.ask resolver path).1.relocate f past, (run.ask resolver path).2) := by
  have hworld : (run.relocate f past).world = run.world := rfl
  unfold Run.ask
  rw [hworld]
  rcases resolver.fetch path run.world with ⟨_ | _ | _, notes, world⟩
  all_goals simp only [Run.relocate, Array.append_push, Array.append_assoc]

theorem emit_relocate (origin : Int) (line : Text) :
    (run.relocate f past).emit (f origin) line = Halted.relocate f past (run.emit origin line) := by
  have hmode : (run.relocate f past).stringMode = run.stringMode := rfl
  unfold Run.emit
  rw [hmode]
  rcases (if run.stringMode then encodeStrings line else some line) with _ | out
  · rfl
  · simp only [Halted.relocate, Run.relocate, relocate_pushLine, Option.map_none]

theorem obey_relocate (origin : Int) (directive : Directive) :
    (run.relocate f past).obey (f origin) directive
      = (run.obey origin directive).map (·.relocate f past) := by
  cases directive with
  | define name value =>
    have hmacros : (run.relocate f past).macros = run.macros := rfl
    simp only [Run.obey, hmacros]
    rcases run.macros.define? name value with _ | macros <;> rfl
  | storage name type =>
    simp only [Run.obey]
    show (if run.storageCount < maxStorageBuffers then _ else _) = _
    by_cases h : run.storageCount < maxStorageBuffers
    · simp only [h, if_true, Except.map, Run.relocate, relocate_pushLine]
    · simp only [h, if_false, Except.map]
  | assertion predicate =>
    simp only [Run.obey]
    show (if run.assertCount < maxAssertions then _ else _) = _
    by_cases h : run.assertCount < maxAssertions
    · simp only [h, if_true, Except.map, Run.relocate, SourceMap.relocate, SourceMap.pushLine,
        Array.map_push]
    · simp only [h, if_false, Except.map]
  | _ => rfl

theorem unseen_relocate (resolver : Resolver σ) : Unseen resolver f (·.relocate f past) where
  macros _ := rfl
  hoist _ _ := rfl
  emit := emit_relocate f past
  library := noteLibrary_relocate f past
  ask run path := ask_relocate f past run resolver path
  obey := obey_relocate f past

variable {f past run}

theorem processLines_relocate {step : Int → Text → Run σ → Halted σ}
    (hstep : ∀ origin line (run : Run σ), step (f origin) line (run.relocate f past)
      = Halted.relocate f past (step origin line run)) (lines : List (Int × Text)) :
    processLines step (lines.map fun l => (f l.1, l.2)) (run.relocate f past)
      = Halted.relocate f past (processLines step lines run) :=
  processLines_through hstep lines run

theorem processLine_relocate {resolver : Resolver σ} (budget : Nat) (origin : Int) (line : Text)
    (run : Run σ) :
    processLine resolver budget (f origin) line (run.relocate f past)
      = Halted.relocate f past (processLine resolver budget origin line run) :=
  processLine_through (unseen_relocate f past resolver) budget origin line run

end Relocate

/-! ### Lines that were emitted before -/

/-- The run with other lines emitted before those that it emitted. -/
def Run.behind (earlier : Array Emitted) (run : Run σ) : Run σ :=
  { run with source := { run.source with emitted := earlier ++ run.source.emitted } }

section Behind

variable (earlier : Array Emitted) (run : Run σ)

theorem behind_pushLine (text : Text) (origin : Int) :
    { run.behind earlier with source := (run.behind earlier).source.pushLine text origin }
      = Run.behind earlier { run with source := run.source.pushLine text origin } := by
  simp only [Run.behind, SourceMap.pushLine, Array.append_push]

theorem emit_behind (origin : Int) (line : Text) :
    (run.behind earlier).emit origin line = (run.emit origin line).through id (·.behind earlier) := by
  have hmode : (run.behind earlier).stringMode = run.stringMode := rfl
  unfold Run.emit
  rw [hmode]
  rcases (if run.stringMode then encodeStrings line else some line) with _ | out
  · rfl
  · exact congrArg (·, none) (behind_pushLine earlier run out origin)

theorem ask_behind (resolver : Resolver σ) (path : Text) :
    (run.behind earlier).ask resolver path
      = ((run.ask resolver path).1.behind earlier, (run.ask resolver path).2) := by
  have hworld : (run.behind earlier).world = run.world := rfl
  unfold Run.ask
  rw [hworld]
  rcases resolver.fetch path run.world with ⟨_ | _ | _, notes, world⟩ <;> rfl

theorem obey_behind (origin : Int) (directive : Directive) :
    (run.behind earlier).obey origin directive
      = (run.obey origin directive).map (·.behind earlier) := by
  cases directive with
  | define name value =>
    have hmacros : (run.behind earlier).macros = run.macros := rfl
    simp only [Run.obey, hmacros]
    rcases run.macros.define? name value with _ | macros <;> rfl
  | storage name type =>
    simp only [Run.obey]
    show (if run.storageCount < maxStorageBuffers then _ else _) = _
    by_cases h : run.storageCount < maxStorageBuffers
    · simp only [h, if_true, Except.map, Run.behind, SourceMap.pushLine, Array.append_push]
    · simp only [h, if_false, Except.map]
  | assertion predicate =>
    simp only [Run.obey]
    show (if run.assertCount < maxAssertions then _ else _) = _
    by_cases h : run.assertCount < maxAssertions
    · simp only [h, if_true, Except.map, Run.behind, SourceMap.pushLine, Array.append_push]
    · simp only [h, if_false, Except.map]
  | _ => rfl

theorem unseen_behind (resolver : Resolver σ) : Unseen resolver id (·.behind earlier) where
  macros _ := rfl
  hoist _ _ := rfl
  emit := emit_behind earlier
  library run path := by
    unfold Run.noteLibrary
    split <;> rfl
  ask run path := ask_behind earlier run resolver path
  obey := obey_behind earlier

end Behind

/-! ### Depth -/

/-- A run was stopped because includes nested too deep. -/
def Halted.TooDeep (halted : Halted σ) : Prop :=
  ∃ line, halted.2 = some ⟨.defect .depthLimit, line⟩

theorem processLines_deeper {step deeper : Int → Text → Run σ → Halted σ}
    (hstep : ∀ origin line run, ¬ Halted.TooDeep (step origin line run) →
      deeper origin line run = step origin line run) {lines : List (Int × Text)} {run : Run σ}
    (h : ¬ Halted.TooDeep (processLines step lines run)) :
    processLines deeper lines run = processLines step lines run := by
  induction lines generalizing run with
  | nil => rfl
  | cons head rest ih =>
    obtain ⟨origin, line⟩ := head
    rw [processLines] at h ⊢
    rw [processLines]
    rcases hs : step origin line run with ⟨run', _ | stop⟩
    · rw [hs] at h
      rw [hstep origin line run (by rw [hs]; rintro ⟨_, hstop⟩; cases hstop), hs]
      exact ih h
    · rw [hs] at h
      rw [hstep origin line run (by rw [hs]; exact h), hs]

/-- One more level of includes changes nothing where there were enough of them. -/
theorem processLine_deeper {resolver : Resolver σ} (budget : Nat) (origin : Int) (line : Text)
    (run : Run σ) (h : ¬ Halted.TooDeep (processLine resolver budget origin line run)) :
    processLine resolver (budget + 1) origin line run
      = processLine resolver budget origin line run := by
  induction budget using Nat.strongRecOn generalizing origin line run with
  | ind budget ih =>
    rcases kind : Line.ofText (run.macros.expandLine line) with text | text | tokens
    · rw [processLine_extension kind, processLine_extension kind]
    · rw [processLine_plain kind, processLine_plain kind]
    rcases read : Directive.ofTokens tokens with stop | directive
    · rw [processLine_malformed kind read, processLine_malformed kind read]
    by_cases hinclude : ∃ path argument, directive = .includeText path argument
    · obtain ⟨path, argument, rfl⟩ := hinclude
      rcases budget with _ | budget
      · rw [processLine_tooDeep kind read] at h
        exact absurd ⟨origin, rfl⟩ h
      · rw [processLine_include kind read] at h ⊢
        rw [processLine_include kind read]
        rcases hasked : (run.noteLibrary path).ask resolver path.request with ⟨asked, _ | text⟩
        · rfl
        · rw [hasked] at h
          exact processLines_deeper (ih budget (Nat.lt_succ_self budget)) h
    · have hother : ∀ path argument, directive ≠ .includeText path argument :=
        fun path argument h => hinclude ⟨path, argument, h⟩
      rw [processLine_directive kind read hother, processLine_directive kind read hother]

end ShaderPlayer.Shader
