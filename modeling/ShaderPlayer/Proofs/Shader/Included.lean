/-
Lines that include a text, and lines that do not.

Only an include leads to the lines of another text.  Every other line is settled by
itself: it does one thing, or it stops with the run as it was.

* `settled_of_included`, `unchanged_of_stopped` — a line that is no include does one deed,
  or is refused and changes nothing;
* `processLine_of_included`, `processLine_zero_of_included` — an include is processed by
  its lines, or is too deep;
* `line_of_processLine`, `origin_of_mem_traceLine` — a line stops as itself and its deeds
  count as it, whatever it includes.
-/
import ShaderPlayer.Proofs.Shader.Trace

namespace ShaderPlayer.Shader

/-- The include that a line is read as: its path and the argument that the path is in. -/
def MacroTable.included? (macros : MacroTable) (line : Text) : Option (IncludePath × Text) :=
  match Line.ofText (macros.expandLine line) with
  | .directive tokens =>
    match Directive.ofTokens tokens with
    | .ok (.includeText path argument) => some (path, argument)
    | _ => none
  | _ => none

theorem included_eq_some_iff {macros : MacroTable} {line : Text} {path : IncludePath}
    {argument : Text} :
    macros.included? line = some (path, argument)
      ↔ ∃ tokens, Line.ofText (macros.expandLine line) = .directive tokens
          ∧ Directive.ofTokens tokens = .ok (.includeText path argument) := by
  unfold MacroTable.included?
  rcases Line.ofText (macros.expandLine line) with text | text | tokens
  · exact ⟨fun h => (by cases h), fun ⟨_, h, _⟩ => (by cases h)⟩
  · exact ⟨fun h => (by cases h), fun ⟨_, h, _⟩ => (by cases h)⟩
  constructor
  · intro h
    refine ⟨tokens, rfl, ?_⟩
    dsimp only at h
    split at h
    · next read =>
      cases h
      exact read
    · cases h
  · rintro ⟨_, kind, read⟩
    cases kind
    dsimp only
    rw [read]

/-! ### Lines that are no includes -/

variable {σ : Type} {resolver : Resolver σ} {run : Run σ} {line : Text}

/-- A line is settled by itself, however deep includes may still nest: it is refused and
nothing is done, or it does one deed. -/
inductive Settled (resolver : Resolver σ) (origin : Int) (line : Text) (run : Run σ) : Prop
  | refused (stop : Stop)
      (processed : ∀ budget,
        processLine resolver budget origin line run = (run, some ⟨stop, origin⟩))
      (traced : ∀ budget, traceLine resolver budget origin line run = [])
  | done (deed : Deed) (after : Run σ)
      (processed : ∀ budget, processLine resolver budget origin line run = (after, none))
      (traced : ∀ budget, traceLine resolver budget origin line run = [(origin, deed)])

variable (resolver) in
/-- A line that is no include is settled by itself. -/
theorem settled_of_included (h : run.macros.included? line = none) (origin : Int) :
    Settled resolver origin line run := by
  rcases kind : Line.ofText (run.macros.expandLine line) with text | text | tokens
  · exact .done (.hoisted text) _ (fun _ => processLine_extension kind)
      fun _ => by rw [traceLine.eq_def, kind]
  · rcases encoded : (if run.stringMode then encodeStrings text else some text) with _ | out
    · refine .refused (.defect .stringTooLong) (fun budget => ?_) (fun budget => ?_)
      · rw [processLine_plain kind, Run.emit, encoded]
      · rw [traceLine.eq_def, kind]
        dsimp only
        rw [encoded]
    · refine .done (.emitted out) { run with source := run.source.pushLine out origin }
        (fun budget => ?_) (fun budget => ?_)
      · rw [processLine_plain kind, Run.emit, encoded]
      · rw [traceLine.eq_def, kind]
        dsimp only
        rw [encoded]
  rcases read : Directive.ofTokens tokens with stop | directive
  · refine .refused stop (fun budget => processLine_malformed kind read) (fun budget => ?_)
    rw [traceLine.eq_def, kind]
    dsimp only
    rw [read]
  · have hother : ∀ path argument, directive ≠ .includeText path argument := by
      rintro path argument rfl
      have hsome : run.macros.included? line = some (path, argument) :=
        included_eq_some_iff.mpr ⟨tokens, kind, read⟩
      rw [h] at hsome
      cases hsome
    rcases hobey : run.obey origin directive with stop | after
    · refine .refused stop (fun budget => ?_) (fun budget => ?_)
      · rw [processLine_directive kind read hother, hobey]
        rfl
      · rw [traceLine_directive kind read hother, hobey]
    · refine .done (.obeyed directive) after (fun budget => ?_) (fun budget => ?_)
      · rw [processLine_directive kind read hother, hobey]
        rfl
      · rw [traceLine_directive kind read hother, hobey]

/-- A line that is no include and stops leaves everything as it was. -/
theorem unchanged_of_stopped {budget : Nat} {origin : Int} {after : Run σ} {stop : Located}
    (h : run.macros.included? line = none)
    (hstop : processLine resolver budget origin line run = (after, some stop)) : after = run := by
  cases settled_of_included resolver h origin with
  | refused _ processed =>
    rw [processed] at hstop
    cases hstop
    rfl
  | done _ _ processed =>
    rw [processed] at hstop
    cases hstop

/-! ### Includes -/

section Includes

variable {path : IncludePath} {argument : Text}

theorem processLine_of_included (h : run.macros.included? line = some (path, argument)) (budget : Nat)
    (origin : Int) :
    processLine resolver (budget + 1) origin line run
      = match (run.noteLibrary path).ask resolver path.request with
        | (asked, none) => (asked, some ⟨.defect (.includeMissing argument), origin⟩)
        | (asked, some text) =>
          processLines (processLine resolver budget) (text.lines.map fun l => (origin, l))
            asked := by
  obtain ⟨tokens, kind, read⟩ := included_eq_some_iff.mp h
  exact processLine_include kind read

theorem processLine_zero_of_included (h : run.macros.included? line = some (path, argument))
    (origin : Int) :
    processLine resolver 0 origin line run
      = (run.noteLibrary path, some ⟨.defect .depthLimit, origin⟩) := by
  obtain ⟨tokens, kind, read⟩ := included_eq_some_iff.mp h
  exact processLine_tooDeep kind read

theorem traceLine_of_included (h : run.macros.included? line = some (path, argument)) (budget : Nat)
    (origin : Int) :
    traceLine resolver (budget + 1) origin line run
      = match (run.noteLibrary path).ask resolver path.request with
        | (_, none) => []
        | (asked, some text) =>
          traceLines (processLine resolver budget) (traceLine resolver budget)
            (text.lines.map fun l => (origin, l)) asked := by
  obtain ⟨tokens, kind, read⟩ := included_eq_some_iff.mp h
  have heq := traceLine.eq_def resolver (budget + 1) origin line run
  rw [kind] at heq
  dsimp only at heq
  rw [read] at heq
  exact heq

theorem traceLine_zero_of_included (h : run.macros.included? line = some (path, argument))
    (origin : Int) : traceLine resolver 0 origin line run = [] := by
  obtain ⟨tokens, kind, read⟩ := included_eq_some_iff.mp h
  rw [traceLine.eq_def, kind]
  dsimp only
  rw [read]

end Includes

/-! ### Lines stop as themselves -/

/-- Lines stop at one of them: those before it are processed, and it is the one that
stops. -/
theorem processLines_eq_some_iff {step : Int → Text → Run σ → Halted σ}
    {lines : List (Int × Text)} {run final : Run σ} {stop : Located} :
    processLines step lines run = (final, some stop)
      ↔ ∃ before line after reached, lines = before ++ line :: after
          ∧ processLines step before run = (reached, none)
          ∧ step line.1 line.2 reached = (final, some stop) := by
  constructor
  · intro h
    induction lines generalizing run with
    | nil => cases h
    | cons head rest ih =>
      rw [processLines] at h
      rcases hhead : step head.1 head.2 run with ⟨next, _ | stopped⟩
      · rw [hhead] at h
        obtain ⟨before, line, after, reached, rfl, hbefore, hline⟩ := ih h
        refine ⟨head :: before, line, after, reached, rfl, ?_, hline⟩
        rw [processLines, hhead]
        exact hbefore
      · rw [hhead] at h
        cases h
        exact ⟨[], head, rest, run, rfl, rfl, hhead⟩
  · rintro ⟨before, line, after, reached, rfl, hbefore, hline⟩
    rw [processLines_append, hbefore]
    dsimp only
    rw [processLines, hline]

/-- A line stops as itself.  The induction is on how deep includes may still nest: the
lines of an include count as the line of its directive. -/
theorem line_of_processLine {budget : Nat} {origin : Int} {line : Text} {run final : Run σ}
    {stop : Located} (h : processLine resolver budget origin line run = (final, some stop)) :
    stop.line = origin := by
  induction budget using Nat.strongRecOn generalizing origin line run final stop with
  | ind budget ih =>
    rcases hincluded : run.macros.included? line with _ | ⟨path, argument⟩
    · cases settled_of_included resolver hincluded origin with
      | refused _ processed =>
        rw [processed] at h
        cases h
        rfl
      | done _ _ processed =>
        rw [processed] at h
        cases h
    rcases budget with _ | budget
    · rw [processLine_zero_of_included hincluded] at h
      cases h
      rfl
    rw [processLine_of_included hincluded] at h
    rcases hask : (run.noteLibrary path).ask resolver path.request with ⟨asked, _ | text⟩
    · rw [hask] at h
      cases h
      rfl
    · rw [hask] at h
      obtain ⟨before, inner, after, reached, hlines, _, hinner⟩ := processLines_eq_some_iff.mp h
      have hmem : inner ∈ text.lines.map fun l => (origin, l) := by
        rw [hlines]
        exact List.mem_append_right before List.mem_cons_self
      obtain ⟨l, _, rfl⟩ := List.mem_map.mp hmem
      exact ih budget (Nat.lt_succ_self budget) hinner

/-- The deeds at lines count as lines among them, if the deeds at each line count as it. -/
theorem origin_of_mem_traceLines {step : Int → Text → Run σ → Halted σ}
    {trace : Int → Text → Run σ → List (Int × Deed)}
    (htrace : ∀ origin line run, ∀ d ∈ trace origin line run, d.1 = origin)
    {lines : List (Int × Text)} {run : Run σ} {d : Int × Deed}
    (hd : d ∈ traceLines step trace lines run) : ∃ l ∈ lines, d.1 = l.1 := by
  induction lines generalizing run with
  | nil => exact absurd hd List.not_mem_nil
  | cons head rest ih =>
    rw [traceLines] at hd
    rcases List.mem_append.mp hd with hd | hd
    · exact ⟨head, List.mem_cons_self, htrace _ _ _ d hd⟩
    · split at hd
      · obtain ⟨l, hl, hdl⟩ := ih hd
        exact ⟨l, List.mem_cons_of_mem head hl, hdl⟩
      · exact absurd hd List.not_mem_nil

/-- The deeds at a line count as it, whatever it includes. -/
theorem origin_of_mem_traceLine (budget : Nat) (origin : Int) (line : Text) (run : Run σ) :
    ∀ d ∈ traceLine resolver budget origin line run, d.1 = origin := by
  induction budget using Nat.strongRecOn generalizing origin line run with
  | ind budget ih =>
    intro d hd
    rcases hincluded : run.macros.included? line with _ | ⟨path, argument⟩
    · cases settled_of_included resolver hincluded origin with
      | refused _ _ traced =>
        rw [traced] at hd
        exact absurd hd List.not_mem_nil
      | done _ _ _ traced =>
        rw [traced] at hd
        rw [List.mem_singleton.mp hd]
    rcases budget with _ | budget
    · rw [traceLine_zero_of_included hincluded] at hd
      exact absurd hd List.not_mem_nil
    rw [traceLine_of_included hincluded] at hd
    rcases hask : (run.noteLibrary path).ask resolver path.request with ⟨asked, _ | text⟩
    · rw [hask] at hd
      exact absurd hd List.not_mem_nil
    · rw [hask] at hd
      obtain ⟨l, hl, hdl⟩ := origin_of_mem_traceLines (ih budget (Nat.lt_succ_self budget)) hd
      obtain ⟨_, _, rfl⟩ := List.mem_map.mp hl
      exact hdl

end ShaderPlayer.Shader
