/-
What a run does, deed by deed.

Processing hoists, emits and obeys; the lines of an include are processed in the
place of its directive.  `traceLine` lists these deeds in the order of the document,
and `Step` says what one of them does to the run, so that what every step keeps is
kept by a whole run:

* `steps_processLine`, `steps_shader` — a run takes the steps of its trace, whether
  it ends or is stopped;
* `Steps.keeps` — what holds of a run and is kept by every step holds after the steps.
-/
import ShaderPlayer.Shader.Preprocess

namespace ShaderPlayer.Shader

/-- What processing does at a line. -/
inductive Deed where
  | hoisted (text : Text)
  /-- The line as it was emitted, its strings encoded. -/
  | emitted (text : Text)
  | obeyed (directive : Directive)
  deriving DecidableEq, Repr

/-- The resolver that looks paths up in a dictionary. -/
def Resolver.dictionary (texts : Entries Text) : Resolver Unit where
  fetch path _ := ((texts.lookup path).elim .missing .text, [], ())

variable {σ : Type}

/-! ### Traces -/

/-- The deeds at lines in order, until one of the lines stops. -/
def traceLines (step : Int → Text → Run σ → Halted σ)
    (trace : Int → Text → Run σ → List (Int × Deed)) :
    List (Int × Text) → Run σ → List (Int × Deed)
  | [], _ => []
  | (origin, line) :: rest, run =>
    trace origin line run ++
      match step origin line run with
      | (run', none) => traceLines step trace rest run'
      | (_, some _) => []

/-- The deeds at a line, each with the line of the shader that it counts as; those at
the lines of an include stand in the place of its directive. -/
def traceLine (resolver : Resolver σ) (budget : Nat) (origin : Int) (line : Text)
    (run : Run σ) : List (Int × Deed) :=
  match Line.ofText (run.macros.expandLine line) with
  | .extension text => [(origin, .hoisted text)]
  | .plain text =>
    match if run.stringMode then encodeStrings text else some text with
    | some text => [(origin, .emitted text)]
    | none => []
  | .directive tokens =>
    match Directive.ofTokens tokens with
    | .error _ => []
    | .ok (.includeText path _) =>
      match budget with
      | 0 => []
      | budget + 1 =>
        match (run.noteLibrary path).ask resolver path.request with
        | (_, none) => []
        | (run, some text) =>
          traceLines (fun o l r => processLine resolver budget o l r)
            (fun o l r => traceLine resolver budget o l r)
            (text.lines.map fun l => (origin, l)) run
    | .ok directive =>
      match run.obey origin directive with
      | .ok _ => [(origin, .obeyed directive)]
      | .error _ => []

/-- The deeds of preprocessing a shader from a given state. -/
def Run.trace (resolver : Resolver σ) (text : Text) (run : Run σ) : List (Int × Deed) :=
  traceLines (processLine resolver maxIncludeDepth) (traceLine resolver maxIncludeDepth)
    (numberedLines text) run

/-! ### Steps -/

/-- One change to a run, with the deed that it is, if it is one. -/
inductive Step (resolver : Resolver σ) : Run σ → List (Int × Deed) → Run σ → Prop
  | hoist {run : Run σ} {origin : Int} {line text : Text} (unbroken : '\n' ∉ line)
      (kind : Line.ofText (run.macros.expandLine line) = .extension text) :
      Step resolver run [(origin, .hoisted text)]
        { run with source := run.source.pushExtension text }
  | emit {run : Run σ} {origin : Int} {line text out : Text} (unbroken : '\n' ∉ line)
      (kind : Line.ofText (run.macros.expandLine line) = .plain text)
      (encoded : (if run.stringMode then encodeStrings text else some text) = some out) :
      Step resolver run [(origin, .emitted out)]
        { run with source := run.source.pushLine out origin }
  | obey {run run' : Run σ} {origin : Int} {line : Text} {tokens : List Text}
      {directive : Directive} (unbroken : '\n' ∉ line)
      (kind : Line.ofText (run.macros.expandLine line) = .directive tokens)
      (read : Directive.ofTokens tokens = .ok directive)
      (obeyed : run.obey origin directive = .ok run') :
      Step resolver run [(origin, .obeyed directive)] run'
  | library {run : Run σ} (path : IncludePath) : Step resolver run [] (run.noteLibrary path)
  | ask {run : Run σ} (path : Text) : Step resolver run [] (run.ask resolver path).1

/-- Changes one after the other, with all their deeds. -/
inductive Steps (resolver : Resolver σ) : Run σ → List (Int × Deed) → Run σ → Prop
  | refl (run : Run σ) : Steps resolver run [] run
  | cons {a b c : Run σ} {first rest : List (Int × Deed)} (step : Step resolver a first b)
      (steps : Steps resolver b rest c) : Steps resolver a (first ++ rest) c

namespace Steps

variable {resolver : Resolver σ} {a b c : Run σ} {first rest : List (Int × Deed)}

theorem single (h : Step resolver a first b) : Steps resolver a first b := by
  have hsteps := Steps.cons h (.refl b)
  rwa [List.append_nil] at hsteps

theorem trans (h₁ : Steps resolver a first b) (h₂ : Steps resolver b rest c) :
    Steps resolver a (first ++ rest) c := by
  induction h₁ with
  | refl => exact h₂
  | cons step _ ih =>
    rw [List.append_assoc]
    exact .cons step (ih h₂)

/-- What every step keeps is kept by all of them. -/
theorem keeps {holds : Run σ → Prop}
    (hstep : ∀ {a b : Run σ} {deeds}, Step resolver a deeds b → holds a → holds b)
    (h : Steps resolver a first b) (ha : holds a) : holds b := by
  induction h with
  | refl => exact ha
  | cons step _ ih => exact ih (hstep step ha)

end Steps

/-! ### What asking and obeying leave alone -/

section Asking

variable (resolver : Resolver σ) (run : Run σ)

theorem source_noteLibrary (path : IncludePath) : (run.noteLibrary path).source = run.source := by
  unfold Run.noteLibrary
  split <;> rfl

theorem macros_noteLibrary (path : IncludePath) : (run.noteLibrary path).macros = run.macros := by
  unfold Run.noteLibrary
  split <;> rfl

theorem asked_noteLibrary (path : IncludePath) :
    (run.noteLibrary path).asked = run.asked ∧ (run.noteLibrary path).world = run.world := by
  unfold Run.noteLibrary
  split <;> exact ⟨rfl, rfl⟩

theorem source_ask (path : Text) : (run.ask resolver path).1.source = run.source := by
  unfold Run.ask
  rcases resolver.fetch path run.world with ⟨_ | _ | _, notes, world⟩ <;> rfl

theorem macros_ask (path : Text) : (run.ask resolver path).1.macros = run.macros := by
  unfold Run.ask
  rcases resolver.fetch path run.world with ⟨_ | _ | _, notes, world⟩ <;> rfl

/-- A directive changes the source, the macros and the counters, and nothing else. -/
theorem frame_obey {run run' : Run σ} {origin : Int} {directive : Directive}
    (h : run.obey origin directive = .ok run') :
    run' = { run with
      source := run'.source, macros := run'.macros
      storageCount := run'.storageCount, assertCount := run'.assertCount } := by
  cases directive with
  | define | storage | assertion =>
    simp only [Run.obey] at h
    split at h
    · cases h
      rfl
    · cases h
  | _ =>
    cases h
    rfl

end Asking

/-! ### One line -/

section Line

variable {resolver : Resolver σ} {budget : Nat} {origin : Int} {line : Text} {run : Run σ}
  {text argument : Text} {path : IncludePath} {tokens : List Text} {directive : Directive}

/-- What processing does with a line, by what the line is and what it asks for. -/
theorem processLine_eq (resolver : Resolver σ) (budget : Nat) (origin : Int) (line : Text)
    (run : Run σ) :
    processLine resolver budget origin line run
      = match Line.ofText (run.macros.expandLine line) with
        | .extension text => ({ run with source := run.source.pushExtension text }, none)
        | .plain text => run.emit origin text
        | .directive tokens =>
          match Directive.ofTokens tokens with
          | .error stop => (run, some ⟨stop, origin⟩)
          | .ok (.includeText path argument) =>
            let run := run.noteLibrary path
            match budget with
            | 0 => (run, some ⟨.defect .depthLimit, origin⟩)
            | budget + 1 =>
              match run.ask resolver path.request with
              | (run, none) => (run, some ⟨.defect (.includeMissing argument), origin⟩)
              | (run, some text) =>
                processLines (fun o l r => processLine resolver budget o l r)
                  (text.lines.map fun l => (origin, l)) run
          | .ok directive => settle run origin (run.obey origin directive) :=
  processLine.eq_def ..

theorem processLine_extension
    (kind : Line.ofText (run.macros.expandLine line) = .extension text) :
    processLine resolver budget origin line run
      = ({ run with source := run.source.pushExtension text }, none) := by
  rw [processLine_eq, kind]

theorem processLine_plain (kind : Line.ofText (run.macros.expandLine line) = .plain text) :
    processLine resolver budget origin line run = run.emit origin text := by
  rw [processLine_eq, kind]

theorem processLine_malformed {stop : Stop}
    (kind : Line.ofText (run.macros.expandLine line) = .directive tokens)
    (read : Directive.ofTokens tokens = .error stop) :
    processLine resolver budget origin line run = (run, some ⟨stop, origin⟩) := by
  rw [processLine_eq, kind]
  dsimp only
  rw [read]

theorem processLine_directive
    (kind : Line.ofText (run.macros.expandLine line) = .directive tokens)
    (read : Directive.ofTokens tokens = .ok directive)
    (other : ∀ path argument, directive ≠ .includeText path argument) :
    processLine resolver budget origin line run
      = settle run origin (run.obey origin directive) := by
  rw [processLine_eq, kind]
  dsimp only
  rw [read]
  cases directive with
  | includeText path argument => exact absurd rfl (other path argument)
  | _ => rfl

theorem processLine_tooDeep
    (kind : Line.ofText (run.macros.expandLine line) = .directive tokens)
    (read : Directive.ofTokens tokens = .ok (.includeText path argument)) :
    processLine resolver 0 origin line run
      = (run.noteLibrary path, some ⟨.defect .depthLimit, origin⟩) := by
  rw [processLine_eq, kind]
  dsimp only
  rw [read]

theorem processLine_include
    (kind : Line.ofText (run.macros.expandLine line) = .directive tokens)
    (read : Directive.ofTokens tokens = .ok (.includeText path argument)) :
    processLine resolver (budget + 1) origin line run
      = match (run.noteLibrary path).ask resolver path.request with
        | (asked, none) => (asked, some ⟨.defect (.includeMissing argument), origin⟩)
        | (asked, some text) =>
          processLines (processLine resolver budget) (text.lines.map fun l => (origin, l))
            asked := by
  have heq := processLine_eq resolver (budget + 1) origin line run
  rw [kind] at heq
  dsimp only at heq
  rw [read] at heq
  exact heq

theorem traceLine_directive
    (kind : Line.ofText (run.macros.expandLine line) = .directive tokens)
    (read : Directive.ofTokens tokens = .ok directive)
    (other : ∀ path argument, directive ≠ .includeText path argument) :
    traceLine resolver budget origin line run
      = match run.obey origin directive with
        | .ok _ => [(origin, .obeyed directive)]
        | .error _ => [] := by
  rw [traceLine.eq_def, kind]
  dsimp only
  rw [read]
  cases directive with
  | includeText path argument => exact absurd rfl (other path argument)
  | _ => rfl

end Line

/-! ### Runs take the steps of their traces -/

variable {resolver : Resolver σ}

theorem steps_processLines {step : Int → Text → Run σ → Halted σ}
    {trace : Int → Text → Run σ → List (Int × Deed)}
    (hstep : ∀ origin line run, '\n' ∉ line →
      Steps resolver run (trace origin line run) (step origin line run).1)
    {lines : List (Int × Text)} (hlines : ∀ l ∈ lines, '\n' ∉ l.2) (run : Run σ) :
    Steps resolver run (traceLines step trace lines run) (processLines step lines run).1 := by
  induction lines generalizing run with
  | nil => exact .refl run
  | cons head rest ih =>
    obtain ⟨origin, line⟩ := head
    rw [List.forall_mem_cons] at hlines
    have hhead := hstep origin line run hlines.1
    rw [traceLines, processLines]
    rcases hs : step origin line run with ⟨run', _ | stop⟩
    · rw [hs] at hhead
      exact hhead.trans (ih hlines.2 run')
    · rw [hs] at hhead
      rw [List.append_nil]
      exact hhead

/-- The induction is on how deep includes may still nest: the lines of an include are
processed with one level less. -/
theorem steps_processLine (budget : Nat) (origin : Int) (line : Text) (run : Run σ)
    (unbroken : '\n' ∉ line) :
    Steps resolver run (traceLine resolver budget origin line run)
      (processLine resolver budget origin line run).1 := by
  induction budget using Nat.strongRecOn generalizing origin line run with
  | ind budget ih =>
    rcases kind : Line.ofText (run.macros.expandLine line) with text | text | tokens
    · rw [processLine_extension kind, traceLine.eq_def, kind]
      exact .single (.hoist unbroken kind)
    · rw [processLine_plain kind, traceLine.eq_def, kind, Run.emit]
      dsimp only
      rcases encoded : (if run.stringMode then encodeStrings text else some text) with _ | out
      · exact .refl run
      · exact .single (.emit unbroken kind encoded)
    rcases read : Directive.ofTokens tokens with stop | directive
    · rw [processLine_malformed kind read, traceLine.eq_def, kind]
      dsimp only
      rw [read]
      exact .refl run
    by_cases hinclude : ∃ path argument, directive = .includeText path argument
    · obtain ⟨path, argument, rfl⟩ := hinclude
      have hlibrary : Steps resolver run [] (run.noteLibrary path) := .single (.library path)
      have hask : Steps resolver run [] ((run.noteLibrary path).ask resolver path.request).1 :=
        hlibrary.trans (.single (.ask _))
      rw [traceLine.eq_def, kind]
      dsimp only
      rw [read]
      rcases budget with _ | budget
      · rw [processLine_tooDeep kind read]
        exact hlibrary
      · rw [processLine_include kind read]
        dsimp only
        rcases hasked : (run.noteLibrary path).ask resolver path.request with ⟨asked, _ | text⟩
        · rw [hasked] at hask
          exact hask
        · rw [hasked] at hask
          refine hask.trans (steps_processLines (ih budget (Nat.lt_succ_self budget)) ?_ asked)
          intro l hl
          obtain ⟨inner, hinner, rfl⟩ := List.mem_map.mp hl
          exact Text.newline_not_mem_lines text inner hinner
    · have hother : ∀ path argument, directive ≠ .includeText path argument :=
        fun path argument h => hinclude ⟨path, argument, h⟩
      rw [processLine_directive kind read hother, traceLine_directive kind read hother]
      rcases hobey : run.obey origin directive with stop | run'
      · exact .refl run
      · exact .single (.obey unbroken kind read hobey)

theorem newline_not_mem_numberedLines (text : Text) : ∀ l ∈ numberedLines text, '\n' ∉ l.2 := by
  intro l hl
  obtain ⟨⟨line, index⟩, hline, rfl⟩ := List.mem_map.mp hl
  exact Text.newline_not_mem_lines text line (List.fst_mem_of_mem_zipIdx hline)

theorem fst_shader (text : Text) (run : Run σ) :
    (run.shader resolver text).1
      = (processLines (processLine resolver maxIncludeDepth) (numberedLines text) run).1 := by
  unfold Run.shader
  rcases processLines (processLine resolver maxIncludeDepth) (numberedLines text) run with
    ⟨after, _ | ⟨_ | _, _⟩⟩ <;> rfl

/-- Only a preprocessor that had run before ends so. -/
theorem ending_ne_used (text : Text) (run : Run σ) : (run.shader resolver text).2 ≠ .used := by
  unfold Run.shader
  rcases processLines (processLine resolver maxIncludeDepth) (numberedLines text) run with
    ⟨after, _ | ⟨_ | _, _⟩⟩
  all_goals
    intro h
    cases h

/-- Preprocessing a shader takes the steps of its trace. -/
theorem steps_shader (text : Text) (run : Run σ) :
    Steps resolver run (run.trace resolver text) (run.shader resolver text).1 := by
  rw [fst_shader]
  exact steps_processLines (steps_processLine maxIncludeDepth)
    (newline_not_mem_numberedLines text) run

end ShaderPlayer.Shader
