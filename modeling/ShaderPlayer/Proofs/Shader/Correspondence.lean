/-
Runs that correspond.

Two runs in a relation that is kept by all that is done at a line come to related ends, with the
same deeds and for the same reason, whatever they include:

* `Corresponds` — a relation that hoisting, emitting, asking and obeying keep;
* `processLines_corresponds`, `processLine_corresponds` — so do lines, at origins seen through a
  function;
* `traceLines_corresponds`, `traceLine_corresponds` — and their deeds are the same.
-/
import ShaderPlayer.Proofs.Shader.Included

namespace ShaderPlayer.Shader

variable {σ τ : Type}

/-- What stopped a run, its line seen through a function. -/
def Located.relocate (f : Int → Int) (located : Located) : Located :=
  { located with line := f located.line }

/-- Two runs ended as related ones, for the same reason. -/
inductive EndAlike (f : Int → Int) (related : Run σ → Run τ → Prop) :
    Halted σ → Halted τ → Prop
  | complete {a : Run σ} {b : Run τ} (runs : related a b) : EndAlike f related (a, none) (b, none)
  | stopped {a : Run σ} {b : Run τ} (runs : related a b) (stop : Located) :
      EndAlike f related (a, some stop) (b, some (stop.relocate f))

/-- Two directives were obeyed with related outcomes, or refused for the same reason. -/
inductive ObeyedAlike (related : Run σ → Run τ → Prop) :
    Except Stop (Run σ) → Except Stop (Run τ) → Prop
  | obeyed {a : Run σ} {b : Run τ} (runs : related a b) : ObeyedAlike related (.ok a) (.ok b)
  | refused (stop : Stop) : ObeyedAlike related (.error stop) (.error stop)

/-- Two look-ups ended in related runs, with the same lines. -/
inductive AnsweredAlike (related : Run σ → Run τ → Prop) :
    Run σ × Option Text → Run τ × Option Text → Prop
  | missing {a : Run σ} {b : Run τ} (runs : related a b) :
      AnsweredAlike related (a, none) (b, none)
  | found {a : Run σ} {b : Run τ} {text text' : Text} (runs : related a b)
      (lines : text'.lines = text.lines) : AnsweredAlike related (a, some text) (b, some text')

/-- A relation between runs that is kept by all that is done at a line, at an origin and at the
origin seen through a function. -/
structure Corresponds (resolver : Resolver σ) (other : Resolver τ) (f : Int → Int)
    (related : Run σ → Run τ → Prop) : Prop where
  macros {a : Run σ} {b : Run τ} : related a b → b.macros = a.macros
  hoist {a : Run σ} {b : Run τ} (text : Text) : related a b →
    related { a with source := a.source.pushExtension text }
      { b with source := b.source.pushExtension text }
  emit {a : Run σ} {b : Run τ} (origin : Int) (line : Text) : related a b →
    EndAlike f related (a.emit origin line) (b.emit (f origin) line)
  library {a : Run σ} {b : Run τ} (path : IncludePath) : related a b →
    related (a.noteLibrary path) (b.noteLibrary path)
  ask {a : Run σ} {b : Run τ} (path : Text) : related a b →
    AnsweredAlike related (a.ask resolver path) (b.ask other path)
  obey {a : Run σ} {b : Run τ} (origin : Int) (directive : Directive) : related a b →
    ObeyedAlike related (a.obey origin directive) (b.obey (f origin) directive)

/-- Lines at origins seen through a function. -/
def relocated (f : Int → Int) (lines : List (Int × Text)) : List (Int × Text) :=
  lines.map fun l => (f l.1, l.2)

/-- The lines of an include count as the line of its directive. -/
theorem relocated_included (f : Int → Int) (origin : Int) (lines : List Text) :
    relocated f (lines.map fun l => (origin, l)) = lines.map fun l => (f origin, l) := by
  rw [relocated, List.map_map]
  rfl

/-- Deeds at origins seen through a function. -/
def relocatedDeeds (f : Int → Int) (deeds : List (Int × Deed)) : List (Int × Deed) :=
  deeds.map fun d => (f d.1, d.2)

section Corresponding

variable {resolver : Resolver σ} {other : Resolver τ} {f : Int → Int}
  {related : Run σ → Run τ → Prop}

/-! ### Ends -/

theorem settle_alike {a : Run σ} {b : Run τ} (hab : related a b) (origin : Int)
    {result : Except Stop (Run σ)} {result' : Except Stop (Run τ)}
    (h : ObeyedAlike related result result') :
    EndAlike f related (settle a origin result) (settle b (f origin) result') := by
  cases h with
  | obeyed runs => exact .complete runs
  | refused stop => exact .stopped hab ⟨stop, origin⟩

theorem processLines_corresponds {step : Int → Text → Run σ → Halted σ}
    {step' : Int → Text → Run τ → Halted τ}
    (hstep : ∀ origin line {a b}, related a b →
      EndAlike f related (step origin line a) (step' (f origin) line b))
    (lines : List (Int × Text)) {a : Run σ} {b : Run τ} (hab : related a b) :
    EndAlike f related (processLines step lines a) (processLines step' (relocated f lines) b) := by
  induction lines generalizing a b with
  | nil => exact .complete hab
  | cons head rest ih =>
    obtain ⟨origin, line⟩ := head
    have hhead := hstep origin line hab
    rw [relocated, List.map_cons, ← relocated, processLines, processLines]
    generalize step origin line a = here, step' (f origin) line b = there at hhead
    cases hhead with
    | complete runs => exact ih runs
    | stopped runs stop => exact .stopped runs stop

/-- The induction is on how deep includes may still nest, as in `steps_processLine`. -/
theorem processLine_corresponds (h : Corresponds resolver other f related) (budget : Nat)
    (origin : Int) (line : Text) {a : Run σ} {b : Run τ} (hab : related a b) :
    EndAlike f related (processLine resolver budget origin line a)
      (processLine other budget (f origin) line b) := by
  induction budget using Nat.strongRecOn generalizing origin line a b with
  | ind budget ih =>
    have hmacros := h.macros hab
    rcases kind : Line.ofText (a.macros.expandLine line) with text | text | tokens
    · rw [processLine_extension kind, processLine_extension (hmacros ▸ kind)]
      exact .complete (h.hoist text hab)
    · rw [processLine_plain kind, processLine_plain (hmacros ▸ kind)]
      exact h.emit origin text hab
    rcases read : Directive.ofTokens tokens with stop | directive
    · rw [processLine_malformed kind read, processLine_malformed (hmacros ▸ kind) read]
      exact .stopped hab ⟨stop, origin⟩
    by_cases hinclude : ∃ path argument, directive = .includeText path argument
    · obtain ⟨path, argument, rfl⟩ := hinclude
      have hlibrary := h.library path hab
      rcases budget with _ | budget
      · rw [processLine_tooDeep kind read, processLine_tooDeep (hmacros ▸ kind) read]
        exact .stopped hlibrary ⟨.defect .depthLimit, origin⟩
      have hask := h.ask path.request hlibrary
      rw [processLine_include kind read, processLine_include (hmacros ▸ kind) read]
      generalize (a.noteLibrary path).ask resolver path.request = here,
        (b.noteLibrary path).ask other path.request = there at hask
      cases hask with
      | missing runs => exact .stopped runs ⟨.defect (.includeMissing argument), origin⟩
      | found runs lines =>
        dsimp only
        rw [lines, ← relocated_included]
        exact processLines_corresponds
          (fun origin line _ _ => ih budget (Nat.lt_succ_self budget) origin line) _ runs
    · have hother : ∀ path argument, directive ≠ .includeText path argument :=
        fun path argument heq => hinclude ⟨path, argument, heq⟩
      rw [processLine_directive kind read hother, processLine_directive (hmacros ▸ kind) read hother]
      exact settle_alike hab origin (h.obey origin directive hab)

/-! ### Deeds -/

theorem relocatedDeeds_append (f : Int → Int) (first rest : List (Int × Deed)) :
    relocatedDeeds f (first ++ rest) = relocatedDeeds f first ++ relocatedDeeds f rest :=
  List.map_append

theorem traceLines_corresponds {step : Int → Text → Run σ → Halted σ}
    {step' : Int → Text → Run τ → Halted τ} {trace : Int → Text → Run σ → List (Int × Deed)}
    {trace' : Int → Text → Run τ → List (Int × Deed)}
    (hstep : ∀ origin line {a b}, related a b →
      EndAlike f related (step origin line a) (step' (f origin) line b))
    (htrace : ∀ origin line {a b}, related a b →
      trace' (f origin) line b = relocatedDeeds f (trace origin line a))
    (lines : List (Int × Text)) {a : Run σ} {b : Run τ} (hab : related a b) :
    traceLines step' trace' (relocated f lines) b
      = relocatedDeeds f (traceLines step trace lines a) := by
  induction lines generalizing a b with
  | nil => rfl
  | cons head rest ih =>
    obtain ⟨origin, line⟩ := head
    have hhead := hstep origin line hab
    rw [relocated, List.map_cons, ← relocated, traceLines, traceLines, relocatedDeeds_append,
      htrace origin line hab]
    generalize step origin line a = here, step' (f origin) line b = there at hhead
    cases hhead with
    | complete runs =>
      dsimp only
      rw [ih runs]
    | stopped => rfl

/-- What is emitted depends on whether strings are encoded, so related runs must agree on that. -/
theorem traceLine_corresponds (h : Corresponds resolver other f related)
    (hmode : ∀ {a b}, related a b → b.stringMode = a.stringMode) (budget : Nat) (origin : Int)
    (line : Text) {a : Run σ} {b : Run τ} (hab : related a b) :
    traceLine other budget (f origin) line b
      = relocatedDeeds f (traceLine resolver budget origin line a) := by
  induction budget using Nat.strongRecOn generalizing origin line a b with
  | ind budget ih =>
    have hmacros := h.macros hab
    rcases kind : Line.ofText (a.macros.expandLine line) with text | text | tokens
    · rw [traceLine.eq_def, traceLine.eq_def resolver, hmacros, kind]
      rfl
    · rw [traceLine.eq_def, traceLine.eq_def resolver, hmacros, hmode hab, kind]
      dsimp only
      rcases (if a.stringMode then encodeStrings text else some text) with _ | out <;> rfl
    rcases read : Directive.ofTokens tokens with stop | directive
    · rw [traceLine.eq_def, traceLine.eq_def resolver, hmacros, kind]
      dsimp only
      rw [read]
      rfl
    by_cases hinclude : ∃ path argument, directive = .includeText path argument
    · obtain ⟨path, argument, rfl⟩ := hinclude
      have here : a.macros.included? line = some (path, argument) :=
        included_eq_some_iff.mpr ⟨tokens, kind, read⟩
      have there : b.macros.included? line = some (path, argument) := hmacros ▸ here
      rcases budget with _ | budget
      · rw [traceLine_zero_of_included here, traceLine_zero_of_included there]
        rfl
      have hask := h.ask path.request (h.library path hab)
      rw [traceLine_of_included here, traceLine_of_included there]
      generalize (a.noteLibrary path).ask resolver path.request = asked,
        (b.noteLibrary path).ask other path.request = asked' at hask
      cases hask with
      | missing => rfl
      | found runs lines =>
        dsimp only
        rw [lines, ← relocated_included]
        exact traceLines_corresponds
          (fun origin line _ _ => processLine_corresponds h budget origin line)
          (fun origin line _ _ => ih budget (Nat.lt_succ_self budget) origin line) _ runs
    · have hother : ∀ path argument, directive ≠ .includeText path argument :=
        fun path argument heq => hinclude ⟨path, argument, heq⟩
      have hobey := h.obey origin directive hab
      rw [traceLine_directive kind read hother, traceLine_directive (hmacros ▸ kind) read hother]
      generalize a.obey origin directive = here, b.obey (f origin) directive = there at hobey
      cases hobey with
      | obeyed => rfl
      | refused => rfl

end Corresponding

end ShaderPlayer.Shader
