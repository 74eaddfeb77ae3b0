/-
Runs with resolvers that answer alike.

A run reads of a resolver's answers only the lines of their texts.  So two resolvers lead to the
same run as long as their answers have the same lines, whatever their states are.

* `Agreeing` — resolvers whose answers agree, from states in a relation that their look-ups keep;
* `mem_asked_processLine` — what was asked stays among what was asked;
* `processLine_agreeing` — a line does the same with both;
* `shader_agreeing` — and so does a shader, if the answers agree on the paths that it asks for.
-/
import ShaderPlayer.Proofs.Shader.Trace

namespace ShaderPlayer.Shader

variable {σ τ : Type}

/-! ### Answers -/

/-- The lines of an answer's text. -/
def Fetched.lines? : Fetched → Option (List Text)
  | .text t => some t.lines
  | _ => none

/-- Two resolvers agree on some paths: from states in a relation they give answers with the same
lines and come to states in the relation. -/
structure Agreeing (resolver : Resolver σ) (other : Resolver τ) (related : σ → τ → Prop)
    (paths : Text → Prop) : Prop where
  lines : ∀ {path world world'}, paths path → related world world' →
    (resolver.fetch path world).1.lines? = (other.fetch path world').1.lines?
  worlds : ∀ {path world world'}, paths path → related world world' →
    related (resolver.fetch path world).2.2 (other.fetch path world').2.2

/-! ### The same run in another world -/

/-- The run with other notes, in another world. -/
def Run.within (notes : Array Note) (world : τ) (run : Run σ) : Run τ where
  source := run.source
  macros := run.macros
  storageCount := run.storageCount
  assertCount := run.assertCount
  stringMode := run.stringMode
  asked := run.asked
  notes := notes
  world := world

/-- The end of a run, in the same way. -/
def Halted.within (notes : Array Note) (world : τ) (halted : Halted σ) : Halted τ :=
  (halted.1.within notes world, halted.2)

section Within

variable (notes : Array Note) (world : τ) (run : Run σ)

theorem noteLibrary_within (path : IncludePath) :
    (run.within notes world).noteLibrary path = (run.noteLibrary path).within notes world := by
  unfold Run.noteLibrary
  split <;> rfl

theorem emit_within (origin : Int) (line : Text) :
    (run.within notes world).emit origin line = (run.emit origin line).within notes world := by
  unfold Run.emit
  rw [show (run.within notes world).stringMode = run.stringMode from rfl]
  rcases (if run.stringMode then encodeStrings line else some line) with _ | out <;> rfl

theorem obey_within (origin : Int) (directive : Directive) :
    (run.within notes world).obey origin directive
      = (run.obey origin directive).map (·.within notes world) := by
  cases directive with
  | define name value =>
    simp only [Run.obey, show (run.within notes world).macros = run.macros from rfl]
    rcases run.macros.define? name value with _ | macros <;> rfl
  | storage name type =>
    simp only [Run.obey]
    show (if run.storageCount < maxStorageBuffers then _ else _) = _
    split <;> rfl
  | assertion predicate =>
    simp only [Run.obey]
    show (if run.assertCount < maxAssertions then _ else _) = _
    split <;> rfl
  | _ => rfl

theorem settle_within (origin : Int) (result : Except Stop (Run σ)) :
    settle (run.within notes world) origin (result.map (·.within notes world))
      = (settle run origin result).within notes world := by
  cases result <;> rfl

end Within

/-! ### What was asked -/

section Asked

variable {resolver : Resolver σ}

theorem mem_asked_step {a b : Run σ} {deeds : List (Int × Deed)} {path : Text}
    (h : Step resolver a deeds b) (hpath : path ∈ a.asked) : path ∈ b.asked := by
  cases h with
  | hoist => exact hpath
  | emit => exact hpath
  | library =>
    unfold Run.noteLibrary
    split <;> exact hpath
  | ask other =>
    unfold Run.ask
    rcases resolver.fetch other a.world with ⟨_ | _ | _, notes, world⟩
    all_goals exact Array.mem_push_of_mem _ hpath
  | obey _ _ _ obeyed =>
    rw [frame_obey obeyed]
    exact hpath

theorem mem_asked_processLines {budget : Nat} {lines : List (Int × Text)}
    (hlines : ∀ l ∈ lines, '\n' ∉ l.2) {run : Run σ} {path : Text} (hpath : path ∈ run.asked) :
    path ∈ (processLines (processLine resolver budget) lines run).1.asked :=
  (steps_processLines (steps_processLine budget) hlines run).keeps mem_asked_step hpath

theorem mem_asked_ask (run : Run σ) (path : Text) : path ∈ (run.ask resolver path).1.asked := by
  unfold Run.ask
  rcases resolver.fetch path run.world with ⟨_ | _ | _, notes, world⟩
  all_goals exact Array.mem_push_self

end Asked

/-! ### Agreeing runs -/

section Asking

variable (resolver : Resolver σ) (run : Run σ) (path : Text)

theorem world_ask : (run.ask resolver path).1.world = (resolver.fetch path run.world).2.2 := by
  unfold Run.ask
  rcases resolver.fetch path run.world with ⟨_ | _ | _, notes, world⟩ <;> rfl

theorem lines_ask :
    (run.ask resolver path).2.map Text.lines = (resolver.fetch path run.world).1.lines? := by
  unfold Run.ask
  rcases resolver.fetch path run.world with ⟨_ | _ | _, notes, world⟩ <;> rfl

/-- Asking changes what was asked, the notes and the world. -/
theorem ask_within (other : Resolver τ) (notes : Array Note) (world : τ) :
    ((run.within notes world).ask other path).1
      = (run.ask resolver path).1.within ((run.within notes world).ask other path).1.notes
          ((run.within notes world).ask other path).1.world := by
  unfold Run.ask
  rcases resolver.fetch path run.world with ⟨_ | _ | _, _, _⟩
  all_goals
    rcases other.fetch path (run.within notes world).world with ⟨_ | _ | _, _, _⟩ <;> rfl

end Asking

/-- A run ends as another one does, with its own notes and in its own world. -/
def Follows (related : σ → τ → Prop) (halted : Halted σ) (halted' : Halted τ) : Prop :=
  ∃ notes world, halted' = halted.within notes world ∧ related halted.1.world world

section Agreeing

variable {resolver : Resolver σ} {other : Resolver τ} {related : σ → τ → Prop} {paths : Text → Prop}

/-- Agreeing resolvers are asked alike. -/
theorem ask_agreeing (h : Agreeing resolver other related paths) {path : Text} (hpath : paths path)
    {run : Run σ} (notes : Array Note) {world : τ} (hworld : related run.world world) :
    ∃ notes' world' answer, (run.within notes world).ask other path
        = ((run.ask resolver path).1.within notes' world', answer)
      ∧ (run.ask resolver path).2.map Text.lines = answer.map Text.lines
      ∧ related (run.ask resolver path).1.world world' := by
  have hrun := ask_within resolver run path other notes world
  refine ⟨_, _, _, Prod.ext hrun rfl, ?_, ?_⟩
  · rw [lines_ask, lines_ask]
    exact h.lines hpath hworld
  · rw [world_ask, world_ask]
    exact h.worlds hpath hworld

theorem processLines_agreeing {budget : Nat}
    (hstep : ∀ origin line (run : Run σ) notes world, '\n' ∉ line → related run.world world →
      (∀ path ∈ (processLine resolver budget origin line run).1.asked, paths path) →
      Follows related (processLine resolver budget origin line run)
        (processLine other budget origin line (run.within notes world)))
    {lines : List (Int × Text)} (hlines : ∀ l ∈ lines, '\n' ∉ l.2) {run : Run σ}
    (notes : Array Note) {world : τ} (hworld : related run.world world)
    (hasked : ∀ path ∈ (processLines (processLine resolver budget) lines run).1.asked, paths path) :
    Follows related (processLines (processLine resolver budget) lines run)
      (processLines (processLine other budget) lines (run.within notes world)) := by
  induction lines generalizing run notes world with
  | nil => exact ⟨notes, world, rfl, hworld⟩
  | cons head rest ih =>
    obtain ⟨origin, line⟩ := head
    rw [List.forall_mem_cons] at hlines
    rw [processLines] at hasked ⊢
    rw [processLines]
    rcases hend : processLine resolver budget origin line run with ⟨next, _ | stop⟩
    · rw [hend] at hasked
      dsimp only at hasked
      have hnext : ∀ path ∈ next.asked, paths path := fun path hpath =>
        hasked path (mem_asked_processLines hlines.2 hpath)
      obtain ⟨notes', world', hother, hrelated⟩ :=
        hstep origin line run notes world hlines.1 hworld (by rw [hend]; exact hnext)
      rw [hend] at hother hrelated
      rw [hother]
      exact ih hlines.2 notes' hrelated hasked
    · rw [hend] at hasked
      obtain ⟨notes', world', hother, hrelated⟩ :=
        hstep origin line run notes world hlines.1 hworld (by rw [hend]; exact hasked)
      rw [hend] at hother hrelated
      rw [hother]
      exact ⟨notes', world', rfl, hrelated⟩

theorem world_emit (run : Run σ) (origin : Int) (line : Text) :
    (run.emit origin line).1.world = run.world := by
  unfold Run.emit
  split <;> rfl

theorem world_noteLibrary (run : Run σ) (path : IncludePath) :
    (run.noteLibrary path).world = run.world := by
  unfold Run.noteLibrary
  split <;> rfl

theorem world_settle_obey (run : Run σ) (origin : Int) (directive : Directive) :
    (settle run origin (run.obey origin directive)).1.world = run.world := by
  rcases h : run.obey origin directive with stop | after
  · rfl
  · show after.world = run.world
    rw [frame_obey h]

/-- The induction is on how deep includes may still nest, as in `steps_processLine`. -/
theorem processLine_agreeing (h : Agreeing resolver other related paths) (budget : Nat)
    (origin : Int) (line : Text) (run : Run σ) (notes : Array Note) (world : τ)
    (hline : '\n' ∉ line) (hworld : related run.world world)
    (hasked : ∀ path ∈ (processLine resolver budget origin line run).1.asked, paths path) :
    Follows related (processLine resolver budget origin line run)
      (processLine other budget origin line (run.within notes world)) := by
  induction budget using Nat.strongRecOn generalizing origin line run notes world with
  | ind budget ih =>
    have hmacros : (run.within notes world).macros = run.macros := rfl
    rcases kind : Line.ofText (run.macros.expandLine line) with text | text | tokens
    · rw [processLine_extension kind, processLine_extension (hmacros ▸ kind)]
      exact ⟨notes, world, rfl, hworld⟩
    · rw [processLine_plain kind, processLine_plain (hmacros ▸ kind), emit_within]
      exact ⟨notes, world, rfl, (world_emit run origin text).symm ▸ hworld⟩
    rcases read : Directive.ofTokens tokens with stop | directive
    · rw [processLine_malformed kind read, processLine_malformed (hmacros ▸ kind) read]
      exact ⟨notes, world, rfl, hworld⟩
    by_cases hinclude : ∃ path argument, directive = .includeText path argument
    · obtain ⟨path, argument, rfl⟩ := hinclude
      have hlibrary : related (run.noteLibrary path).world world :=
        (world_noteLibrary run path).symm ▸ hworld
      rcases budget with _ | budget
      · rw [processLine_tooDeep kind read, processLine_tooDeep (hmacros ▸ kind) read,
          noteLibrary_within]
        exact ⟨notes, world, rfl, hlibrary⟩
      rw [processLine_include kind read] at hasked ⊢
      rw [processLine_include (hmacros ▸ kind) read, noteLibrary_within]
      have hmem : path.request ∈ ((run.noteLibrary path).ask resolver path.request).1.asked :=
        mem_asked_ask _ _
      have hagree := fun hpath : paths path.request => ask_agreeing h hpath notes hlibrary
      rcases hask : (run.noteLibrary path).ask resolver path.request with ⟨asked, _ | text⟩
      all_goals rw [hask] at hasked hmem hagree
      · obtain ⟨notes', world', answer, hother, hlines, hrelated⟩ := hagree (hasked _ hmem)
        obtain rfl : answer = none := Option.map_eq_none_iff.mp hlines.symm
        rw [hother]
        exact ⟨notes', world', rfl, hrelated⟩
      · have hunbroken : ∀ l ∈ text.lines.map fun l => (origin, l), '\n' ∉ l.2 := by
          intro l hl
          obtain ⟨inner, hinner, rfl⟩ := List.mem_map.mp hl
          exact Text.newline_not_mem_lines text inner hinner
        obtain ⟨notes', world', answer, hother, hlines, hrelated⟩ :=
          hagree (hasked _ (mem_asked_processLines hunbroken hmem))
        obtain ⟨text', rfl, hsame⟩ := Option.map_eq_some_iff.mp hlines.symm
        rw [hother]
        dsimp only
        rw [hsame]
        exact processLines_agreeing (ih budget (Nat.lt_succ_self budget)) hunbroken notes' hrelated
          hasked
    · have hother : ∀ path argument, directive ≠ .includeText path argument :=
        fun path argument h => hinclude ⟨path, argument, h⟩
      rw [processLine_directive kind read hother,
        processLine_directive (hmacros ▸ kind) read hother, obey_within, settle_within]
      exact ⟨notes, world, rfl, (world_settle_obey run origin directive).symm ▸ hworld⟩

/-- A shader is preprocessed to the same source with resolvers that agree on what it asks for. -/
theorem shader_agreeing (h : Agreeing resolver other related paths) (text : Text) {run : Run σ}
    (notes : Array Note) {world : τ} (hworld : related run.world world)
    (hasked : ∀ path ∈ (run.shader resolver text).1.asked, paths path) :
    ∃ notes' world', (run.within notes world).shader other text
      = ((run.shader resolver text).1.within notes' world', (run.shader resolver text).2) := by
  rw [fst_shader] at hasked
  obtain ⟨notes', world', hother, _⟩ := processLines_agreeing
    (processLine_agreeing h maxIncludeDepth) (newline_not_mem_numberedLines text) notes hworld hasked
  refine ⟨notes', world', ?_⟩
  unfold Run.shader
  rw [hother]
  rcases processLines (processLine resolver maxIncludeDepth) (numberedLines text) run with
    ⟨after, _ | ⟨_ | _, _⟩⟩ <;> rfl

end Agreeing

end ShaderPlayer.Shader
