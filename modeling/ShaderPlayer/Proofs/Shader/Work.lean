/-
Preprocessing, one line after the other.

`processLine` goes through the lines of an include within its directive.  Here the same
work is done in single steps by a machine that keeps what is left of the texts around the
line, and counts how many includes it is inside of.  So there is something to say of every
moment of a run, not only of its end:

* `reaches_line` — the machine does what `processLine` does and is then back in the same
  text and at the same depth, whether it was stopped or not;
* `Work.Reaches.keeps` — what holds at the start and is kept by a step holds throughout;
* `Work.Reaches.placed` — every line counts as the line of the shader that it comes from;
* `Work.Reaches.balanced` — at every moment the machine is as deep as there are texts
  around it, and these are `maxIncludeDepth` at most;
* `ends_start` — it comes to an end, whatever the resolver answers, and then it has done
  what preprocessing the shader does.
-/
import Mathlib.Logic.Relation
import ShaderPlayer.Proofs.Shader.Included
import ShaderPlayer.Proofs.Shader.Inlining

namespace ShaderPlayer.Shader

variable {σ : Type}

/-- The work on a shader between two lines. -/
structure Work (σ : Type) where
  /-- How many includes the next line is inside of. -/
  depth : Nat := 0
  /-- What is left of the innermost text. -/
  lines : List (Int × Text)
  /-- What is left of the texts around it, from the inside out. -/
  outer : List (List (Int × Text)) := []
  run : Run σ
  /-- What was done so far. -/
  deeds : List (Int × Deed) := []
  stop : Option Located := none

namespace Work

/-- The work before the first line. -/
def start (defines : Entries Text) (world : σ) (shader : Text) : Work σ :=
  { lines := numberedLines shader, run := .start defines world }

/-- The work behind a line, where `rest` is left of its text. -/
def behindLine (resolver : Resolver σ) (w : Work σ) (origin : Int) (line : Text)
    (rest : List (Int × Text)) : Work σ :=
  match w.run.macros.included? line with
  | some (path, argument) =>
    let run := w.run.noteLibrary path
    if maxIncludeDepth ≤ w.depth then
      { w with lines := rest, run, stop := some ⟨.defect .depthLimit, origin⟩ }
    else
      match run.ask resolver path.request with
      | (run, none) =>
        { w with lines := rest, run, stop := some ⟨.defect (.includeMissing argument), origin⟩ }
      | (run, some text) =>
        { w with
          depth := w.depth + 1, lines := text.lines.map fun l => (origin, l)
          outer := rest :: w.outer, run }
  | none =>
    let (run, stop) := processLine resolver 0 origin line w.run
    { w with lines := rest, run, deeds := w.deeds ++ traceLine resolver 0 origin line w.run, stop }

/-- The work after a text was left for the one around it. -/
def leave (w : Work σ) : Option (Work σ) :=
  match w.outer with
  | [] => none
  | lines :: outer => some { w with depth := w.depth - 1, lines, outer }

/-- The next step, unless the work is at its end.  A text is left behind its last line, and
as soon as the work was stopped. -/
def step (resolver : Resolver σ) (w : Work σ) : Option (Work σ) :=
  match w.stop, w.lines with
  | none, (origin, line) :: rest => some (w.behindLine resolver origin line rest)
  | _, _ => w.leave

/-- The work gets from one moment to another. -/
def Reaches (resolver : Resolver σ) : Work σ → Work σ → Prop :=
  Relation.ReflTransGen fun a b => a.step resolver = some b

variable {resolver : Resolver σ}

theorem Reaches.head {a b c : Work σ} (step : a.step resolver = some b)
    (rest : Reaches resolver b c) : Reaches resolver a c :=
  Relation.ReflTransGen.head step rest

/-- What every step keeps is kept throughout. -/
theorem Reaches.keeps {holds : Work σ → Prop}
    (hstep : ∀ {a b : Work σ}, a.step resolver = some b → holds a → holds b) {a b : Work σ}
    (h : Reaches resolver a b) (ha : holds a) : holds b := by
  induction h with
  | refl => exact ha
  | tail _ step ih => exact hstep step ih

/-! ### What a step does -/

/-- What the work is behind a line: the line was settled by itself, or it was an include that
is refused, or the text of the include comes next. -/
inductive BehindLine (resolver : Resolver σ) (w : Work σ) (origin : Int) (line : Text)
    (rest : List (Int × Text)) : Work σ → Prop
  | settled (plain : w.run.macros.included? line = none) :
      BehindLine resolver w origin line rest { w with
        lines := rest, run := (processLine resolver 0 origin line w.run).1
        deeds := w.deeds ++ traceLine resolver 0 origin line w.run
        stop := (processLine resolver 0 origin line w.run).2 }
  | tooDeep {path : IncludePath} {argument : Text}
      (included : w.run.macros.included? line = some (path, argument))
      (deep : maxIncludeDepth ≤ w.depth) :
      BehindLine resolver w origin line rest { w with
        lines := rest, run := w.run.noteLibrary path, stop := some ⟨.defect .depthLimit, origin⟩ }
  | missing {path : IncludePath} {argument : Text} {asked : Run σ}
      (included : w.run.macros.included? line = some (path, argument))
      (flat : w.depth < maxIncludeDepth)
      (answer : (w.run.noteLibrary path).ask resolver path.request = (asked, none)) :
      BehindLine resolver w origin line rest { w with
        lines := rest, run := asked, stop := some ⟨.defect (.includeMissing argument), origin⟩ }
  | entered {path : IncludePath} {argument text : Text} {asked : Run σ}
      (included : w.run.macros.included? line = some (path, argument))
      (flat : w.depth < maxIncludeDepth)
      (answer : (w.run.noteLibrary path).ask resolver path.request = (asked, some text)) :
      BehindLine resolver w origin line rest { w with
        depth := w.depth + 1, lines := text.lines.map fun l => (origin, l)
        outer := rest :: w.outer, run := asked }

theorem behindLine_spec (w : Work σ) (origin : Int) (line : Text) (rest : List (Int × Text)) :
    BehindLine resolver w origin line rest (w.behindLine resolver origin line rest) := by
  unfold behindLine
  rcases hincluded : w.run.macros.included? line with _ | ⟨path, argument⟩
  · exact .settled hincluded
  dsimp only
  by_cases hdeep : maxIncludeDepth ≤ w.depth
  · rw [if_pos hdeep]
    exact .tooDeep hincluded hdeep
  · rw [if_neg hdeep]
    rcases hask : (w.run.noteLibrary path).ask resolver path.request with ⟨asked, _ | text⟩
    · exact .missing hincluded (Nat.not_le.mp hdeep) hask
    · exact .entered hincluded (Nat.not_le.mp hdeep) hask

/-- A step works off a line or leaves a text. -/
theorem step_cases {a b : Work σ} (h : a.step resolver = some b) :
    (∃ origin line rest, a.lines = (origin, line) :: rest
        ∧ BehindLine resolver a origin line rest b)
      ∨ ∃ lines outer, a.outer = lines :: outer
        ∧ b = { a with depth := a.depth - 1, lines, outer } := by
  unfold step at h
  split at h
  · next origin line rest _ hlines =>
    cases h
    exact .inl ⟨origin, line, rest, hlines, behindLine_spec a origin line rest⟩
  · unfold leave at h
    split at h
    · cases h
    · next lines outer houter =>
      cases h
      exact .inr ⟨lines, outer, houter, rfl⟩

/-- The step at a line. -/
theorem step_of_lines {w : Work σ} {origin : Int} {line : Text} {rest : List (Int × Text)}
    (hstop : w.stop = none) (hlines : w.lines = (origin, line) :: rest) :
    w.step resolver = some (w.behindLine resolver origin line rest) := by
  unfold step
  rw [hstop, hlines]

/-- At the end of its lines, or once the work was stopped, a text is left. -/
theorem step_eq_leave {w : Work σ} (h : w.stop = none → w.lines = []) :
    w.step resolver = w.leave := by
  unfold step
  rcases hstop : w.stop with _ | stop
  · rw [h hstop]
  · rfl

/-! ### What the machine does at a line -/

theorem reaches_leave {depth : Nat} {lines rest : List (Int × Text)}
    {outer : List (List (Int × Text))} {run : Run σ} {deeds : List (Int × Deed)}
    {stop : Option Located} (h : stop = none → lines = []) :
    Reaches resolver ⟨depth + 1, lines, rest :: outer, run, deeds, stop⟩
      ⟨depth, rest, outer, run, deeds, stop⟩ := by
  refine .single ?_
  rw [step_eq_leave h]
  rfl

/-- Lines are worked off one after the other, if each of them is. -/
theorem reaches_lines {depth : Nat} {process : Int → Text → Run σ → Halted σ}
    {trace : Int → Text → Run σ → List (Int × Deed)}
    (hline : ∀ origin line rest outer run deeds,
      Reaches resolver ⟨depth, (origin, line) :: rest, outer, run, deeds, none⟩
        ⟨depth, rest, outer, (process origin line run).1, deeds ++ trace origin line run,
          (process origin line run).2⟩)
    (lines : List (Int × Text)) (outer : List (List (Int × Text))) (run : Run σ)
    (deeds : List (Int × Deed)) :
    ∃ left, ((processLines process lines run).2 = none → left = [])
      ∧ Reaches resolver ⟨depth, lines, outer, run, deeds, none⟩
          ⟨depth, left, outer, (processLines process lines run).1,
            deeds ++ traceLines process trace lines run, (processLines process lines run).2⟩ := by
  induction lines generalizing run deeds with
  | nil =>
    refine ⟨[], fun _ => rfl, ?_⟩
    rw [traceLines, List.append_nil]
    exact .refl
  | cons head rest ih =>
    obtain ⟨origin, line⟩ := head
    have hhead := hline origin line rest outer run deeds
    rw [processLines, traceLines]
    rcases hprocess : process origin line run with ⟨next, _ | stop⟩
    · rw [hprocess] at hhead
      obtain ⟨left, hleft, hrest⟩ := ih next (deeds ++ trace origin line run)
      rw [List.append_assoc] at hrest
      exact ⟨left, hleft, hhead.trans hrest⟩
    · rw [hprocess] at hhead
      rw [List.append_nil]
      exact ⟨rest, fun h => (by cases h), hhead⟩

/-- The machine does at a line what `processLine` does, and is then behind it, in the same
text and as deep as before.  The induction is on how deep includes may still nest. -/
theorem reaches_line {budget depth : Nat} (hdepth : depth + budget = maxIncludeDepth)
    (origin : Int) (line : Text) (rest : List (Int × Text)) (outer : List (List (Int × Text)))
    (run : Run σ) (deeds : List (Int × Deed)) :
    Reaches resolver ⟨depth, (origin, line) :: rest, outer, run, deeds, none⟩
      ⟨depth, rest, outer, (processLine resolver budget origin line run).1,
        deeds ++ traceLine resolver budget origin line run,
        (processLine resolver budget origin line run).2⟩ := by
  induction budget using Nat.strongRecOn generalizing depth origin line rest outer run deeds with
  | ind budget ih =>
    have hspec : BehindLine resolver ⟨depth, (origin, line) :: rest, outer, run, deeds, none⟩
      origin line rest _ := behindLine_spec _ origin line rest
    have hstep : step resolver ⟨depth, (origin, line) :: rest, outer, run, deeds, none⟩ = some _ :=
      step_of_lines rfl rfl
    generalize behindLine resolver ⟨depth, (origin, line) :: rest, outer, run, deeds, none⟩
      origin line rest = next at hspec hstep
    cases hspec with
    | settled plain =>
      -- the line is settled by itself, however deep includes may nest
      have hzero : processLine resolver budget origin line run = processLine resolver 0 origin line run
          ∧ traceLine resolver budget origin line run = traceLine resolver 0 origin line run := by
        cases settled_of_included resolver plain origin with
        | refused _ processed traced =>
          exact ⟨(processed _).trans (processed _).symm, (traced _).trans (traced _).symm⟩
        | done _ _ processed traced =>
          exact ⟨(processed _).trans (processed _).symm, (traced _).trans (traced _).symm⟩
      rw [hzero.1, hzero.2]
      exact .single hstep
    | tooDeep included deep =>
      obtain rfl : budget = 0 := by
        have hle : maxIncludeDepth ≤ depth := deep
        omega
      rw [processLine_zero_of_included included, traceLine_zero_of_included included,
        List.append_nil]
      exact .single hstep
    | missing included flat answer =>
      obtain ⟨inner, rfl⟩ : ∃ inner, budget = inner + 1 :=
        Nat.exists_eq_add_one.mpr (by have hlt : depth < maxIncludeDepth := flat; omega)
      dsimp only at included answer
      rw [processLine_of_included included, traceLine_of_included included, answer,
        List.append_nil]
      exact .single hstep
    | @entered _ _ text asked included flat answer =>
      obtain ⟨inner, rfl⟩ : ∃ inner, budget = inner + 1 :=
        Nat.exists_eq_add_one.mpr (by have hlt : depth < maxIncludeDepth := flat; omega)
      dsimp only at included answer
      have hnext : depth + 1 + inner = maxIncludeDepth := by omega
      obtain ⟨left, hleft, hlines⟩ := reaches_lines (ih inner (Nat.lt_succ_self inner) hnext)
        (text.lines.map fun l => (origin, l)) (rest :: outer) asked deeds
      rw [processLine_of_included included, traceLine_of_included included, answer]
      exact (Reaches.head hstep hlines).trans (reaches_leave hleft)

/-! ### Every moment of a run -/

/-- The work is as deep as there are texts around it, and these are no more than may be. -/
structure Balanced (w : Work σ) : Prop where
  depth : w.depth = w.outer.length
  bounded : w.depth ≤ maxIncludeDepth

theorem Balanced.step {a b : Work σ} (h : a.step resolver = some b) (ha : a.Balanced) :
    b.Balanced := by
  have hdepth := ha.depth
  have hbounded := ha.bounded
  rcases step_cases h with ⟨origin, line, rest, _, hline⟩ | ⟨lines, outer, houter, rfl⟩
  · cases hline with
    | entered _ flat => exact ⟨congrArg (· + 1) hdepth, flat⟩
    | _ => exact ⟨hdepth, hbounded⟩
  · rw [houter, List.length_cons] at hdepth
    exact ⟨by dsimp only; omega, by dsimp only; omega⟩

/-- Behind a line the work is in the same text, as deep as before, and has done what
`processLine` does. -/
theorem Balanced.reaches {w : Work σ} (hw : w.Balanced) (hstop : w.stop = none) {origin : Int}
    {line : Text} {rest : List (Int × Text)} (hlines : w.lines = (origin, line) :: rest) :
    Reaches resolver w { w with
      lines := rest
      run := (processLine resolver (maxIncludeDepth - w.depth) origin line w.run).1
      deeds := w.deeds ++ traceLine resolver (maxIncludeDepth - w.depth) origin line w.run
      stop := (processLine resolver (maxIncludeDepth - w.depth) origin line w.run).2 } := by
  have hbounded := hw.bounded
  obtain ⟨depth, lines, outer, run, deeds, stop⟩ := w
  dsimp only at hstop hlines hbounded
  subst hstop hlines
  exact reaches_line (Nat.add_sub_cancel' hbounded) origin line rest outer run deeds

/-- No line that is left is broken. -/
structure Whole (w : Work σ) : Prop where
  lines : ∀ l ∈ w.lines, '\n' ∉ l.2
  outer : ∀ lines ∈ w.outer, ∀ l ∈ lines, '\n' ∉ l.2

/-- Asking for an include is no deed. -/
theorem steps_ask (resolver : Resolver σ) (run : Run σ) (path : IncludePath) :
    Steps resolver run [] ((run.noteLibrary path).ask resolver path.request).1 :=
  Steps.trans (.single (.library path)) (.single (.ask path.request))

theorem Whole.step {a b : Work σ} (h : a.step resolver = some b) (ha : a.Whole) : b.Whole := by
  rcases step_cases h with ⟨origin, line, rest, hlines, hline⟩ | ⟨lines, outer, houter, rfl⟩
  · have hbroken := ha.lines
    rw [hlines, List.forall_mem_cons] at hbroken
    cases hline with
    | @entered _ _ text =>
      refine ⟨fun l hl => ?_, List.forall_mem_cons.mpr ⟨hbroken.2, ha.outer⟩⟩
      obtain ⟨inner, hinner, rfl⟩ := List.mem_map.mp hl
      exact Text.newline_not_mem_lines text inner hinner
    | _ => exact ⟨hbroken.2, ha.outer⟩
  · have hbroken := ha.outer
    rw [houter, List.forall_mem_cons] at hbroken
    exact ⟨hbroken.1, hbroken.2⟩

/-- The deeds of a step make the run what it is then. -/
theorem Whole.steps {a b : Work σ} (h : a.step resolver = some b) (ha : a.Whole) :
    ∃ deeds, b.deeds = a.deeds ++ deeds ∧ Steps resolver a.run deeds b.run := by
  rcases step_cases h with ⟨origin, line, rest, hlines, hline⟩ | ⟨lines, outer, houter, rfl⟩
  · have hbroken := ha.lines
    rw [hlines, List.forall_mem_cons] at hbroken
    cases hline with
    | settled => exact ⟨_, rfl, steps_processLine 0 origin line a.run hbroken.1⟩
    | @tooDeep path => exact ⟨[], (List.append_nil _).symm, .single (.library path)⟩
    | @missing path _ _ _ _ answer =>
      have hasked := steps_ask resolver a.run path
      rw [answer] at hasked
      exact ⟨[], (List.append_nil _).symm, hasked⟩
    | @entered path _ _ _ _ _ answer =>
      have hasked := steps_ask resolver a.run path
      rw [answer] at hasked
      exact ⟨[], (List.append_nil _).symm, hasked⟩
  · exact ⟨[], (List.append_nil _).symm, .refl _⟩

/-- What is done from one moment to another. -/
theorem Reaches.steps {a b : Work σ} (h : Reaches resolver a b) (ha : a.Whole) :
    ∃ deeds, b.deeds = a.deeds ++ deeds ∧ Steps resolver a.run deeds b.run := by
  have hall : b.Whole ∧ ∃ deeds, b.deeds = a.deeds ++ deeds ∧ Steps resolver a.run deeds b.run := by
    induction h with
    | refl => exact ⟨ha, [], (List.append_nil _).symm, .refl _⟩
    | tail _ hstep ih =>
      obtain ⟨hc, deeds, hdeeds, hsteps⟩ := ih
      obtain ⟨more, hmore, hrest⟩ := hc.steps hstep
      exact ⟨hc.step hstep, deeds ++ more, by rw [hmore, hdeeds, List.append_assoc],
        hsteps.trans hrest⟩
  exact hall.2

/-- What is left of the shader is behind some of its lines, and the lines of an include count as
the last of those. -/
def Placed (shader : Text) (w : Work σ) : Prop :=
  ∃ before inner own, w.lines :: w.outer = inner ++ [own] ∧ numberedLines shader = before ++ own
    ∧ ∀ lines ∈ inner, ∀ l ∈ lines, before.getLast?.map (·.1) = some l.1

theorem Placed.step {shader : Text} {a b : Work σ} (h : a.step resolver = some b)
    (ha : a.Placed shader) : b.Placed shader := by
  obtain ⟨before, inner, own, hall, hshader, hinner⟩ := ha
  rcases step_cases h with ⟨origin, line, rest, hlines, hline⟩ | ⟨lines, outer, houter, rfl⟩
  · rw [hlines] at hall
    rcases inner with _ | ⟨_, inner⟩
    · -- the line is one of the shader's own
      obtain ⟨rfl, hnone⟩ := List.cons.inj hall
      rw [List.append_cons] at hshader
      have hlast : (before ++ [(origin, line)]).getLast?.map (·.1) = some origin := by
        rw [List.getLast?_concat, Option.map_some]
      cases hline with
      | @entered _ _ text =>
        refine ⟨_, [text.lines.map fun l => (origin, l)], rest, by rw [hnone]; rfl, hshader, ?_⟩
        rintro _ hmem l hl
        rw [List.mem_singleton.mp hmem] at hl
        obtain ⟨_, _, rfl⟩ := List.mem_map.mp hl
        exact hlast
      | _ => exact ⟨_, [], rest, by rw [hnone]; rfl, hshader, fun _ hmem => absurd hmem List.not_mem_nil⟩
    · obtain ⟨rfl, houter⟩ := List.cons.inj hall
      rw [List.forall_mem_cons, List.forall_mem_cons] at hinner
      cases hline with
      | @entered _ _ text =>
        refine ⟨before, (text.lines.map fun l => (origin, l)) :: rest :: inner, own, by rw [houter]; rfl,
          hshader, List.forall_mem_cons.mpr ⟨fun l hl => ?_,
            List.forall_mem_cons.mpr ⟨hinner.1.2, hinner.2⟩⟩⟩
        obtain ⟨_, _, rfl⟩ := List.mem_map.mp hl
        exact hinner.1.1
      | _ => exact ⟨before, rest :: inner, own, by rw [houter]; rfl, hshader,
          List.forall_mem_cons.mpr ⟨hinner.1.2, hinner.2⟩⟩
  · rw [houter] at hall
    rcases inner with _ | ⟨_, inner⟩
    · cases hall
    · rw [List.forall_mem_cons] at hinner
      exact ⟨before, inner, own, (List.cons.inj hall).2, hshader, hinner.2⟩

/-- Once the work was stopped nothing more is done. -/
theorem Reaches.of_stopped {a b : Work σ} {stop : Located} (h : Reaches resolver a b)
    (ha : a.stop = some stop) : b.stop = some stop ∧ b.run = a.run := by
  induction h with
  | refl => exact ⟨ha, rfl⟩
  | tail _ hstep ih =>
    obtain ⟨hstop, hrun⟩ := ih
    rw [step_eq_leave fun hnone => by rw [hstop] at hnone; cases hnone] at hstep
    unfold leave at hstep
    split at hstep <;> cases hstep
    exact ⟨hstop, hrun⟩

/-- The work has one course: every moment that it gets to lies before its end. -/
theorem Reaches.to_end {a b final : Work σ} (hfinal : Reaches resolver a final)
    (hend : final.step resolver = none) (h : Reaches resolver a b) : Reaches resolver b final := by
  have hunique : Relator.RightUnique fun c d : Work σ => c.step resolver = some d :=
    fun _ _ _ hd he => Option.some.inj (hd.symm.trans he)
  rcases Relation.ReflTransGen.total_of_right_unique hunique h hfinal with hrest | hrest
  · exact hrest
  · rcases Relation.ReflTransGen.cases_head hrest with heq | ⟨next, hstep, _⟩
    · rw [heq]
      exact .refl
    · rw [hend] at hstep
      cases hstep

section Start

variable {defines : Entries Text} {world : σ} {shader : Text} {w : Work σ}

theorem Reaches.balanced (h : Reaches resolver (start defines world shader) w) : w.Balanced :=
  h.keeps Balanced.step ⟨rfl, Nat.zero_le maxIncludeDepth⟩

theorem Reaches.whole (h : Reaches resolver (start defines world shader) w) : w.Whole :=
  h.keeps Whole.step
    ⟨newline_not_mem_numberedLines shader, fun _ hlines => absurd hlines List.not_mem_nil⟩

/-- A line counts as the line of the shader that it is, or that includes it. -/
theorem Reaches.placed (h : Reaches resolver (start defines world shader) w) {origin : Int}
    {line : Text} {rest : List (Int × Text)} (hlines : w.lines = (origin, line) :: rest) :
    ∃ before own after, numberedLines shader = before ++ (origin, own) :: after
      ∧ (w.outer = [] → own = line ∧ after = rest) := by
  have hstart : (start defines world shader).Placed shader :=
    ⟨[], [], numberedLines shader, rfl, rfl, fun _ hmem => absurd hmem List.not_mem_nil⟩
  obtain ⟨before, inner, own, hall, hshader, hinner⟩ := h.keeps Placed.step hstart
  rw [hlines] at hall
  rcases inner with _ | ⟨_, inner⟩
  · obtain ⟨rfl, _⟩ := List.cons.inj hall
    exact ⟨before, line, rest, hshader, fun _ => ⟨rfl, rfl⟩⟩
  · obtain ⟨rfl, houter⟩ := List.cons.inj hall
    obtain ⟨⟨number, directive⟩, hlast, rfl⟩ := Option.map_eq_some_iff.mp
      (hinner _ List.mem_cons_self _ List.mem_cons_self)
    obtain ⟨init, rfl⟩ := List.getLast?_eq_some_iff.mp hlast
    rw [List.append_assoc] at hshader
    exact ⟨init, directive, own, hshader, fun hnone => by simp [houter] at hnone⟩

/-- The deeds so far make the run what it is. -/
theorem Reaches.accounted (h : Reaches resolver (start defines world shader) w) :
    Steps resolver (.start defines world) w.deeds w.run := by
  have hwhole : (start defines world shader).Whole :=
    Reaches.whole (.refl : Reaches resolver (start defines world shader) _)
  obtain ⟨deeds, hdeeds, hsteps⟩ := h.steps hwhole
  rw [start, List.nil_append] at hdeeds
  rwa [hdeeds]

/-- The work on a shader comes to an end, whatever the resolver answers, and then it is what
preprocessing the shader gives. -/
theorem ends_start (resolver : Resolver σ) (defines : Entries Text) (world : σ) (shader : Text) :
    ∃ final, Reaches resolver (start defines world shader) final ∧ final.step resolver = none
      ∧ final.depth = 0
      ∧ (Run.start defines world).shader resolver shader = (final.run, .ofStop final.stop)
      ∧ final.deeds = (Run.start defines world).trace resolver shader := by
  have hdepth : 0 + maxIncludeDepth = maxIncludeDepth := Nat.zero_add maxIncludeDepth
  obtain ⟨left, hleft, hreaches⟩ := reaches_lines (@reaches_line σ resolver _ _ hdepth)
    (numberedLines shader) [] (.start defines world) []
  refine ⟨_, hreaches, step_eq_leave hleft, rfl, ?_, rfl⟩
  rw [shader_eq, numberedLines_eq]

/-- From every moment the work comes to what preprocessing the shader gives. -/
theorem Reaches.ends (h : Reaches resolver (start defines world shader) w) :
    ∃ final, Reaches resolver w final
      ∧ (Run.start defines world).shader resolver shader = (final.run, .ofStop final.stop) := by
  obtain ⟨final, hfinal, hend, _, hresult, _⟩ := ends_start resolver defines world shader
  exact ⟨final, hfinal.to_end hend h, hresult⟩

/-- When the work was stopped the shader has ended. -/
theorem Reaches.shader_of_stopped (h : Reaches resolver (start defines world shader) w)
    {stop : Located} (hstop : w.stop = some stop) :
    (Run.start defines world).shader resolver shader = (w.run, .ofStop (some stop)) := by
  obtain ⟨final, hfinal, hresult⟩ := h.ends
  obtain ⟨hstays, hkept⟩ := hfinal.of_stopped hstop
  rw [hresult, hstays, hkept]

end Start

end Work

end ShaderPlayer.Shader
