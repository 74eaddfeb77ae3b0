/-
Which line of the shader things are reported at.

What is done or goes wrong inside includes, however deep, counts as the line of the
outermost directive.  So an error has one line, and it is a line of the shader:

* `inOrder_lineMap`, `inOrder_assertLines` — the lines recorded in the source map are
  lines of the shader and never go back;
* `reports_once` — the first run of a preprocessor completes with nothing reported, or
  reports one error at the line that it was processing.
-/
import ShaderPlayer.Proofs.Shader.Growth
import ShaderPlayer.Proofs.Shader.Included
import ShaderPlayer.Proofs.Shader.Overlong

namespace ShaderPlayer.Shader

variable {σ : Type} {resolver : Resolver σ}

/-! ### What deeds count as -/

/-- The deeds at lines that never go back do not either. -/
theorem pairwise_traceLines {step : Int → Text → Run σ → Halted σ}
    {trace : Int → Text → Run σ → List (Int × Deed)}
    (htrace : ∀ origin line run, ∀ d ∈ trace origin line run, d.1 = origin)
    {lines : List (Int × Text)} (hlines : lines.Pairwise (·.1 ≤ ·.1)) (run : Run σ) :
    (traceLines step trace lines run).Pairwise (·.1 ≤ ·.1) := by
  induction lines generalizing run with
  | nil => exact .nil
  | cons head rest ih =>
    obtain ⟨hhead, hrest⟩ := List.pairwise_cons.mp hlines
    have hown : ∀ d ∈ trace head.1 head.2 run, d.1 = head.1 := htrace head.1 head.2 run
    have horder : (trace head.1 head.2 run).Pairwise (·.1 ≤ ·.1) := by
      refine List.pairwise_of_forall_mem_list fun d hd e he => ?_
      exact Int.le_of_eq ((hown d hd).trans (hown e he).symm)
    rw [traceLines]
    split
    · refine List.pairwise_append.mpr ⟨horder, ih hrest _, fun d hd e he => ?_⟩
      obtain ⟨l, hl, hel⟩ := origin_of_mem_traceLines htrace he
      rw [hown d hd, hel]
      exact hhead l hl
    · rw [List.append_nil]
      exact horder

/-! ### The lines of a shader -/

theorem bounds_of_mem_numbered {number : Int} {lines : List Text} {l : Int × Text}
    (h : l ∈ numbered number lines) : number ≤ l.1 ∧ l.1 < number + lines.length := by
  induction lines generalizing number with
  | nil => exact absurd h List.not_mem_nil
  | cons line lines ih =>
    rw [List.length_cons]
    rcases List.mem_cons.mp h with rfl | h
    · exact ⟨Int.le_refl _, by dsimp only; omega⟩
    · have hbounds := ih h
      omega

theorem pairwise_numbered (number : Int) (lines : List Text) :
    (numbered number lines).Pairwise (·.1 < ·.1) := by
  induction lines generalizing number with
  | nil => exact .nil
  | cons line lines ih =>
    refine List.pairwise_cons.mpr ⟨fun l hl => ?_, ih (number + 1)⟩
    have hbounds := bounds_of_mem_numbered hl
    dsimp only
    omega

/-- Numbers of the lines of a shader, never going back. -/
def InOrder (shader : Text) (numbers : List Int) : Prop :=
  numbers.Pairwise (· ≤ ·) ∧ ∀ n ∈ numbers, 1 ≤ n ∧ n ≤ shader.lines.length

theorem InOrder.sublist {shader : Text} {numbers others : List Int} (h : InOrder shader numbers)
    (hsub : others.Sublist numbers) : InOrder shader others :=
  ⟨h.1.sublist hsub, fun n hn => h.2 n (hsub.mem hn)⟩

variable (resolver) in
/-- The deeds of a shader count as its lines. -/
theorem inOrder_trace (text : Text) (run : Run σ) :
    InOrder text ((run.trace resolver text).map (·.1)) := by
  unfold Run.trace
  rw [numberedLines_eq]
  refine ⟨List.pairwise_map.mpr ?_, fun n hn => ?_⟩
  · exact pairwise_traceLines (origin_of_mem_traceLine maxIncludeDepth)
      ((pairwise_numbered 1 text.lines).imp Int.le_of_lt) run
  obtain ⟨d, hd, rfl⟩ := List.mem_map.mp hn
  obtain ⟨l, hl, hdl⟩ := origin_of_mem_traceLines (origin_of_mem_traceLine maxIncludeDepth) hd
  have hbounds := bounds_of_mem_numbered hl
  omega

theorem sublist_emissions (storages assertions : Nat) (deeds : List (Int × Deed)) :
    ((emissions storages assertions deeds).map (·.2.origin)).Sublist (deeds.map (·.1)) := by
  induction deeds generalizing storages assertions with
  | nil => exact List.Sublist.refl []
  | cons head deeds ih =>
    obtain ⟨origin, deed⟩ := head
    rw [emissions, List.map_append]
    show List.Sublist _ ([origin] ++ deeds.map (·.1))
    refine List.Sublist.append ?_ (ih _ _)
    rcases deed.line? storages assertions with _ | text
    · exact List.nil_sublist _
    · exact List.Sublist.refl _

theorem sublist_assertionsOf (deeds : List (Int × Deed)) :
    ((assertionsOf deeds).map (·.1)).Sublist (deeds.map (·.1)) := by
  induction deeds with
  | nil => exact List.Sublist.refl []
  | cons head deeds ih =>
    have hcons := assertionsOf_append [head] deeds
    rw [List.singleton_append] at hcons
    rw [hcons, List.map_append]
    show List.Sublist _ ([head.1] ++ deeds.map (·.1))
    refine List.Sublist.append ?_ ih
    simp only [assertionsOf, List.filterMap_cons, List.filterMap_nil]
    rcases head.2.assertion? with _ | predicate
    · exact List.nil_sublist _
    · exact List.Sublist.refl _

section Maps

variable (resolver : Resolver σ) (defines : Entries Text) (world : σ) (text : Text)

theorem inOrder_lineMap :
    InOrder text ((Run.start defines world).shader resolver text).1.source.lineMap := by
  have hsteps : Steps resolver _ _ _ := steps_shader text (Run.start defines world)
  rw [SourceMap.lineMap, (grows_steps hsteps).emitted]
  refine (inOrder_trace resolver text (Run.start defines world)).sublist ?_
  rw [Run.start, Array.toList_empty, List.nil_append, List.map_map]
  exact sublist_emissions 0 0 _

theorem inOrder_assertLines :
    InOrder text ((Run.start defines world).shader resolver text).1.source.assertLines.toList := by
  have hsteps : Steps resolver _ _ _ := steps_shader text (Run.start defines world)
  rw [(grows_steps hsteps).assertLines]
  refine (inOrder_trace resolver text (Run.start defines world)).sublist ?_
  exact sublist_assertionsOf _

end Maps

/-! ### One report -/

/-- Processing a shader stops at a line of it with a defect: the lines before it are
processed, and the line itself is the one that stops, with the defect at its own number. -/
def StopsAt (resolver : Resolver σ) (shader : Text) (start final : Run σ) (cause : Cause)
    (number : Int) : Prop :=
  ∃ before line after reached, shader.lines = before ++ line :: after
    ∧ number = before.length + 1
    ∧ processLines (processLine resolver maxIncludeDepth) (numbered 1 before) start
        = (reached, none)
    ∧ processLine resolver maxIncludeDepth number line reached
        = (final, some ⟨.defect cause, number⟩)

theorem numbered_eq_append_cons {number : Int} {lines : List Text} {before after : List (Int × Text)}
    {l : Int × Text} (h : numbered number lines = before ++ l :: after) :
    ∃ first line rest, lines = first ++ line :: rest ∧ before = numbered number first
      ∧ l = (number + first.length, line) := by
  induction before generalizing number lines with
  | nil =>
    rcases lines with _ | ⟨line, lines⟩
    · cases h
    · cases h
      exact ⟨[], line, lines, rfl, rfl, by simp⟩
  | cons head before ih =>
    rcases lines with _ | ⟨line, lines⟩
    · cases h
    · obtain ⟨rfl, hrest⟩ := List.cons.inj h
      obtain ⟨first, inner, rest, rfl, rfl, rfl⟩ := ih hrest
      refine ⟨line :: first, inner, rest, rfl, rfl, ?_⟩
      rw [List.length_cons]
      congr 1
      omega

theorem stopsAt_of_stopped {text : Text} {start final : Run σ} {cause : Cause} {number : Int}
    (h : processLines (processLine resolver maxIncludeDepth) (numbered 1 text.lines) start
      = (final, some ⟨.defect cause, number⟩)) :
    StopsAt resolver text start final cause number := by
  obtain ⟨before, l, after, reached, hlines, hbefore, hline⟩ := processLines_eq_some_iff.mp h
  have hnumber : number = l.1 := line_of_processLine hline
  obtain ⟨first, line, rest, hsplit, rfl, rfl⟩ := numbered_eq_append_cons hlines
  subst hnumber
  refine ⟨first, line, rest, reached, hsplit, by omega, hbefore, hline⟩

/-- The converse: a shader that stops at a line reports the defect there. -/
theorem StopsAt.shader_eq {text : Text} {start final : Run σ} {cause : Cause} {number : Int}
    (h : StopsAt resolver text start final cause number) :
    start.shader resolver text = (final, .reported (cause.report number)) := by
  obtain ⟨before, line, after, reached, hlines, rfl, hbefore, hline⟩ := h
  have hfirst : (1 : Int) + before.length = before.length + 1 := Int.add_comm _ _
  have hprocess : processLines (processLine resolver maxIncludeDepth) (numbered 1 text.lines) start
      = (final, some ⟨.defect cause, before.length + 1⟩) := by
    rw [hlines, numbered_append, processLines_append, hbefore]
    dsimp only
    rw [numbered, processLines, hfirst, hline]
  rw [Shader.shader_eq, hprocess]
  rfl

theorem StopsAt.bounds {shader : Text} {start final : Run σ} {cause : Cause} {number : Int}
    (h : StopsAt resolver shader start final cause number) :
    1 ≤ number ∧ number ≤ shader.lines.length := by
  obtain ⟨before, line, after, _, hlines, rfl, _⟩ := h
  rw [hlines, List.length_append, List.length_cons]
  omega

/-- The first run of a preprocessor has one answer, whatever the shader, the macros and the
resolver.  It completes with nothing reported, or it reports one error, at the line of the
shader that it was processing; at a numeral that is too long to read it ends without an
answer.  What the source map then says of lines, it says in their order. -/
theorem reports_once (resolver : Resolver σ) (defines : Entries Text) (world : σ) (text : Text) :
    let result := (Preprocessor.fresh defines world).shader resolver text
    ((result.2 = .complete ∧ result.1.reports = #[])
        ∨ (∃ cause line, result.2 = .reported (Cause.report cause line)
            ∧ result.1.reports = #[cause.report line] ∧ 1 ≤ line ∧ line ≤ text.lines.length
            ∧ StopsAt resolver text (.start defines world) result.1.run cause line)
        ∨ ∃ digits, result.2 = .numeral digits ∧ result.1.reports = #[])
      ∧ InOrder text result.1.run.source.lineMap
      ∧ InOrder text result.1.run.source.assertLines.toList := by
  intro result
  refine ⟨?_, inOrder_lineMap resolver defines world text,
    inOrder_assertLines resolver defines world text⟩
  simp only [result, Preprocessor.fresh, Preprocessor.shader, Run.shader, Bool.false_eq_true,
    if_false, numberedLines_eq]
  rcases hend : processLines (processLine resolver maxIncludeDepth) (numbered 1 text.lines)
    (.start defines world) with ⟨final, _ | ⟨cause | digits, line⟩⟩
  · exact .inl ⟨rfl, rfl⟩
  · have hstops := stopsAt_of_stopped hend
    exact .inr (.inl ⟨cause, line, rfl, rfl, hstops.bounds.1, hstops.bounds.2, hstops⟩)
  · exact .inr (.inr ⟨digits, rfl, rfl⟩)

end ShaderPlayer.Shader
