/-
Lines that are hoisted, and lines that stay in their place.

A line is told to be an extension by its first letters.  So it is not the word `enable` that makes
one, but any word that begins with these letters:

* `enable_prefix_firstWord_iff` — a line starts with them exactly if its first word does;
* `emits_next_iff`, `hoists_next` — at every moment of a run, the next line is emitted if it
  is plain and its strings fit, and hoisted if it starts so;
* `emitted_in_place` — what is no directive is emitted in its place exactly if its first word does
  not begin with `enable`, unless one of its strings is too long;
* `hoisted_statement` — an assignment is hoisted if the name of its variable begins so.
-/
import ShaderPlayer.Proofs.Shader.Growth
import ShaderPlayer.Proofs.Shader.Reading
import ShaderPlayer.Proofs.Shader.Work

namespace ShaderPlayer.Shader

open Text (isWord)

/-! ### First words -/

/-- The word that a text begins with behind its blanks; nothing if it begins with no word. -/
def firstWord (t : Text) : Text := t.trimLeft.takeWhile isWord

theorem prefix_takeWhile_iff {p : Char → Bool} {word t : Text} (hword : ∀ c ∈ word, p c) :
    word <+: t.takeWhile p ↔ word <+: t := by
  constructor
  · exact fun h => h.trans (List.takeWhile_prefix p)
  · rintro ⟨rest, rfl⟩
    rw [List.takeWhile_append_of_pos hword]
    exact List.prefix_append word _

/-- A text starts with the letters of `enable` if its first word does, and only then. -/
theorem enable_prefix_firstWord_iff (t : Text) :
    "enable".toList <+: firstWord t ↔ "enable".toList <+: t.trimLeft :=
  prefix_takeWhile_iff fun _ => List.all_eq_true.mp rfl _

/-! ### The next line -/

variable {σ : Type}

/-- What a plain line is emitted as; nothing if one of its strings is too long. -/
def Run.emitted? (run : Run σ) (text : Text) : Option Text :=
  if run.stringMode then encodeStrings text else some text

/-- The next line is emitted as a text and nothing else comes of it, and there it stays. -/
structure Work.EmitsNext (resolver : Resolver σ) (w : Work σ) (final : Run σ) (emitted : Emitted) :
    Prop where
  step : ∃ next, w.step resolver = some next ∧ next.stop = none
    ∧ next.run = { w.run with source := w.run.source.pushLine emitted.text emitted.origin }
  stays : ∃ later,
    final.source.emitted.toList = w.run.source.emitted.toList ++ emitted :: later

/-- The next line is hoisted as a text and nothing else comes of it, and there it stays. -/
structure Work.HoistsNext (resolver : Resolver σ) (w : Work σ) (final : Run σ) (text : Text) :
    Prop where
  step : ∃ next, w.step resolver = some next ∧ next.stop = none
    ∧ next.run = { w.run with source := w.run.source.pushExtension text }
  stays : ∃ later, final.source.hoisted.toList = w.run.source.hoisted.toList ++ text :: later

namespace Work

section Next

variable {resolver : Resolver σ} {w : Work σ} {origin : Int} {line : Text}
  {rest : List (Int × Text)}

variable (resolver) in
/-- Behind a line that is no directive there is one hoisted line more, or one emitted line more, or
the work was stopped by a string. -/
theorem step_of_no_directive (hstop : w.stop = none) (hlines : w.lines = (origin, line) :: rest)
    (hsign : ¬ ['#'] <+: (w.run.macros.expandLine line).trimLeft) :
    ∃ next, w.step resolver = some next ∧ (next.run, next.stop)
      = if "enable".toList <+: firstWord (w.run.macros.expandLine line) then
          ({ w.run with source :=
              w.run.source.pushExtension (stripComments (w.run.macros.expandLine line)) }, none)
        else match w.run.emitted? (w.run.macros.expandLine line) with
          | some text => ({ w.run with source := w.run.source.pushLine text origin }, none)
          | none => (w.run, some ⟨.defect .stringTooLong, origin⟩) := by
  have hprocessed (hplain : w.run.macros.included? line = none) : ∃ next,
      w.step resolver = some next
        ∧ (next.run, next.stop) = processLine resolver 0 origin line w.run := by
    rw [step_of_lines hstop hlines, behindLine, hplain]
    exact ⟨_, rfl, rfl⟩
  by_cases henable : "enable".toList <+: firstWord (w.run.macros.expandLine line)
  · have kind := ofText_enable ((enable_prefix_firstWord_iff _).mp henable)
    rw [if_pos henable, ← processLine_extension kind]
    exact hprocessed (by rw [MacroTable.included?, kind])
  · have kind := ofText_plain (fun h => henable ((enable_prefix_firstWord_iff _).mpr h)) hsign
    obtain ⟨next, hstep, hnext⟩ := hprocessed (by rw [MacroTable.included?, kind])
    rw [if_neg henable]
    exact ⟨next, hstep, hnext.trans (processLine_plain kind)⟩

/-- What a line added is still there at the end. -/
theorem Reaches.prefix_source {a b : Work σ} (h : Reaches resolver a b) (ha : a.Whole) :
    a.run.source.emitted.toList <+: b.run.source.emitted.toList
      ∧ a.run.source.hoisted.toList <+: b.run.source.hoisted.toList := by
  obtain ⟨deeds, _, hsteps⟩ := h.steps ha
  have hgrows := grows_steps hsteps
  exact ⟨⟨_, hgrows.emitted.symm⟩, ⟨_, hgrows.hoisted.symm⟩⟩

end Next

end Work

/-! ### Lines in their place -/

section Place

variable {resolver : Resolver σ} {defines : Entries Text} {world : σ} {shader : Text} {w : Work σ}
  {origin : Int} {line : Text} {rest : List (Int × Text)}

/-- The next line, if it is no directive, is emitted exactly if its first word begins with other
letters than `enable`, and its strings fit. -/
theorem emits_next_iff (hreached : Work.Reaches resolver (.start defines world shader) w)
    (hstop : w.stop = none) (hlines : w.lines = (origin, line) :: rest)
    (hsign : ¬ ['#'] <+: (w.run.macros.expandLine line).trimLeft) (text : Text) :
    w.EmitsNext resolver ((Run.start defines world).shader resolver shader).1 ⟨text, origin⟩
      ↔ ¬ "enable".toList <+: firstWord (w.run.macros.expandLine line)
        ∧ w.run.emitted? (w.run.macros.expandLine line) = some text := by
  obtain ⟨next, hstep, hnext⟩ := Work.step_of_no_directive resolver hstop hlines hsign
  constructor
  · rintro ⟨⟨_, hstep', hgoes, hrun⟩, _⟩
    obtain rfl := Option.some.inj (hstep.symm.trans hstep')
    rw [hgoes, hrun] at hnext
    split at hnext
    · -- hoisting emits nothing
      have hsize := congrArg (fun halted => halted.1.source.emitted.size) hnext
      simp [SourceMap.pushLine, SourceMap.pushExtension] at hsize
    · next henable =>
      refine ⟨henable, ?_⟩
      split at hnext
      · next out hout =>
        -- the last of the emitted lines tells which text was pushed
        have hback := congrArg (fun halted => halted.1.source.emitted.back?) hnext
        simp only [SourceMap.pushLine, Array.back?_push, Option.some.injEq, Emitted.mk.injEq,
          and_true] at hback
        rw [hout, hback]
      · cases congrArg Prod.snd hnext
  · rintro ⟨henable, hout⟩
    rw [if_neg henable, hout] at hnext
    obtain ⟨hrun, hgoes⟩ := Prod.mk.inj hnext
    -- the work goes on to its end, and nothing that was emitted is lost on the way
    have hbehind : Work.Reaches resolver (.start defines world shader) next := .tail hreached hstep
    obtain ⟨final, hfinal, hresult⟩ := hbehind.ends
    obtain ⟨⟨later, hlater⟩, _⟩ := hfinal.prefix_source hbehind.whole
    refine ⟨⟨next, hstep, hgoes, hrun⟩, later, ?_⟩
    rw [hresult, ← hlater, hrun, SourceMap.pushLine, Array.toList_push, List.append_assoc]
    rfl

/-- It is hoisted if its first word begins so. -/
theorem hoists_next (hreached : Work.Reaches resolver (.start defines world shader) w)
    (hstop : w.stop = none) (hlines : w.lines = (origin, line) :: rest)
    (henable : "enable".toList <+: firstWord (w.run.macros.expandLine line)) :
    w.HoistsNext resolver ((Run.start defines world).shader resolver shader).1
      (stripComments (w.run.macros.expandLine line)) := by
  have hsign : ¬ ['#'] <+: (w.run.macros.expandLine line).trimLeft := fun h =>
    not_enable_of_sign h ((enable_prefix_firstWord_iff _).mp henable)
  obtain ⟨next, hstep, hnext⟩ := Work.step_of_no_directive resolver hstop hlines hsign
  rw [if_pos henable] at hnext
  obtain ⟨hrun, hgoes⟩ := Prod.mk.inj hnext
  have hbehind : Work.Reaches resolver (.start defines world shader) next := .tail hreached hstep
  obtain ⟨final, hfinal, hresult⟩ := hbehind.ends
  obtain ⟨_, later, hlater⟩ := hfinal.prefix_source hbehind.whole
  refine ⟨⟨next, hstep, hgoes, hrun⟩, later, ?_⟩
  rw [hresult, ← hlater, hrun, SourceMap.pushExtension, Array.toList_push, List.append_assoc]
  rfl

/-- At every moment of a run the next line, if it is no directive, is emitted in its place, behind
the lines before it and as the line of the shader that it counts as, exactly if its first word does
not begin with the letters of `enable` and its strings fit.  If the word begins so the line is
hoisted, and if a string is too long the shader ends there with the error. -/
theorem emitted_in_place (hreached : Work.Reaches resolver (.start defines world shader) w)
    (hstop : w.stop = none) (hlines : w.lines = (origin, line) :: rest)
    (hsign : ¬ ['#'] <+: (w.run.macros.expandLine line).trimLeft) :
    let expanded := w.run.macros.expandLine line
    let result := (Run.start defines world).shader resolver shader
    (∀ text, w.EmitsNext resolver result.1 ⟨text, origin⟩
        ↔ ¬ "enable".toList <+: firstWord expanded ∧ w.run.emitted? expanded = some text)
      ∧ ("enable".toList <+: firstWord expanded →
          w.HoistsNext resolver result.1 (stripComments expanded))
      ∧ (¬ "enable".toList <+: firstWord expanded → w.run.emitted? expanded = none →
          result = (w.run, .reported (Cause.stringTooLong.report origin)))
      ∧ ∃ before own after, numberedLines shader = before ++ (origin, own) :: after
          ∧ (w.outer = [] → own = line ∧ after = rest) := by
  refine ⟨emits_next_iff hreached hstop hlines hsign, hoists_next hreached hstop hlines,
    fun henable hnone => ?_, hreached.placed hlines⟩
  obtain ⟨next, hstep, hnext⟩ := Work.step_of_no_directive resolver hstop hlines hsign
  rw [if_neg henable, hnone] at hnext
  obtain ⟨hrun, hstopped⟩ := Prod.mk.inj hnext
  have hbehind : Work.Reaches resolver (.start defines world shader) next := .tail hreached hstep
  obtain ⟨final, hfinal, hresult⟩ := hbehind.ends
  obtain ⟨hstays, hkept⟩ := hfinal.of_stopped hstopped
  rw [hresult, hstays, hkept, hrun]
  rfl

/-- A word that lacks a letter. -/
theorem emitted_in_place_shorter :
    let shader := "  enabl f16;\n".toList
    let w : Work Unit := .start [] () shader
    Work.Reaches (Resolver.dictionary []) (.start [] () shader) w
      ∧ w.EmitsNext (Resolver.dictionary []) ((Run.start [] ()).shader (Resolver.dictionary []) shader).1
          ⟨"  enabl f16;".toList, 1⟩ := by
  intro shader w
  have hreached : Work.Reaches (Resolver.dictionary []) (.start [] () shader) w := .refl
  have hlines : w.lines = [(1, "  enabl f16;".toList)] := by decide
  have hsign : ¬ ['#'] <+: (w.run.macros.expandLine "  enabl f16;".toList).trimLeft := by
    decide +kernel
  obtain ⟨hemits, _⟩ := emitted_in_place hreached rfl hlines hsign
  exact ⟨hreached, (hemits _).mpr ⟨by decide +kernel, by decide +kernel⟩⟩

/-- A statement that assigns to a variable whose name begins so leaves its place. -/
theorem hoisted_statement :
    let text := "enabled = true;\n".toList
    let result := (Run.start [] ()).shader (Resolver.dictionary []) text
    Text.lines text = ["enabled = true;".toList]
      ∧ (initialMacros []).expandLine "enabled = true;".toList = "enabled = true;".toList
      ∧ firstWord "enabled = true;".toList ≠ "enable".toList
      ∧ ¬ ['#'] <+: "enabled = true;".toList
      ∧ result.2 = .complete ∧ result.1.source.lines = []
      ∧ result.1.source.extensions = text := by
  decide +kernel

end Place

end ShaderPlayer.Shader
