/-
Comments behind plain lines.

Where strings are encoded a plain line is looked through for literals to its end, and a comment at
its end is no less looked through.  So a comment can stop a shader: a long phrase between quotes is
a string that is too long, though it is in no literal.  Short of that a comment does no harm:

* `encodeStrings_commented` — if the quotes of the line are paired, what is read as a literal in the
  comment begins in the comment, and the line in front of it is encoded as it is without it;
* `unseen_behind` — what was emitted is not looked at again, so the lines behind this one do the
  same behind either;
* `comment_refused` — a comment that is refused;
* `comment_kept` — a comment stops the shader exactly if a string of it is too long, and else the
  shader does the same with it as without it, but for the comment at the end of the emitted line.
-/
import ShaderPlayer.Proofs.Shader.EscapeSequence

namespace ShaderPlayer.Shader

open Text (isBlank)

/-! ### The line -/

theorem prefix_of_prefix_append {p t rest : Text} {c : Char} (hc : c ∉ p)
    (h : p <+: t ++ c :: rest) : p <+: t := by
  rcases List.prefix_or_prefix_of_prefix h (List.prefix_append t _) with hp | ⟨s, rfl⟩
  · exact hp
  · rcases s with _ | ⟨d, s⟩
    · exact ⟨[], by rw [List.append_nil, List.append_nil]⟩
    · rw [List.prefix_append_right_inj, List.cons_prefix_cons] at h
      exact absurd (List.mem_append_right t (h.1 ▸ List.mem_cons_self)) hc

/-- Letters that a line with a comment begins with behind its blanks are in the line. -/
theorem prefix_trimLeft_of_commented {p t c : Text} (hp : p ≠ []) (hspace : ' ' ∉ p)
    (hslash : '/' ∉ p) (h : p <+: Text.trimLeft (t ++ (" // ".toList ++ c))) :
    p <+: t.trimLeft := by
  induction t with
  | nil =>
    obtain ⟨d, rest, rfl⟩ := List.exists_cons_of_ne_nil hp
    have hhead : d = '/' := (List.cons_prefix_cons.mp h).1
    exact absurd (hhead ▸ List.mem_cons_self) hslash
  | cons d t ih =>
    rw [List.cons_append] at h
    by_cases hblank : isBlank d
    · rw [Text.trimLeft, List.dropWhile_cons_of_pos hblank] at h ⊢
      exact ih h
    · rw [Text.trimLeft, List.dropWhile_cons_of_neg hblank] at h ⊢
      exact prefix_of_prefix_append hspace h

theorem plain_commented {t : Text} (h : Plain t) (c : Text) : Plain (t ++ (" // ".toList ++ c)) :=
  ⟨fun henable => h.1 (prefix_trimLeft_of_commented (by decide) (by decide) (by decide) henable),
    fun hsign => h.2 (prefix_trimLeft_of_commented (by decide) (by decide) (by decide) hsign)⟩

/-- The comment is substituted by itself. -/
theorem substitute_commented (macros : MacroTable) (line c : Text) :
    macros.substitute (line ++ (" // ".toList ++ c))
      = macros.substitute line ++ (" // ".toList ++ macros.substitute c) := by
  have hnil : macros.substitute [] = [] := by rw [MacroTable.substitute, Text.mapWords]
  have hcons {d : Char} (hd : Text.isWord d = false) (t : Text) :
      macros.substitute (d :: t) = d :: macros.substitute t := by
    have h := macros.substitute_append_cons hd [] t
    rwa [hnil] at h
  calc macros.substitute (line ++ ' ' :: '/' :: '/' :: ' ' :: c)
      = macros.substitute line ++ ' ' :: macros.substitute ('/' :: '/' :: ' ' :: c) :=
        macros.substitute_append_cons (by decide) line _
    _ = macros.substitute line ++ ' ' :: '/' :: '/' :: ' ' :: macros.substitute c := by
        rw [hcons (by decide), hcons (by decide), hcons (by decide)]

/-- A plain line with a comment is no definition, so the comment is substituted too. -/
theorem expandLine_commented {macros : MacroTable} {line : Text}
    (hplain : Plain (macros.expandLine line)) (c : Text) :
    macros.expandLine (line ++ (" // ".toList ++ c))
      = macros.expandLine line ++ (" // ".toList ++ macros.substitute c) := by
  have hline : ¬ ['#'] <+: line.trimLeft := by
    intro hsign
    have hexpanded := isPrefixOf_trimLeft_expand macros.entries hsign
    rw [← substitute_eq_expand, ← expandLine_of_plain hplain] at hexpanded
    exact hplain.2 hexpanded
  rw [expandLine_of_plain hplain, ← substitute_commented, MacroTable.expandLine]
  rcases hsplit : splitDefinition? (line ++ (" // ".toList ++ c)) with _ | parts
  · rfl
  · have hsign := isPrefixOf_trimLeft_of_splitDefinition hsplit
    exact absurd (prefix_trimLeft_of_commented (by decide) (by decide) (by decide) hsign) hline

/-- What is read as a literal in the comment begins in the comment. -/
theorem encodeStrings_commented (segments : List Segment) (t : Text) :
    encodeStrings (segments.flatMap Segment.text ++ (" // ".toList ++ t))
      = if ∀ segment ∈ segments, segment.Fits then
          (encodeStrings t).map fun comment =>
            segments.flatMap Segment.encoded ++ (" // ".toList ++ comment)
        else none := by
  rw [encodeStrings_segments, encodeStrings_append (by decide), Option.map_map]
  rfl

/-! ### The shader -/

/-- A long phrase between quotes stops the shader, in a comment as in a literal. -/
theorem comment_refused :
    let resolver := Resolver.dictionary [("std/string".toList, [])]
    let preprocessed (line : Text) :=
      (Run.start [] ()).shader resolver ("#include <string>\n".toList ++ line)
    (preprocessed "let a = 1;".toList).2 = .complete
      ∧ (preprocessed "let a = 1; // \"a phrase of more than twenty\"".toList).2
        = .reported (Cause.stringTooLong.report 2) := by
  decide +kernel

section Shader

variable {σ : Type} {resolver : Resolver σ} {defines : Entries Text} {world : σ} {run : Run σ}
  {shader line : Text} {before after : List Text} {segments : List Segment}

/-- What a shader comes to from one of its lines on. -/
theorem shader_from_line (hlines : shader.lines = before ++ line :: after)
    (hrun : processLines (processLine resolver maxIncludeDepth) (numbered 1 before)
      (.start defines world) = (run, none)) :
    (Run.start defines world).shader resolver shader
      = ((Halted.andThen (processLine resolver maxIncludeDepth (1 + before.length) line run)
            (processLines (processLine resolver maxIncludeDepth)
              (numbered (1 + before.length + 1) after))).1,
        .ofStop (Halted.andThen (processLine resolver maxIncludeDepth (1 + before.length) line run)
            (processLines (processLine resolver maxIncludeDepth)
              (numbered (1 + before.length + 1) after))).2) := by
  have hall : processLines (processLine resolver maxIncludeDepth)
      (numbered 1 (before ++ line :: after)) (.start defines world)
      = Halted.andThen (processLine resolver maxIncludeDepth (1 + before.length) line run)
          (processLines (processLine resolver maxIncludeDepth)
            (numbered (1 + before.length + 1) after)) := by
    rw [numbered_append, processLines_andThen, hrun]
    rfl
  rw [shader_eq, hlines, hall]

/-- At a plain line that cannot be emitted the shader stops. -/
theorem shader_refused (hlines : shader.lines = before ++ line :: after)
    (hrun : processLines (processLine resolver maxIncludeDepth) (numbered 1 before)
      (.start defines world) = (run, none))
    (hplain : Plain (run.macros.expandLine line))
    (hnone : run.emitted? (run.macros.expandLine line) = none) :
    (Run.start defines world).shader resolver shader
      = (run, .reported (Cause.stringTooLong.report (1 + before.length))) := by
  have hline : processLine resolver maxIncludeDepth (1 + before.length) line run
      = (run, some ⟨.defect .stringTooLong, 1 + before.length⟩) := by
    rw [processLine_plain (ofText_plain hplain.1 hplain.2), Run.emit, ← Run.emitted?, hnone]
  rw [shader_from_line hlines hrun, hline]
  rfl

/-- Behind a plain line that is emitted the shader does what it does without the lines that were
emitted so far. -/
theorem shader_emitted (hlines : shader.lines = before ++ line :: after)
    (hrun : processLines (processLine resolver maxIncludeDepth) (numbered 1 before)
      (.start defines world) = (run, none))
    (hplain : Plain (run.macros.expandLine line)) {text : Text}
    (hemitted : run.emitted? (run.macros.expandLine line) = some text) :
    let rest := processLines (processLine resolver maxIncludeDepth)
      (numbered (1 + before.length + 1) after) { run with source.emitted := #[] }
    (Run.start defines world).shader resolver shader
      = (rest.1.behind (run.source.emitted.push ⟨text, 1 + before.length⟩), .ofStop rest.2) := by
  intro rest
  have hline : processLine resolver maxIncludeDepth (1 + before.length) line run
      = (Run.behind (run.source.emitted.push ⟨text, 1 + before.length⟩)
          { run with source.emitted := #[] }, none) := by
    rw [processLine_plain (ofText_plain hplain.1 hplain.2), Run.emit, ← Run.emitted?, hemitted]
    simp only [Run.behind, SourceMap.pushLine, Array.append_empty]
  have hrest := processLines_through (processLine_through
    (unseen_behind (run.source.emitted.push ⟨text, 1 + before.length⟩) resolver) maxIncludeDepth)
    (numbered (1 + before.length + 1) after) { run with source.emitted := #[] }
  have hsame : (numbered (1 + before.length + 1) after).map (fun l => (id l.1, l.2))
      = numbered (1 + before.length + 1) after := List.map_id _
  have hstop : rest.2.map (·.relocate id) = rest.2 := Option.map_id_apply
  rw [hsame, Halted.through, hstop] at hrest
  rw [shader_from_line hlines hrun, hline, Halted.andThen, hrest]

/-- Let a line of a shader be plain, with its quotes paired, and let strings be encoded when it is
its turn.  With a comment at its end the shader is stopped there if a string of the line or of the
comment is too long.  Otherwise it comes to the same end as without the comment, and all that it
made is the same, but for the comment at the end of the line that is emitted. -/
theorem comment_kept {commented c : Text} (hlines : shader.lines = before ++ line :: after)
    (hcommented : commented.lines = before ++ (line ++ (" // ".toList ++ c)) :: after)
    (hrun : processLines (processLine resolver maxIncludeDepth) (numbered 1 before)
      (.start defines world) = (run, none))
    (hmode : run.stringMode = true) (hplain : Plain (run.macros.expandLine line))
    (hsegments : run.macros.expandLine line = segments.flatMap Segment.text) :
    let number : Int := 1 + before.length
    let refused := (run, Ending.reported (Cause.stringTooLong.report number))
    let result := (Run.start defines world).shader resolver shader
    let result' := (Run.start defines world).shader resolver commented
    ((∃ segment ∈ segments, ¬ segment.Fits) → result = refused ∧ result' = refused)
      ∧ (encodeStrings (run.macros.substitute c) = none → result' = refused)
      ∧ ∀ comment, (∀ segment ∈ segments, segment.Fits) →
          encodeStrings (run.macros.substitute c) = some comment →
          result'.2 = result.2 ∧ ∃ common : Run σ,
            result.1 = common.behind (run.source.emitted.push ⟨segments.flatMap Segment.encoded, number⟩)
              ∧ result'.1 = common.behind (run.source.emitted.push
                  ⟨segments.flatMap Segment.encoded ++ (" // ".toList ++ comment), number⟩) := by
  intro number refused result result'
  have hplain' : Plain (run.macros.expandLine (line ++ (" // ".toList ++ c))) := by
    rw [expandLine_commented hplain]
    exact plain_commented hplain _
  have hemitted := emitted_segments hmode segments
  rw [← hsegments] at hemitted
  have hemitted' : run.emitted? (run.macros.expandLine (line ++ (" // ".toList ++ c)))
      = if ∀ segment ∈ segments, segment.Fits then
          (encodeStrings (run.macros.substitute c)).map fun comment =>
            segments.flatMap Segment.encoded ++ (" // ".toList ++ comment)
        else none := by
    rw [Run.emitted?, hmode, if_pos rfl, expandLine_commented hplain, hsegments,
      encodeStrings_commented]
  refine ⟨?_, fun hnone => ?_, fun comment hfits hcomment => ?_⟩
  · rintro ⟨segment, hsegment, hlong⟩
    have hall : ¬ ∀ segment ∈ segments, segment.Fits := fun h => hlong (h segment hsegment)
    rw [if_neg hall] at hemitted hemitted'
    exact ⟨shader_refused hlines hrun hplain hemitted,
      shader_refused hcommented hrun hplain' hemitted'⟩
  · rw [hnone, Option.map_none, ite_self] at hemitted'
    exact shader_refused hcommented hrun hplain' hemitted'
  · rw [if_pos hfits] at hemitted hemitted'
    rw [hcomment, Option.map_some] at hemitted'
    have hresult := shader_emitted hlines hrun hplain hemitted
    have hresult' := shader_emitted hcommented hrun hplain' hemitted'
    refine ⟨?_, _, congrArg Prod.fst hresult, congrArg Prod.fst hresult'⟩
    exact (congrArg Prod.snd hresult').trans (congrArg Prod.snd hresult).symm

/-- A comment with a macro, a phrase between quotes and a quote that nothing closes. -/
theorem comment_kept_quoted :
    let resolver := Resolver.dictionary [("std/string".toList, [])]
    let preprocessed (shader : Text) :=
      (Run.start [("N".toList, "7".toList)] ()).shader resolver shader
    let result := preprocessed "#include <string>\nlet a = N;\nlet b = N;".toList
    let result' := preprocessed "#include <string>\nlet a = N; // \"N\" is an \"a\nlet b = N;".toList
    result'.2 = result.2
      ∧ result.1.source.lines = ["let a = 7;".toList, "let b = 7;".toList]
      ∧ result'.1.source.lines
        = ["let a = 7; // ".toList ++ stringCall 1 (cells [55]) ++ " is an \"a".toList,
            "let b = 7;".toList] := by
  intro resolver preprocessed result result'
  have hlines : Text.lines "#include <string>\nlet a = N;\nlet b = N;".toList
      = ["#include <string>".toList] ++ "let a = N;".toList :: ["let b = N;".toList] := by
    decide +kernel
  have hcommented :
      Text.lines "#include <string>\nlet a = N; // \"N\" is an \"a\nlet b = N;".toList
        = ["#include <string>".toList]
          ++ ("let a = N;".toList ++ (" // ".toList ++ "\"N\" is an \"a".toList))
            :: ["let b = N;".toList] := by
    decide +kernel
  have hrun : processLines (processLine resolver maxIncludeDepth)
      (numbered 1 ["#include <string>".toList]) (.start [("N".toList, "7".toList)] ()) = (_, none) :=
    Prod.ext rfl (by decide +kernel)
  let segments : List Segment := [.plain "let a = 7;".toList (by decide)]
  obtain ⟨_, _, hkept⟩ := comment_kept hlines hcommented hrun (by decide +kernel)
    (by decide +kernel) (show _ = segments.flatMap Segment.text by decide +kernel)
  obtain ⟨hending, _⟩ := hkept (stringCall 1 (cells [55]) ++ " is an \"a".toList)
    (by decide +kernel) (by decide +kernel)
  exact ⟨hending, by decide +kernel, by decide +kernel⟩

end Shader

end ShaderPlayer.Shader
