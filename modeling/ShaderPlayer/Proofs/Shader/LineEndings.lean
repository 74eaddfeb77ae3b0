/-
Line feeds with and without carriage returns.

A run reads of a text only its lines, and these are the same whether a line ends with a line
feed or with a carriage return before it:

* `lines_withReturns` — a text and the text with carriage returns have the same lines;
* `lookup_withReturnsAt` — so do the texts of a dictionary, whichever of them get them;
* `corresponds_sameLines` — a run does the same with texts of the same lines;
* `preprocess_withReturns` — so nothing comes of carriage returns in the shader and in any of
  the texts that it may include.
-/
import ShaderPlayer.Include.Source
import ShaderPlayer.Proofs.Shader.Inlining
import ShaderPlayer.Proofs.Text.Stored

namespace ShaderPlayer

namespace Text

/-- The text with a carriage return before every line feed. -/
def withReturns (t : Text) : Text :=
  t.flatMap fun c => if c = '\n' then ['\r', '\n'] else [c]

theorem withReturns_of_not_mem {t : Text} (h : '\n' ∉ t) : withReturns t = t := by
  induction t with
  | nil => rfl
  | cons c t ih =>
    rw [List.mem_cons, not_or] at h
    have hc : c ≠ '\n' := fun heq => h.1 heq.symm
    rw [withReturns, List.flatMap_cons, if_neg hc, ← withReturns, ih h.2, List.singleton_append]

/-- A line that is ended gets the carriage return at its end. -/
theorem withReturns_line {line : Text} (h : '\n' ∉ line) (rest : Text) :
    withReturns (line ++ '\n' :: rest) = (line ++ ['\r']) ++ '\n' :: withReturns rest := by
  have hline : line.flatMap (fun c => if c = '\n' then ['\r', '\n'] else [c]) = line :=
    withReturns_of_not_mem h
  rw [withReturns, List.flatMap_append, hline, List.flatMap_cons, if_pos rfl, ← withReturns]
  simp

/-- Reading takes one carriage return away from a line's end. -/
theorem chompReturn_concat (line : Text) : chompReturn (line ++ ['\r']) = line := by
  simp [chompReturn]

/-- The carriage returns before line feeds are not read.  The induction is on the text, line by
line, as in `lines_unifyNewlines`. -/
theorem lines_withReturns {t : Text} (h : '\r' ∉ t) : lines (withReturns t) = lines t := by
  induction hlength : t.length using Nat.strongRecOn generalizing t with
  | ind n ih =>
    by_cases hfeed : '\n' ∈ t
    · obtain ⟨line, rest, rfl, hline⟩ := List.eq_append_cons_of_mem hfeed
      simp only [List.mem_append, List.mem_cons, not_or] at h
      have hended : '\n' ∉ line ++ ['\r'] := by simp [hline]
      have hrest : lines (withReturns rest) = lines rest := by
        refine ih rest.length ?_ h.2.2 rfl
        rw [← hlength, List.length_append, List.length_cons]
        omega
      rw [withReturns_line hline, lines_append_newline, lines_line hended, chompReturn_concat,
        hrest, lines_append_newline line, lines_line hline, chompReturn_of_not_mem h.1]
    · rw [withReturns_of_not_mem hfeed]

end Text

namespace Shader

/-- The dictionary with carriage returns in those texts whose paths are picked. -/
def withReturnsAt (picked : Text → Bool) (texts : Entries Text) : Entries Text :=
  texts.map fun entry => (entry.1, if picked entry.1 then entry.2.withReturns else entry.2)

theorem lookup_withReturnsAt (picked : Text → Bool) {texts : Entries Text}
    (h : ∀ entry ∈ texts, '\r' ∉ entry.2) (path : Text) :
    ((withReturnsAt picked texts).lookup path).map Text.lines
      = (texts.lookup path).map Text.lines := by
  induction texts with
  | nil => rfl
  | cons entry texts ih =>
    obtain ⟨key, text⟩ := entry
    rw [List.forall_mem_cons] at h
    rw [withReturnsAt, List.map_cons, List.lookup_cons, List.lookup_cons]
    by_cases hkey : (path == key) = true
    · simp only [hkey, Option.map_some]
      by_cases hpicked : picked key = true
      · rw [if_pos hpicked, Text.lines_withReturns h.1]
      · rw [if_neg hpicked]
    · simp only [hkey]
      exact ih h.2

/-! ### Runs that read the same lines -/

section SameLines

open Include (Source)

/-- What a dictionary answers; it notes nothing, and the outside stays as it is. -/
theorem fetch_dictionary (texts failing : Entries Text) (path : Text) (outside : Outside) :
    (Source.dictionary texts failing).resolver.fetch path outside
      = (match failing.lookup path with
          | some message => .failed (Fault.source message).message
          | none => (texts.lookup path).elim .missing .text, [], outside) := by
  simp only [Source.resolver, Source.fetch]
  rcases failing.lookup path with _ | message
  · rcases texts.lookup path with _ | text <;> rfl
  · rfl

theorem eq_of_endAlike {σ : Type} {here there : Halted σ} (h : EndAlike id Eq here there) :
    there = here := by
  cases h with
  | complete runs => rw [runs]
  | stopped runs stop =>
    rw [runs]
    rfl

variable {texts other : Entries Text} (failing : Entries Text)
  (h : ∀ path, (other.lookup path).map Text.lines = (texts.lookup path).map Text.lines)

include h

/-- A run with a dictionary corresponds to itself with one whose texts have the same lines. -/
theorem corresponds_sameLines :
    Corresponds (Source.dictionary texts failing).resolver
      (Source.dictionary other failing).resolver id Eq where
  macros := by
    rintro a _ rfl
    rfl
  hoist := by
    rintro a _ text rfl
    rfl
  emit := by
    rintro a _ origin line rfl
    rw [id]
    rcases a.emit origin line with ⟨after, _ | stop⟩
    · exact .complete rfl
    · exact .stopped rfl stop
  library := by
    rintro a _ path rfl
    rfl
  ask := by
    rintro a _ path rfl
    have hlines := h path
    rw [Run.ask, Run.ask, fetch_dictionary, fetch_dictionary]
    rcases failing.lookup path with _ | message
    · generalize texts.lookup path = text, other.lookup path = text' at hlines
      rcases text with _ | text <;> rcases text' with _ | text'
      · exact .missing rfl
      · cases hlines
      · cases hlines
      · exact .found rfl (Option.some.inj hlines)
    · exact .missing rfl
  obey := by
    rintro a _ origin directive rfl
    rw [id]
    rcases a.obey origin directive with stop | after
    · exact .refused stop
    · exact .obeyed rfl

/-- What comes of a shader is read from the lines of its text and of those in the dictionary. -/
theorem shader_sameLines {shader shader' : Text} (hshader : shader'.lines = shader.lines)
    (run : Run Outside) :
    run.shader (Source.dictionary other failing).resolver shader'
      = run.shader (Source.dictionary texts failing).resolver shader := by
  have hends := processLines_corresponds
    (processLine_corresponds (corresponds_sameLines failing h) maxIncludeDepth)
    (numbered 1 shader.lines) (rfl : run = run)
  have hplaces : relocated id (numbered 1 shader.lines) = numbered 1 shader.lines := List.map_id _
  rw [hplaces] at hends
  rw [shader_eq, shader_eq, hshader, eq_of_endAlike hends]

end SameLines

/-! ### Carriage returns -/

open Include (Source) in
/-- Carriage returns before the line feeds of a shader, and of any of the texts that it may
include, change nothing: a preprocessor comes to the same state, with the same lines, origins,
extensions, tables, macros, settings and requests, and ends and reports in the same way. -/
theorem preprocess_withReturns (p : Preprocessor Outside) {texts : Entries Text}
    (failing : Entries Text) {shader : Text} (htexts : ∀ entry ∈ texts, '\r' ∉ entry.2)
    (hshader : '\r' ∉ shader) (picked : Text → Bool) :
    p.shader (Source.dictionary (withReturnsAt picked texts) failing).resolver shader.withReturns
      = p.shader (Source.dictionary texts failing).resolver shader := by
  have hrun := shader_sameLines failing (lookup_withReturnsAt picked htexts)
    (Text.lines_withReturns hshader) p.run
  rw [Preprocessor.shader, hrun, ← Preprocessor.shader]

open Include (Source) in
/-- A shader whose include has carriage returns, as it has itself. -/
theorem preprocess_withReturns_include :
    let fresh : Preprocessor Outside := { run := .start [] {} }
    let texts : Entries Text := [("p".toList, "x\ny\n".toList)]
    let shader : Text := "#include \"p\"\nz\n".toList
    (∀ entry ∈ texts, '\r' ∉ entry.2) ∧ '\r' ∉ shader
      ∧ shader.withReturns = "#include \"p\"\r\nz\r\n".toList
      ∧ fresh.shader (Source.dictionary [("p".toList, "x\r\ny\r\n".toList)] []).resolver
          "#include \"p\"\r\nz\r\n".toList
        = fresh.shader (Source.dictionary texts []).resolver shader := by
  intro fresh texts shader
  have htexts : ∀ entry ∈ texts, '\r' ∉ entry.2 := by decide
  have hshader : '\r' ∉ shader := by decide
  exact ⟨htexts, hshader, by decide,
    preprocess_withReturns fresh [] htexts hshader fun _ => true⟩

end Shader

end ShaderPlayer
